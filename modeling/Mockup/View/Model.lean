import Mockup.Text.Quoted

/-!
# State of a view

What the widgets of a view need its view model to declare.
-/

namespace Mockup

structure ModelState where
  /-- Labels of the last segmented control. -/
  segments : List String := []
  hasCheckbox : Bool := false
  /-- Names of the text-field bindings in the order of their first use. -/
  bindings : List String := []
  nodup : bindings.Nodup := by simp
deriving DecidableEq

namespace ModelState

instance : Inhabited ModelState := ⟨{}⟩

def reset (_ : ModelState) : ModelState :=
  {}

def withSegments (s : ModelState) (labels : List String) : ModelState :=
  { s with segments := labels }

def withCheckbox (s : ModelState) : ModelState :=
  { s with hasCheckbox := true }

def hasBinding (s : ModelState) (name : String) : Bool :=
  s.bindings.contains name

/-- Add a binding behind the others, unless it is there. -/
def addBinding (s : ModelState) (name : String) : ModelState :=
  if h : name ∈ s.bindings then s
  else { s with
    bindings := s.bindings ++ [name]
    nodup := List.nodup_append.2 ⟨s.nodup, by simp, by
      intro a ha b hb e
      rw [List.mem_singleton] at hb
      exact h (hb ▸ e ▸ ha)⟩ }

def isSegmented (s : ModelState) : Bool :=
  s.segments ≠ []

def numberedBinding (n : Nat) : String :=
  "field" ++ toString n

/-- A name for a field without one: the first numbered one behind the count of bindings that is
free. As many numbers as there are bindings, and one more, are tried. -/
def freshBinding (s : ModelState) : String :=
  let count := s.bindings.length
  (((List.range' (count + 1) (count + 1)).map numberedBinding).find? (!s.hasBinding ·)).getD ""

def declarations (s : ModelState) : List String :=
  (if s.isSegmented then [
      "@Published var segmentData: [String] = [" ++
        ", ".intercalate (s.segments.map Text.Quoted.encode) ++ "]",
      "@Published var selectedSegment: String?"]
    else []) ++
  (if s.hasCheckbox then ["@Published var isChecked: Bool = false"] else []) ++
  s.bindings.map fun name => "@Published var " ++ name ++ ": String = \"\""

def declarationText (s : ModelState) : String :=
  "\n".intercalate s.declarations

end ModelState
end Mockup
