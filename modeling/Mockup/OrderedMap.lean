/-!
# Ordered maps

Finite maps that remember the order in which their keys were first written. Writing a known key
again changes its value and keeps its place.
-/

namespace Mockup

variable {κ α β : Type} [DecidableEq κ]

/-- Write one entry of an association list: in place when the key is there, else at the end. -/
def writeEntry (key : κ) (value : α) : List (κ × α) → List (κ × α)
  | [] => [(key, value)]
  | (k, v) :: rest => if k = key then (k, value) :: rest else (k, v) :: writeEntry key value rest

theorem keys_writeEntry (key : κ) (value : α) (entries : List (κ × α)) :
    (writeEntry key value entries).map Prod.fst =
      if key ∈ entries.map Prod.fst then entries.map Prod.fst
      else entries.map Prod.fst ++ [key] := by
  induction entries with
  | nil => simp [writeEntry]
  | cons entry rest ih =>
    obtain ⟨k, v⟩ := entry
    by_cases h : k = key
    · simp [writeEntry, h]
    · have h' : ¬key = k := fun e => h e.symm
      simp only [writeEntry, h, if_false, List.map_cons, ih, List.mem_cons, h', false_or]
      split <;> simp

theorem nodup_keys_writeEntry (key : κ) (value : α) {entries : List (κ × α)}
    (h : (entries.map Prod.fst).Nodup) : ((writeEntry key value entries).map Prod.fst).Nodup := by
  rw [keys_writeEntry]
  split
  · exact h
  · next hk => exact List.nodup_append.2 ⟨h, by simp, by
      intro a ha b hb e
      rw [List.mem_singleton] at hb
      exact hk (hb ▸ e ▸ ha)⟩

/-- A finite map with its keys in the order of their first writing. -/
structure OrderedMap (κ α : Type) where
  entries : List (κ × α) := []
  nodup : (entries.map Prod.fst).Nodup := by simp

namespace OrderedMap

def empty : OrderedMap κ α := {}

instance : Inhabited (OrderedMap κ α) := ⟨empty⟩

def insert (m : OrderedMap κ α) (key : κ) (value : α) : OrderedMap κ α where
  entries := writeEntry key value m.entries
  nodup := nodup_keys_writeEntry key value m.nodup

def get? (m : OrderedMap κ α) (key : κ) : Option α :=
  m.entries.lookup key

def contains (m : OrderedMap κ α) (key : κ) : Bool :=
  (m.get? key).isSome

def keys (m : OrderedMap κ α) : List κ :=
  m.entries.map Prod.fst

/-- The map that writing the entries from first to last gives. -/
def ofList (entries : List (κ × α)) : OrderedMap κ α :=
  entries.foldl (fun m entry => m.insert entry.1 entry.2) empty

def findKey? (m : OrderedMap κ α) (test : κ → Bool) : Option (κ × α) :=
  m.entries.find? (test ·.1)

end OrderedMap
end Mockup
