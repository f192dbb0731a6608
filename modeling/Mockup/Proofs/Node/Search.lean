import Mathlib.Data.List.Basic
import Mockup.Proofs.Node.Tree

/-!
# Searches in a tree of nodes

A node below another one has an address: which child it is of which child, and so on. Preorder is
the lexicographic order of addresses, and a search finds the first node in it that passes the test.
The slots of a node and the labels of a segmented control are found so.
-/

namespace Mockup.Node

/-- The node at an address. -/
def at? (n : Node) : List Nat → Option Node
  | [] => some n
  | i :: path => n.children[i]?.bind (·.at? path)

private theorem at?_cons_eq_some_iff {n d : Node} {i : Nat} {path : List Nat} :
    n.at? (i :: path) = some d ↔ ∃ c, n.children[i]? = some c ∧ c.at? path = some d :=
  Option.bind_eq_some_iff

private theorem sizeOf_le_of_at? {n d : Node} {path : List Nat} (h : n.at? path = some d) :
    sizeOf d ≤ sizeOf n := by
  induction path generalizing n with
  | nil =>
    cases h
    exact Nat.le_refl _
  | cons i path ih =>
    obtain ⟨c, hc, hd⟩ := at?_cons_eq_some_iff.1 h
    exact Nat.le_trans (ih hd) (Nat.le_of_lt (sizeOf_lt_of_mem_children (List.mem_of_getElem? hc)))

theorem ne_of_at? {n d : Node} {path : List Nat} (hpath : path ≠ [])
    (h : n.at? path = some d) : d ≠ n := by
  obtain ⟨i, path, rfl⟩ := List.exists_cons_of_ne_nil hpath
  obtain ⟨c, hc, hd⟩ := at?_cons_eq_some_iff.1 h
  have hlt := sizeOf_lt_of_mem_children (List.mem_of_getElem? hc)
  have hle := sizeOf_le_of_at? hd
  rintro rfl
  omega

/-- An address in a child as an address in the whole. -/
def under (i : Nat) (p : List Nat × Node) : List Nat × Node :=
  (i :: p.1, p.2)

mutual

/-- All nodes below a node in preorder, each with its address. -/
def addressed : Node → List (List Nat × Node)
  | ⟨_, _, _, children, _, _, _, _, _, _⟩ => addressedFrom 0 children

/-- Nodes in a row and all below them in preorder; the first one is the `i`th child. -/
def addressedFrom (i : Nat) : List Node → List (List Nat × Node)
  | [] => []
  | n :: rest => (([], n) :: n.addressed).map (under i) ++ addressedFrom (i + 1) rest

end

private theorem addressedFrom_eq (i : Nat) (cs : List Node) : addressedFrom i cs =
    (cs.zipIdx i).flatMap fun c => (([], c.1) :: c.1.addressed).map (under c.2) := by
  induction cs generalizing i with
  | nil => rfl
  | cons c cs ih => rw [addressedFrom, ih, List.zipIdx_cons, List.flatMap_cons]

private theorem addressed_eq (n : Node) : n.addressed =
    n.children.zipIdx.flatMap fun c => (([], c.1) :: c.1.addressed).map (under c.2) := by
  rw [← addressedFrom_eq]
  cases n
  rfl

private theorem mem_addressed {n d : Node} {path : List Nat} :
    (path, d) ∈ n.addressed ↔ path ≠ [] ∧ n.at? path = some d := by
  induction n using induct generalizing path with
  | step n ih =>
    have hchild {c : Node} (hc : c ∈ n.children) {tail : List Nat} :
        (tail, d) ∈ ([], c) :: c.addressed ↔ c.at? tail = some d := by
      rw [List.mem_cons, ih c hc, Prod.mk.injEq]
      cases tail <;> simp [at?, eq_comm]
    rw [addressed_eq, List.mem_flatMap]
    constructor
    · rintro ⟨⟨c, i⟩, hc, hmem⟩
      obtain ⟨⟨tail, e⟩, htail, hpath⟩ := List.mem_map.1 hmem
      cases hpath
      have hget := List.mem_zipIdx_iff_getElem?.1 hc
      have hd := (hchild (List.mem_of_getElem? hget)).1 htail
      exact ⟨List.cons_ne_nil i tail, at?_cons_eq_some_iff.2 ⟨c, hget, hd⟩⟩
    · rintro ⟨hpath, hd⟩
      obtain ⟨i, tail, rfl⟩ := List.exists_cons_of_ne_nil hpath
      obtain ⟨c, hget, hd⟩ := at?_cons_eq_some_iff.1 hd
      refine ⟨(c, i), List.mem_zipIdx_iff_getElem?.2 hget, List.mem_map.2 ⟨(tail, d), ?_, rfl⟩⟩
      exact (hchild (List.mem_of_getElem? hget)).2 hd

/-- Preorder goes through the addresses from the least one on. -/
theorem pairwise_addressed (n : Node) : n.addressed.Pairwise fun p q => p.1 < q.1 := by
  induction n using induct with
  | step n ih =>
    rw [addressed_eq, List.pairwise_flatMap]
    constructor
    · rintro ⟨c, i⟩ hc
      have hmem := List.mem_of_getElem? (List.mem_zipIdx_iff_getElem?.1 hc)
      rw [List.pairwise_map, List.pairwise_cons]
      constructor
      · rintro ⟨path, d⟩ hd
        obtain ⟨j, tail, rfl⟩ := List.exists_cons_of_ne_nil (mem_addressed.1 hd).1
        exact List.cons_lt_cons_iff.2 (Or.inr ⟨rfl, List.nil_lt_cons j tail⟩)
      · exact (ih c hmem).imp fun h => List.cons_lt_cons_iff.2 (Or.inr ⟨rfl, h⟩)
    · have hindex : (n.children.zipIdx.map Prod.snd).Pairwise (· < ·) := by
        rw [List.zipIdx_map_snd]
        exact List.pairwise_lt_range'
      refine (List.pairwise_map.1 hindex).imp fun {a b} hlt p hp q hq => ?_
      obtain ⟨p, -, rfl⟩ := List.mem_map.1 hp
      obtain ⟨q, -, rfl⟩ := List.mem_map.1 hq
      exact List.cons_lt_cons_iff.2 (Or.inl hlt)

private theorem map_addressed (n : Node) : n.addressed.map (·.2) = n.descendants := by
  induction n using induct with
  | step n ih =>
    have hchild : ∀ c ∈ n.children.zipIdx,
        ((([], c.1) :: c.1.addressed).map (under c.2)).map (·.2) = c.1 :: c.1.descendants := by
      rintro ⟨c, i⟩ hc
      rw [← ih c (List.mem_of_getElem? (List.mem_zipIdx_iff_getElem?.1 hc)), List.map_map]
      rfl
    calc n.addressed.map (·.2)
        = n.children.zipIdx.flatMap fun c => c.1 :: c.1.descendants := by
          rw [addressed_eq, List.map_flatMap]
          exact List.flatMap_congr hchild
      _ = (n.children.zipIdx.map Prod.fst).flatMap fun c => c :: c.descendants := by
          rw [List.flatMap_map]
      _ = n.descendants := by rw [List.zipIdx_map_fst, ← descendants_eq]

private theorem firstBelow?_eq_find?_addressed (n : Node) (test : Node → Bool) :
    n.firstBelow? test = (n.addressed.find? fun p => test p.2).map (·.2) := by
  rw [firstBelow?_eq_find?, ← map_addressed, List.find?_map]
  rfl

private theorem firstBelow?_eq_none_iff {n : Node} {test : Node → Bool} :
    n.firstBelow? test = none ↔ ∀ path d, path ≠ [] → n.at? path = some d → test d = false := by
  rw [firstBelow?_eq_find?_addressed, Option.map_eq_none_iff, List.find?_eq_none]
  constructor
  · intro h path d hpath hd
    simpa using h (path, d) (mem_addressed.2 ⟨hpath, hd⟩)
  · rintro h ⟨path, d⟩ hmem
    obtain ⟨hpath, hd⟩ := mem_addressed.1 hmem
    simpa using h path d hpath hd

private theorem ne_of_firstBelow? {n d : Node} {test : Node → Bool}
    (h : n.firstBelow? test = some d) :
    d ≠ n := by
  rw [firstBelow?_eq_find?_addressed] at h
  obtain ⟨⟨path, e⟩, hfound, rfl⟩ := Option.map_eq_some_iff.1 h
  obtain ⟨hpath, he⟩ := mem_addressed.1 (List.mem_of_find?_eq_some hfound)
  exact ne_of_at? hpath he

/-- The characters of the first text below a node that has the name. -/
def firstText? (n : Node) (name : String) : Option String :=
  (n.addressed.find? fun p => p.2.kind = .text ∧ p.2.name = name).map (·.2.text.characters)

private theorem slot?_eq_firstText? (n : Node) (slot : String) :
    n.slot? slot = n.firstText? slot := by
  rw [slot?, firstBelow?_eq_find?_addressed, firstText?, Option.map_map]
  simp only [beq_eq_decide, Bool.decide_and]
  rfl

/-- A search goes through the nodes below a node from the least address on, so it finds the first
one that passes the test, never the node itself, and nothing exactly when no node below it passes. A
slot is the first text with its name, and a segmented control has a label for each child, which
depends on what is below that child alone. -/
theorem firstBelow?_in_preorder (n : Node) (test : Node → Bool) :
    (∀ path d, (path, d) ∈ n.addressed ↔ path ≠ [] ∧ n.at? path = some d) ∧
    n.addressed.Pairwise (fun p q => p.1 < q.1) ∧
    n.firstBelow? test = (n.addressed.find? fun p => test p.2).map (·.2) ∧
    (n.firstBelow? test = none ↔
      ∀ path d, path ≠ [] → n.at? path = some d → test d = false) ∧
    (∀ d, n.firstBelow? test = some d → d ≠ n) ∧
    (∀ slot, n.slot? slot = n.firstText? slot) ∧
    n.segmentLabels = n.children.map fun c => (c.firstText? "Button").getD "" := by
  refine ⟨fun _ _ => mem_addressed, pairwise_addressed n, firstBelow?_eq_find?_addressed n test,
    firstBelow?_eq_none_iff, fun _ => ne_of_firstBelow?, slot?_eq_firstText? n, ?labels⟩
  case labels =>
    rw [segmentLabels]
    exact List.map_congr_left fun c _ =>
      congrArg (Option.getD · "") (slot?_eq_firstText? c "Button")

/-- The text in the frame in front comes first. -/
example :
    let label (characters : String) : Node :=
      { id := ⟨"0"⟩, kind := .text, name := "Button", text := { characters } }
    let row : Node := { id := ⟨"1"⟩, kind := .frame, children := [label "inner"] }
    slot? { id := ⟨"2"⟩, kind := .componentInstance, children := [row, label "outer"] } "Button" =
      some "inner" := by
  decide

end Mockup.Node
