import Mathlib.Tactic.Common
import Mockup.Node.Basic

/-!
# Trees of nodes

Induction over a node and its children, and the descendants of a node in the order in which a
search goes through them.
-/

namespace Mockup.Node

theorem sizeOf_lt_of_mem_children {c n : Node} (hc : c ∈ n.children) : sizeOf c < sizeOf n := by
  cases n with
  | mk id kind name children layout fills fillStyle cornerStyle text properties =>
    have h : sizeOf c < sizeOf children := List.sizeOf_lt_of_mem hc
    simp only [mk.sizeOf_spec]
    omega

/-- What holds of a node once it holds of its children holds of every node. -/
theorem induct {motive : Node → Prop}
    (step : ∀ n : Node, (∀ c ∈ n.children, motive c) → motive n) (n : Node) : motive n := by
  apply step
  intro c hc
  have hlt := sizeOf_lt_of_mem_children hc
  exact induct step c
termination_by sizeOf n

mutual

/-- All nodes below a node in preorder. -/
def descendants : Node → List Node
  | ⟨_, _, _, children, _, _, _, _, _, _⟩ => preorderAll children

/-- Nodes and all below them in preorder. -/
def preorderAll : List Node → List Node
  | [] => []
  | n :: rest => n :: n.descendants ++ preorderAll rest

end

private theorem preorderAll_eq (cs : List Node) :
    preorderAll cs = cs.flatMap fun c => c :: c.descendants := by
  induction cs with
  | nil => rfl
  | cons c cs ih => rw [preorderAll, ih, List.flatMap_cons]

theorem descendants_eq (n : Node) :
    n.descendants = n.children.flatMap fun c => c :: c.descendants := by
  rw [← preorderAll_eq]
  cases n
  rfl

theorem forall_tree_iff {p : Node → Prop} {n : Node} : (∀ d ∈ n :: n.descendants, p d) ↔
    p n ∧ ∀ c ∈ n.children, ∀ d ∈ c :: c.descendants, p d := by
  rw [List.forall_mem_cons, descendants_eq]
  simp only [List.forall_mem_flatMap]

private theorem firstAmong?_eq_find? (test : Node → Bool) {cs : List Node}
    (h : ∀ c ∈ cs, c.firstBelow? test = c.descendants.find? test) :
    firstAmong? test cs = (preorderAll cs).find? test := by
  induction cs with
  | nil => rfl
  | cons c cs ih =>
    have hc := h c List.mem_cons_self
    have hcs := ih fun d hd => h d (List.mem_cons_of_mem c hd)
    rw [firstAmong?, preorderAll, List.cons_append, List.find?_cons, List.find?_append, hc, hcs]
    cases test c <;> rfl

theorem firstBelow?_eq_find? (test : Node → Bool) (n : Node) :
    n.firstBelow? test = n.descendants.find? test := by
  induction n using induct with
  | step n ih =>
    have h := firstAmong?_eq_find? test ih
    cases n
    exact h

end Mockup.Node
