import Mockup.Proofs.Swift.Sheet
import Mockup.Proofs.Text.Rows
import Mockup.Proofs.View.State

/-!
# Texts in a view

The text of every visible node stands in the view row by row, as deep as the blocks around it. It is
composed from the state that the visible instances before it have left.
-/

namespace Mockup

open Mockup.Composition (Composed EachInTurn)
open Text (Closed rows)

namespace Fragment

/-- A text as it stands so many blocks deep. -/
def nested : Nat → String → String
  | 0, text => text
  | depth + 1, text => Text.indent indentWidth (nested depth text)

/-- The rows of the text follow each other in the view, moved by so many blocks. -/
def StandsIn (depth : Nat) (text view : String) : Prop :=
  rows (nested depth text) <:+: rows view

variable {text part view : String} {depth : Nat} {parts : List String}

private theorem closed_nested (h : Closed text) (depth : Nat) : Closed (nested depth text) := by
  induction depth with
  | zero => exact h
  | succ depth ih => exact ih.indent indentWidth

private theorem standsIn_self (text : String) : StandsIn 0 text text :=
  List.infix_rfl

private theorem StandsIn.under (h : StandsIn depth text view) (rest : String) :
    StandsIn depth text (view ++ "\n" ++ rest) := by
  rw [StandsIn, Text.rows_under]
  exact List.infix_append_of_infix_left h

/-- What stands in a part of a block stands in the block, one step further to the right. -/
theorem standsIn_block (htext : Closed text) (hpart : part ∈ parts)
    (h : StandsIn depth text part) (opener : String) :
    StandsIn (depth + 1) text (block opener parts) := by
  have hclosed := closed_nested htext depth
  have hfilled : part ∈ parts.filter (· ≠ "") :=
    List.mem_filter.2 ⟨hpart, by simpa using hclosed.ne_empty_of_infix h⟩
  have hbody : rows (nested (depth + 1) text) <:+:
      rows (Text.indent indentWidth ("\n".intercalate (parts.filter (· ≠ "")))) :=
    hclosed.rows_indent_infix (h.trans (Text.rows_infix_intercalate hfilled)) indentWidth
  rw [StandsIn, Swift.block_eq, if_neg (List.ne_nil_of_mem hfilled), Text.rows_under,
    Text.rows_under]
  exact List.infix_append_of_infix_left (List.infix_append_of_infix_right hbody)

end Fragment

open Fragment (StandsIn)

private theorem mem_intersperse {α : Type} {x : α} {xs : List α} (h : x ∈ xs) (between : α) :
    x ∈ xs.intersperse between := by
  induction xs with
  | nil => cases h
  | cons y ys ih =>
    cases ys with
    | nil => exact h
    | cons z zs =>
      rw [List.intersperse_cons_cons]
      rcases List.mem_cons.1 h with rfl | h
      · exact List.mem_cons_self
      · exact List.mem_cons_of_mem _ (List.mem_cons_of_mem _ (ih h))

namespace Snapshot

variable {text part : String} {depth : Nat} {parts : List String}

theorem standsIn_frameFragment (s : Snapshot) (parent : Option Node) (htext : Closed text)
    (hpart : part ∈ parts) (h : StandsIn depth text part) :
    ∃ depth, StandsIn depth text (s.frameFragment parent parts) := by
  have hspread :
      part ∈ if s.node.spreadsChildren parent then parts.intersperse "Spacer()" else parts := by
    split
    · exact mem_intersperse hpart _
    · exact hpart
  have hstack := Fragment.standsIn_block htext hspread h
  rw [frameFragment]
  dsimp only
  split
  · exact ⟨depth + 1, hstack _⟩
  · split
    · refine ⟨depth + 2, (Fragment.standsIn_block htext (List.mem_singleton_self _) ?_ _).under _⟩
      exact hstack _
    · exact ⟨depth + 1, (hstack _).under _⟩

end Snapshot

section

variable {α σ : Type} {f : σ → α → σ}

/-- Items with the states that they meet, when each changes the state for the next. -/
def encounters (f : σ → α → σ) (state : σ) : List α → List (α × σ)
  | [] => []
  | a :: rest => (a, state) :: encounters f (f state a) rest

private theorem encounters_append (state : σ) (as bs : List α) :
    encounters f state (as ++ bs) =
      encounters f state as ++ encounters f (as.foldl f state) bs := by
  induction as generalizing state with
  | nil => rfl
  | cons a as ih => rw [List.cons_append, encounters, ih, encounters, List.foldl_cons,
      List.cons_append]

theorem exists_mem_encounters {as : List α} {a : α} (h : a ∈ as) (state : σ) :
    ∃ met, (a, met) ∈ encounters f state as := by
  obtain ⟨front, rear, rfl⟩ := List.append_of_mem h
  refine ⟨front.foldl f state, ?_⟩
  rw [encounters_append, encounters]
  exact List.mem_append_right _ List.mem_cons_self

theorem mem_of_mem_encounters {as : List α} {state : σ} {e : α × σ}
    (h : e ∈ encounters f state as) : e.1 ∈ as := by
  induction as generalizing state with
  | nil => cases h
  | cons a as ih =>
    rw [encounters, List.mem_cons] at h
    rcases h with rfl | h
    · exact List.mem_cons_self
    · exact List.mem_cons_of_mem a (ih h)

theorem mem_encounters_filter {p : α → Bool} {as : List α} {state : σ} {e : α × σ}
    (h : e ∈ encounters f state (as.filter p)) :
    e ∈ encounters (fun state a => if p a then f state a else state) state as := by
  induction as generalizing state with
  | nil => exact h
  | cons a as ih =>
    rw [encounters]
    by_cases ha : p a = true
    · rw [List.filter_cons_of_pos ha, encounters, List.mem_cons] at h
      rw [if_pos ha, List.mem_cons]
      exact h.imp_right ih
    · rw [List.filter_cons_of_neg ha] at h
      rw [if_neg ha]
      exact List.mem_cons_of_mem _ (ih h)

end

/-- What a visible node does to the state: only instances have an effect. -/
def Snapshot.pass (config : Config) (state : ModelState) (v : Snapshot) : ModelState :=
  if v.node.kind == .componentInstance then v.effect config state else state

namespace Composition

/-- A node, composed from the state that it meets, has a text that stands somewhere in the view, if
it ends visibly. -/
def Appears (config : Config) (view : String) (e : Snapshot × ModelState) : Prop :=
  ∃ parent text after, Composed config parent e.1 e.2 text after ∧
    (Closed text → ∃ depth, StandsIn depth text view)

variable {config : Config} {s : Snapshot} {parent : Option Node} {before after : ModelState}
  {part view : String} {parts : List String} {e : Snapshot × ModelState}

private theorem appears_self (h : Composed config parent s before view after) :
    Appears config view (s, before) :=
  ⟨parent, view, after, h, fun _ => ⟨0, Fragment.standsIn_self view⟩⟩

private theorem Appears.within (h : Appears config part e)
    (hview : ∀ text depth, Closed text → StandsIn depth text part →
      ∃ depth, StandsIn depth text view) : Appears config view e := by
  obtain ⟨parent, text, after, htext, hstands⟩ := h
  refine ⟨parent, text, after, htext, ?_⟩
  intro hclosed
  obtain ⟨depth, hdepth⟩ := hstands hclosed
  exact hview text depth hclosed hdepth

private theorem Composed.foldl_pass (h : Composed config parent s before view after) :
    (s.visible config).foldl (Snapshot.pass config) before = after := by
  rw [h.state_eq, Snapshot.visibleInstances, List.foldl_filter]
  rfl

theorem exists_part {n : Node} {cs : List Snapshot}
    (hparts : EachInTurn (fun c b t a => Composed config (some n) c b t a ∧
      (Composed config (some n) c b t a →
        ∀ e ∈ encounters (Snapshot.pass config) b (c.visible config), Appears config t e))
      cs before parts after)
    (he : e ∈ encounters (Snapshot.pass config) before (cs.flatMap (Snapshot.visible config))) :
    ∃ part ∈ parts, Appears config part e := by
  induction hparts with
  | nil state => cases he
  | cons head tail ih =>
    rw [List.flatMap_cons, encounters_append, head.1.foldl_pass, List.mem_append] at he
    rcases he with he | he
    · exact ⟨_, List.mem_cons_self, head.2 head.1 e he⟩
    · obtain ⟨part, hpart, happears⟩ := ih he
      exact ⟨part, List.mem_cons_of_mem _ hpart, happears⟩

/-- Every visible node appears in the view, composed from the state that it meets. -/
theorem Composed.appears (h : Composed config parent s before view after) :
    ∀ e ∈ encounters (Snapshot.pass config) before (s.visible config), Appears config view e := by
  refine Composed.induct (motive := fun parent s before view after =>
    Composed config parent s before view after →
      ∀ e ∈ encounters (Snapshot.pass config) before (s.visible config), Appears config view e)
    ?omitted ?frame ?group ?widget ?leaf h h
  case omitted =>
    intro parent s state hk ho _ e he
    rw [Snapshot.visible_omitted hk ho] at he
    cases he
  case frame =>
    intro parent s before parts after hk ho hparts hself
    have hpass : s.pass config before = before := by rw [Snapshot.pass, hk]; rfl
    rw [Snapshot.visible_frame hk ho, encounters, hpass, List.forall_mem_cons]
    refine ⟨appears_self hself, ?_⟩
    intro e he
    obtain ⟨part, hpart, happears⟩ := exists_part hparts he
    exact happears.within fun text depth hclosed => s.standsIn_frameFragment parent hclosed hpart
  case group =>
    intro parent s before parts after hk hparts hself
    have hpass : s.pass config before = before := by rw [Snapshot.pass, hk]; rfl
    rw [Snapshot.visible_group hk, encounters, hpass, List.forall_mem_cons]
    refine ⟨appears_self hself, ?_⟩
    intro e he
    obtain ⟨part, hpart, happears⟩ := exists_part hparts he
    exact happears.within fun text depth hclosed hstands =>
      ⟨depth + 1, Fragment.standsIn_block hclosed hpart hstands _⟩
  case widget =>
    intro parent s state text hk _ hself
    rw [Snapshot.visible_instance hk, encounters, encounters, List.forall_mem_singleton]
    exact appears_self hself
  case leaf =>
    intro parent s state text hleaf hself
    rw [Snapshot.visible_leaf hleaf, encounters, encounters, List.forall_mem_singleton]
    exact appears_self hself

end Composition

end Mockup
