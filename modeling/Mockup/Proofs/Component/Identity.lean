import Mathlib.Tactic.Common
import Mockup.Lookup.Source

/-!
# Reading component ids

An id is cut at its first colon. So reading undoes writing for every identity whose family is a text
without colons, and each id that is read at all is the text of what is read.
-/

namespace Mockup.Identity

private theorem splitColon_append {before : List Char} (h : ':' ∉ before) (after : List Char) :
    splitColon (before ++ ':' :: after) = some (before, after) := by
  induction before with
  | nil => rfl
  | cons c before ih =>
    rw [List.mem_cons, not_or] at h
    obtain ⟨hc, hbefore⟩ := h
    rw [List.cons_append, splitColon.eq_3 _ _ fun heq => hc heq.symm, ih hbefore]
    rfl

private theorem eq_append_of_splitColon {cs before after : List Char}
    (h : splitColon cs = some (before, after)) : cs = before ++ ':' :: after ∧ ':' ∉ before := by
  fun_induction splitColon cs generalizing before with
  | case1 => cases h
  | case2 rest =>
    cases h
    exact ⟨rfl, List.not_mem_nil⟩
  | case3 c rest hc ih =>
    obtain ⟨⟨front, rear⟩, hsplit, hparts⟩ := Option.map_eq_some_iff.1 h
    cases hparts
    obtain ⟨rfl, hcolon⟩ := ih hsplit
    exact ⟨rfl, List.not_mem_cons_of_ne_of_not_mem (Ne.symm hc) hcolon⟩

private theorem text_toList (i : Identity) :
    i.text.toList = i.family.toList ++ ':' :: i.localId.toList := by
  simp [text]

/-- What is read of an id is the identity with that text whose family is not empty and without
colons. -/
theorem ofText?_eq_some_iff {s : String} {i : Identity} :
    ofText? s = some i ↔ i.text = s ∧ i.family ≠ "" ∧ ':' ∉ i.family.toList := by
  rw [ofText?]
  constructor
  · intro h
    split at h
    · next c family localId hsplit =>
      cases h
      obtain ⟨hs, hcolon⟩ := eq_append_of_splitColon hsplit
      refine ⟨?_, by simp, by simpa using hcolon⟩
      rw [← String.toList_inj, text_toList, String.toList_ofList, String.toList_ofList, hs]
    · cases h
  · rintro ⟨rfl, hfamily, hcolon⟩
    obtain ⟨c, family, hcons⟩ := List.exists_cons_of_ne_nil (mt String.toList_eq_nil_iff.1 hfamily)
    rw [text_toList, splitColon_append hcolon, hcons]
    dsimp only
    rw [← hcons, String.ofList_toList, String.ofList_toList]

theorem exists_ofText?_iff (s : String) :
    (∃ i, ofText? s = some i) ↔ ':' ∈ s.toList ∧ s.toList.head? ≠ some ':' := by
  simp only [ofText?_eq_some_iff]
  constructor
  · rintro ⟨i, rfl, hfamily, hcolon⟩
    obtain ⟨c, family, hcons⟩ := List.exists_cons_of_ne_nil (mt String.toList_eq_nil_iff.1 hfamily)
    rw [hcons, List.mem_cons, not_or] at hcolon
    rw [text_toList, hcons]
    refine ⟨List.mem_append_right _ List.mem_cons_self, ?_⟩
    rw [List.cons_append, List.head?_cons]
    exact fun hhead => hcolon.1 (Option.some.inj hhead).symm
  · rintro ⟨hmem, hhead⟩
    obtain ⟨before, after, hs, hcolon⟩ := List.eq_append_cons_of_mem hmem
    refine ⟨⟨String.ofList before, String.ofList after⟩, ?_, ?_, by simpa using hcolon⟩
    · rw [← String.toList_inj, text_toList, String.toList_ofList, String.toList_ofList, hs]
    · -- Nothing before the colon would put it first.
      intro hempty
      rw [String.ofList_eq_empty_iff] at hempty
      rw [hs, hempty] at hhead
      exact hhead rfl

private theorem parse_eq_ok_iff {s : String} {i : Identity} :
    parse s = .ok i ↔ ofText? s = some i := by
  rw [parse]
  split <;> simp_all

/-- An id has an identity exactly when it has a colon and does not start with one; the identity is
written as the id, and every other id is refused by its name. Conversely an identity with a family
that is not empty and without colons is read from its text, whatever its local part is. -/
theorem parse_inverts_text (s : String) (i : Identity) :
    ((∃ j, parse s = .ok j) ↔ ':' ∈ s.toList ∧ s.toList.head? ≠ some ':') ∧
    (∀ j, parse s = .ok j → j.text = s) ∧
    (∀ fault, parse s = .error fault → fault = .invalidComponentId s) ∧
    (i.family ≠ "" → ':' ∉ i.family.toList → parse i.text = .ok i) := by
  simp only [parse_eq_ok_iff]
  refine ⟨exists_ofText?_iff s, ?written, ?refused, ?read⟩
  case written =>
    intro j hj
    exact (ofText?_eq_some_iff.1 hj).1
  case refused =>
    intro fault h
    rw [parse] at h
    split at h
    · cases h
    · cases h
      rfl
  case read =>
    intro hfamily hcolon
    exact ofText?_eq_some_iff.2 ⟨rfl, hfamily, hcolon⟩

example : parse "171:30:64" = .ok ⟨"171", "30:64"⟩ := by decide

end Mockup.Identity
