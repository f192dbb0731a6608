import Mathlib.Tactic.Common
import Mockup.Template.Render

/-!
# Templates that are alike

A template that is read from a text has an empty text wherever two tags meet. Whether it is another
template but for those can be decided, and then the two render alike.
-/

namespace Mockup.Template

open Json (Value)

/-- The same path or the same whole number. -/
def Operand.isLike : Operand → Operand → Bool
  | .path names, .path others => names == others
  | .literal (.number (.int i)), .literal (.number (.int j)) => i == j
  | _, _ => false

private theorem Operand.eq_of_isLike {a b : Operand} (h : a.isLike b = true) : a = b := by
  rw [isLike.eq_def] at h
  split at h
  · rw [eq_of_beq h]
  · rw [eq_of_beq h]
  · contradiction

def operandsAreLike : List Operand → List Operand → Bool
  | [], [] => true
  | a :: rest, b :: others => a.isLike b && operandsAreLike rest others
  | _, _ => false

private theorem eq_of_operandsAreLike {as bs : List Operand} (h : operandsAreLike as bs = true) :
    as = bs := by
  induction as generalizing bs with
  | nil =>
    cases bs with
    | nil => rfl
    | cons b bs => contradiction
  | cons a as ih =>
    cases bs with
    | nil => contradiction
    | cons b bs =>
      rw [operandsAreLike, Bool.and_eq_true] at h
      rw [Operand.eq_of_isLike h.1, ih h.2]

/-- The same helper on the same operands, none of them by name. -/
def Call.isLike (a b : Call) : Bool :=
  a.helper == b.helper && operandsAreLike a.operands b.operands && a.named.isEmpty &&
    b.named.isEmpty

private theorem Call.eq_of_isLike {a b : Call} (h : a.isLike b = true) : a = b := by
  simp only [isLike, Bool.and_eq_true, beq_iff_eq, List.isEmpty_iff] at h
  obtain ⟨⟨⟨hhelper, hoperands⟩, ha⟩, hb⟩ := h
  cases a
  cases b
  rw [Call.mk.injEq]
  exact ⟨hhelper, eq_of_operandsAreLike hoperands, ha.trans hb.symm⟩

def Part.isEmptyText : Part → Bool
  | .text written => written == ""
  | _ => false

private theorem renderPart_of_isEmptyText {p : Part} (h : p.isEmptyText = true) (data : Value) :
    renderPart data p = .ok "" := by
  rw [Part.isEmptyText.eq_def] at h
  split at h
  · rw [renderPart, eq_of_beq h]
  · contradiction

mutual

def Part.isLike : Part → Part → Bool
  | .text a, .text b => a == b
  | .insert a, .insert b => a.isLike b
  | .call a, .call b => a.isLike b
  | .block a body otherwise, .block b body' otherwise' =>
    a.isLike b && areLike body body' && areLike otherwise otherwise'
  | _, _ => false

/-- The first parts are the others, with empty texts between them. -/
def areLike : List Part → List Part → Bool
  | [], others => others.isEmpty
  | p :: rest, others =>
    p.isEmptyText && areLike rest others ||
      match others with
      | [] => false
      | q :: others => p.isLike q && areLike rest others

end

mutual

theorem renderPart_of_isLike (data : Value) :
    ∀ p q : Part, p.isLike q = true → renderPart data p = renderPart data q
  | .text a, q, h => by
    cases q <;> simp_all [Part.isLike]
  | .insert a, q, h => by
    cases q with
    | insert b => rw [Operand.eq_of_isLike h]
    | _ => simp [Part.isLike] at h
  | .call a, q, h => by
    cases q with
    | call b => rw [Call.eq_of_isLike h]
    | _ => simp [Part.isLike] at h
  | .block a body otherwise, q, h => by
    cases q with
    | block b body' otherwise' =>
      rw [Part.isLike, Bool.and_eq_true, Bool.and_eq_true] at h
      rw [renderPart, renderPart, Call.eq_of_isLike h.1.1,
        renderParts_of_areLike data body body' h.1.2,
        renderParts_of_areLike data otherwise otherwise' h.2]
    | _ => simp [Part.isLike] at h

theorem renderParts_of_areLike (data : Value) :
    ∀ ps qs : List Part, areLike ps qs = true → renderParts data ps = renderParts data qs
  | [], qs, h => by
    rw [areLike, List.isEmpty_iff] at h
    rw [h]
  | p :: rest, qs, h => by
    rw [areLike.eq_def] at h
    dsimp only at h
    rw [Bool.or_eq_true, Bool.and_eq_true] at h
    rcases h with ⟨hempty, hrest⟩ | h
    · rw [renderParts, renderPart_of_isEmptyText hempty,
        renderParts_of_areLike data rest qs hrest]
      cases renderParts data qs with
      | error fault => rfl
      | ok text => exact congrArg Except.ok String.empty_append
    · cases qs with
      | nil => contradiction
      | cons q others =>
        dsimp only at h
        rw [Bool.and_eq_true] at h
        rw [renderParts, renderParts, renderPart_of_isLike data p q h.1,
          renderParts_of_areLike data rest others h.2]

end

end Mockup.Template
