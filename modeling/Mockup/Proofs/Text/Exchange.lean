import Mathlib.Data.List.Infix
import Mathlib.Tactic.Common
import Mockup.Text.Search

/-!
# Exchanged marks

Two marks of which neither can begin within an occurrence of the other are exchanged wherever they
stand in a text. Doing so twice gives the text back, and one mark is found in the exchanged text
just where the other is found in the text itself.
-/

namespace Mockup

inductive Side where
  | left
  | right
deriving DecidableEq, Repr

def Side.other : Side → Side
  | left => right
  | right => left

private theorem Side.eq_or_eq_other (a b : Side) : b = a ∨ b = a.other := by
  cases a <;> cases b <;> decide

@[simp] theorem Side.other_other (side : Side) : side.other.other = side := by
  cases side <;> rfl

namespace Text

/-- Two marks that begin with the same character, which occurs nowhere else in them, and of which
neither begins with the other. So no two occurrences of them overlap. -/
structure Marks where
  mark : Side → List Char
  initial : Char
  tail : Side → List Char
  mark_eq (side : Side) : mark side = initial :: tail side
  initial_notMem (side : Side) : initial ∉ tail side
  apart (side : Side) : ¬ mark side <+: mark side.other

namespace Marks

variable (m : Marks)

/-- The mark that a text begins with. -/
def at? (cs : List Char) : Option Side :=
  if (m.mark .left).isPrefixOf cs then some .left
  else if (m.mark .right).isPrefixOf cs then some .right
  else none

/-- The rest of a text with its marks exchanged, when some characters of it are passed over
first. -/
def exchangeFrom : Nat → List Char → List Char
  | _, [] => []
  | skip + 1, _ :: rest => exchangeFrom skip rest
  | 0, c :: rest =>
    match m.at? (c :: rest) with
    | some side => m.mark side.other ++ exchangeFrom (m.tail side).length rest
    | none => c :: exchangeFrom 0 rest

def exchange (cs : List Char) : List Char :=
  m.exchangeFrom 0 cs

variable {m} {side : Side} {cs rest : List Char}

theorem eq_of_isPrefix {a b : Side} (ha : m.mark a <+: cs) (hb : m.mark b <+: cs) : a = b := by
  rcases a.eq_or_eq_other b with rfl | rfl
  · rfl
  · have hback := m.apart a.other
    rw [Side.other_other] at hback
    exact ((List.prefix_or_prefix_of_prefix ha hb).elim (m.apart a) hback).elim

private theorem at?_eq_some_iff : m.at? cs = some side ↔ m.mark side <+: cs := by
  rw [at?]
  split
  · next hleft =>
    rw [List.isPrefixOf_iff_prefix] at hleft
    exact ⟨fun h => Option.some.inj h ▸ hleft, fun h => congrArg some (eq_of_isPrefix hleft h)⟩
  · next hleft =>
    split
    · next hright =>
      rw [List.isPrefixOf_iff_prefix] at hright
      exact ⟨fun h => Option.some.inj h ▸ hright, fun h => congrArg some (eq_of_isPrefix hright h)⟩
    · next hright =>
      rw [List.isPrefixOf_iff_prefix] at hleft hright
      refine iff_of_false (by simp) fun h => ?_
      cases side with
      | left => exact absurd h hleft
      | right => exact absurd h hright

private theorem at?_mark (side : Side) (rest : List Char) :
    m.at? (m.mark side ++ rest) = some side :=
  at?_eq_some_iff.2 (List.prefix_append _ _)

private theorem exchangeFrom_eq (skip : Nat) (cs : List Char) :
    m.exchangeFrom skip cs = m.exchange (cs.drop skip) := by
  induction cs generalizing skip with
  | nil => cases skip <;> rfl
  | cons c cs ih =>
    cases skip with
    | zero => rfl
    | succ skip => exact ih skip

private theorem exchange_mark (side : Side) (rest : List Char) :
    m.exchange (m.mark side ++ rest) = m.mark side.other ++ m.exchange rest := by
  have hat := m.at?_mark side rest
  rw [m.mark_eq side, List.cons_append] at hat ⊢
  rw [exchange, exchangeFrom, hat]
  exact congrArg (m.mark side.other ++ ·)
    ((exchangeFrom_eq _ _).trans (congrArg m.exchange List.drop_left))

private theorem exchange_cons {c : Char} (h : m.at? (c :: rest) = none) :
    m.exchange (c :: rest) = c :: m.exchange rest := by
  rw [exchange, exchangeFrom, h]
  rfl

/-- A text is a mark with something behind it, or a character at which no mark begins, with
something behind it, or empty. -/
theorem cut_induct {P : List Char → Prop} (nil : P [])
    (mark : ∀ side rest, P rest → P (m.mark side ++ rest))
    (char : ∀ c rest, m.at? (c :: rest) = none → P rest → P (c :: rest)) (cs : List Char) :
    P cs := by
  induction hn : cs.length using Nat.strong_induction_on generalizing cs with
  | _ n ih =>
    cases cs with
    | nil => exact nil
    | cons c rest =>
      cases hat : m.at? (c :: rest) with
      | none => exact char c rest hat (ih _ (by simp [← hn]) rest rfl)
      | some side =>
        obtain ⟨behind, hbehind⟩ := at?_eq_some_iff.1 hat
        rw [← hbehind]
        refine mark side behind (ih _ ?_ behind rfl)
        rw [← hn, ← hbehind, m.mark_eq]
        simp only [List.cons_append, List.length_cons, List.length_append]
        omega

theorem isPrefix_of_isPrefix_exchange {w : List Char} (hw : m.initial ∉ w)
    (h : w <+: m.exchange cs) : w <+: cs := by
  induction w generalizing cs with
  | nil => exact List.nil_prefix
  | cons c w ih =>
    rw [List.mem_cons, not_or] at hw
    obtain ⟨hc, hw⟩ := hw
    induction cs using cut_induct (m := m) with
    | nil => exact h
    | mark side rest _ =>
      rw [exchange_mark, m.mark_eq, List.cons_append, List.cons_prefix_cons] at h
      exact absurd h.1.symm hc
    | char d rest hd _ =>
      rw [exchange_cons hd, List.cons_prefix_cons] at h
      exact List.cons_prefix_cons.2 ⟨h.1, ih hw h.2⟩

private theorem at?_exchange_cons {c : Char} (h : m.at? (c :: rest) = none) :
    m.at? (c :: m.exchange rest) = none := by
  by_contra hsome
  obtain ⟨side, hside⟩ := Option.ne_none_iff_exists'.1 hsome
  rw [at?_eq_some_iff, m.mark_eq, List.cons_prefix_cons] at hside
  have hmark : m.mark side <+: c :: rest := by
    rw [m.mark_eq, List.cons_prefix_cons]
    exact ⟨hside.1, isPrefix_of_isPrefix_exchange (m.initial_notMem side) hside.2⟩
  rw [at?_eq_some_iff.2 hmark] at h
  cases h

@[simp] theorem exchange_exchange (cs : List Char) : m.exchange (m.exchange cs) = cs := by
  induction cs using cut_induct (m := m) with
  | nil => rfl
  | mark side rest ih => rw [exchange_mark, exchange_mark, ih, Side.other_other]
  | char c rest hc ih => rw [exchange_cons hc, exchange_cons (at?_exchange_cons hc), ih]

private theorem isPrefix_exchange (h : m.mark side <+: cs) :
    m.mark side.other <+: m.exchange cs := by
  obtain ⟨rest, rfl⟩ := h
  exact ⟨m.exchange rest, (exchange_mark side rest).symm⟩

theorem isPrefix_exchange_iff : m.mark side <+: m.exchange cs ↔ m.mark side.other <+: cs := by
  constructor
  · intro h
    simpa using isPrefix_exchange h
  · intro h
    simpa using isPrefix_exchange h

theorem at?_append_mark {c : Char} {front : List Char} (h : m.at? (c :: front) = none) :
    m.at? (c :: (front ++ (m.mark side ++ rest))) = none := by
  by_contra hsome
  obtain ⟨a, ha⟩ := Option.ne_none_iff_exists'.1 hsome
  rw [at?_eq_some_iff] at ha
  have hnone : ¬ m.mark a <+: c :: front := by
    intro hprefix
    rw [at?_eq_some_iff.2 hprefix] at h
    cases h
  have hfront : c :: front <+: c :: (front ++ (m.mark side ++ rest)) := List.prefix_append _ _
  obtain ⟨behind, hbehind⟩ := (List.prefix_or_prefix_of_prefix ha hfront).resolve_left hnone
  cases behind with
  | nil => exact hnone (by rw [← hbehind, List.append_nil])
  | cons d behind =>
    rw [← hbehind, ← List.cons_append, List.prefix_append_right_inj, m.mark_eq side,
      List.cons_append, List.cons_prefix_cons] at ha
    rw [m.mark_eq a, List.cons_append, List.cons.injEq] at hbehind
    refine m.initial_notMem a ?_
    rw [← hbehind.2, ← ha.1]
    exact List.mem_append_right front List.mem_cons_self

private theorem exchange_append_mark (front rest : List Char) (side : Side) :
    m.exchange (front ++ (m.mark side ++ rest)) =
      m.exchange front ++ (m.mark side.other ++ m.exchange rest) := by
  induction front using cut_induct (m := m) with
  | nil => exact exchange_mark side rest
  | mark a front ih => rw [List.append_assoc, exchange_mark, ih, exchange_mark, List.append_assoc]
  | char c front hc ih =>
    rw [List.cons_append, exchange_cons (at?_append_mark hc), ih, exchange_cons hc,
      List.cons_append]

private theorem isInfix_exchange (h : m.mark side <:+: cs) :
    m.mark side.other <:+: m.exchange cs := by
  obtain ⟨front, rest, rfl⟩ := h
  rw [List.append_assoc, exchange_append_mark, ← List.append_assoc]
  exact List.infix_append _ _ _

theorem isInfix_exchange_iff : m.mark side <:+: m.exchange cs ↔ m.mark side.other <:+: cs := by
  constructor
  · intro h
    simpa using isInfix_exchange h
  · intro h
    simpa using isInfix_exchange h

end Marks

theorem occursIn_iff (fragment cs : List Char) :
    occursIn fragment cs = true ↔ fragment <:+: cs := by
  induction cs with
  | nil => simp [occursIn]
  | cons c cs ih =>
    rw [occursIn, Bool.or_eq_true, List.isPrefixOf_iff_prefix, ih, List.infix_cons_iff]

end Text
end Mockup
