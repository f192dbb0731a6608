import Mathlib.Data.List.Basic
import Mathlib.Data.List.TakeDrop
import Mathlib.Data.List.TakeWhile
import Mockup.Layout.Arrangement
import Mockup.Proofs.Decimal.Numeric

/-!
# Reading padding modifiers

A modifier is read back as the edges that it sets and what it sets them to.
-/

namespace Mockup

inductive Edge where
  | leading
  | trailing
  | top
  | bottom
deriving DecidableEq, Repr

namespace Edge

def all : List Edge := [leading, trailing, top, bottom]

theorem nodup_all : all.Nodup := by decide

theorem mem_all (e : Edge) : e ∈ all := by
  cases e <;> decide

/-- The edge on its own. -/
def alone : Edge → EdgeSet
  | leading => .leading
  | trailing => .trailing
  | top => .top
  | bottom => .bottom

end Edge

namespace EdgeSet

def edges : EdgeSet → List Edge
  | all => Edge.all
  | horizontal => [.leading, .trailing]
  | vertical => [.top, .bottom]
  | leading => [.leading]
  | trailing => [.trailing]
  | top => [.top]
  | bottom => [.bottom]

end EdgeSet

namespace Swift

/-- What the first of two arguments of a padding modifier stands for. -/
def edgesNamed : List (List Char × List Edge) := [
  (".horizontal".toList, [.leading, .trailing]),
  (".vertical".toList, [.top, .bottom]),
  (".leading".toList, [.leading]),
  (".trailing".toList, [.trailing]),
  (".top".toList, [.top]),
  (".bottom".toList, [.bottom])]

/-- The edges and the amount that the arguments of a padding modifier give. An amount alone is for
all edges. -/
def readPaddingArguments? (arguments : List Char) : Option (List Edge × List Char) :=
  match arguments.span (· ≠ ',') with
  | (amount, []) => some (Edge.all, amount)
  | (name, _ :: rest) => do
    let edges ← edgesNamed.lookup name
    let amount ← rest.dropPrefix? [' ']
    return (edges, amount)

/-- What a padding modifier sets, edge by edge. -/
def readPadding? (text : String) : Option (List (Edge × String)) := do
  let arguments ← (text.toList.dropPrefix? ".padding(".toList).bind (·.dropSuffix? [')'])
  let (edges, amount) ← readPaddingArguments? arguments
  return edges.map fun e => (e, String.ofList amount)

/-- What modifiers set one after the other. -/
def readPaddings? (texts : List String) : Option (List (Edge × String)) :=
  (texts.mapM readPadding?).map List.flatten

private theorem readPaddingArguments?_alone {amount : List Char} (h : ',' ∉ amount) :
    readPaddingArguments? amount = some (Edge.all, amount) := by
  have hstop : ∀ c ∈ amount, decide (c ≠ ',') = true := by
    intro c hc
    simpa using ne_of_mem_of_not_mem hc h
  have hsplit : amount.span (· ≠ ',') = (amount, []) := by
    rw [List.span_eq_takeWhile_dropWhile, List.takeWhile_eq_self_iff.2 hstop,
      List.dropWhile_eq_nil_iff.2 hstop]
  rw [readPaddingArguments?, hsplit]

private theorem readPaddingArguments?_named (name amount : List Char) {edges : List Edge}
    (h : edgesNamed.lookup name = some edges) (hname : ',' ∉ name) :
    readPaddingArguments? (name ++ ',' :: ' ' :: amount) = some (edges, amount) := by
  have hstop : ∀ c ∈ name, decide (c ≠ ',') = true := by
    intro c hc
    simpa using ne_of_mem_of_not_mem hc hname
  have hsplit : (name ++ ',' :: ' ' :: amount).span (· ≠ ',') = (name, ',' :: ' ' :: amount) := by
    rw [List.span_eq_takeWhile_dropWhile, List.takeWhile_append_of_pos hstop,
      List.dropWhile_append_of_pos hstop]
    simp
  rw [readPaddingArguments?, hsplit]
  simp [h, List.dropPrefix?]

private theorem readPaddingArguments?_argument (edges : EdgeSet) {amount : List Char}
    (h : ',' ∉ amount) :
    readPaddingArguments? (edges.argument.toList ++ amount) = some (edges.edges, amount) := by
  cases edges with
  | all => exact readPaddingArguments?_alone h
  | horizontal => exact readPaddingArguments?_named ".horizontal".toList amount rfl (by decide)
  | vertical => exact readPaddingArguments?_named ".vertical".toList amount rfl (by decide)
  | leading => exact readPaddingArguments?_named ".leading".toList amount rfl (by decide)
  | trailing => exact readPaddingArguments?_named ".trailing".toList amount rfl (by decide)
  | top => exact readPaddingArguments?_named ".top".toList amount rfl (by decide)
  | bottom => exact readPaddingArguments?_named ".bottom".toList amount rfl (by decide)

theorem readPadding?_text {m : PaddingModifier} (h : ',' ∉ m.amount.display.toList) :
    readPadding? m.text = some (m.edges.edges.map fun e => (e, m.amount.display)) := by
  have htext : m.text.toList = ".padding(".toList ++
      ((m.edges.argument.toList ++ m.amount.display.toList) ++ [')']) := by
    simp [PaddingModifier.text]
  have hfront : m.text.toList.dropPrefix? ".padding(".toList =
      some ((m.edges.argument.toList ++ m.amount.display.toList) ++ [')']) :=
    List.dropPrefix?_eq_some_iff.2 ⟨_, htext, beq_self_eq_true _⟩
  have hrear : ((m.edges.argument.toList ++ m.amount.display.toList) ++ [')']).dropSuffix? [')'] =
      some (m.edges.argument.toList ++ m.amount.display.toList) :=
    List.dropSuffix?_eq_some_iff.2 ⟨_, rfl, beq_self_eq_true _⟩
  simp only [readPadding?, hfront, Option.bind_some, hrear, Option.bind_eq_bind,
    readPaddingArguments?_argument m.edges h, Option.pure_def, String.ofList_toList]

end Swift

/-- What a modifier sets, edge by edge. -/
def PaddingModifier.settings (m : PaddingModifier) : List (Edge × Spacing) :=
  m.edges.edges.map fun e => (e, m.amount)

namespace Spacing

private theorem comma_notMem_token {value : Float} {name : String} (h : token? value = some name) :
    ',' ∉ name.toList := by
  obtain ⟨entry, hentry, rfl⟩ := Option.map_eq_some_iff.1 h
  have hall : ∀ name ∈ tokens.map Prod.snd, ',' ∉ name.toList := by
    unfold tokens
    simp only [List.map_cons, List.map_nil]
    decide
  exact hall _ (List.mem_map_of_mem (List.mem_of_find?_eq_some hentry))

theorem comma_notMem_ofLength (value : Float) : ',' ∉ (ofLength value).display.toList := by
  rw [ofLength]
  split
  · next name hname =>
    have hcomma := comma_notMem_token hname
    simp [display, hcomma]
  · intro hcomma
    exact absurd (Decimal.numeric_designValue value _ hcomma) (by decide)

end Spacing

namespace Padding

theorem eq_of_modifier? {edges : EdgeSet} {value : Float} {m : PaddingModifier}
    (h : modifier? edges value = some m) : m = ⟨edges, .ofLength value⟩ := by
  rw [modifier?] at h
  split at h
  · exact (Option.some.inj h).symm
  · cases h

theorem exists_of_mem_modifiers {p : Padding} {m : PaddingModifier} (h : m ∈ p.modifiers) :
    ∃ edges value, m = ⟨edges, .ofLength value⟩ := by
  rw [modifiers, List.mem_filterMap] at h
  obtain ⟨found, hfound, hm⟩ := h
  have hfrom : ∃ edges value, found = modifier? edges value := by
    split at hfound
    · exact ⟨_, _, List.mem_singleton.1 hfound⟩
    · split at hfound
      · simp only [List.mem_cons, List.not_mem_nil, or_false] at hfound
        rcases hfound with h | h
        · exact ⟨_, _, h⟩
        · exact ⟨_, _, h⟩
      · simp only [List.mem_cons, List.not_mem_nil, or_false] at hfound
        rcases hfound with h | h | h | h
        · exact ⟨_, _, h⟩
        · exact ⟨_, _, h⟩
        · exact ⟨_, _, h⟩
        · exact ⟨_, _, h⟩
  obtain ⟨edges, value, rfl⟩ := hfrom
  exact ⟨edges, value, eq_of_modifier? hm⟩

end Padding

/-- Modifiers are read back one after the other if their amounts have no comma. -/
theorem Swift.readPaddings?_text {ms : List PaddingModifier}
    (h : ∀ m ∈ ms, ',' ∉ m.amount.display.toList) :
    readPaddings? (ms.map PaddingModifier.text) =
      some ((ms.flatMap PaddingModifier.settings).map fun setting =>
        (setting.1, setting.2.display)) := by
  have hread : (ms.map PaddingModifier.text).mapM readPadding? =
      some (ms.map fun m => m.edges.edges.map fun e => (e, m.amount.display)) := by
    induction ms with
    | nil => rfl
    | cons m ms ih =>
      obtain ⟨hm, hms⟩ := List.forall_mem_cons.1 h
      rw [List.map_cons, List.mapM_cons, readPadding?_text hm, ih hms]
      rfl
  rw [readPaddings?, hread, List.map_flatMap]
  simp only [Option.map_some, List.flatMap_def, PaddingModifier.settings, List.map_map,
    Function.comp_def]

end Mockup
