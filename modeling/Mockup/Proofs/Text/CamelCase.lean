import Mathlib.Data.List.DropRight
import Mockup.Proofs.Text.Identifier
import Mockup.Text.Blank
import Mockup.Text.Case

/-!
# Camel case

A name in camel case is made of the maximal runs of ASCII letters and digits in it. What stands
between the runs does not matter as long as something does, and what stands before the first or
behind the last does not matter at all.
-/

namespace Mockup.Text

/-- A separator: there are no ASCII letters or digits in it. -/
def IsGap (cs : List Char) : Prop :=
  ∀ c ∈ cs, c.isAlphanum = false

/-- At least one ASCII letter or digit, and nothing else. -/
def IsRun (cs : List Char) : Prop :=
  cs ≠ [] ∧ ∀ c ∈ cs, c.isAlphanum = true

/-- The maximal runs of a text, from first to last: no letter or digit stands outside of them, and
none follows one directly. -/
inductive Runs : List Char → List (List Char) → Prop where
  | none {gap : List Char} : IsGap gap → Runs gap []
  | next {gap run rest : List Char} {runs : List (List Char)} : IsGap gap → IsRun run →
      (∀ c ∈ rest.head?, c.isAlphanum = false) → Runs rest runs →
      Runs (gap ++ run ++ rest) (run :: runs)

private theorem isGap_cons {c : Char} {cs : List Char} (hc : c.isAlphanum = false) (h : IsGap cs) :
    IsGap (c :: cs) :=
  List.forall_mem_cons.2 ⟨hc, h⟩

private theorem isRun_cons {c : Char} {cs : List Char} (hc : c.isAlphanum = true)
    (h : ∀ c ∈ cs, c.isAlphanum = true) : IsRun (c :: cs) :=
  ⟨List.cons_ne_nil c cs, List.forall_mem_cons.2 ⟨hc, h⟩⟩

/-- Every text has maximal runs. -/
theorem exists_runs (cs : List Char) : ∃ runs, Runs cs runs := by
  induction cs with
  | nil => exact ⟨[], .none (List.forall_mem_nil _)⟩
  | cons c cs ih =>
    obtain ⟨runs, hruns⟩ := ih
    cases hc : c.isAlphanum with
    | false =>
      cases hruns with
      | none hgap => exact ⟨[], .none (isGap_cons hc hgap)⟩
      | next hgap hrun hrest h => exact ⟨_, .next (isGap_cons hc hgap) hrun hrest h⟩
    | true =>
      have hfirst : IsRun [c] := isRun_cons hc (List.forall_mem_nil _)
      have hbefore : IsGap [] := List.forall_mem_nil _
      cases hruns with
      | none hgap =>
        have hhead : ∀ d ∈ cs.head?, d.isAlphanum = false :=
          fun d hd => hgap d (List.mem_of_head? hd)
        exact ⟨_, .next hbefore hfirst hhead (.none hgap)⟩
      | @next gap run rest runs hgap hrun hrest h =>
        cases gap with
        | nil => exact ⟨_, .next hbefore (isRun_cons hc hrun.2) hrest h⟩
        | cons d gap =>
          have hhead : ∀ e ∈ (d :: gap ++ run ++ rest).head?, e.isAlphanum = false := by
            rintro e ⟨⟩
            exact hgap d List.mem_cons_self
          exact ⟨_, .next hbefore hfirst hhead (.next hgap hrun hrest h)⟩

theorem words_append_cons {c : Char} (hc : c.isAlphanum = false) (xs ys : List Char) :
    words (xs ++ c :: ys) = words xs ++ words ys := by
  rw [words, List.splitOnP_append_cons xs ys (by simpa using hc), List.filter_append]
  rfl

private theorem IsGap.words_append {gap : List Char} (h : IsGap gap) (cs : List Char) :
    words (gap ++ cs) = words cs := by
  induction gap with
  | nil => rfl
  | cons c gap ih =>
    obtain ⟨hc, hgap⟩ : c.isAlphanum = false ∧ IsGap gap := List.forall_mem_cons.1 h
    calc words (c :: (gap ++ cs)) = words [] ++ words (gap ++ cs) := words_append_cons hc [] _
      _ = words cs := ih hgap

private theorem IsGap.words_between {gap : List Char} (h : IsGap gap) (hne : gap ≠ [])
    (xs ys : List Char) : words (xs ++ gap ++ ys) = words xs ++ words ys := by
  obtain ⟨c, gap, rfl⟩ := List.exists_cons_of_ne_nil hne
  obtain ⟨hc, hgap⟩ : c.isAlphanum = false ∧ IsGap gap := List.forall_mem_cons.1 h
  rw [List.append_assoc, List.cons_append, words_append_cons hc, hgap.words_append]

private theorem IsGap.append_words {gap : List Char} (h : IsGap gap) (cs : List Char) :
    words (cs ++ gap) = words cs := by
  by_cases hne : gap = []
  · rw [hne, List.append_nil]
  · have hbetween := h.words_between hne cs []
    rw [List.append_nil] at hbetween
    rw [hbetween]
    exact List.append_nil _

private theorem IsRun.words_append {run rest : List Char} (h : IsRun run)
    (hrest : ∀ c ∈ rest.head?, c.isAlphanum = false) : words (run ++ rest) = run :: words rest := by
  have hrun : words run = [run] := by
    rw [words, List.splitOnP_eq_singleton fun c hc => by simp [h.2 c hc]]
    simp [h.1]
  cases rest with
  | nil => rw [List.append_nil, hrun]; rfl
  | cons c rest =>
    have hc : c.isAlphanum = false := hrest c rfl
    rw [words_append_cons hc, hrun]
    exact congrArg (run :: ·) (IsGap.words_append (isGap_cons hc (List.forall_mem_nil _)) rest).symm

private theorem Runs.words_eq {cs : List Char} {runs : List (List Char)} (h : Runs cs runs) :
    words cs = runs := by
  induction h with
  | @none gap hgap =>
    rw [← List.append_nil gap, hgap.words_append]
    rfl
  | next hgap hrun hrest _ ih =>
    rw [List.append_assoc, hgap.words_append, hrun.words_append hrest, ih]

private theorem runs_iff {cs : List Char} {runs : List (List Char)} :
    Runs cs runs ↔ words cs = runs := by
  constructor
  · exact Runs.words_eq
  · rintro rfl
    obtain ⟨runs, h⟩ := exists_runs cs
    rwa [h.words_eq]

/-- What stands for a character of a name: letters and digits in lower case, a blank for others. -/
def maskChar (c : Char) : Char :=
  if c.isAlphanum then c.toLower else ' '

/-- The text without the blanks at both ends. -/
def trimmed (cs : List Char) : List Char :=
  (cs.dropWhile isBlank).rdropWhile isBlank

/-- The words between the blanks. -/
def blankWords (cs : List Char) : List (List Char) :=
  (cs.splitOn ' ').filter (· ≠ [])

private theorem isGap_of_isBlank {cs : List Char} (h : ∀ c ∈ cs, isBlank c = true) : IsGap cs := by
  intro c hc
  by_contra halnum
  have hblank : isBlank c = false :=
    of_isAlphanum (P := fun c => isBlank c = false) (by decide) (by simpa using halnum)
  rw [h c hc] at hblank
  cases hblank

private theorem words_trimmed (cs : List Char) : words (trimmed cs) = words cs := by
  have hfront : IsGap (cs.takeWhile isBlank) :=
    isGap_of_isBlank fun c hc => List.mem_takeWhile_imp hc
  have hrear : IsGap ((cs.dropWhile isBlank).rtakeWhile isBlank) :=
    isGap_of_isBlank fun c hc => List.mem_rtakeWhile_imp hc
  calc words (trimmed cs)
      = words (trimmed cs ++ (cs.dropWhile isBlank).rtakeWhile isBlank) :=
        (hrear.append_words _).symm
    _ = words (cs.dropWhile isBlank) := by rw [trimmed, List.rdropWhile_append_rtakeWhile]
    _ = words (cs.takeWhile isBlank ++ cs.dropWhile isBlank) := (hfront.words_append _).symm
    _ = words cs := by rw [List.takeWhile_append_dropWhile]

/-- Where there are no other separators, the words are those between the blanks. -/
theorem blankWords_eq {cs : List Char} (h : ∀ c ∈ cs, c = ' ' ∨ c.isAlphanum = true) :
    blankWords cs = words cs := by
  have hsplit : cs.splitOn ' ' = cs.splitOnP (!·.isAlphanum) := by
    induction cs with
    | nil => rfl
    | cons c cs ih =>
      obtain ⟨hc, hcs⟩ := List.forall_mem_cons.1 h
      have htest : (c == ' ') = !c.isAlphanum := by
        rcases hc with rfl | hc
        · rfl
        · have hne : c ≠ ' ' := by
            rintro rfl
            exact absurd hc (by decide)
          rw [hc, beq_eq_false_iff_ne.2 hne]
          rfl
      rw [List.splitOn_cons_eq_if_modifyHead, List.splitOnP_cons_eq_if_modifyHead, ih hcs, htest]
  rw [blankWords, words, hsplit]

private theorem isGap_mask {gap : List Char} (h : IsGap gap) : IsGap (gap.map maskChar) := by
  intro c hc
  obtain ⟨d, hd, rfl⟩ := List.mem_map.1 hc
  rw [maskChar, if_neg (by simp [h d hd])]
  rfl

private theorem map_maskChar {run : List Char} (h : ∀ c ∈ run, c.isAlphanum = true) :
    run.map maskChar = run.map Char.toLower :=
  List.map_congr_left fun c hc => if_pos (h c hc)

private theorem Runs.mask {cs : List Char} {runs : List (List Char)} (h : Runs cs runs) :
    Runs (cs.map maskChar) (runs.map (List.map Char.toLower)) := by
  induction h with
  | none hgap => exact .none (isGap_mask hgap)
  | @next gap run rest runs hgap hrun hrest _ ih =>
    have hlower : IsRun (run.map Char.toLower) := by
      refine ⟨by simpa using hrun.1, fun c hc => ?_⟩
      obtain ⟨d, hd, rfl⟩ := List.mem_map.1 hc
      exact isAlphanum_toLower (hrun.2 d hd)
    have hhead : ∀ c ∈ (rest.map maskChar).head?, c.isAlphanum = false := by
      intro c hc
      rw [List.head?_map] at hc
      obtain ⟨d, hd, rfl⟩ := Option.map_eq_some_iff.1 hc
      exact isGap_mask (List.forall_mem_singleton.2 (hrest d hd)) _ (List.mem_singleton_self _)
    rw [List.map_append, List.map_append, map_maskChar hrun.2, List.map_cons]
    exact .next (isGap_mask hgap) hlower hhead ih

/-- A run with its first character in upper case and the others in lower case. -/
def capitalized (run : List Char) : List Char :=
  (run.take 1).map Char.toUpper ++ (run.drop 1).map Char.toLower

private theorem toLower_toLower {c : Char} (h : c.isAlphanum = true) :
    c.toLower.toLower = c.toLower :=
  of_isAlphanum (P := fun c => c.toLower.toLower = c.toLower) (by decide) h

private theorem toUpper_toLower {c : Char} (h : c.isAlphanum = true) :
    c.toLower.toUpper = c.toUpper :=
  of_isAlphanum (P := fun c => c.toLower.toUpper = c.toUpper) (by decide) h

private theorem toLower_toUpper {c : Char} (h : c.isAlphanum = true) :
    c.toUpper.toLower = c.toLower :=
  of_isAlphanum (P := fun c => c.toUpper.toLower = c.toLower) (by decide) h

private theorem map_toLower_toLower {run : List Char} (h : ∀ c ∈ run, c.isAlphanum = true) :
    (run.map Char.toLower).map Char.toLower = run.map Char.toLower := by
  rw [List.map_map]
  exact List.map_congr_left fun c hc => toLower_toLower (h c hc)

private theorem capitalizeWord_lower {run : List Char} (h : ∀ c ∈ run, c.isAlphanum = true) :
    capitalizeWord (run.map Char.toLower) = capitalized run := by
  cases run with
  | nil => rfl
  | cons c run => exact congrArg (· :: _) (toUpper_toLower (h c List.mem_cons_self))

private theorem map_toLower_capitalized {run : List Char} (h : ∀ c ∈ run, c.isAlphanum = true) :
    (capitalized run).map Char.toLower = run.map Char.toLower := by
  cases run with
  | nil => rfl
  | cons c run =>
    obtain ⟨hc, hrun⟩ := List.forall_mem_cons.1 h
    calc (capitalized (c :: run)).map Char.toLower
        = c.toUpper.toLower :: (run.map Char.toLower).map Char.toLower := rfl
      _ = (c :: run).map Char.toLower := by
        rw [toLower_toUpper hc, map_toLower_toLower hrun, List.map_cons]

private theorem camelWords_eq {runs : List (List Char)}
    (h : ∀ run ∈ runs, ∀ c ∈ run, c.isAlphanum = true) :
    camelWords runs =
      (runs.take 1).flatMap (List.map Char.toLower) ++ (runs.drop 1).flatMap capitalized := by
  cases runs with
  | nil => rfl
  | cons run runs =>
    have hcapital : runs.map (fun w => capitalizeWord (w.map Char.toLower)) =
        runs.map capitalized :=
      List.map_congr_left fun w hw => capitalizeWord_lower (h w (List.mem_cons_of_mem run hw))
    rw [camelWords, hcapital, ← List.flatMap_def]
    exact congrArg (· ++ _) (List.append_nil _).symm

private theorem camelWords_lower {runs : List (List Char)}
    (h : ∀ run ∈ runs, ∀ c ∈ run, c.isAlphanum = true) :
    camelWords (runs.map (List.map Char.toLower)) = camelWords runs := by
  cases runs with
  | nil => rfl
  | cons run runs =>
    obtain ⟨hrun, hruns⟩ := List.forall_mem_cons.1 h
    have hothers : (runs.map (List.map Char.toLower)).map
        (fun w => capitalizeWord (w.map Char.toLower)) =
        runs.map fun w => capitalizeWord (w.map Char.toLower) := by
      rw [List.map_map]
      refine List.map_congr_left fun w hw => congrArg capitalizeWord ?_
      exact map_toLower_toLower (hruns w hw)
    rw [List.map_cons, camelWords, camelWords, hothers, map_toLower_toLower hrun]

private theorem isAlphanum_maskChar (c : Char) :
    maskChar c = ' ' ∨ (maskChar c).isAlphanum = true := by
  rw [maskChar]
  split
  · next hc => exact Or.inr (isAlphanum_toLower hc)
  · exact Or.inl rfl

/-- The steps from a name to its camel case: all but letters and digits is masked by blanks, those
at the ends are dropped, and the words between the others are joined. -/
theorem camelCase_eq_masked (name : String) :
    (camelCase name).toList = camelWords (blankWords (trimmed (name.toList.map maskChar))) := by
  have hmasked : ∀ c ∈ trimmed (name.toList.map maskChar), c = ' ' ∨ c.isAlphanum = true := by
    intro c hc
    have hmem := (List.dropWhile_suffix _).subset ((List.rdropWhile_prefix _ _).subset hc)
    obtain ⟨d, -, rfl⟩ := List.mem_map.1 hmem
    exact isAlphanum_maskChar d
  have hruns : Runs name.toList (words name.toList) := runs_iff.2 rfl
  rw [blankWords_eq hmasked, words_trimmed, hruns.mask.words_eq,
    camelWords_lower fun run hrun => isAlphanum_of_mem_words hrun, camelCase, String.toList_ofList]

private theorem map_toLower_camelCase (name : String) :
    (camelCase name).toList.map Char.toLower = (compactName name).toList.map Char.toLower := by
  have hchars : ∀ run ∈ words name.toList, ∀ c ∈ run, c.isAlphanum = true :=
    fun run hrun => isAlphanum_of_mem_words hrun
  rw [camelCase, compactName, String.toList_ofList, String.toList_ofList, ← flatten_words,
    camelWords_eq hchars]
  cases hwords : words name.toList with
  | nil => rfl
  | cons run runs =>
    rw [hwords, List.forall_mem_cons] at hchars
    have hothers : runs.flatMap (fun w => (capitalized w).map Char.toLower) =
        runs.flatMap (List.map Char.toLower) := by
      rw [List.flatMap_def, List.flatMap_def]
      exact congrArg List.flatten
        (List.map_congr_left fun w hw => map_toLower_capitalized (hchars.2 w hw))
    calc ((run.map Char.toLower ++ []) ++ runs.flatMap capitalized).map Char.toLower
        = run.map Char.toLower ++ runs.flatMap (List.map Char.toLower) := by
          rw [List.append_nil, List.map_append, map_toLower_toLower hchars.1, List.map_flatMap,
            hothers]
      _ = (run :: runs).flatten.map Char.toLower := by
          rw [List.flatten_cons, List.map_append, List.map_flatten, List.flatMap_def]

private theorem lowerFrom_ascii {cs : List Char} (h : ∀ c ∈ cs, c.toNat < 128)
    (before : List Char) :
    lowerFrom before cs = cs.map Char.toLower := by
  induction cs generalizing before with
  | nil => rfl
  | cons c cs ih =>
    obtain ⟨hc, hcs⟩ := List.forall_mem_cons.1 h
    have hsigma : c ≠ 'Σ' := by
      rintro rfl
      exact absurd hc (by decide)
    rw [lowerFrom, if_neg hsigma, lowerChar, if_pos hc, ih hcs, List.map_cons]
    rfl

private theorem lowercase_ascii {s : String} (h : ∀ c ∈ s.toList, c.isAlphanum = true) :
    lowercase s = String.ofList (s.toList.map Char.toLower) := by
  rw [lowercase, lowerFrom_ascii fun c hc => toNat_lt_of_isAlphanum (h c hc)]

/-- A name in camel case is the maximal runs of ASCII letters and digits in it: the first in lower
case, every other one with a capital in front. So it is what masking all else by blanks and joining
the words between them gives; it is empty when there are no runs; it does not change when something
else separates two of them or when separators are put in front or behind; and up to case it is the
name without its separators. -/
theorem camelCase_runs (name : String) :
    (∃ runs, (∀ other, Runs name.toList other ↔ other = runs) ∧ (camelCase name).toList =
      (runs.take 1).flatMap (List.map Char.toLower) ++ (runs.drop 1).flatMap capitalized) ∧
    (camelCase name).toList = camelWords (blankWords (trimmed (name.toList.map maskChar))) ∧
    (camelCase name = "" ↔ IsGap name.toList) ∧
    (∀ before gap other after, name = before ++ gap ++ after →
      IsGap gap.toList → gap ≠ "" → IsGap other.toList → other ≠ "" →
      camelCase (before ++ other ++ after) = camelCase name) ∧
    (∀ gap, IsGap gap.toList →
      camelCase (gap ++ name) = camelCase name ∧ camelCase (name ++ gap) = camelCase name) ∧
    lowercase (camelCase name) = lowercase (compactName name) := by
  refine ⟨⟨words name.toList, ?unique, ?joined⟩, camelCase_eq_masked name, ?empty, ?between, ?ends,
    ?lower⟩
  case unique =>
    intro other
    rw [runs_iff, eq_comm]
  case joined =>
    rw [camelCase, String.toList_ofList, camelWords_eq fun run hrun => isAlphanum_of_mem_words hrun]
  case empty =>
    rw [camelCase_eq_empty_iff, List.find?_eq_none]
    exact forall₂_congr fun c _ => iff_of_eq (Bool.not_eq_true _)
  case between =>
    rintro before gap other after rfl hgap hne hother hotherne
    have hwords {gap : String} (hgap : IsGap gap.toList) (hne : gap ≠ "") :
        words (before ++ gap ++ after).toList = words before.toList ++ words after.toList := by
      rw [String.toList_append, String.toList_append]
      exact hgap.words_between (mt String.toList_eq_nil_iff.1 hne) _ _
    rw [camelCase, camelCase, hwords hgap hne, hwords hother hotherne]
  case ends =>
    intro gap hgap
    simp only [camelCase, String.toList_append, hgap.words_append, hgap.append_words, and_self]
  case lower =>
    rw [lowercase_ascii (isAlphanum_of_mem_camelCase name),
      lowercase_ascii (isAlphanum_of_mem_compactName name), map_toLower_camelCase]

example : camelCase "/Icon-24 é PX" = "icon24Px" := by decide

end Mockup.Text
