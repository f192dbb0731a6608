import Mathlib.Data.List.TakeDrop
import Mockup.Proofs.Text.Case
import Mockup.Style.Token

/-!
# Characters of token names

The token of a name has the characters of the name, up to their case, without those that tokens
leave out.
-/

namespace Mockup.Style

open Text (KeptByCase OneLine isBlank)

section

variable {P : Char → Prop} (hP : KeptByCase P)

include hP

private theorem forall_typographySegment {segment : List Char}
    (h : ∀ c ∈ segment, isBlank c = false → P c) (isFirst : Bool) :
    ∀ c ∈ typographySegment isFirst segment, P c := by
  have hcompact : ∀ c ∈ segment.filter (!isBlank ·), P c := by
    intro c hc
    obtain ⟨hmem, hblank⟩ := List.mem_filter.1 hc
    exact h c hmem (by simpa using hblank)
  rw [typographySegment]
  split
  · exact hP.lowerFrom hcompact []
  · exact hP.capitalize hcompact

theorem forall_typographyName {name : String}
    (h : ∀ c ∈ name.toList, isBlank c = false → c ≠ '/' → P c) :
    ∀ c ∈ (typographyName name).toList, P c := by
  have hsegments : ∀ segment ∈ name.toList.splitOn '/', ∀ c ∈ segment, isBlank c = false → P c := by
    intro segment hsegment c hc hblank
    obtain ⟨hmem, hslash⟩ := Text.mem_of_mem_splitOnP hsegment hc
    exact h c hmem hblank (by simpa using hslash)
  rw [typographyName]
  split
  · exact List.forall_mem_nil _
  · next first others hsplit =>
    rw [hsplit] at hsegments
    rw [String.toList_ofList]
    intro c hc
    rcases List.mem_append.1 hc with hc | hc
    · exact forall_typographySegment hP (hsegments first List.mem_cons_self) true c hc
    · obtain ⟨segment, hsegment, hc⟩ := List.mem_flatMap.1 hc
      exact forall_typographySegment hP (hsegments segment (List.mem_cons_of_mem _ hsegment)) false
        c hc

private theorem forall_joinWords {cs : List Char} (h : ∀ c ∈ cs, isWordBreak c = false → P c)
    (afterBreak : Bool) : ∀ c ∈ joinWords afterBreak cs, P c := by
  induction cs generalizing afterBreak with
  | nil => exact List.forall_mem_nil _
  | cons c cs ih =>
    have hrest := ih fun d hd => h d (List.mem_cons_of_mem c hd)
    rw [joinWords]
    split
    · exact hrest true
    · next hbreak =>
      have hc := h c List.mem_cons_self (by simpa using hbreak)
      intro d hd
      rcases List.mem_append.1 hd with hd | hd
      · split at hd
        · exact hP.upper c hc d hd
        · rw [List.mem_singleton.1 hd]
          exact hc
      · exact hrest false d hd

end

private theorem spanDigits?_subset {cs digits rest : List Char}
    (h : spanDigits? cs = some (digits, rest)) :
    digits ⊆ cs ∧ rest ⊆ cs := by
  rw [spanDigits?, List.span_eq_takeWhile_dropWhile] at h
  split at h
  · cases h
  · cases h
    exact ⟨(List.takeWhile_prefix _).subset, (List.dropWhile_suffix _).subset⟩

private theorem pairInParens?_subset {cs digits rest : List Char}
    (h : pairInParens? cs = some (digits, rest)) : digits ⊆ cs ∧ rest ⊆ cs := by
  rw [pairInParens?] at h
  split at h
  · next first behind hfirst =>
    obtain ⟨hfirst, hbehind⟩ := spanDigits?_subset hfirst
    have hbehind := List.Subset.trans (List.subset_cons_self ',' behind) hbehind
    split at h
    · next second rear hsecond =>
      cases h
      obtain ⟨hsecond, hrear⟩ := spanDigits?_subset hsecond
      have hrear := List.Subset.trans (List.subset_cons_self ')' rest) hrear
      exact ⟨List.append_subset.2 ⟨hfirst, List.Subset.trans hsecond hbehind⟩,
        List.Subset.trans hrear hbehind⟩
    · cases h
  · cases h

private theorem numberInParens?_subset {cs digits rest : List Char}
    (h : numberInParens? cs = some (digits, rest)) : digits ⊆ cs ∧ rest ⊆ cs := by
  rw [numberInParens?] at h
  split at h
  · next hdigits =>
    cases h
    obtain ⟨hdigits, hbehind⟩ := spanDigits?_subset hdigits
    exact ⟨hdigits, List.Subset.trans (List.subset_cons_self ')' rest) hbehind⟩
  · cases h

theorem unwrap_subset {found? : List Char → Option (List Char × List Char)}
    (hfound : ∀ cs digits rest, found? cs = some (digits, rest) → digits ⊆ cs ∧ rest ⊆ cs)
    (fuel : Nat) (cs : List Char) : unwrap found? fuel cs ⊆ cs := by
  induction fuel generalizing cs with
  | zero => exact List.Subset.refl cs
  | succ fuel ih =>
    cases cs with
    | nil => exact List.Subset.refl []
    | cons c cs =>
      rw [unwrap]
      split
      · next digits rest hmatch =>
        split at hmatch
        · obtain ⟨hdigits, hrest⟩ := hfound _ _ _ hmatch
          have hbehind := List.subset_cons_self c cs
          refine List.append_subset.2 ⟨List.Subset.trans hdigits hbehind, ?_⟩
          exact List.Subset.trans (ih rest) (List.Subset.trans hrest hbehind)
        · cases hmatch
      · exact List.cons_subset_cons c (ih cs)

/-- In the token of a style, points stand for blanks, hyphens and slashes. -/
theorem forall_styleToken {P : Char → Prop} (hpoint : P '.') {name family : String}
    (hfamily : ∀ c ∈ (family ++ ".token.").toList, P c)
    (h : ∀ c ∈ Text.lowerFrom [] name.toList, isBlank c = false → c ≠ '-' → c ≠ '/' → P c) :
    ∀ c ∈ (styleToken name family).toList, P c := by
  rw [styleToken, String.toList_append, String.toList_ofList, Text.lowercase, String.toList_ofList]
  intro c hc
  rcases List.mem_append.1 hc with hc | hc
  · exact hfamily c hc
  · obtain ⟨d, hd, hc⟩ := List.mem_flatMap.1 hc
    rw [styleTokenChar] at hc
    split at hc
    · rw [List.mem_singleton.1 hc]
      exact hpoint
    · next hplain =>
      split at hc
      · cases hc
      · rw [List.mem_singleton.1 hc]
        simp only [Bool.or_eq_true, decide_eq_true_eq, not_or, Bool.not_eq_true] at hplain
        exact h d hd hplain.1.1 hplain.1.2 hplain.2

/-- Slashes and what separates words are left out of the names of colours. -/
theorem forall_variableToken {P : Char → Prop} (hP : KeptByCase P) {name : String}
    (h : ∀ c ∈ name.toList, isWordBreak c = false → c ≠ '/' → P c) :
    ∀ c ∈ (variableToken name).toList, P c := by
  have hlast : ∀ c ∈ lastSegment name.toList, isWordBreak c = false → P c := by
    intro c hc hbreak
    rw [lastSegment] at hc
    cases hsegment : (name.toList.splitOn '/').getLast? with
    | none =>
      rw [hsegment] at hc
      cases hc
    | some segment =>
      rw [hsegment] at hc
      obtain ⟨hmem, hslash⟩ := Text.mem_of_mem_splitOnP (List.mem_of_getLast? hsegment) hc
      exact h c hmem hbreak (by simpa using hslash)
  rw [variableToken, String.toList_ofList]
  refine hP.decapitalize fun c hc => ?_
  have hpair := unwrap_subset (fun _ _ _ => numberInParens?_subset) _ _ hc
  have hjoined := unwrap_subset (fun _ _ _ => pairInParens?_subset) _ _ hpair
  exact forall_joinWords hP hlast false c hjoined

private theorem oneLine_of_not_isBlank {c : Char} (h : isBlank c = false) : OneLine [c] := by
  rw [Text.oneLine_singleton]
  constructor
  · rintro rfl
    exact absurd h (by decide)
  · rintro rfl
    exact absurd h (by decide)

theorem oneLine_styleToken (name : String) {family : String}
    (hfamily : OneLine (family ++ ".token.").toList) : OneLine (styleToken name family).toList :=
  Text.oneLine_iff_forall.2 (forall_styleToken (by decide) (Text.oneLine_iff_forall.1 hfamily)
    fun _ _ hblank _ _ => oneLine_of_not_isBlank hblank)

theorem oneLine_typographyName (name : String) : OneLine (typographyName name).toList :=
  Text.oneLine_iff_forall.2 (forall_typographyName Text.keptByCase_oneLine
    fun _ _ hblank _ => oneLine_of_not_isBlank hblank)

theorem oneLine_variableToken (name : String) : OneLine (variableToken name).toList := by
  refine Text.oneLine_iff_forall.2 (forall_variableToken Text.keptByCase_oneLine ?_)
  intro c _ hbreak _
  rw [isWordBreak, Bool.or_eq_false_iff] at hbreak
  exact oneLine_of_not_isBlank hbreak.2

end Mockup.Style
