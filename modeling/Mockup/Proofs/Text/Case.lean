import Mockup.Proofs.Text.Lines
import Mockup.Text.Case

/-!
# Letter case

What a change of case keeps of the characters of a text. A class of characters to which no case
mapping leads, such as that of the blanks, is not entered by a change of case.
-/

namespace Mockup.Text

structure KeptByCase (P : Char → Prop) : Prop where
  lower : ∀ c, P c → ∀ d ∈ lowerChar c, P d
  upper : ∀ c, P c → ∀ d ∈ upperChar c, P d
  sigma : P 'Σ' → P 'σ' ∧ P 'ς'

theorem KeptByCase.and {P Q : Char → Prop} (hP : KeptByCase P) (hQ : KeptByCase Q) :
    KeptByCase fun c => P c ∧ Q c where
  lower c hc d hd := ⟨hP.lower c hc.1 d hd, hQ.lower c hc.2 d hd⟩
  upper c hc d hd := ⟨hP.upper c hc.1 d hd, hQ.upper c hc.2 d hd⟩
  sigma h := ⟨⟨(hP.sigma h.1).1, (hQ.sigma h.2).1⟩, (hP.sigma h.1).2, (hQ.sigma h.2).2⟩

theorem inRanges_eq_false_iff {ranges : List CodeRange} {c : Char} : inRanges ranges c = false ↔
    ∀ range ∈ ranges, c.toNat < range.first ∨ range.last < c.toNat := by
  rw [inRanges, List.any_eq_false]
  refine forall₂_congr fun range _ => ?_
  rw [CodeRange.holds, Bool.and_eq_true, decide_eq_true_eq, decide_eq_true_eq]
  omega

theorem inRanges_ofNat {ranges : List CodeRange} (hzero : inRanges ranges (Char.ofNat 0) = false)
    {code : Nat} (h : ∀ range ∈ ranges, code < range.first ∨ range.last < code) :
    inRanges ranges (Char.ofNat code) = false := by
  by_cases hvalid : code.isValidChar
  · have htoNat : (Char.ofNat code).toNat = code := by
      rw [Char.ofNat, dif_pos hvalid]
      rfl
    rw [inRanges_eq_false_iff, htoNat]
    exact h
  · have hinvalid : Char.ofNat code = Char.ofNat 0 := by
      rw [Char.ofNat, dif_neg hvalid]
      rfl
    rw [hinvalid]
    exact hzero

/-- Whether a case mapping leads into none of the ranges. -/
def leadsOutside (ranges : List CodeRange) (expansions : List (Nat × List Nat))
    (runs : List CaseRun) : Bool :=
  expansions.all (·.2.all fun code => !inRanges ranges (Char.ofNat code)) &&
    runs.all fun run => ranges.all fun range =>
      run.last + run.shift < range.first || range.last < run.first + run.shift

/-- Where the runs of a case mapping lead. -/
theorem outside_of_image {ranges : List CodeRange} (hzero : inRanges ranges (Char.ofNat 0) = false)
    {run : CaseRun} (h : ∀ range ∈ ranges,
      run.last + run.shift < range.first ∨ range.last < run.first + run.shift)
    {code image : Nat} (himage : run.image? code = some image) :
    inRanges ranges (Char.ofNat image) = false := by
  rw [CaseRun.image?] at himage
  split at himage
  · next hin =>
    cases himage
    refine inRanges_ofNat hzero fun range hrange => ?_
    have houtside := h range hrange
    have hfirst := inRanges_eq_false_iff.1 hzero range hrange
    have hnull : (Char.ofNat 0).toNat = 0 := rfl
    omega
  · cases himage

theorem outside_mapCase {ranges : List CodeRange} {expansions : List (Nat × List Nat)}
    {runs : List CaseRun} (hzero : inRanges ranges (Char.ofNat 0) = false)
    (h : leadsOutside ranges expansions runs = true) {c : Char} (hc : inRanges ranges c = false) :
    ∀ d ∈ mapCase expansions runs c, inRanges ranges d = false := by
  rw [leadsOutside, Bool.and_eq_true, List.all_eq_true, List.all_eq_true] at h
  obtain ⟨hexpansions, hruns⟩ := h
  rw [mapCase]
  split
  · next codes hcodes =>
    obtain ⟨front, rear, hsplit, -⟩ := List.lookup_eq_some_iff.1 hcodes
    have houtside := List.all_eq_true.1 (hexpansions (c.toNat, codes) (by simp [hsplit]))
    intro d hd
    obtain ⟨code, hcode, rfl⟩ := List.mem_map.1 hd
    simpa using houtside code hcode
  · intro d hd
    rw [List.mem_singleton.1 hd]
    cases himage : runs.findSome? (·.image? c.toNat) with
    | none => exact hc
    | some image =>
      obtain ⟨run, hrun, hfound⟩ := List.exists_of_findSome?_eq_some himage
      refine outside_of_image hzero (fun range hrange => ?_) hfound
      simpa using List.all_eq_true.1 (hruns run hrun) range hrange

/-- Whether no change of case leads into the ranges from outside. -/
def isApartFromCase (ranges : List CodeRange) : Bool :=
  !inRanges ranges (Char.ofNat 0) && !inRanges ranges 'σ' && !inRanges ranges 'ς' &&
    leadsOutside ranges lowerExpansions lowerRuns &&
    leadsOutside ranges upperExpansions upperRuns &&
    (List.range 128).all fun n => inRanges ranges (Char.ofNat n) ||
      !inRanges ranges (Char.ofNat n).toLower && !inRanges ranges (Char.ofNat n).toUpper

theorem keptByCase_outside {ranges : List CodeRange} (h : isApartFromCase ranges = true) :
    KeptByCase fun c => inRanges ranges c = false := by
  simp only [isApartFromCase, Bool.and_eq_true, Bool.not_eq_true', List.all_eq_true] at h
  obtain ⟨⟨⟨⟨⟨hzero, hsigma⟩, hfinal⟩, hlower⟩, hupper⟩, hascii⟩ := h
  have hboth (c : Char) (hc : inRanges ranges c = false) (hn : c.toNat < 128) :
      inRanges ranges c.toLower = false ∧ inRanges ranges c.toUpper = false := by
    have hcase := hascii c.toNat (List.mem_range.2 hn)
    rw [Char.ofNat_toNat, hc] at hcase
    simpa using hcase
  refine ⟨fun c hc => ?_, fun c hc => ?_, fun _ => ⟨hsigma, hfinal⟩⟩
  · rw [lowerChar]
    split
    · next hn => exact List.forall_mem_singleton.2 (hboth c hc hn).1
    · exact outside_mapCase hzero hlower hc
  · rw [upperChar]
    split
    · next hn => exact List.forall_mem_singleton.2 (hboth c hc hn).2
    · exact outside_mapCase hzero hupper hc

theorem keptByCase_not_isBlank : KeptByCase fun c => isBlank c = false :=
  keptByCase_outside (by decide +kernel)

theorem keptByCase_ne {d : Char} (h : isApartFromCase [⟨d.toNat, d.toNat⟩] = true) :
    KeptByCase fun c => c ≠ d := by
  have hne (c : Char) : inRanges [⟨d.toNat, d.toNat⟩] c = false ↔ c ≠ d := by
    rw [inRanges_eq_false_iff, List.forall_mem_singleton, Ne, ← Char.toNat_inj]
    dsimp only
    omega
  simpa only [hne] using keptByCase_outside h

theorem oneLine_singleton {c : Char} : OneLine [c] ↔ c ≠ '\n' ∧ c ≠ '\r' := by
  simp only [OneLine, List.mem_singleton, ne_comm (b := c)]

theorem oneLine_iff_forall {cs : List Char} : OneLine cs ↔ ∀ c ∈ cs, OneLine [c] := by
  simp only [oneLine_singleton]
  constructor
  · rintro ⟨hfeed, hreturn⟩ c hc
    exact ⟨ne_of_mem_of_not_mem hc hfeed, ne_of_mem_of_not_mem hc hreturn⟩
  · intro h
    exact ⟨fun hfeed => (h _ hfeed).1 rfl, fun hreturn => (h _ hreturn).2 rfl⟩

theorem keptByCase_oneLine : KeptByCase fun c => OneLine [c] := by
  simp only [oneLine_singleton]
  exact (keptByCase_ne (by decide +kernel)).and (keptByCase_ne (by decide +kernel))

theorem keptByCase_ascii {p : Char → Bool} (hascii : ∀ c, p c = true → c.toNat < 128)
    (h : (List.range 128).all (fun n => !p (Char.ofNat n) ||
      (p (Char.ofNat n).toLower && p (Char.ofNat n).toUpper)) = true) :
    KeptByCase fun c => p c = true := by
  have hboth (c : Char) (hc : p c = true) : p c.toLower = true ∧ p c.toUpper = true := by
    have hn := List.all_eq_true.1 h c.toNat (List.mem_range.2 (hascii c hc))
    rw [Char.ofNat_toNat, hc] at hn
    simpa using hn
  refine ⟨fun c hc d hd => ?_, fun c hc d hd => ?_, fun hc => ?_⟩
  · rw [lowerChar, if_pos (hascii c hc), List.mem_singleton] at hd
    rw [hd]
    exact (hboth c hc).1
  · rw [upperChar, if_pos (hascii c hc), List.mem_singleton] at hd
    rw [hd]
    exact (hboth c hc).2
  · exact absurd (hascii _ hc) (by decide)

section

variable {P : Char → Prop} (hP : KeptByCase P) {cs : List Char} (h : ∀ c ∈ cs, P c)

include hP h

theorem KeptByCase.lowerFrom (before : List Char) : ∀ c ∈ lowerFrom before cs, P c := by
  induction cs generalizing before with
  | nil => exact List.forall_mem_nil _
  | cons c cs ih =>
    have hc := h c List.mem_cons_self
    intro d hd
    rw [Text.lowerFrom, List.mem_append] at hd
    rcases hd with hd | hd
    · split at hd
      · next hsigma =>
        rw [hsigma] at hc
        rw [List.mem_singleton.1 hd]
        split
        · exact (hP.sigma hc).2
        · exact (hP.sigma hc).1
      · exact hP.lower c hc d hd
    · exact ih (fun e he => h e (List.mem_cons_of_mem c he)) _ d hd

theorem KeptByCase.capitalize : ∀ c ∈ capitalize cs, P c := by
  cases cs with
  | nil => exact List.forall_mem_nil _
  | cons c cs =>
    intro d hd
    rcases List.mem_append.1 hd with hd | hd
    · exact hP.upper c (h c List.mem_cons_self) d hd
    · exact h d (List.mem_cons_of_mem c hd)

theorem KeptByCase.decapitalize : ∀ c ∈ decapitalize cs, P c := by
  cases cs with
  | nil => exact List.forall_mem_nil _
  | cons c cs =>
    intro d hd
    rcases List.mem_append.1 hd with hd | hd
    · exact hP.lower c (h c List.mem_cons_self) d hd
    · exact h d (List.mem_cons_of_mem c hd)

end

end Mockup.Text
