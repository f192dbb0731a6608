import Mockup.Proofs.Swift.Scan
import Mockup.Proofs.Text.Lines

/-!
# Brackets of source text

Which closing brackets a text awaits: every opening one awaits its partner, and a closing one must
be the one that is awaited first. Literals and comments do not count.
-/

namespace Mockup.Swift

/-- The closing bracket that an opening one awaits. -/
def partner? : Char → Option Char
  | '(' => some ')'
  | '[' => some ']'
  | '\x7b' => some '\x7d'
  | _ => none

def isClosing (c : Char) : Bool :=
  c ∈ [')', ']', '\x7d']

/-- The awaited brackets, the first one first, behind one more character of code. -/
def meet (awaited : List Char) (c : Char) : Option (List Char) :=
  match partner? c with
  | some closing => some (closing :: awaited)
  | none =>
    if isClosing c then (if awaited.head? = some c then some awaited.tail else none)
    else some awaited

def meetAll (awaited : List Char) (code : List Char) : Option (List Char) :=
  code.foldlM meet awaited

/-- A scan from code ends in code, and goes from one list of awaited brackets to another. -/
def Scans (before : List Char) (text : List Char) (after : List Char) : Prop :=
  modeAfter .code text = .code ∧ meetAll before (codeOf .code text) = some after

instance (before text after : List Char) : Decidable (Scans before text after) :=
  inferInstanceAs (Decidable (_ ∧ _))

/-- The text ends outside of literals and comments, and all brackets of its code come in pairs that
are properly nested. -/
def Balanced (text : String) : Prop :=
  Scans [] text.toList []

/-- A character that neither opens nor closes. -/
def isNeutral (c : Char) : Bool :=
  partner? c = none && !isClosing c

private theorem meet_neutral {c : Char} (h : isNeutral c = true) (awaited : List Char) :
    meet awaited c = some awaited := by
  simp only [isNeutral, Bool.and_eq_true, decide_eq_true_eq, Bool.not_eq_true'] at h
  rw [meet, h.1, h.2]
  rfl

theorem isNeutral_of_notMem {c : Char} (h : c ∉ ['(', '[', '\x7b', ')', ']', '\x7d']) :
    isNeutral c = true := by
  simp only [List.mem_cons, not_or, List.not_mem_nil, not_false_eq_true, and_true] at h
  obtain ⟨h1, h2, h3, h4, h5, h6⟩ := h
  have hpartner : partner? c = none := by
    rw [partner?.eq_def]
    split <;> simp_all
  simp [isNeutral, hpartner, isClosing, h4, h5, h6]

private theorem isNeutral_of_isBlank {c : Char} (h : Text.isBlank c = true) :
    isNeutral c = true := by
  refine isNeutral_of_notMem fun hc => ?_
  have hall : ['(', '[', '\x7b', ')', ']', '\x7d'].all (!Text.isBlank ·) = true := by decide
  have hvisible := List.all_eq_true.1 hall c hc
  rw [h] at hvisible
  cases hvisible

private theorem meetAll_append (awaited a b : List Char) :
    meetAll awaited (a ++ b) = (meetAll awaited a).bind (meetAll · b) :=
  List.foldlM_append

private theorem meetAll_neutral {cs : List Char} (h : ∀ c ∈ cs, isNeutral c = true)
    (awaited : List Char) : meetAll awaited cs = some awaited := by
  induction cs with
  | nil => rfl
  | cons c cs ih =>
    rw [meetAll, List.foldlM_cons, meet_neutral (h c List.mem_cons_self)]
    exact ih fun d hd => h d (List.mem_cons_of_mem c hd)

/-- Brackets that are awaited from further out do not matter. -/
theorem meet_outer {awaited after : List Char} {c : Char} (h : meet awaited c = some after)
    (outer : List Char) : meet (awaited ++ outer) c = some (after ++ outer) := by
  rw [meet.eq_def] at h ⊢
  cases hpartner : partner? c with
  | some closing =>
    rw [hpartner] at h
    cases h
    rfl
  | none =>
    rw [hpartner] at h
    dsimp only at h ⊢
    split at h
    · split at h
      · next hhead =>
        cases h
        obtain ⟨rest, rfl⟩ : ∃ rest, awaited = c :: rest := List.head?_eq_some_iff.1 hhead
        rw [if_pos ‹_›, List.cons_append, List.head?_cons, if_pos rfl]
        rfl
      · cases h
    · cases h
      rw [if_neg ‹_›]

private theorem meetAll_outer {awaited after cs : List Char} (h : meetAll awaited cs = some after)
    (outer : List Char) : meetAll (awaited ++ outer) cs = some (after ++ outer) := by
  induction cs generalizing awaited with
  | nil =>
    cases h
    rfl
  | cons c cs ih =>
    rw [meetAll, List.foldlM_cons] at h
    obtain ⟨between, hfirst, hrest⟩ := Option.bind_eq_some_iff.1 h
    rw [meetAll, List.foldlM_cons, meet_outer hfirst]
    exact ih hrest

private theorem flatten_chunks (cs : List Char) :
    (chunks cs).flatten = cs.filter (!Text.isBlank ·) := by
  rw [chunks, List.flatten_filter_ne_nil, Text.flatten_splitOnP]

theorem meetAll_chunks (awaited cs : List Char) :
    meetAll awaited (chunks cs).flatten = meetAll awaited cs := by
  rw [flatten_chunks]
  induction cs generalizing awaited with
  | nil => rfl
  | cons c cs ih =>
    rw [List.filter_cons]
    cases hc : Text.isBlank c with
    | true =>
      rw [if_neg (by simp), ih]
      nth_rewrite 2 [meetAll]
      rw [List.foldlM_cons, meet_neutral (isNeutral_of_isBlank hc)]
      rfl
    | false =>
      rw [if_pos (by simp), meetAll, meetAll, List.foldlM_cons, List.foldlM_cons]
      exact congrArg _ (funext ih)

section

variable {a b c text rest : List Char}

theorem Scans.append (h : Scans a text b) (hrest : Scans b rest c) : Scans a (text ++ rest) c := by
  constructor
  · rw [modeAfter_append, h.1, hrest.1]
  · rw [codeOf_append, meetAll_append, h.1, h.2]
    exact hrest.2

theorem Scans.outer (h : Scans a text b) (outer : List Char) :
    Scans (a ++ outer) text (b ++ outer) :=
  ⟨h.1, meetAll_outer h.2 outer⟩

theorem scans_plain (h : ∀ c ∈ text, c ≠ '"' ∧ c ≠ '/' ∧ isNeutral c = true) :
    Scans a text a := by
  obtain ⟨hmode, hcode⟩ := scan_plain fun c hc => ⟨(h c hc).1, (h c hc).2.1⟩
  refine ⟨hmode, ?_⟩
  rw [hcode]
  exact meetAll_neutral (fun c hc => (h c hc).2.2) a

theorem scans_quoted (s : String) : Scans a (Text.Quoted.encode s).toList a := by
  obtain ⟨hmode, hcode⟩ := scan_encodeChars s.toList
  rw [Text.Quoted.encode, String.toList_ofList]
  refine ⟨hmode, ?_⟩
  rw [hcode]
  exact meetAll_neutral (List.all_eq_true.1 (by decide)) a

/-- Indented lines have the brackets that they had before. -/
theorem Scans.indent {s : String} (h : Scans a (s.toList ++ ['\n']) b) (width : Nat) :
    Scans a ((Text.indent width s).toList ++ ['\n']) b := by
  obtain ⟨hmode, hchunks⟩ := sameFrom_indent (m := .code) rfl width s
  refine ⟨hmode.trans h.1, ?_⟩
  rw [← meetAll_chunks, hchunks, meetAll_chunks]
  exact h.2

end

private theorem scan_lineComment {cs : List Char} (h : Text.OneLine cs) :
    modeAfter .lineComment cs = .lineComment ∧ codeOf .lineComment cs = [] := by
  induction cs with
  | nil => exact ⟨rfl, rfl⟩
  | cons c cs ih =>
    obtain ⟨hc, hrest⟩ :=
      Text.oneLine_append.1 (List.singleton_append ▸ h : Text.OneLine ([c] ++ cs))
    have hfeed : c ≠ '\n' := fun hfeed => hc.1 (List.mem_singleton.2 hfeed.symm)
    have hreturn : c ≠ '\r' := fun hreturn => hc.2 (List.mem_singleton.2 hreturn.symm)
    have hnext : Mode.next .lineComment c = .lineComment := by
      simp [Mode.next, endsLine, hfeed, hreturn]
    have hkeeps : Mode.keeps .lineComment c = false := decide_eq_false hfeed
    obtain ⟨hmode, hcode⟩ := ih hrest
    constructor
    · rw [modeAfter, List.foldl_cons, hnext]
      exact hmode
    · rw [codeOf, hkeeps, hnext, hcode]
      rfl

theorem scans_lineComment {a cs : List Char} (h : Text.OneLine cs) :
    Scans a ('/' :: '/' :: cs ++ ['\n']) a := by
  obtain ⟨hmode, hcode⟩ := scan_lineComment h
  have hopen : modeAfter .code ['/', '/'] = .lineComment := rfl
  have hslash : codeOf .code ['/', '/'] = ['/'] := rfl
  have hsplit : '/' :: '/' :: cs ++ ['\n'] = ['/', '/'] ++ (cs ++ ['\n']) := rfl
  rw [hsplit]
  constructor
  · rw [modeAfter_append, hopen, modeAfter_append, hmode]
    rfl
  · rw [codeOf_append, hopen, hslash, codeOf_append, hmode, hcode]
    exact meetAll_neutral (List.all_eq_true.1 (by decide)) a

/-- The modes in a comment that no other comment encloses. -/
def Mode.inComment : Mode → Bool
  | blockComment 0 | blockSlash 0 | blockStar 0 => true
  | _ => false

private theorem Mode.eq_of_inComment {m : Mode} (h : m.inComment = true) :
    m = blockComment 0 ∨ m = blockSlash 0 ∨ m = blockStar 0 := by
  rw [inComment.eq_def] at h
  split at h
  · exact Or.inl rfl
  · exact Or.inr (Or.inl rfl)
  · exact Or.inr (Or.inr rfl)
  · cases h

theorem scan_blockComment {m : Mode} (hm : m.inComment = true) {cs : List Char}
    (hline : '\n' ∉ cs) (hopen : ¬ ['/', '*'] <:+: cs) (hclose : ¬ ['*', '/'] <:+: cs)
    (hslash : m = .blockSlash 0 → cs.head? ≠ some '*')
    (hstar : m = .blockStar 0 → cs.head? ≠ some '/') :
    (modeAfter m cs).inComment = true ∧ codeOf m cs = [] := by
  induction cs generalizing m with
  | nil => exact ⟨hm, rfl⟩
  | cons c cs ih =>
    have hfeed : c ≠ '\n' := fun hc => hline (hc ▸ List.mem_cons_self)
    have hkeeps : m.keeps c = false := by
      cases m with
      | code => cases hm
      | slash => cases hm
      | literal => cases hm
      | _ => exact decide_eq_false hfeed
    have hnext : (m.next c).inComment = true ∧ (m.next c = .blockSlash 0 → c = '/') ∧
        (m.next c = .blockStar 0 → c = '*') := by
      obtain rfl | rfl | rfl := Mode.eq_of_inComment hm
      · by_cases hc : c = '/'
        · simp [Mode.next, Mode.inComment, hc]
        · by_cases hc' : c = '*' <;> simp [Mode.next, Mode.inComment, hc, hc']
      · have hc : c ≠ '*' := by simpa using hslash rfl
        by_cases hc' : c = '/' <;> simp [Mode.next, Mode.inComment, hc, hc']
      · have hc : c ≠ '/' := by simpa using hstar rfl
        by_cases hc' : c = '*' <;> simp [Mode.next, Mode.inComment, hc, hc']
    obtain ⟨hin, hafterSlash, hafterStar⟩ := hnext
    have hrest := ih hin (fun hmem => hline (List.mem_cons_of_mem c hmem))
      (fun hmark => hopen (hmark.trans (List.suffix_cons c cs).isInfix))
      (fun hmark => hclose (hmark.trans (List.suffix_cons c cs).isInfix))
      (fun h hhead => by
        obtain ⟨rest, rfl⟩ := List.head?_eq_some_iff.1 hhead
        rw [hafterSlash h] at hopen
        exact hopen ⟨[], rest, rfl⟩)
      (fun h hhead => by
        obtain ⟨rest, rfl⟩ := List.head?_eq_some_iff.1 hhead
        rw [hafterStar h] at hclose
        exact hclose ⟨[], rest, rfl⟩)
    constructor
    · rw [modeAfter, List.foldl_cons]
      exact hrest.1
    · rw [codeOf, hkeeps, hrest.2]
      rfl

/-- A comment around a text that opens and closes none. -/
theorem scans_blockComment {a cs : List Char} (hline : '\n' ∉ cs)
    (hopen : ¬ ['/', '*'] <:+: cs) (hclose : ¬ ['*', '/'] <:+: cs) :
    Scans a (['/', '*', ' '] ++ cs ++ [' ', '*', '/']) a := by
  have hstart : modeAfter .code ['/', '*', ' '] = .blockComment 0 := rfl
  have hslash : codeOf .code ['/', '*', ' '] = ['/'] := rfl
  obtain ⟨hmode, hcode⟩ :=
    scan_blockComment (m := .blockComment 0) rfl hline hopen hclose nofun nofun
  have hend (m : Mode) (hm : m.inComment = true) :
      modeAfter m [' ', '*', '/'] = .code ∧ codeOf m [' ', '*', '/'] = [] := by
    obtain rfl | rfl | rfl := Mode.eq_of_inComment hm
    all_goals exact ⟨rfl, rfl⟩
  rw [List.append_assoc]
  constructor
  · rw [modeAfter_append, hstart, modeAfter_append]
    exact (hend _ hmode).1
  · rw [codeOf_append, hstart, hslash, codeOf_append, hcode, (hend _ hmode).2]
    exact meetAll_neutral (List.all_eq_true.1 (by decide)) a

end Mockup.Swift
