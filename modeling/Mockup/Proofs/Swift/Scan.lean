import Mathlib.Data.List.Forall2
import Mathlib.Tactic.Common
import Mockup.Proofs.Text.Lines
import Mockup.Text.Quoted

/-!
# Scanning source text

Which characters of a Swift text are code, and which belong to string literals and comments.
Comments nest, and a literal ends on its line.
-/

namespace Mockup.Swift

/-- Where a scan stands. -/
inductive Mode where
  | code
  /-- Behind a slash in code, which may begin a comment. -/
  | slash
  | literal
  /-- Behind a backslash in a literal. -/
  | escape
  | lineComment
  | blockComment (depth : Nat)
  /-- Behind a slash in a comment, which may begin an inner one. -/
  | blockSlash (depth : Nat)
  /-- Behind a star in a comment, which may end it. -/
  | blockStar (depth : Nat)
  /-- A line has ended within a literal. -/
  | broken
deriving DecidableEq

def endsLine (c : Char) : Bool :=
  c = '\n' || c = '\r'

namespace Mode

def next : Mode → Char → Mode
  | code, c => if c = '"' then literal else if c = '/' then slash else code
  | slash, c =>
    if c = '/' then lineComment else if c = '*' then blockComment 0
    else if c = '"' then literal else code
  | literal, c =>
    if c = '"' then code else if c = '\\' then escape
    else if endsLine c then broken else literal
  | escape, c => if endsLine c then broken else literal
  | lineComment, c => if endsLine c then code else lineComment
  | blockComment d, c =>
    if c = '/' then blockSlash d else if c = '*' then blockStar d else blockComment d
  | blockSlash d, c =>
    if c = '*' then blockComment (d + 1) else if c = '/' then blockSlash d else blockComment d
  | blockStar d, c =>
    if c = '/' then (match d with
      | 0 => code
      | d + 1 => blockComment d)
    else if c = '*' then blockStar d else blockComment d
  | broken, _ => broken

/-- Whether a character is code. The quotes of a literal are, and the slash that begins a comment
is; a line feed counts as code wherever it stands. -/
def keeps : Mode → Char → Bool
  | code, _ => true
  | slash, c => c ≠ '/' && c ≠ '*'
  | literal, c => c = '"' || c = '\n'
  | _, c => c = '\n'

/-- The modes in which a line can begin. -/
def startsLine : Mode → Bool
  | code | blockComment _ | broken => true
  | _ => false

private theorem startsLine_next (m : Mode) : (m.next '\n').startsLine = true := by
  cases m <;> rfl

private theorem next_blank {m : Mode} (hm : m.startsLine = true) {c : Char}
    (hc : Text.isBlank c = true) :
    m.next c = m := by
  have hquote : c ≠ '"' := by rintro rfl; revert hc; decide
  have hslash : c ≠ '/' := by rintro rfl; revert hc; decide
  have hstar : c ≠ '*' := by rintro rfl; revert hc; decide
  cases m with
  | code => simp [next, hquote, hslash]
  | blockComment d => simp [next, hslash, hstar]
  | broken => rfl
  | _ => contradiction

end Mode

/-- The mode behind a text. -/
def modeAfter (m : Mode) (cs : List Char) : Mode :=
  cs.foldl Mode.next m

/-- The code of a text. -/
def codeOf (m : Mode) : List Char → List Char
  | [] => []
  | c :: rest => (if m.keeps c then [c] else []) ++ codeOf (m.next c) rest

theorem modeAfter_append (m : Mode) (a b : List Char) :
    modeAfter m (a ++ b) = modeAfter (modeAfter m a) b :=
  List.foldl_append

theorem codeOf_append (m : Mode) (a b : List Char) :
    codeOf m (a ++ b) = codeOf m a ++ codeOf (modeAfter m a) b := by
  induction a generalizing m with
  | nil => rfl
  | cons c a ih => simp only [List.cons_append, codeOf, ih, List.append_assoc, modeAfter,
      List.foldl_cons]

theorem scan_plain {cs : List Char} (h : ∀ c ∈ cs, c ≠ '"' ∧ c ≠ '/') :
    modeAfter .code cs = .code ∧ codeOf .code cs = cs := by
  induction cs with
  | nil => exact ⟨rfl, rfl⟩
  | cons c cs ih =>
    obtain ⟨hquote, hslash⟩ := h c List.mem_cons_self
    have hnext : Mode.next .code c = .code := by rw [Mode.next, if_neg hquote, if_neg hslash]
    have hrest := ih fun d hd => h d (List.mem_cons_of_mem c hd)
    constructor
    · rw [modeAfter, List.foldl_cons, hnext]
      exact hrest.1
    · rw [codeOf, hnext, hrest.2]
      rfl

private theorem scan_escapeChar (c : Char) :
    modeAfter .literal (Text.Quoted.escapeChar c) = .literal ∧
      codeOf .literal (Text.Quoted.escapeChar c) = [] := by
  rw [Text.Quoted.escapeChar.eq_def]
  split
  case h_6 hquote hbackslash hfeed hreturn _ =>
    have hends : endsLine c = false := by
      rw [endsLine, decide_eq_false hfeed, decide_eq_false hreturn]
      rfl
    have hnext : Mode.next .literal c = .literal := by
      rw [Mode.next, if_neg hquote, if_neg hbackslash, hends]
      rfl
    have hkeeps : Mode.keeps .literal c = false := by
      rw [Mode.keeps, decide_eq_false hquote, decide_eq_false hfeed]
      rfl
    exact ⟨hnext, by rw [codeOf, hkeeps, codeOf]; rfl⟩
  all_goals exact ⟨rfl, rfl⟩

/-- A scan passes a quoted text, and only its quotes are code. -/
theorem scan_encodeChars (cs : List Char) :
    modeAfter .code (Text.Quoted.encodeChars cs) = .code ∧
      codeOf .code (Text.Quoted.encodeChars cs) = ['"', '"'] := by
  have hinside : modeAfter .literal (cs.flatMap Text.Quoted.escapeChar) = .literal ∧
      codeOf .literal (cs.flatMap Text.Quoted.escapeChar) = [] := by
    induction cs with
    | nil => exact ⟨rfl, rfl⟩
    | cons c cs ih =>
      rw [List.flatMap_cons, modeAfter_append, codeOf_append, (scan_escapeChar c).1,
        (scan_escapeChar c).2]
      exact ih
  have hopened : Text.Quoted.encodeChars cs =
      ['"'] ++ (cs.flatMap Text.Quoted.escapeChar ++ ['"']) := rfl
  have hopen : modeAfter .code ['"'] = .literal := rfl
  rw [hopened]
  constructor
  · rw [modeAfter_append, hopen, modeAfter_append, hinside.1]
    rfl
  · rw [codeOf_append, hopen, codeOf_append, hinside.1, hinside.2]
    rfl

/-- The runs between blanks. -/
def chunks (cs : List Char) : List (List Char) :=
  (cs.splitOnP Text.isBlank).filter (· ≠ [])

theorem chunks_append_blank {c : Char} (hc : Text.isBlank c = true) (a b : List Char) :
    chunks (a ++ c :: b) = chunks a ++ chunks b := by
  rw [chunks, List.splitOnP_append_cons a b hc, List.filter_append]
  rfl

theorem chunks_cons_blank {c : Char} (hc : Text.isBlank c = true) (cs : List Char) :
    chunks (c :: cs) = chunks cs :=
  chunks_append_blank hc [] cs

/-- Two texts read alike from the beginning of a line: they end in one mode, and their code differs
in blanks alone. -/
def SameFrom (m : Mode) (a b : List Char) : Prop :=
  modeAfter m a = modeAfter m b ∧ chunks (codeOf m a) = chunks (codeOf m b)

theorem SameFrom.trans {m : Mode} {a b c : List Char} (hab : SameFrom m a b)
    (hbc : SameFrom m b c) : SameFrom m a c :=
  ⟨hab.1.trans hbc.1, hab.2.trans hbc.2⟩

theorem sameFrom_blanks {m : Mode} (hm : m.startsLine = true) {blanks : List Char}
    (hblanks : ∀ c ∈ blanks, Text.isBlank c = true) (cs : List Char) :
    SameFrom m (blanks ++ cs) cs := by
  induction blanks with
  | nil => exact ⟨rfl, rfl⟩
  | cons c blanks ih =>
    have hc := hblanks c List.mem_cons_self
    have hrest := ih fun d hd => hblanks d (List.mem_cons_of_mem c hd)
    have hnext := Mode.next_blank hm hc
    constructor
    · rw [← hrest.1, List.cons_append, modeAfter, List.foldl_cons, hnext]
      rfl
    · rw [← hrest.2, List.cons_append, codeOf, hnext]
      split
      · exact chunks_cons_blank hc _
      · rfl

/-- Two lines read alike wherever a line can begin. -/
def SameLine (a b : List Char) : Prop :=
  ∀ m : Mode, m.startsLine = true → SameFrom m (a ++ ['\n']) (b ++ ['\n'])

theorem startsLine_modeAfter (m : Mode) (l : List Char) :
    (modeAfter m (l ++ ['\n'])).startsLine = true := by
  rw [modeAfter_append]
  exact Mode.startsLine_next _

theorem codeOf_feed (m : Mode) (rest : List Char) :
    codeOf m ('\n' :: rest) = '\n' :: codeOf (m.next '\n') rest := by
  have hkeeps : m.keeps '\n' = true := by cases m <;> rfl
  rw [codeOf, hkeeps]
  rfl

private theorem chunks_codeOf_feed (m : Mode) (l rest : List Char) :
    chunks (codeOf m (l ++ '\n' :: rest)) =
      chunks (codeOf m l) ++ chunks (codeOf (modeAfter m (l ++ ['\n'])) rest) := by
  rw [codeOf_append, codeOf_feed, chunks_append_blank (by decide), modeAfter_append]
  rfl

private theorem chunks_codeOf_line (m : Mode) (l : List Char) :
    chunks (codeOf m (l ++ ['\n'])) = chunks (codeOf m l) := by
  rw [chunks_codeOf_feed, codeOf]
  exact List.append_nil _

private theorem SameFrom.cons_line {m : Mode} {a b r t : List Char}
    (hline : SameFrom m (a ++ ['\n']) (b ++ ['\n']))
    (hrest : SameFrom (modeAfter m (b ++ ['\n'])) r t) :
    SameFrom m (a ++ '\n' :: r) (b ++ '\n' :: t) := by
  have hcode := hline.2
  rw [chunks_codeOf_line, chunks_codeOf_line] at hcode
  constructor
  · rw [← List.singleton_append, ← List.append_assoc, modeAfter_append, hline.1,
      hrest.1, ← modeAfter_append, List.append_assoc]
    rfl
  · rw [chunks_codeOf_feed, chunks_codeOf_feed, hcode, hline.1, hrest.2]

/-- Lines, each with its line feed. -/
def endedLines (ls : List (List Char)) : List Char :=
  ls.flatMap (· ++ ['\n'])

private theorem endedLines_cons (l : List Char) (ls : List (List Char)) :
    endedLines (l :: ls) = l ++ '\n' :: endedLines ls := by
  rw [endedLines, List.flatMap_cons, List.append_assoc]
  rfl

private theorem endedLines_same {as bs : List (List Char)} (h : List.Forall₂ SameLine as bs)
    {m : Mode}
    (hm : m.startsLine = true) : SameFrom m (endedLines as) (endedLines bs) := by
  induction h generalizing m with
  | nil => exact ⟨rfl, rfl⟩
  | cons hline _ ih =>
    rw [endedLines_cons, endedLines_cons]
    exact (hline m hm).cons_line (ih (startsLine_modeAfter m _))

theorem endedLines_concat_nil {m : Mode} (hm : m.startsLine = true) (ls : List (List Char)) :
    SameFrom m (endedLines (ls ++ [[]])) (endedLines ls) := by
  induction ls generalizing m with
  | nil =>
    have hfeed : ∀ c ∈ ['\n'], Text.isBlank c = true := List.all_eq_true.1 (by decide)
    exact sameFrom_blanks hm hfeed []
  | cons l ls ih =>
    rw [List.cons_append, endedLines_cons, endedLines_cons]
    exact SameFrom.cons_line ⟨rfl, rfl⟩ (ih (startsLine_modeAfter m l))

private theorem joinLines_concat_feed {ls : List (List Char)} (h : ls ≠ []) :
    Text.joinLines ls ++ ['\n'] = endedLines ls := by
  induction ls with
  | nil => contradiction
  | cons l ls ih =>
    cases ls with
    | nil => simp [Text.joinLines, endedLines]
    | cons k ls =>
      rw [endedLines_cons, ← ih (by simp), Text.joinLines, List.intercalate_cons_cons]
      simp [Text.joinLines]

private theorem sameLine_dropReturn (l : List Char) : SameLine (Text.dropReturn l) l := by
  intro m _
  rw [Text.dropReturn]
  split
  · next h =>
    obtain ⟨front, rfl⟩ := List.getLast?_eq_some_iff.1 h
    have hmode (n : Mode) : modeAfter n ['\r', '\n'] = modeAfter n ['\n'] := by
      cases n <;> rfl
    have hcode (n : Mode) : codeOf n ['\r', '\n'] = ['\r', '\n'] ∨
        codeOf n ['\r', '\n'] = ['\n'] := by
      cases n with
      | code => exact Or.inl rfl
      | slash => exact Or.inl rfl
      | _ => exact Or.inr rfl
    rw [List.dropLast_concat, List.append_assoc]
    constructor
    · rw [modeAfter_append, modeAfter_append]
      exact (hmode _).symm
    · rw [chunks_codeOf_line, codeOf_append]
      rcases hcode (modeAfter m front) with h | h
      · rw [List.singleton_append, h, chunks_append_blank (by decide)]
        exact (List.append_nil _).symm
      · rw [List.singleton_append, h, chunks_append_blank (by decide)]
        exact (List.append_nil _).symm
  · exact ⟨rfl, rfl⟩

private theorem sameLine_indentLine (width : Nat) (l : List Char) :
    SameLine (Text.indentLine width l) l := by
  intro m hm
  rw [Text.indentLine]
  split
  · next h =>
    have hblank : ∀ c ∈ l, Text.isBlank c = true := List.all_eq_true.1 h
    have hsame := sameFrom_blanks hm hblank ['\n']
    exact ⟨hsame.1.symm, hsame.2.symm⟩
  · rw [List.append_assoc]
    refine sameFrom_blanks hm ?_ _
    intro c hc
    rw [List.eq_of_mem_replicate hc]
    decide

private theorem joinLines_same {m : Mode} (hm : m.startsLine = true) (ls : List (List Char)) :
    SameFrom m (Text.joinLines ls ++ ['\n']) (endedLines ls) := by
  cases ls with
  | nil => exact endedLines_concat_nil hm []
  | cons l ls =>
    rw [joinLines_concat_feed (by simp)]
    exact ⟨rfl, rfl⟩

/-- Indentation changes only the blanks of the code. -/
theorem sameFrom_indent {m : Mode} (hm : m.startsLine = true) (width : Nat) (s : String) :
    SameFrom m ((Text.indent width s).toList ++ ['\n']) (s.toList ++ ['\n']) := by
  have hparts : s.toList.splitOn '\n' ≠ [] := List.splitOnP_ne_nil _ _
  obtain ⟨front, last, hsplit⟩ := Text.exists_splitOn_concat s.toList
  let kept := [last].filter (· ≠ [])
  have htext : s.toList ++ ['\n'] = endedLines (front ++ [last]) := by
    rw [← hsplit, ← joinLines_concat_feed hparts, Text.joinLines, List.intercalate_splitOn]
  have hkept : SameFrom m (endedLines (front ++ kept)) (endedLines (front ++ [last])) := by
    by_cases hlast : last = []
    · have hempty : kept = [] := by simp [kept, hlast]
      have hsame := endedLines_concat_nil hm front
      rw [hempty, hlast, List.append_nil]
      exact ⟨hsame.1.symm, hsame.2.symm⟩
    · have hfull : kept = [last] := by simp [kept, hlast]
      rw [hfull]
      exact ⟨rfl, rfl⟩
  have hlines : (Text.lines s.toList).map (Text.indentLine width) =
      front.map (fun l => Text.indentLine width (Text.dropReturn l)) ++
        kept.map (Text.indentLine width) := by
    rw [Text.lines_of_splitOn hsplit, List.map_append, List.map_map]
    rfl
  have hfront : List.Forall₂ SameLine
      (front.map fun l => Text.indentLine width (Text.dropReturn l)) front := by
    rw [List.forall₂_map_left_iff, List.forall₂_same]
    intro l _ n hn
    exact (sameLine_indentLine width _ n hn).trans (sameLine_dropReturn l n hn)
  have hend : List.Forall₂ SameLine (kept.map (Text.indentLine width)) kept := by
    rw [List.forall₂_map_left_iff, List.forall₂_same]
    intro l _
    exact sameLine_indentLine width l
  rw [Text.indent, String.toList_ofList, htext, hlines]
  exact ((joinLines_same hm _).trans (endedLines_same (List.rel_append hfront hend) hm)).trans
    hkept

end Mockup.Swift
