import Mockup.Proofs.Swift.Scan
import Mockup.Proofs.Text.Words

/-!
# Uses of the view model

Which members of the view model a Swift text uses. A text made of phrases with separators between
them, or of lines, uses what its parts use.
-/

namespace Mockup.Swift

def isNameChar (c : Char) : Bool :=
  c.isAlphanum || c = '_'

def isPathChar (c : Char) : Bool :=
  isNameChar c || c = '.'

/-- How a view refers to its view model. -/
def modelName : List Char :=
  "viewModel".toList

/-- The members of the view model along a path. -/
def pathUses : List (List Char) → List (List Char)
  | object :: member :: rest =>
    (if object = modelName ∧ member ≠ [] then [member] else []) ++ pathUses (member :: rest)
  | _ => []

/-- The members of the view model in code. A path is a run of names with points between them. -/
def usesIn (code : List Char) : List (List Char) :=
  (code.splitOnP (!isPathChar ·)).flatMap fun path => pathUses (path.splitOn '.')

/-- The names that a text uses as members of the view model, outside literals and comments. -/
def uses (text : String) : List String :=
  (usesIn (codeOf .code text.toList)).map String.ofList

private theorem usesIn_append_cons {c : Char} (hc : isPathChar c = false) (a b : List Char) :
    usesIn (a ++ c :: b) = usesIn a ++ usesIn b := by
  rw [usesIn, List.splitOnP_append_cons a b (by simp [hc]), List.flatMap_append]
  rfl

private theorem usesIn_nil : usesIn [] = [] := by decide

theorem usesIn_concat {c : Char} (hc : isPathChar c = false) (a : List Char) :
    usesIn (a ++ [c]) = usesIn a := by
  rw [usesIn_append_cons hc, usesIn_nil, List.append_nil]

private theorem usesIn_path {cs : List Char} (h : ∀ c ∈ cs, isPathChar c = true) :
    usesIn cs = pathUses (cs.splitOn '.') := by
  have hnone : ∀ c ∈ cs, (!isPathChar c) = false := fun c hc => by rw [h c hc]; rfl
  rw [usesIn, List.splitOnP_eq_singleton hnone]
  exact List.append_nil _

private theorem toNat_of_isBlank {c : Char} (h : Text.isBlank c = true) :
    c.toNat ≤ 0x20 ∨ 0x85 ≤ c.toNat := by
  have hranges : ∀ range ∈ Text.blankRanges, range.last ≤ 0x20 ∨ 0x85 ≤ range.first := by decide
  obtain ⟨range, hrange, hc⟩ := List.any_eq_true.1 h
  simp only [Text.CodeRange.holds, Bool.and_eq_true, decide_eq_true_eq] at hc
  rcases hranges range hrange with hlow | hhigh
  · omega
  · omega

private theorem toNat_of_isPathChar {c : Char} (h : isPathChar c = true) :
    0x2e ≤ c.toNat ∧ c.toNat ≤ 0x7a := by
  simp only [isPathChar, isNameChar, Bool.or_eq_true, decide_eq_true_eq] at h
  rcases h with (halphanum | rfl) | rfl
  · have hcodes := Text.toNat_of_isAlphanum halphanum
    omega
  · decide
  · decide

private theorem isPathChar_of_isBlank {c : Char} (h : Text.isBlank c = true) :
    isPathChar c = false := by
  rw [Bool.eq_false_iff]
  intro hpath
  have hblank := toNat_of_isBlank h
  have hrange := toNat_of_isPathChar hpath
  omega

/-- Blanks do nothing but separate uses. -/
theorem usesIn_eq_chunks (cs : List Char) : usesIn cs = (chunks cs).flatMap usesIn := by
  suffices h : ∀ front, (∀ c ∈ front, Text.isBlank c = false) →
      usesIn (front ++ cs) = (chunks (front ++ cs)).flatMap usesIn from h [] (by simp)
  have hrun (front : List Char) (h : ∀ c ∈ front, Text.isBlank c = false) :
      usesIn front = (chunks front).flatMap usesIn := by
    rw [chunks, List.splitOnP_eq_singleton h]
    by_cases hempty : front = []
    · simp [hempty, usesIn_nil]
    · simp [hempty]
  induction cs with
  | nil =>
    intro front hfront
    rw [List.append_nil]
    exact hrun front hfront
  | cons c cs ih =>
    intro front hfront
    by_cases hc : Text.isBlank c = true
    · rw [usesIn_append_cons (isPathChar_of_isBlank hc), chunks_append_blank hc,
        List.flatMap_append, ← hrun front hfront]
      exact congrArg _ (ih [] (by simp))
    · rw [List.append_cons]
      refine ih (front ++ [c]) ?_
      intro d hd
      rcases List.mem_append.1 hd with hd | hd
      · exact hfront d hd
      · rw [List.mem_singleton.1 hd]
        simpa using hc

private theorem pathUses_eq_nil {path : List (List Char)} (h : modelName ∉ path) :
    pathUses path = [] := by
  induction path with
  | nil => rfl
  | cons object rest ih =>
    have hrest := ih fun hmem => h (List.mem_cons_of_mem object hmem)
    cases rest with
    | nil => rfl
    | cons member rest =>
      have hobject : object ≠ modelName := fun e => h (e ▸ List.mem_cons_self)
      rw [pathUses, if_neg fun hboth => hobject hboth.1, hrest]
      rfl

/-- Code without the first letter of the view model does not use it. -/
theorem usesIn_eq_nil {cs : List Char} (h : 'v' ∉ cs) : usesIn cs = [] := by
  refine List.flatMap_eq_nil_iff.2 fun run hrun => pathUses_eq_nil fun hname => h ?_
  have hletter : 'v' ∈ modelName := by decide
  exact (Text.mem_of_mem_splitOnP hrun (Text.mem_of_mem_splitOnP hname hletter).1).1

/-- Behind a separator a new path begins, and no literal or comment has begun. -/
def isSeparator (c : Char) : Bool :=
  !isPathChar c && c ≠ '"' && c ≠ '/' && c ≠ '*'

/-- A text is complete code once `stop` ends it, and uses these members of the view model. -/
def Reads (stop : Char) (text : List Char) (names : List (List Char)) : Prop :=
  modeAfter .code (text ++ [stop]) = .code ∧ usesIn (codeOf .code (text ++ [stop])) = names

instance (stop : Char) (text : List Char) (names : List (List Char)) :
    Decidable (Reads stop text names) :=
  inferInstanceAs (Decidable (_ ∧ _))

/-- A text reads as code within its line. -/
abbrev Phrase : List Char → List (List Char) → Prop :=
  Reads ' '

/-- A text reads as code of whole lines. -/
abbrev Passage : List Char → List (List Char) → Prop :=
  Reads '\n'

private theorem pathUses_cons_nil (path : List (List Char)) :
    pathUses ([] :: path) = pathUses path := by
  cases path with
  | nil => rfl
  | cons member rest =>
    rw [pathUses, if_neg fun h => absurd h.1 (by decide)]
    rfl

private theorem usesIn_cons_point (cs : List Char) : usesIn ('.' :: cs) = usesIn cs := by
  have hpoint : (!isPathChar '.') = false := rfl
  have hpath (cs : List Char) : ('.' :: cs).splitOn '.' = [] :: cs.splitOn '.' := by
    rw [List.splitOn, List.splitOnP_cons_eq_if_modifyHead]
    rfl
  rw [usesIn, List.splitOnP_cons_eq_if_modifyHead, hpoint, usesIn]
  obtain ⟨path, rest, hsplit⟩ := List.exists_cons_of_ne_nil
    (List.splitOnP_ne_nil (fun c => !isPathChar c) cs)
  rw [hsplit]
  simp only [Bool.false_eq_true, if_false, List.modifyHead_cons, List.flatMap_cons, hpath,
    pathUses_cons_nil]

/-- Whether what follows the code begins a path of its own, save for a leading point. -/
def endsApart (code : List Char) : Bool :=
  match code.reverse with
  | '.' :: c :: _ => !isPathChar c
  | c :: _ => !isPathChar c
  | [] => true

private theorem usesIn_append_of_endsApart {a : List Char} (h : endsApart a = true)
    (b : List Char) :
    usesIn (a ++ b) = usesIn a ++ usesIn b := by
  obtain ⟨r, rfl⟩ : ∃ r, a = r.reverse := ⟨a.reverse, a.reverse_reverse.symm⟩
  rw [endsApart, List.reverse_reverse] at h
  split at h
  · next c front =>
    have hc : isPathChar c = false := by simpa using h
    simp only [List.reverse_cons, List.append_assoc, List.cons_append, List.nil_append]
    rw [usesIn_append_cons hc, usesIn_append_cons hc, usesIn_cons_point, usesIn_cons_point,
      usesIn_nil, List.append_nil]
  · next c front _ =>
    have hc : isPathChar c = false := by simpa using h
    simp only [List.reverse_cons, List.append_assoc, List.singleton_append]
    rw [usesIn_append_cons hc, usesIn_concat hc]
  · rfl

/-- A text in front of others: complete code that uses these members, and ends apart. -/
def Leads (text : List Char) (names : List (List Char)) : Prop :=
  modeAfter .code text = .code ∧ endsApart (codeOf .code text) = true ∧
    usesIn (codeOf .code text) = names

instance (text : List Char) (names : List (List Char)) : Decidable (Leads text names) :=
  inferInstanceAs (Decidable (_ ∧ _ ∧ _))

theorem Leads.append {stop : Char} {a b : List Char} {xs ys : List (List Char)}
    (ha : Leads a xs) (hb : Reads stop b ys) : Reads stop (a ++ b) (xs ++ ys) := by
  constructor
  · rw [List.append_assoc, modeAfter_append, ha.1, hb.1]
  · rw [List.append_assoc, codeOf_append, ha.1, usesIn_append_of_endsApart ha.2.1, ha.2.2, hb.2]

/-- A text behind others that ends their last phrase: it begins with a separator. -/
def Follows (stop : Char) (text : List Char) (names : List (List Char)) : Prop :=
  text.head?.any isSeparator = true ∧ Reads stop text names

instance (stop : Char) (text : List Char) (names : List (List Char)) :
    Decidable (Follows stop text names) :=
  inferInstanceAs (Decidable (_ ∧ _))

private theorem isPathChar_of_isSeparator {c : Char} (hc : isSeparator c = true) :
    isPathChar c = false := by
  simp only [isSeparator, Bool.and_eq_true, Bool.not_eq_true'] at hc
  exact hc.1.1.1

theorem Phrase.ended {a : List Char} {xs : List (List Char)} (h : Phrase a xs) {c : Char}
    (hc : isSeparator c = true) :
    modeAfter .code (a ++ [c]) = .code ∧ codeOf .code (a ++ [c]) = codeOf .code a ++ [c] ∧
      usesIn (codeOf .code a) = xs := by
  have hmode : modeAfter .code a = .code ∨ modeAfter .code a = .slash := by
    have hnext := h.1
    rw [modeAfter_append] at hnext
    revert hnext
    cases modeAfter .code a with
    | code => exact fun _ => Or.inl rfl
    | slash => exact fun _ => Or.inr rfl
    | _ => intro hnext; cases hnext
  have hpass (d : Char) (hd : isSeparator d = true) :
      (modeAfter .code a).next d = .code ∧ (modeAfter .code a).keeps d = true := by
    simp only [isSeparator, Bool.and_eq_true, Bool.not_eq_true', decide_eq_true_eq] at hd
    obtain ⟨⟨⟨-, hquote⟩, hslash⟩, hstar⟩ := hd
    rcases hmode with hm | hm
    · simp [hm, Mode.next, Mode.keeps, hquote, hslash]
    · simp [hm, Mode.next, Mode.keeps, hquote, hslash, hstar]
  have hcode (d : Char) (hd : isSeparator d = true) :
      codeOf .code (a ++ [d]) = codeOf .code a ++ [d] := by
    rw [codeOf_append, codeOf, (hpass d hd).2]
    rfl
  refine ⟨?_, hcode c hc, ?_⟩
  · rw [modeAfter_append]
    exact (hpass c hc).1
  · rw [← h.2, hcode ' ' (by decide), usesIn_concat (by decide)]

theorem Phrase.append {stop : Char} {a b : List Char} {xs ys : List (List Char)}
    (ha : Phrase a xs) (hb : Follows stop b ys) : Reads stop (a ++ b) (xs ++ ys) := by
  obtain ⟨hhead, hreads⟩ := hb
  cases b with
  | nil => contradiction
  | cons c b =>
    have hc : isSeparator c = true := hhead
    obtain ⟨hmode, hcode, huses⟩ := ha.ended hc
    have hempty : Phrase [] [] := ⟨rfl, rfl⟩
    obtain ⟨hopen, hkept, -⟩ := hempty.ended hc
    rw [List.nil_append] at hopen hkept
    have hsplit : a ++ c :: b ++ [stop] = (a ++ [c]) ++ (b ++ [stop]) := by simp
    have hfirst : c :: b ++ [stop] = [c] ++ (b ++ [stop]) := rfl
    rw [Reads, hfirst, modeAfter_append, codeOf_append, hopen, hkept] at hreads
    constructor
    · rw [hsplit, modeAfter_append, hmode, hreads.1]
    · rw [hsplit, codeOf_append, hmode, hcode, List.append_assoc, List.singleton_append,
        usesIn_append_cons (isPathChar_of_isSeparator hc), huses, ← hreads.2]
      exact congrArg _ (usesIn_append_cons (isPathChar_of_isSeparator hc) [] _).symm

theorem Phrase.passage {a : List Char} {xs : List (List Char)} (h : Phrase a xs) :
    Passage a xs := by
  have hfeed : isSeparator '\n' = true := by decide
  obtain ⟨hmode, hcode, huses⟩ := h.ended hfeed
  exact ⟨hmode, by rw [hcode, usesIn_concat (by decide), huses]⟩

theorem Phrase.passage_feed {a : List Char} {xs : List (List Char)}
    (h : Phrase (a ++ ['\n']) xs) : Passage a xs := by
  have hblank : isSeparator ' ' = true := by decide
  have hstarts := startsLine_modeAfter .code a
  have hend : (modeAfter .code (a ++ ['\n'])).next ' ' = .code := by
    have hmode := h.1
    rw [modeAfter_append] at hmode
    exact hmode
  refine ⟨?_, (h.ended hblank).2.2⟩
  revert hstarts hend
  cases modeAfter .code (a ++ ['\n']) with
  | code => exact fun _ _ => rfl
  | blockComment d => intro _ hend; cases hend
  | broken => intro _ hend; cases hend
  | _ => intro hstarts; cases hstarts

theorem Passage.append_feed {a b : List Char} {xs ys : List (List Char)} (ha : Passage a xs)
    (hb : Passage b ys) : Passage (a ++ '\n' :: b) (xs ++ ys) := by
  have hsplit : a ++ '\n' :: b ++ ['\n'] = (a ++ ['\n']) ++ (b ++ ['\n']) := by simp
  have hline : codeOf .code (a ++ ['\n']) = codeOf .code a ++ ['\n'] := by
    rw [codeOf_append, codeOf_feed]
    rfl
  constructor
  · rw [hsplit, modeAfter_append, ha.1, hb.1]
  · rw [hsplit, codeOf_append, ha.1, hline, List.append_assoc, List.singleton_append,
      usesIn_append_cons (by decide), ← usesIn_concat (c := '\n') (by decide) (codeOf .code a),
      ← hline, ha.2, hb.2]

theorem Passage.concat_comma {a : List Char} {xs : List (List Char)} (h : Passage a xs) :
    Passage (a ++ [',']) xs := by
  have hnames := h.2
  rw [codeOf_append, codeOf_feed] at hnames
  have hend : (modeAfter .code a).next '\n' = .code := by
    have hmode := h.1
    rw [modeAfter_append] at hmode
    exact hmode
  rw [codeOf, usesIn_concat (by decide)] at hnames
  have hcomma : modeAfter (modeAfter .code a) [',', '\n'] = .code ∧
      (codeOf (modeAfter .code a) [',', '\n'] = [',', '\n'] ∨
        codeOf (modeAfter .code a) [',', '\n'] = ['\n']) := by
    revert hend
    cases modeAfter .code a with
    | code => exact fun _ => ⟨rfl, Or.inl rfl⟩
    | slash => exact fun _ => ⟨rfl, Or.inl rfl⟩
    | lineComment => exact fun _ => ⟨rfl, Or.inr rfl⟩
    | _ => intro hend; cases hend
  rw [Passage, Reads, List.append_assoc, List.singleton_append, modeAfter_append, codeOf_append]
  refine ⟨hcomma.1, ?_⟩
  rcases hcomma.2 with hcode | hcode
  · have hfeed : usesIn ['\n'] = [] := by decide
    rw [hcode, usesIn_append_cons (by decide), hfeed, List.append_nil, hnames]
  · rw [hcode, usesIn_concat (by decide), hnames]

/-- Indented lines use what they used before. -/
theorem Passage.indent {s : String} {xs : List (List Char)} (h : Passage s.toList xs)
    (width : Nat) : Passage (Text.indent width s).toList xs := by
  have hsame := sameFrom_indent (m := .code) rfl width s
  constructor
  · rw [hsame.1, h.1]
  · rw [usesIn_eq_chunks, hsame.2, ← usesIn_eq_chunks, h.2]

theorem phrase_plain {cs : List Char} (h : ∀ c ∈ cs, c ≠ '"' ∧ c ≠ '/') :
    Phrase cs (usesIn cs) := by
  obtain ⟨hmode, hcode⟩ := scan_plain h
  constructor
  · rw [modeAfter_append, hmode]
    rfl
  · rw [codeOf_append, hmode, hcode]
    exact usesIn_concat (by decide) cs

theorem phrase_quoted (s : String) : Phrase (Text.Quoted.encode s).toList [] := by
  obtain ⟨hmode, hcode⟩ := scan_encodeChars s.toList
  rw [Text.Quoted.encode, String.toList_ofList]
  constructor
  · rw [modeAfter_append, hmode]
    rfl
  · rw [codeOf_append, hmode, hcode]
    decide

private theorem plain_of_isPathChar {cs : List Char} (h : ∀ c ∈ cs, isPathChar c = true) :
    ∀ c ∈ cs, c ≠ '"' ∧ c ≠ '/' := by
  intro c hc
  have hpath := h c hc
  constructor
  · rintro rfl
    exact absurd hpath (by decide)
  · rintro rfl
    exact absurd hpath (by decide)

private theorem splitOn_name {name : List Char} (h : ∀ c ∈ name, isNameChar c = true) :
    name.splitOn '.' = [name] := by
  refine List.splitOnP_eq_singleton fun c hc => ?_
  have hname := h c hc
  rw [beq_eq_false_iff_ne]
  rintro rfl
  exact absurd hname (by decide)

theorem phrase_name {name : List Char} (h : ∀ c ∈ name, isNameChar c = true) :
    Phrase name [] := by
  have hpath : ∀ c ∈ name, isPathChar c = true := fun c hc => by rw [isPathChar, h c hc]; rfl
  have hnone : usesIn name = [] := by
    rw [usesIn_path hpath, splitOn_name h]
    rfl
  rw [← hnone]
  exact phrase_plain (plain_of_isPathChar hpath)

/-- A member of the view model is used, unless it has no name. -/
theorem phrase_member {name : List Char} (h : ∀ c ∈ name, isNameChar c = true) :
    Phrase (modelName ++ '.' :: name) (if name = [] then [] else [name]) := by
  have hpath : ∀ c ∈ modelName ++ '.' :: name, isPathChar c = true := by
    intro c hc
    rw [List.mem_append, List.mem_cons] at hc
    rcases hc with hc | rfl | hc
    · have hmodel : ∀ c ∈ modelName, isPathChar c = true := List.all_eq_true.1 (by decide)
      exact hmodel c hc
    · decide
    · rw [isPathChar, h c hc]
      rfl
  have huses : usesIn (modelName ++ '.' :: name) = if name = [] then [] else [name] := by
    have hsplit : (modelName ++ '.' :: name).splitOn '.' = [modelName, name] := by
      have hmodel : modelName.splitOn '.' = [modelName] := by decide
      rw [List.splitOn, List.splitOnP_append_cons _ _ (by decide)]
      change modelName.splitOn '.' ++ name.splitOn '.' = _
      rw [hmodel, splitOn_name h]
      rfl
    rw [usesIn_path hpath, hsplit, pathUses]
    by_cases hname : name = []
    · rw [if_pos hname, if_neg fun hboth => hboth.2 hname]
      rfl
    · rw [if_neg hname, if_pos ⟨rfl, hname⟩]
      rfl
  rw [← huses]
  exact phrase_plain (plain_of_isPathChar hpath)

end Mockup.Swift
