import Mockup.Proofs.Style.Token

/-!
# Separators in names

Names of styles and variables are paths of words. Their tokens keep none of the characters that part
the words and the segments, and the numbers that a variable has in parentheses are joined to its
word.
-/

namespace Mockup.Style

open Text (isBlank isDigit)

private theorem separator_notMem_styleTokenChar (d : Char) :
    ∀ c ∈ styleTokenChar d, isBlank c = false ∧ c ∉ ['-', '(', ')', '/'] := by
  rw [styleTokenChar]
  split
  · rw [List.forall_mem_singleton]
    decide
  · next hbreak =>
    split
    · exact List.forall_mem_nil _
    · next hparen =>
      rw [List.forall_mem_singleton]
      simp_all

private theorem filter_splitOn {p : Char → Bool} {d : Char} (hd : p d = true) (cs : List Char) :
    (cs.filter p).splitOn d = (cs.splitOn d).map (List.filter p) := by
  induction cs with
  | nil => simp
  | cons c cs ih =>
    rw [List.splitOn_cons_eq_if_modifyHead]
    obtain ⟨first, others, hsplit⟩ := List.exists_cons_of_ne_nil (List.splitOn_ne_nil d cs)
    by_cases hc : c = d
    · rw [hc, List.filter_cons_of_pos hd, List.splitOn_cons_eq_if_modifyHead, ih]
      simp
    · by_cases hp : p c = true
      · rw [List.filter_cons_of_pos hp, List.splitOn_cons_eq_if_modifyHead, ih, hsplit]
        simp [hc, hp]
      · rw [List.filter_cons_of_neg hp, ih, hsplit]
        simp [hc, hp]

theorem typographyName_compact (name : String) :
    typographyName (String.ofList (name.toList.filter (!isBlank ·))) = typographyName name := by
  have hsegment (isFirst : Bool) (segment : List Char) :
      typographySegment isFirst (segment.filter (!isBlank ·)) =
        typographySegment isFirst segment := by
    rw [typographySegment, typographySegment, List.filter_filter]
    simp only [Bool.and_self]
  obtain ⟨first, others, hsplit⟩ :=
    List.exists_cons_of_ne_nil (List.splitOn_ne_nil '/' name.toList)
  rw [typographyName, typographyName, String.toList_ofList, filter_splitOn (by decide), hsplit,
    List.map_cons]
  dsimp only
  rw [hsegment, List.flatMap_map]
  simp only [hsegment]

/-- What stands behind the last slash of a name; the whole name when it has none. -/
def IsLastSegment (last name : String) : Prop :=
  '/' ∉ last.toList ∧ (name = last ∨ ∃ path, name = path ++ "/" ++ last)

private theorem exists_isLastSegment (name : String) : ∃ last, IsLastSegment last name := by
  by_cases hslash : '/' ∈ name.toList
  · obtain ⟨last, path, hsplit, hlast⟩ := List.eq_append_cons_of_mem (List.mem_reverse.2 hslash)
    refine ⟨String.ofList last.reverse, by simpa using hlast,
      Or.inr ⟨String.ofList path.reverse, ?_⟩⟩
    rw [← String.toList_inj, ← List.reverse_inj, hsplit]
    simp
  · exact ⟨name, hslash, Or.inl rfl⟩

private theorem IsLastSegment.lastSegment_eq {last name : String} (h : IsLastSegment last name) :
    lastSegment name.toList = last.toList := by
  obtain ⟨hslash, rfl | ⟨path, rfl⟩⟩ := h
  · rw [lastSegment, List.splitOn_eq_singleton hslash]
    rfl
  · have hsplit : (path ++ "/" ++ last).toList.splitOn '/' =
        path.toList.splitOn '/' ++ [last.toList] := by
      rw [String.append_assoc, String.toList_append, String.toList_append]
      exact (List.splitOn_append_cons_self _ _).trans
        (congrArg _ (List.splitOn_eq_singleton hslash))
    rw [lastSegment, hsplit, List.getLast?_concat]
    rfl

private theorem IsLastSegment.variableToken_eq {last name : String} (h : IsLastSegment last name) :
    variableToken name = variableToken last := by
  have hself : IsLastSegment last last := ⟨h.1, Or.inl rfl⟩
  rw [variableToken, variableToken, h.lastSegment_eq, hself.lastSegment_eq]

private theorem joinWords_append {cs : List Char} (h : ∀ c ∈ cs, isWordBreak c = false)
    (rest : List Char) :
    joinWords false (cs ++ rest) = cs ++ joinWords false rest := by
  induction cs with
  | nil => rfl
  | cons c cs ih =>
    obtain ⟨hc, hcs⟩ := List.forall_mem_cons.1 h
    rw [List.cons_append, joinWords, if_neg (by simp [hc]), ih hcs]
    rfl

private theorem joinWords_eq_self {cs : List Char} (h : ∀ c ∈ cs, isWordBreak c = false) :
    joinWords false cs = cs := by
  simpa [joinWords] using joinWords_append h []

section

variable {found? : List Char → Option (List Char × List Char)} {front behind digits : List Char}

private theorem unwrap_nil (fuel : Nat) : unwrap found? fuel [] = [] := by
  cases fuel <;> rfl

private theorem unwrap_append (h : '(' ∉ front) (fuel : Nat) (rest : List Char) :
    unwrap found? (front.length + fuel) (front ++ rest) = front ++ unwrap found? fuel rest := by
  induction front with
  | nil => rw [List.length_nil, Nat.zero_add, List.nil_append, List.nil_append]
  | cons c front ih =>
    rw [List.mem_cons, not_or] at h
    rw [List.length_cons, Nat.add_right_comm, List.cons_append, unwrap, if_neg (Ne.symm h.1),
      ih h.2]
    rfl

private theorem unwrapAll_eq_self (h : '(' ∉ front) : unwrapAll found? front = front := by
  simpa [unwrapAll, unwrap] using unwrap_append h 0 []

theorem unwrapAll_of_found (h : '(' ∉ front) (hfound : found? behind = some (digits, [])) :
    unwrapAll found? (front ++ '(' :: behind) = front ++ digits := by
  rw [unwrapAll, List.length_append, List.length_cons, unwrap_append h, unwrap, if_pos rfl, hfound]
  simp [unwrap_nil]

private theorem unwrapAll_of_missed (h : '(' ∉ front) (hmissed : found? behind = none)
    (hbehind : '(' ∉ behind) :
    unwrapAll found? (front ++ '(' :: behind) = front ++ '(' :: behind := by
  have hrest : unwrap found? behind.length behind = behind := unwrapAll_eq_self hbehind
  rw [unwrapAll, List.length_append, List.length_cons, unwrap_append h, unwrap, if_pos rfl, hmissed]
  dsimp only
  rw [hrest]

end

private theorem spanDigits?_append {digits : List Char} (hne : digits ≠ [])
    (h : ∀ c ∈ digits, isDigit c = true) {d : Char} (hd : isDigit d = false) (rest : List Char) :
    spanDigits? (digits ++ d :: rest) = some (digits, d :: rest) := by
  rw [spanDigits?, List.span_eq_takeWhile_dropWhile, List.takeWhile_append_of_pos h,
    List.dropWhile_append_of_pos h, List.takeWhile_cons_of_neg (by simp [hd]),
    List.dropWhile_cons_of_neg (by simp [hd]), List.append_nil]
  split
  · simp_all
  · rfl

/-- A text of ASCII digits. -/
def IsNumber (cs : List Char) : Prop :=
  cs ≠ [] ∧ ∀ c ∈ cs, c.isDigit = true

private theorem IsNumber.spanDigits? {digits : List Char} (h : IsNumber digits) {d : Char}
    (hd : isDigit d = false) (rest : List Char) :
    Style.spanDigits? (digits ++ d :: rest) = some (digits, d :: rest) :=
  spanDigits?_append h.1 (fun c hc => Text.isDigit_of_charIsDigit (h.2 c hc)) hd rest

private theorem pairInParens?_pair {n m : List Char} (hn : IsNumber n) (hm : IsNumber m) :
    pairInParens? (n ++ ',' :: m ++ [')']) = some (n ++ m, []) := by
  rw [pairInParens?, List.append_assoc, List.cons_append, hn.spanDigits? (by decide)]
  simp only [hm.spanDigits? (by decide : isDigit ')' = false)]

private theorem pairInParens?_number {n : List Char} (hn : IsNumber n) :
    pairInParens? (n ++ [')']) = none := by
  rw [pairInParens?, hn.spanDigits? (by decide)]
  rfl

private theorem numberInParens?_number {n : List Char} (hn : IsNumber n) :
    numberInParens? (n ++ [')']) = some (n, []) := by
  rw [numberInParens?, hn.spanDigits? (by decide)]
  rfl

/-- A text of ASCII letters. -/
def IsWord (cs : List Char) : Prop :=
  cs ≠ [] ∧ ∀ c ∈ cs, c.isAlpha = true

/-- A word with its first character in lower case. -/
def lowerFirst (word : List Char) : List Char :=
  (word.take 1).map Char.toLower ++ word.drop 1

theorem unbroken_of_isAlphanum {cs : List Char} (h : ∀ c ∈ cs, c.isAlphanum = true) :
    (∀ c ∈ cs, isWordBreak c = false) ∧ '(' ∉ cs := by
  have hplain : ∀ c ∈ cs, isWordBreak c = false ∧ c ≠ '(' := fun c hc =>
    Text.of_isAlphanum (P := fun c => isWordBreak c = false ∧ c ≠ '(') (by decide) (h c hc)
  exact ⟨fun c hc => (hplain c hc).1, fun hparen => (hplain _ hparen).2 rfl⟩

private theorem IsWord.isAlphanum {word : List Char} (h : IsWord word) :
    ∀ c ∈ word, c.isAlphanum = true := by
  intro c hc
  rw [Char.isAlphanum, h.2 c hc, Bool.true_or]

private theorem IsNumber.isAlphanum {digits : List Char} (h : IsNumber digits) :
    ∀ c ∈ digits, c.isAlphanum = true := by
  intro c hc
  rw [Char.isAlphanum, h.2 c hc, Bool.or_true]

private theorem IsWord.unbroken {word : List Char} (h : IsWord word) :
    (∀ c ∈ word, isWordBreak c = false) ∧ '(' ∉ word :=
  unbroken_of_isAlphanum h.isAlphanum

private theorem IsNumber.unbroken {digits : List Char} (h : IsNumber digits) :
    (∀ c ∈ digits, isWordBreak c = false) ∧ '(' ∉ digits :=
  unbroken_of_isAlphanum h.isAlphanum

private theorem decapitalize_append {word : List Char} (h : IsWord word) (rest : List Char) :
    Text.decapitalize (word ++ rest) = lowerFirst word ++ rest := by
  obtain ⟨c, cs, rfl⟩ := List.exists_cons_of_ne_nil h.1
  have hc := Text.toNat_lt_of_isAlphanum (h.isAlphanum c List.mem_cons_self)
  rw [List.cons_append, Text.decapitalize, Text.lowerChar, if_pos hc]
  rfl

theorem joinWords_parens {word inner : List Char} (hword : IsWord word)
    (hinner : ∀ c ∈ inner, isWordBreak c = false) :
    joinWords false (word ++ ' ' :: '(' :: inner) = word ++ '(' :: inner := by
  have hparen : Text.upperChar '(' = ['('] := by decide
  rw [joinWords_append hword.unbroken.1, joinWords, if_pos (by decide), joinWords,
    if_neg (by decide), if_pos rfl, hparen, joinWords_eq_self hinner]
  rfl

section

variable {name word n m : String} (hword : IsWord word.toList) (hn : IsNumber n.toList)

include hword hn

private theorem variableToken_pair (hm : IsNumber m.toList)
    (h : IsLastSegment (word ++ " (" ++ n ++ "," ++ m ++ ")") name) :
    (variableToken name).toList = lowerFirst word.toList ++ n.toList ++ m.toList := by
  have hlast : lastSegment name.toList =
      word.toList ++ ' ' :: '(' :: (n.toList ++ ',' :: m.toList ++ [')']) := by
    rw [h.lastSegment_eq]
    simp
  have hinner : ∀ c ∈ n.toList ++ ',' :: m.toList ++ [')'], isWordBreak c = false := by
    simp only [List.forall_mem_append, List.forall_mem_cons]
    exact ⟨⟨hn.unbroken.1, by decide, hm.unbroken.1⟩, by decide, List.forall_mem_nil _⟩
  have hparen : '(' ∉ word.toList ++ (n.toList ++ m.toList) := by
    simp only [List.mem_append, not_or]
    exact ⟨hword.unbroken.2, hn.unbroken.2, hm.unbroken.2⟩
  rw [variableToken, String.toList_ofList, hlast, joinWords_parens hword hinner,
    unwrapAll_of_found hword.unbroken.2 (pairInParens?_pair hn hm), unwrapAll_eq_self hparen,
    decapitalize_append hword, List.append_assoc]

private theorem variableToken_number (h : IsLastSegment (word ++ " (" ++ n ++ ")") name) :
    (variableToken name).toList = lowerFirst word.toList ++ n.toList := by
  have hlast : lastSegment name.toList = word.toList ++ ' ' :: '(' :: (n.toList ++ [')']) := by
    rw [h.lastSegment_eq]
    simp
  have hinner : ∀ c ∈ n.toList ++ [')'], isWordBreak c = false := by
    simp only [List.forall_mem_append, List.forall_mem_singleton]
    exact ⟨hn.unbroken.1, by decide⟩
  have hparen : '(' ∉ n.toList ++ [')'] := by
    rw [List.mem_append, not_or]
    exact ⟨hn.unbroken.2, by decide⟩
  rw [variableToken, String.toList_ofList, hlast, joinWords_parens hword hinner,
    unwrapAll_of_missed hword.unbroken.2 (pairInParens?_number hn) hparen,
    unwrapAll_of_found hword.unbroken.2 (numberInParens?_number hn), decapitalize_append hword]

end

/-- Tokens keep no separators: that of a style has no blank, hyphen, parenthesis or slash behind its
family; that of a font has no blank or slash and blanks do not change it; that of a variable has no
blank, hyphen or slash, comes from the last segment of the name, and has the numbers of a word
behind the word. -/
theorem separators_notMem_tokens (name : String) :
    (∀ family, ∃ token, styleToken name family = family ++ ".token." ++ token ∧
      ∀ c ∈ token.toList, isBlank c = false ∧ c ∉ ['-', '(', ')', '/']) ∧
    (∀ c ∈ (typographyName name).toList, isBlank c = false ∧ c ≠ '/') ∧
    (∀ other : String,
      other.toList.filter (!isBlank ·) = name.toList.filter (!isBlank ·) →
        typographyName other = typographyName name) ∧
    (∃ last, IsLastSegment last name) ∧
    (∀ last, IsLastSegment last name → variableToken name = variableToken last) ∧
    (∀ c ∈ (variableToken name).toList, isBlank c = false ∧ c ≠ '-' ∧ c ≠ '/') ∧
    (∀ word n m : String, IsWord word.toList → IsNumber n.toList → IsNumber m.toList →
      IsLastSegment (word ++ " (" ++ n ++ "," ++ m ++ ")") name →
        (variableToken name).toList = lowerFirst word.toList ++ n.toList ++ m.toList) ∧
    ∀ word n : String, IsWord word.toList → IsNumber n.toList →
      IsLastSegment (word ++ " (" ++ n ++ ")") name →
        (variableToken name).toList = lowerFirst word.toList ++ n.toList := by
  have hslash : Text.KeptByCase (· ≠ '/') := Text.keptByCase_ne (by decide +kernel)
  have hhyphen : Text.KeptByCase (· ≠ '-') := Text.keptByCase_ne (by decide +kernel)
  have hblank := Text.keptByCase_not_isBlank
  refine ⟨fun family => ⟨_, rfl, ?style⟩, ?font, ?spaced, exists_isLastSegment name,
    fun _ h => h.variableToken_eq, ?colour,
    fun _ _ _ hword hn hm h => variableToken_pair hword hn hm h,
    fun _ _ hword hn h => variableToken_number hword hn h⟩
  case style =>
    rw [String.toList_ofList, List.forall_mem_flatMap]
    exact fun d _ => separator_notMem_styleTokenChar d
  case font =>
    exact forall_typographyName (hblank.and hslash) fun _ _ hc hne => ⟨hc, hne⟩
  case spaced =>
    intro other h
    rw [← typographyName_compact other, h, typographyName_compact]
  case colour =>
    refine forall_variableToken (hblank.and (hhyphen.and hslash)) fun c _ hbreak hne => ?_
    rw [isWordBreak, Bool.or_eq_false_iff, decide_eq_false_iff_not] at hbreak
    exact ⟨hbreak.2, hbreak.1, hne⟩

example : variableToken "Colors/Text/Neutral (0,5)" = "neutral05" := by decide

end Mockup.Style
