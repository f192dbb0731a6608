import Mathlib.Data.List.Forall2
import Mockup.Proofs.Json.Members
import Mockup.Proofs.Json.Scalar

/-!
# Written values

The text of a value is read as the value, in both layouts that values are written in.
-/

namespace Mockup.Json

def IsBlank (cs : List Char) : Prop :=
  ∀ c ∈ cs, isSpace c

private theorem IsBlank.skipSpaces_append {blank : List Char} (h : IsBlank blank) (cs : List Char) :
    skipSpaces (blank ++ cs) = skipSpaces cs :=
  List.dropWhile_append_of_pos h

private theorem isBlank_lineStart (level : Nat) : IsBlank (lineStart level).toList := by
  have hbreak : isSpace '\n' = true := by decide
  have hspace : isSpace ' ' = true := by decide
  simp [IsBlank, lineStart, hbreak, hspace]

private theorem skipSpaces_cons {c : Char} (h : isSpace c = false) (cs : List Char) :
    skipSpaces (c :: cs) = c :: cs := by
  simp [skipSpaces, h]

private theorem isSpace_of_isDigit {c : Char} (h : c.isDigit) : isSpace c = false := by
  rw [Bool.eq_false_iff]
  intro hspace
  simp only [isSpace, Bool.or_eq_true, decide_eq_true_eq] at hspace
  rcases hspace with ((rfl | rfl) | rfl) | rfl <;> cases h

private theorem IsBlank.readValue_append {blank : List Char} (h : IsBlank blank) (fuel depth : Nat)
    (cs : List Char) : readValue fuel depth (blank ++ cs) = readValue fuel depth cs := by
  cases fuel with
  | zero => rw [readValue, readValue]
  | succ fuel => simp only [readValue, h.skipSpaces_append]

/-- A text that is read as a value wherever it stands, unless `levels` lists and objects more than
those around it are too many. -/
structure ReadAs (levels : Nat) (t : List Char) (v : Value) : Prop where
  starts : ∃ c cs, t = c :: cs ∧ isSpace c = false ∧ c ≠ ']'
  reads : ∀ {fuel depth : Nat} {rest : List Char}, t.length ≤ fuel → depth + levels ≤ maxDepth →
    EndsNumber rest → readValue fuel depth (t ++ rest) = (v, rest)

section

variable {levels : Nat}

/-- A scalar opens nothing, and each of its texts takes one step. -/
theorem ReadAs.scalar {c : Char} {cs : List Char} {v : Value} (hspace : isSpace c = false)
    (hclosing : c ≠ ']') (h : ∀ fuel depth rest, EndsNumber rest →
      readValue (fuel + 1) depth (c :: (cs ++ rest)) = (v, rest)) : ReadAs levels (c :: cs) v where
  starts := ⟨c, cs, rfl, hspace, hclosing⟩
  reads {fuel depth rest} hfuel _ hrest := by
    cases fuel with
    | zero => cases hfuel
    | succ fuel => exact h fuel depth rest hrest

private theorem readAs_null : ReadAs levels "null".toList .null :=
  .scalar (by decide) (by decide) fun _ _ _ _ => rfl

private theorem readAs_bool (b : Bool) :
    ReadAs levels (if b then "true" else "false").toList (.bool b) := by
  cases b
  · exact .scalar (by decide) (by decide) fun _ _ _ _ => rfl
  · exact .scalar (by decide) (by decide) fun _ _ _ _ => rfl

private theorem readAs_string (s : String) : ReadAs levels (stringText s).toList (.string s) := by
  rw [toList_stringText]
  refine .scalar (by decide) (by decide) fun fuel depth rest _ => ?_
  have hopen : readValue (fuel + 1) depth ('"' :: (s.toList.flatMap escapeChar ++ ['"'] ++ rest)) =
      readString (s.toList.flatMap escapeChar ++ ['"'] ++ rest) := rfl
  rw [hopen, List.append_assoc, List.singleton_append, readString, scanString_escaped]

private theorem readValue_digit {d : Char} (hdigit : d.isDigit) (fuel depth : Nat)
    (cs : List Char) :
    readValue (fuel + 1) depth (d :: cs) = readNumber (d :: cs) := by
  have hne {c : Char} (hc : c.isDigit = false) : d ≠ c := by
    rintro rfl
    rw [hdigit] at hc
    cases hc
  rw [readValue.eq_def]
  simp only [skipSpaces_cons (isSpace_of_isDigit hdigit)]
  split
  case h_1 heq => cases heq
  case h_8 heq =>
    cases heq
    exact if_pos (Or.inr hdigit)
  all_goals next heq => exact absurd (List.cons.inj heq).1 (hne rfl)

private theorem readAs_nat {n : Nat} (hn : n < UInt64.size) :
    ReadAs levels (Nat.toDigits 10 n) (.number (.int n)) := by
  obtain ⟨d, ds, hd, hdigit⟩ := exists_toDigits_eq_cons n
  have hclosing : d ≠ ']' := by
    rintro rfl
    cases hdigit
  rw [hd]
  refine .scalar (isSpace_of_isDigit hdigit) hclosing fun fuel depth rest hrest => ?_
  rw [readValue_digit hdigit, ← List.cons_append, ← hd]
  exact readNumber_toDigits hn hrest

end

section

variable {blank : List Char} {closing c : Char} {cs : List Char}

private theorem IsBlank.nextElement_closed (h : IsBlank blank) (hclosing : isSpace closing = false)
    (first : Bool) : nextElement closing first (blank ++ closing :: cs) = .closed cs := by
  simp [nextElement, h.skipSpaces_append, skipSpaces_cons hclosing]

private theorem IsBlank.nextElement_first (h : IsBlank blank) (hc : isSpace c = false)
    (hclosing : c ≠ closing) :
    nextElement closing true (blank ++ c :: cs) = .element (c :: cs) := by
  simp [nextElement, h.skipSpaces_append, skipSpaces_cons hc, hclosing]

private theorem IsBlank.nextElement_later (h : IsBlank blank) (hc : isSpace c = false)
    (hclosing : c ≠ closing) (hcomma : ',' ≠ closing) :
    nextElement closing false (',' :: (blank ++ c :: cs)) = .element (c :: cs) := by
  have hspace : isSpace ',' = false := by decide
  simp [nextElement, h.skipSpaces_append, skipSpaces_cons hc, skipSpaces_cons hspace, hclosing,
    hcomma]

end

/-- The blanks of a list or an object: in front of each element, in front of the closing bracket,
and behind the colon of a member. -/
structure Blanks where
  element : List Char
  closing : List Char
  value : List Char
  isBlank_element : IsBlank element
  isBlank_closing : IsBlank closing
  isBlank_value : IsBlank value

namespace Blanks

/-- What follows an element: the others that are still to come, and the closing bracket. -/
def tail (blanks : Blanks) (bracket : Char) : List (List Char) → List Char
  | [] => blanks.closing ++ [bracket]
  | t :: ts => ',' :: (blanks.element ++ (t ++ blanks.tail bracket ts))

/-- All elements, from behind the opening bracket on. -/
def text (blanks : Blanks) (bracket : Char) : List (List Char) → List Char
  | [] => [bracket]
  | t :: ts => blanks.element ++ (t ++ blanks.tail bracket ts)

def member (blanks : Blanks) (name : String) (t : List Char) : List Char :=
  (stringText name).toList ++ ':' :: (blanks.value ++ t)

variable {levels : Nat} (blanks : Blanks)

private theorem endsNumber_tail {bracket : Char} (hbracket : EndsNumber [bracket])
    (ts : List (List Char))
    (rest : List Char) : EndsNumber (blanks.tail bracket ts ++ rest) := by
  obtain ⟨_, blank, _, _, hblank, _⟩ := blanks
  cases ts with
  | nil =>
    cases blank with
    | nil => exact hbracket
    | cons c cs =>
      have hc : isSpace c = true := hblank c List.mem_cons_self
      rintro d ⟨⟩
      simp only [isSpace, Bool.or_eq_true, decide_eq_true_eq] at hc
      rcases hc with ((rfl | rfl) | rfl) | rfl <;> decide
  | cons t ts =>
    rintro c ⟨⟩
    decide

private theorem length_tail_pos (bracket : Char) (ts : List (List Char)) :
    0 < (blanks.tail bracket ts).length := by
  cases ts with
  | nil => simp [tail]
  | cons t ts => simp [tail]

private theorem readName_member (name : String) (t rest : List Char) :
    readName (blanks.member name t ++ rest) = .ok (some name, blanks.value ++ (t ++ rest)) := by
  have hcolon : isSpace ':' = false := by decide
  simp [member, toList_stringText, readName, scanString_escaped, skipSpaces_cons hcolon]

private theorem exists_member_eq_cons (name : String) (t : List Char) :
    ∃ cs, blanks.member name t = '"' :: cs := by
  rw [member, toList_stringText]
  exact ⟨_, rfl⟩

section

variable {fuel depth : Nat} {first : Bool} {ts : List (List Char)} {rest cs : List Char}

private theorem readItems_element {t : List Char} {v : Value} (ht : ReadAs levels t v)
    (hdepth : depth + levels ≤ maxDepth) (hfuel : t.length ≤ fuel)
    (hnext : nextElement ']' first cs = .element (t ++ (blanks.tail ']' ts ++ rest)))
    {vs : List Value}
    (hrest : readItems fuel depth false (blanks.tail ']' ts ++ rest) = (vs, rest)) :
    readItems (fuel + 1) depth first cs = (v :: vs, rest) := by
  have hends : EndsNumber (blanks.tail ']' ts ++ rest) := blanks.endsNumber_tail (by decide) ts rest
  rw [readItems, hnext]
  simp only [ht.reads hfuel hdepth hends, hrest]
private theorem readItems_tail {items : List Value} (hitems : List.Forall₂ (ReadAs levels) ts items)
    (hdepth : depth + levels ≤ maxDepth) (hfuel : (blanks.tail ']' ts).length ≤ fuel) :
    readItems fuel depth false (blanks.tail ']' ts ++ rest) = (items, rest) := by
  induction hitems generalizing fuel with
  | nil =>
    rw [tail] at hfuel ⊢
    cases fuel with
    | zero => simp at hfuel
    | succ fuel =>
      rw [List.append_assoc, List.singleton_append, readItems,
        blanks.isBlank_closing.nextElement_closed (by decide)]
  | @cons t v ts vs ht _ ih =>
    obtain ⟨c, cs, rfl, hspace, hbracket⟩ := ht.starts
    simp only [tail, List.length_cons, List.length_append] at hfuel
    cases fuel with
    | zero => simp at hfuel
    | succ fuel =>
      refine blanks.readItems_element ht hdepth ?_ ?_ (ih ?_)
      · rw [List.length_cons]
        omega
      · simp only [tail, List.cons_append, List.append_assoc]
        exact blanks.isBlank_element.nextElement_later hspace hbracket (by decide)
      · omega

private theorem readItems_text {items : List Value} (hitems : List.Forall₂ (ReadAs levels) ts items)
    (hdepth : depth + levels ≤ maxDepth) (hfuel : (blanks.text ']' ts).length ≤ fuel) :
    readItems fuel depth true (blanks.text ']' ts ++ rest) = (items, rest) := by
  cases hitems with
  | nil =>
    cases fuel with
    | zero => cases hfuel
    | succ fuel => rfl
  | @cons t v ts vs ht hts =>
    obtain ⟨c, cs, rfl, hspace, hbracket⟩ := ht.starts
    have hpos := blanks.length_tail_pos ']' ts
    simp only [text, List.length_append, List.length_cons] at hfuel
    cases fuel with
    | zero => simp at hfuel
    | succ fuel =>
      refine blanks.readItems_element ht hdepth ?_ ?_ (blanks.readItems_tail hts hdepth ?_)
      · rw [List.length_cons]
        omega
      · simp only [text, List.cons_append, List.append_assoc]
        exact blanks.isBlank_element.nextElement_first hspace hbracket
      · omega

/-- The text of a member, the value of which opens at most `levels` lists and objects. -/
def ReadsMember (levels : Nat) (t : List Char) (m : String × Value) : Prop :=
  ∃ u, t = blanks.member m.1 u ∧ ReadAs levels u m.2

private theorem readMembers_element {t : List Char} {m : String × Value}
    (ht : blanks.ReadsMember levels t m) (hdepth : depth + levels ≤ maxDepth)
    (hfuel : t.length ≤ fuel)
    (hnext : nextElement '\x7d' first cs = .element (t ++ (blanks.tail '\x7d' ts ++ rest)))
    {ms : List (String × Value)}
    (hrest : readMembers fuel depth false (blanks.tail '\x7d' ts ++ rest) = (ms, rest)) :
    readMembers (fuel + 1) depth first cs = (m :: ms, rest) := by
  obtain ⟨name, v⟩ := m
  obtain ⟨u, rfl, hu⟩ := ht
  have hlength : u.length ≤ fuel := by
    simp only [member, List.length_append, List.length_cons] at hfuel
    omega
  have hvalue : readValue fuel depth (blanks.value ++ (u ++ (blanks.tail '\x7d' ts ++ rest))) =
      (v, blanks.tail '\x7d' ts ++ rest) := by
    rw [blanks.isBlank_value.readValue_append]
    exact hu.reads hlength hdepth (blanks.endsNumber_tail (by decide) ts rest)
  rw [readMembers, hnext]
  simp only [readName_member, hvalue, hrest]

private theorem readMembers_tail {members : List (String × Value)}
    (hmembers : List.Forall₂ (blanks.ReadsMember levels) ts members)
    (hdepth : depth + levels ≤ maxDepth) (hfuel : (blanks.tail '\x7d' ts).length ≤ fuel) :
    readMembers fuel depth false (blanks.tail '\x7d' ts ++ rest) = (members, rest) := by
  induction hmembers generalizing fuel with
  | nil =>
    rw [tail] at hfuel ⊢
    cases fuel with
    | zero => simp at hfuel
    | succ fuel =>
      rw [List.append_assoc, List.singleton_append, readMembers,
        blanks.isBlank_closing.nextElement_closed (by decide)]
  | @cons t m ts ms ht _ ih =>
    simp only [tail, List.length_cons, List.length_append] at hfuel
    cases fuel with
    | zero => simp at hfuel
    | succ fuel =>
      refine blanks.readMembers_element ht hdepth (by omega) ?_ (ih (by omega))
      obtain ⟨u, rfl, -⟩ := ht
      obtain ⟨cs, hcs⟩ := blanks.exists_member_eq_cons m.1 u
      simp only [tail, hcs, List.cons_append, List.append_assoc]
      exact blanks.isBlank_element.nextElement_later (by decide) (by decide) (by decide)

private theorem readMembers_text {members : List (String × Value)}
    (hmembers : List.Forall₂ (blanks.ReadsMember levels) ts members)
    (hdepth : depth + levels ≤ maxDepth) (hfuel : (blanks.text '\x7d' ts).length ≤ fuel) :
    readMembers fuel depth true (blanks.text '\x7d' ts ++ rest) = (members, rest) := by
  cases hmembers with
  | nil =>
    cases fuel with
    | zero => cases hfuel
    | succ fuel => rfl
  | @cons t m ts ms ht hts =>
    obtain ⟨u, rfl, -⟩ := id ht
    obtain ⟨cs, hcs⟩ := blanks.exists_member_eq_cons m.1 u
    have hpos := blanks.length_tail_pos '\x7d' ts
    simp only [text, hcs, List.length_append, List.length_cons] at hfuel
    cases fuel with
    | zero => simp at hfuel
    | succ fuel =>
      refine blanks.readMembers_element ht hdepth ?_ ?_ (blanks.readMembers_tail hts hdepth ?_)
      · rw [hcs, List.length_cons]
        omega
      · simp only [text, hcs, List.cons_append, List.append_assoc]
        exact blanks.isBlank_element.nextElement_first (by decide) (by decide)
      · omega

end

end Blanks

variable {levels : Nat} (blanks : Blanks) {ts : List (List Char)}

private theorem readAs_array {items : List Value} (hitems : List.Forall₂ (ReadAs levels) ts items) :
    ReadAs (levels + 1) ('[' :: blanks.text ']' ts) (.array items) where
  starts := ⟨'[', _, rfl, by decide, by decide⟩
  reads {fuel depth rest} hfuel hdepth _ := by
    cases fuel with
    | zero => cases hfuel
    | succ fuel =>
      have hopen : readValue (fuel + 1) depth ('[' :: (blanks.text ']' ts ++ rest)) =
          (markDepth depth
              (.array (readItems fuel (depth + 1) true (blanks.text ']' ts ++ rest)).1),
            (readItems fuel (depth + 1) true (blanks.text ']' ts ++ rest)).2) := rfl
      rw [List.cons_append, hopen,
        blanks.readItems_text hitems (by omega) (Nat.le_of_succ_le_succ hfuel), markDepth,
        if_neg (by omega)]

private theorem readAs_object {members : List (String × Value)}
    (hmembers : List.Forall₂ (blanks.ReadsMember levels) ts members) :
    ReadAs (levels + 1) ('\x7b' :: blanks.text '\x7d' ts) (.object members) where
  starts := ⟨'\x7b', _, rfl, by decide, by decide⟩
  reads {fuel depth rest} hfuel hdepth _ := by
    cases fuel with
    | zero => cases hfuel
    | succ fuel =>
      have hopen : readValue (fuel + 1) depth ('\x7b' :: (blanks.text '\x7d' ts ++ rest)) =
          (markDepth depth
            (.object (readMembers fuel (depth + 1) true (blanks.text '\x7d' ts ++ rest)).1),
            (readMembers fuel (depth + 1) true (blanks.text '\x7d' ts ++ rest)).2) := rfl
      rw [List.cons_append, hopen,
        blanks.readMembers_text hmembers (by omega) (Nat.le_of_succ_le_succ hfuel), markDepth,
        if_neg (by omega)]

namespace Blanks

/-- No blanks at all. -/
def none : Blanks :=
  ⟨[], [], [], nofun, nofun, nofun⟩

/-- Each element on a line of its own, one step further in than the brackets. -/
def lines (level : Nat) : Blanks where
  element := (lineStart (level + 1)).toList
  closing := (lineStart level).toList
  value := [' ']
  isBlank_element := isBlank_lineStart (level + 1)
  isBlank_closing := isBlank_lineStart level
  isBlank_value := by simp [IsBlank, isSpace]

private theorem append_tail (blanks : Blanks) (bracket : Char) (t : List Char)
    (ts : List (List Char)) :
    t ++ blanks.tail bracket ts =
      (',' :: blanks.element).intercalate (t :: ts) ++ (blanks.closing ++ [bracket]) := by
  induction ts generalizing t with
  | nil => simp [tail]
  | cons u ts ih => rw [tail, ih, List.intercalate_cons_cons]; simp

private theorem toList_bracketed (level : Nat) (opening closing : Char) (parts : List String) :
    (bracketed level opening.toString closing.toString parts).toList =
      opening :: (lines level).text closing (parts.map String.toList) := by
  cases parts with
  | nil => simp [bracketed, text]
  | cons part parts =>
    rw [bracketed, if_neg (List.cons_ne_nil _ _), List.map_cons, text, append_tail]
    simp [lines, String.toList_intercalate]

private theorem toList_joined (opening closing : Char) (parts : List String) :
    (opening.toString ++ ",".intercalate parts ++ closing.toString).toList =
      opening :: none.text closing (parts.map String.toList) := by
  cases parts with
  | nil => simp [text]
  | cons part parts =>
    rw [List.map_cons, text, append_tail]
    simp [none, String.toList_intercalate]

end Blanks

private theorem compactItems_eq (items : List Value) :
    compactItems items = items.map Value.compact := by
  induction items with
  | nil => rfl
  | cons v items ih => rw [compactItems, ih, List.map_cons]

private theorem compactMembers_eq (members : List (String × Value)) :
    compactMembers members = members.map fun m => stringText m.1 ++ ":" ++ m.2.compact := by
  induction members with
  | nil => rfl
  | cons m members ih => rw [compactMembers, ih, List.map_cons]

private theorem prettyItems_eq (level : Nat) (items : List Value) :
    prettyItems level items = items.map (·.pretty level) := by
  induction items with
  | nil => rfl
  | cons v items ih => rw [prettyItems, ih, List.map_cons]

private theorem prettyMembers_eq (level : Nat) (members : List (String × Value)) :
    prettyMembers level members =
      members.map fun m => stringText m.1 ++ ": " ++ m.2.pretty level := by
  induction members with
  | nil => rfl
  | cons m members ih => rw [prettyMembers, ih, List.map_cons]

/-- A value without floats and negative numbers, in which at most `levels` lists and objects stand
in each other. -/
inductive Value.Plain : Nat → Value → Prop where
  | null {levels : Nat} : Plain levels .null
  | bool {levels : Nat} (b : Bool) : Plain levels (.bool b)
  | nat {levels n : Nat} (h : n < UInt64.size) : Plain levels (.number (.int n))
  | string {levels : Nat} (s : String) : Plain levels (.string s)
  | array {levels : Nat} {items : List Value} (h : ∀ v ∈ items, Plain levels v) :
    Plain (levels + 1) (.array items)
  | object {levels : Nat} {members : List (String × Value)} (h : ∀ m ∈ members, Plain levels m.2) :
    Plain (levels + 1) (.object members)

namespace Value.Plain

variable {v : Value}

theorem sound (h : v.Plain levels) : v.Sound := by
  induction h with
  | null => exact .null
  | bool b => exact .bool b
  | nat => exact .number _
  | string s => exact .string s
  | array _ ih => exact .array ih
  | object _ ih => exact .object ih

theorem readAs_compact (h : v.Plain levels) : ReadAs levels v.compact.toList v := by
  induction h with
  | null => exact readAs_null
  | bool b => exact readAs_bool b
  | nat hn =>
    have htext {n : Nat} : (Number.int n).text.toList = Nat.toDigits 10 n := Nat.toList_repr
    rw [compact, htext]
    exact readAs_nat hn
  | string s => exact readAs_string s
  | array _ ih =>
    rw [compact, compactItems_eq]
    refine Blanks.toList_joined '[' ']' _ ▸ readAs_array _ ?_
    rw [List.map_map, List.forall₂_map_left_iff, List.forall₂_same]
    exact ih
  | object _ ih =>
    rw [compact, compactMembers_eq]
    refine Blanks.toList_joined '\x7b' '\x7d' _ ▸ readAs_object _ ?_
    rw [List.map_map, List.forall₂_map_left_iff, List.forall₂_same]
    exact fun m hm => ⟨_, by simp [Blanks.member, Blanks.none], ih m hm⟩

theorem readAs_pretty (h : v.Plain levels) (level : Nat) :
    ReadAs levels (v.pretty level).toList v := by
  induction h generalizing level with
  | array _ ih =>
    rw [pretty, prettyItems_eq]
    refine Blanks.toList_bracketed level '[' ']' _ ▸ readAs_array _ ?_
    rw [List.map_map, List.forall₂_map_left_iff, List.forall₂_same]
    exact fun v hv => ih v hv (level + 1)
  | object _ ih =>
    rw [pretty, prettyMembers_eq]
    refine Blanks.toList_bracketed level '\x7b' '\x7d' _ ▸ readAs_object _ ?_
    rw [List.map_map, List.forall₂_map_left_iff, List.forall₂_same]
    exact fun m hm => ⟨_, by simp [Blanks.member, Blanks.lines], ih m hm (level + 1)⟩
  | null => exact readAs_compact .null
  | bool b => exact readAs_compact (.bool b)
  | nat hn => exact readAs_compact (.nat hn)
  | string s => exact readAs_compact (.string s)

end Value.Plain

theorem ReadAs.read_eq {text : String} {v : Value} (h : ReadAs levels text.toList v)
    (hlevels : levels ≤ maxDepth) : read text = ⟨v, false⟩ := by
  have hvalue : readValue (2 * text.toList.length + 2) 0 text.toList = (v, []) := by
    rw [← List.append_nil text.toList]
    exact h.reads (by simp; omega) (by omega) (by decide)
  simp only [read, hvalue]
  rfl

end Mockup.Json
