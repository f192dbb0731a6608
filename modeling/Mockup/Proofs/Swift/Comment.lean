import Mockup.Proofs.Swift.Scan

/-!
# Comments around texts

Where a comment ends into which a text has been put. It ends with the mark behind the text exactly
if the comments that the text opens are those that it closes.
-/

namespace Mockup.Swift

/-- What is behind the place where a scan comes back to code. -/
def behind? : Mode → List Char → Option (List Char)
  | .code, rest => some rest
  | _, [] => none
  | m, c :: rest => behind? (m.next c) rest

/-- What is behind a comment, told from what is behind its opening mark. -/
def behindComment? (cs : List Char) : Option (List Char) :=
  behind? (.blockComment 0) cs

/-- How many inner comments are open behind a text in a comment, when so many are open before it.
There is no answer if the text ends the comment. -/
def openAfter? : Nat → List Char → Option Nat
  | inner, '/' :: '*' :: rest => openAfter? (inner + 1) rest
  | 0, '*' :: '/' :: _ => none
  | inner + 1, '*' :: '/' :: rest => openAfter? inner rest
  | inner, _ :: rest => openAfter? inner rest
  | inner, [] => some inner

/-- The comments that the text opens are those that it closes. -/
def Nests (cs : List Char) : Prop :=
  openAfter? 0 cs = some 0

instance (cs : List Char) : Decidable (Nests cs) :=
  inferInstanceAs (Decidable (_ = _))

private theorem behind?_suffix {m : Mode} {cs rest : List Char} (h : behind? m cs = some rest) :
    rest <:+ cs := by
  fun_induction behind? m cs with
  | case1 cs =>
    cases h
    exact List.suffix_refl _
  | case2 => cases h
  | case3 m c cs hm ih => exact (ih h).trans (List.suffix_cons c cs)

theorem behind?_blockSlash {cs : List Char} (h : cs.head? ≠ some '*') (d : Nat) :
    behind? (.blockSlash d) cs = behind? (.blockComment d) cs := by
  cases cs with
  | nil => rfl
  | cons c cs =>
    have hc : c ≠ '*' := by simpa using h
    simp [behind?, Mode.next, hc]

theorem behind?_blockStar {cs : List Char} (h : cs.head? ≠ some '/') (d : Nat) :
    behind? (.blockStar d) cs = behind? (.blockComment d) cs := by
  cases cs with
  | nil => rfl
  | cons c cs =>
    have hc : c ≠ '/' := by simpa using h
    simp [behind?, Mode.next, hc]

theorem behind?_ne_self (d : Nat) (cs : List Char) : behind? (.blockComment d) cs ≠ some cs := by
  cases cs with
  | nil => nofun
  | cons c cs =>
    intro h
    have hrest : behind? (Mode.next (.blockComment d) c) cs = some (c :: cs) := h
    have hlength := (behind?_suffix hrest).length_le
    rw [List.length_cons] at hlength
    omega

theorem behind?_cons {c : Char} {cs : List Char} (hopen : c = '/' → cs.head? ≠ some '*')
    (hclose : c = '*' → cs.head? ≠ some '/') (d : Nat) :
    behind? (.blockComment d) (c :: cs) = behind? (.blockComment d) cs := by
  have hnext : behind? (.blockComment d) (c :: cs) =
      behind? (Mode.next (.blockComment d) c) cs := rfl
  rw [hnext]
  by_cases hslash : c = '/'
  · rw [Mode.next, if_pos hslash, behind?_blockSlash (hopen hslash)]
  · by_cases hstar : c = '*'
    · rw [Mode.next, if_neg hslash, if_pos hstar, behind?_blockStar (hclose hstar)]
    · rw [Mode.next, if_neg hslash, if_neg hstar]

private theorem head?_append_blank {cs : List Char} {c : Char} (hc : c ≠ ' ') (tail : List Char)
    (h : cs.head? ≠ some c) : (cs ++ ' ' :: tail).head? ≠ some c := by
  cases cs with
  | nil => simpa using hc.symm
  | cons d cs => simpa using h

/-- A scan passes a text in a comment unless the text ends the comment. The blank behind the text
keeps its last character apart from what follows. -/
theorem behind?_append_blank (d : Nat) (cs tail : List Char) :
    match openAfter? d cs with
    | some e => behind? (.blockComment d) (cs ++ ' ' :: tail) = behind? (.blockComment e) tail
    | none =>
      ∃ inner, behind? (.blockComment d) (cs ++ ' ' :: tail) = some (inner ++ ' ' :: tail) := by
  fun_induction openAfter? d cs with
  | case1 d rest ih => exact ih
  | case2 rest => exact ⟨rest, by simp [behind?, Mode.next]⟩
  | case3 d rest ih => exact ih
  | case4 d c rest hopen hclose hcloseInner ih =>
    have hstar (hc : c = '/') : rest.head? ≠ some '*' := by
      intro hhead
      obtain ⟨after, rfl⟩ := List.head?_eq_some_iff.1 hhead
      exact hopen after hc rfl
    have hslash (hc : c = '*') : rest.head? ≠ some '/' := by
      intro hhead
      obtain ⟨after, rfl⟩ := List.head?_eq_some_iff.1 hhead
      cases d with
      | zero => exact hclose after rfl hc rfl
      | succ d => exact hcloseInner d after rfl hc rfl
    have hblank : '*' ≠ ' ' ∧ '/' ≠ ' ' := by decide
    rw [List.cons_append, behind?_cons (fun hc => head?_append_blank hblank.1 tail (hstar hc))
      fun hc => head?_append_blank hblank.2 tail (hslash hc)]
    exact ih
  | case5 d =>
    have hblank : ' ' ≠ '/' ∧ ' ' ≠ '*' := by decide
    exact behind?_cons (fun hc => absurd hc hblank.1) (fun hc => absurd hc hblank.2) d

/-- A comment around a text ends with the mark behind the text exactly if the comments in the text
come in pairs. -/
theorem behindComment?_eq_some_iff (name body : List Char) :
    behindComment? (' ' :: name ++ ' ' :: '*' :: '/' :: body) = some body ↔ Nests name := by
  have hblank : ' ' ≠ '/' ∧ ' ' ≠ '*' := by decide
  have hname := behind?_append_blank 0 name ('*' :: '/' :: body)
  rw [behindComment?, List.cons_append,
    behind?_cons (fun hc => absurd hc hblank.1) (fun hc => absurd hc hblank.2), Nests]
  cases hopen : openAfter? 0 name with
  | none =>
    rw [hopen] at hname
    obtain ⟨inner, hinner⟩ := hname
    rw [hinner]
    constructor
    · intro h
      have hlength := congrArg List.length (Option.some.inj h)
      simp only [List.length_append, List.length_cons] at hlength
      omega
    · nofun
  | some depth =>
    rw [hopen] at hname
    dsimp only at hname
    rw [hname]
    cases depth with
    | zero => simp [behind?, Mode.next]
    | succ depth =>
      have hmark : behind? (.blockComment (depth + 1)) ('*' :: '/' :: body) =
          behind? (.blockComment depth) body := by
        simp [behind?, Mode.next]
      rw [hmark]
      simp [behind?_ne_self]

/-- The modes of code and of the comments that an end mark ends. -/
def Mode.comesBack : Mode → Bool
  | code | blockComment _ | blockSlash _ | blockStar _ => true
  | _ => false

/-- A scan of a comment stays in it or comes back to code. -/
theorem Mode.comesBack_next {m : Mode} (hm : m.comesBack = true) (hcode : m ≠ .code) (c : Char) :
    (m.next c).comesBack = true ∧ m.keeps c = decide (c = '\n') := by
  cases m with
  | code => contradiction
  | blockComment d | blockSlash d =>
    refine ⟨?_, rfl⟩
    rw [next]
    split
    · rfl
    · split <;> rfl
  | blockStar d =>
    refine ⟨?_, rfl⟩
    rw [next.eq_def]
    dsimp only
    split
    · cases d <;> rfl
    · split <;> rfl
  | _ => cases hm

/-- Of the text up to the end of a comment, only the line feeds belong to the code. -/
theorem codeOf_of_behind? {m : Mode} (hm : m.comesBack = true) {cs rest : List Char}
    (h : behind? m cs = some rest) :
    ∃ inside, cs = inside ++ rest ∧
      codeOf m cs = inside.filter (· = '\n') ++ codeOf .code rest := by
  fun_induction behind? m cs with
  | case1 cs =>
    cases h
    exact ⟨[], rfl, rfl⟩
  | case2 => cases h
  | case3 m c cs hcode ih =>
    have hnext := Mode.comesBack_next hm hcode c
    obtain ⟨inside, hsplit, hinside⟩ := ih hnext.1 h
    refine ⟨c :: inside, by rw [hsplit]; rfl, ?_⟩
    rw [codeOf, hinside, hnext.2, List.filter_cons]
    split
    · rfl
    · rfl

private theorem chunks_blanks {blanks : List Char} (h : ∀ c ∈ blanks, Text.isBlank c = true)
    (cs : List Char) : chunks (blanks ++ cs) = chunks cs := by
  induction blanks with
  | nil => rfl
  | cons c blanks ih =>
    rw [List.forall_mem_cons] at h
    rw [List.cons_append, chunks_cons_blank h.1, ih h.2]

/-- A text in a comment adds only blanks to the code around it, in front of a blank. -/
theorem chunks_codeOf_comment {front : List Char} (hfront : modeAfter .code front = .blockComment 0)
    {name : List Char} (hname : Nests name) (body : List Char) :
    chunks (codeOf .code (front ++ (' ' :: name ++ ' ' :: '*' :: '/' :: ' ' :: body))) =
      chunks (codeOf .code front) ++ chunks (codeOf .code body) := by
  have hbehind : behind? (.blockComment 0) (' ' :: name ++ ' ' :: '*' :: '/' :: ' ' :: body) =
      some (' ' :: body) := (behindComment?_eq_some_iff name (' ' :: body)).2 hname
  obtain ⟨inside, -, hcode⟩ := codeOf_of_behind? rfl hbehind
  have hfeeds : ∀ c ∈ inside.filter (· = '\n'), Text.isBlank c = true := by
    intro c hc
    rw [of_decide_eq_true (List.mem_filter.1 hc).2]
    decide
  have hblank : codeOf .code (' ' :: body) = ' ' :: codeOf .code body := rfl
  rw [codeOf_append, hfront, hcode, hblank]
  cases hinside : inside.filter (· = '\n') with
  | nil => exact chunks_append_blank (by decide) _ _
  | cons c blanks =>
    rw [hinside, List.forall_mem_cons] at hfeeds
    rw [List.cons_append, chunks_append_blank hfeeds.1, chunks_blanks hfeeds.2,
      chunks_cons_blank (by decide)]

end Mockup.Swift
