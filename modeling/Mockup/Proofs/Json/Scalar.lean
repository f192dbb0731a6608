import Mathlib.Data.List.TakeDrop
import Mockup.Json.Reader
import Mockup.Json.Writer

/-!
# Scalars in JSON text

Strings and natural numbers are read from what they are written as, whatever follows them.
-/

namespace Mockup.Json

theorem hexDigit?_digitChar {n : Nat} (h : n < 16) : hexDigit? n.digitChar = some n := by
  have hall : ∀ n < 16, hexDigit? (Nat.digitChar n) = some n := by decide
  exact hall n h

theorem hexValue?_controlCode {n : Nat} (h : n < 0x20) :
    hexValue? ['0', '0', Nat.digitChar (n / 16), Nat.digitChar (n % 16)] = some n := by
  have hhigh : hexDigit? (Nat.digitChar (n / 16)) = some (n / 16) := hexDigit?_digitChar (by omega)
  have hlow : hexDigit? (Nat.digitChar (n % 16)) = some (n % 16) :=
    hexDigit?_digitChar (Nat.mod_lt n (by decide))
  have hzero : hexDigit? '0' = some 0 := rfl
  simp [hexValue?, hhigh, hlow, hzero]
  omega

theorem Unit16.ofCode_toNat {c : Char} (h : c.toNat < 0x20) : ofCode c.toNat = .char c := by
  rw [ofCode, if_neg (by omega), if_neg (by omega), Char.ofNat_toNat]

theorem scanUnits_escapeChar (c : Char) (rest : List Char) :
    scanUnits (escapeChar c ++ rest) = (.char c :: (scanUnits rest).1, (scanUnits rest).2) := by
  rw [escapeChar.eq_def]
  split
  case h_8 hquote hslash _ _ _ _ _ =>
    split
    · next hcontrol =>
      simp only [List.cons_append, List.nil_append, scanUnits, hexValue?_controlCode hcontrol,
        Unit16.ofCode_toNat hcontrol]
    · next hcontrol =>
      rw [List.singleton_append, scanUnits.eq_def]
      split <;> simp_all
  all_goals rfl

theorem scanUnits_escaped (cs rest : List Char) :
    scanUnits (cs.flatMap escapeChar ++ '"' :: rest) = (cs.map .char, .closed rest) := by
  induction cs with
  | nil => rfl
  | cons c cs ih =>
    rw [List.flatMap_cons, List.append_assoc, scanUnits_escapeChar, ih, List.map_cons]

theorem joinUnits?_map_char (cs : List Char) : joinUnits? (cs.map .char) = some cs := by
  induction cs with
  | nil => rfl
  | cons c cs ih => rw [List.map_cons, joinUnits?, ih, Option.map_some]

theorem toList_stringText (s : String) :
    (stringText s).toList = '"' :: (s.toList.flatMap escapeChar ++ ['"']) := by
  simp [stringText]

theorem scanString_escaped (s : String) (rest : List Char) :
    scanString (s.toList.flatMap escapeChar ++ '"' :: rest) = .read (some s) rest := by
  rw [scanString, scanUnits_escaped]
  simp [joinUnits?_map_char]

/-- What follows a number does not go on with it. -/
def EndsNumber (rest : List Char) : Prop :=
  ∀ c ∈ rest.head?, c.isDigit = false ∧ c ≠ '.' ∧ c ≠ 'e' ∧ c ≠ 'E'

instance : (rest : List Char) → Decidable (EndsNumber rest)
  | [] => .isTrue nofun
  | c :: _ => decidable_of_iff (c.isDigit = false ∧ c ≠ '.' ∧ c ≠ 'e' ∧ c ≠ 'E')
      ⟨fun h _ hc => Option.some.inj hc ▸ h, fun h => h c rfl⟩

theorem digitsValue_toDigits (n : Nat) : Decimal.digitsValue (Nat.toDigits 10 n) = n := by
  rw [Decimal.digitsValue, ← Nat.ofDigitChars_eq_foldl, Nat.ofDigitChars_ten_toDigits]

theorem isDigit_of_mem_toDigits {n : Nat} {c : Char} (h : c ∈ Nat.toDigits 10 n) : c.isDigit :=
  Nat.isDigit_of_mem_toDigits (by decide) (by decide) h

theorem exists_toDigits_eq_cons (n : Nat) : ∃ d ds, Nat.toDigits 10 n = d :: ds ∧ d.isDigit := by
  obtain ⟨d, ds, hd⟩ := List.exists_cons_of_ne_nil (Nat.toDigits_ne_nil (n := n) (b := 10))
  exact ⟨d, ds, hd, isDigit_of_mem_toDigits (hd ▸ List.mem_cons_self)⟩

theorem eq_zero_of_head?_toDigits (n : Nat) (h : (Nat.toDigits 10 n).head? = some '0') : n = 0 := by
  induction n using Nat.strongRecOn with
  | ind n ih =>
    by_cases hn : n < 10
    · rw [Nat.toDigits_of_lt_base hn] at h
      exact Nat.digitChar_eq_zero.1 (Option.some.inj h)
    · obtain ⟨d, ds, hd, -⟩ := exists_toDigits_eq_cons (n / 10)
      rw [Nat.toDigits_of_base_le (by decide) (by omega), hd] at h
      have hzero : n / 10 = 0 := ih (n / 10) (by omega) (hd ▸ h)
      omega

theorem span_isDigit_toDigits (n : Nat) {rest : List Char} (h : EndsNumber rest) :
    (Nat.toDigits 10 n ++ rest).span Char.isDigit = (Nat.toDigits 10 n, rest) := by
  have hdigits : ∀ c ∈ Nat.toDigits 10 n, c.isDigit := fun c hc => isDigit_of_mem_toDigits hc
  rw [List.span_eq_takeWhile_dropWhile, List.takeWhile_append_of_pos hdigits,
    List.dropWhile_append_of_pos hdigits]
  cases rest with
  | nil => simp
  | cons c cs => simp [(h c rfl).1]

theorem scanWhole_toDigits (n : Nat) {rest : List Char} (h : EndsNumber rest) :
    scanWhole (Nat.toDigits 10 n ++ rest) = .ok (Nat.toDigits 10 n, rest) := by
  have hdigits : scanDigits (Nat.toDigits 10 n ++ rest) = .ok (Nat.toDigits 10 n, rest) := by
    rw [scanDigits, span_isDigit_toDigits n h]
    split
    · next heq => exact absurd (congrArg Prod.fst heq) Nat.toDigits_ne_nil
    · next heq => exact absurd (congrArg Prod.fst heq) Nat.toDigits_ne_nil
    · next heq => rw [← heq]
  have hzero : ¬((Nat.toDigits 10 n).head? = some '0' ∧ (Nat.toDigits 10 n).length ≠ 1) := by
    rintro ⟨hhead, hlength⟩
    rw [eq_zero_of_head?_toDigits n hhead] at hlength
    exact hlength rfl
  rw [scanWhole, hdigits]
  exact if_neg hzero

theorem EndsNumber.scanFraction {rest : List Char} (h : EndsNumber rest) :
    scanFraction rest = .ok ([], rest) := by
  cases rest with
  | nil => rfl
  | cons c cs =>
    rw [Json.scanFraction.eq_def]
    split
    · next heq => exact absurd (List.cons.inj heq).1 (h c rfl).2.1
    · rfl

theorem EndsNumber.scanExponent {rest : List Char} (h : EndsNumber rest) :
    scanExponent rest = .ok (none, rest) := by
  cases rest with
  | nil => rfl
  | cons c cs =>
    obtain ⟨-, -, hlower, hupper⟩ := h c rfl
    have hother : ¬(c = 'e' ∨ c = 'E') := by simp [hlower, hupper]
    exact if_neg hother

theorem scanNumber_toDigits (n : Nat) {rest : List Char} (h : EndsNumber rest) :
    scanNumber (Nat.toDigits 10 n ++ rest) = .ok (⟨false, Nat.toDigits 10 n, [], none⟩, rest) := by
  rw [scanNumber.eq_def]
  split
  next heq =>
    split at heq
    · next hsign =>
      obtain ⟨d, ds, hd, hdigit⟩ := exists_toDigits_eq_cons n
      rw [hd, List.cons_append] at hsign
      rw [(List.cons.inj hsign).1] at hdigit
      cases hdigit
    · cases heq
      rw [scanWhole_toDigits n h]
      change (Json.scanFraction rest >>= _) = _
      rw [h.scanFraction]
      change (Json.scanExponent rest >>= _) = _
      rw [h.scanExponent]
      rfl

theorem readNumber_toDigits {n : Nat} (hn : n < UInt64.size) {rest : List Char}
    (h : EndsNumber rest) :
    readNumber (Nat.toDigits 10 n ++ rest) = (.number (.int n), rest) := by
  rw [readNumber, scanNumber_toDigits n h]
  simp [NumberText.value?, digitsValue_toDigits, hn]

end Mockup.Json
