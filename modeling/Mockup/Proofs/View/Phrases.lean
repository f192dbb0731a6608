import Mockup.Proofs.Decimal.Numeric
import Mockup.Proofs.Swift.Uses
import Mockup.Proofs.Text.Quoted
import Mockup.View.Composition

/-!
# Values in a view

The names, numbers and colours that a view spells out are code and use nothing of the view model.
-/

namespace Mockup

open Swift

theorem Text.phrase_camelCase (name : String) : Phrase (Text.camelCase name).toList [] := by
  refine phrase_name fun c hc => ?_
  rw [isNameChar, Text.isAlphanum_of_mem_camelCase name c hc]
  rfl

namespace Decimal

theorem phrase_designValue (x : Float) : Phrase (designValue x).toList [] := by
  have hnumeric := numeric_designValue x
  have hnone : usesIn (designValue x).toList = [] := usesIn_eq_nil fun hv =>
    absurd (hnumeric 'v' hv) (by decide)
  rw [← hnone]
  refine phrase_plain fun c hc => ?_
  have hc := hnumeric c hc
  constructor
  · rintro rfl
    exact absurd hc (by decide)
  · rintro rfl
    exact absurd hc (by decide)

end Decimal

private theorem Spacing.phrase_token {value : Float} {name : String}
    (h : token? value = some name) :
    Phrase ("." ++ name).toList [] := by
  obtain ⟨entry, hentry, rfl⟩ := Option.map_eq_some_iff.1 h
  have hall : ∀ name ∈ tokens.map Prod.snd, Phrase ("." ++ name).toList [] := by
    unfold tokens
    simp only [List.map_cons, List.map_nil]
    decide
  exact hall _ (List.mem_map_of_mem (List.mem_of_find?_eq_some hentry))

theorem Spacing.phrase_ofLength (value : Float) : Phrase (ofLength value).display.toList [] := by
  rw [ofLength]
  split
  · next h => exact phrase_token h
  · exact Decimal.phrase_designValue value

theorem Spacing.phrase_ofGap (value : Float) : Phrase (ofGap value).display.toList [] := by
  rw [ofGap]
  split
  · exact Decimal.phrase_designValue _
  · exact phrase_ofLength value

namespace Rgb

private theorem escapeChar_digitChar (n : Nat) :
    Text.Quoted.escapeChar (Nat.digitChar n) = [Nat.digitChar n] := by
  rw [Text.Quoted.escapeChar.eq_def]
  split
  · next h => exact absurd h (Nat.digitChar_ne _ (by decide))
  · next h => exact absurd h (Nat.digitChar_ne _ (by decide))
  · next h => exact absurd h (Nat.digitChar_ne _ (by decide))
  · next h => exact absurd h (Nat.digitChar_ne _ (by decide))
  · next h => exact absurd h (Nat.digitChar_ne _ (by decide))
  · rfl

theorem escapeChar_of_mem_hex (color : Rgb) :
    ∀ c ∈ color.hex.toList, Text.Quoted.escapeChar c = [c] := by
  intro c hc
  rw [hex, String.toList_append, List.mem_append] at hc
  rcases hc with hc | hc
  · rw [List.mem_singleton.1 hc]
    rfl
  · rw [String.toList_join, List.mem_flatMap] at hc
    obtain ⟨byte, hbyte, hc⟩ := hc
    obtain ⟨n, -, rfl⟩ := List.mem_map.1 hbyte
    rw [hexByte, String.toList_ofList] at hc
    rcases List.mem_cons.1 hc with rfl | hc
    · exact escapeChar_digitChar _
    · rw [List.mem_singleton.1 hc]
      exact escapeChar_digitChar _

theorem phrase_hex (color : Rgb) :
    Phrase ("Color(hex: \"" ++ color.hex ++ "\")").toList [] := by
  have hquoted : "Color(hex: \"" ++ color.hex ++ "\")" =
      "Color(hex: " ++ Text.Quoted.encode color.hex ++ ")" := by
    rw [Text.Quoted.encode_eq (escapeChar_of_mem_hex color)]
    have hopen : "Color(hex: \"" = "Color(hex: " ++ "\"" := rfl
    have hclose : "\")" = "\"" ++ ")" := rfl
    rw [hopen, hclose]
    simp only [String.append_assoc]
  have hleads : Leads "Color(hex: ".toList [] := by decide
  have hfollows : Follows ' ' ")".toList [] := by decide
  rw [hquoted, String.append_assoc, String.toList_append, String.toList_append]
  exact hleads.append ((phrase_quoted color.hex).append hfollows)

end Rgb

end Mockup
