import Mathlib.Data.List.Basic
import Mathlib.Tactic.Common
import Mockup.Text.Quoted

/-!
# Quoted texts
-/

namespace Mockup.Text.Quoted

theorem encode_eq {s : String} (h : ∀ c ∈ s.toList, escapeChar c = [c]) :
    encode s = "\"" ++ s ++ "\"" := by
  have hchars : s.toList.flatMap escapeChar = s.toList := by
    rw [List.flatMap_congr h, List.flatMap_singleton']
  rw [← String.toList_inj, encode, String.toList_ofList, encodeChars, hchars]
  simp

private theorem notMem_escapeChar {d : Char} (hd : d ∈ ['\n', '\r']) (c : Char) :
    d ∉ escapeChar c := by
  have hd : d = '\n' ∨ d = '\r' := by simpa using hd
  rw [escapeChar.eq_def]
  split
  case h_6 hfeed hreturn _ =>
    intro hmem
    rw [List.mem_singleton.1 hmem] at hd
    exact hd.elim hfeed hreturn
  all_goals rcases hd with rfl | rfl <;> decide

theorem notMem_encode {d : Char} (hd : d ∈ ['\n', '\r']) (s : String) :
    d ∉ (encode s).toList := by
  have hquote : d ≠ '"' := by
    rintro rfl
    revert hd
    decide
  rw [encode, String.toList_ofList, encodeChars, List.mem_append, List.mem_cons]
  rintro ((h | hinside) | h)
  · exact hquote h
  · obtain ⟨c, -, hc⟩ := List.mem_flatMap.1 hinside
    exact notMem_escapeChar hd c hc
  · exact hquote (List.mem_singleton.1 h)

end Mockup.Text.Quoted
