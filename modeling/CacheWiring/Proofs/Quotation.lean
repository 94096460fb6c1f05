import CacheWiring.Number.Numeral
import CacheWiring.Text.Quoted
import Mathlib.Tactic.IntervalCases

namespace CacheWiring

namespace Numeral

theorem digitsValue?_concat {base n digit : Nat} {cs : List Char} {c : Char}
    (hn : digitsValue? base cs = some n) (hc : Text.digitValue? c = some digit)
    (hd : digit < base) : digitsValue? base (cs ++ [c]) = some (n * base + digit) := by
  unfold digitsValue? at hn ⊢
  rw [List.foldl_append, hn]
  simp [hc, hd]

theorem digitValue?_digitChar {digit : Nat} (hd : digit < 16) :
    Text.digitValue? digit.digitChar = some digit := by
  interval_cases digit <;> decide

theorem digitsValue?_toDigits {base : Nat} (hb : 1 < base) (hs : base ≤ 16) (n : Nat) :
    digitsValue? base (Nat.toDigits base n) = some n := by
  induction n using Nat.strong_induction_on with
  | _ n ih =>
    rw [Nat.toDigits_eq_if hb]
    split
    · rename_i hn
      have hdigit := digitValue?_digitChar (show n < 16 by omega)
      simp [digitsValue?, hdigit, hn]
    · rename_i hn
      have hless : n / base < n := Nat.div_lt_self (by omega) hb
      have hlast : n % base < base := Nat.mod_lt n (by omega)
      rw [digitsValue?_concat (ih _ hless) (digitValue?_digitChar (by omega)) hlast,
        Nat.div_add_mod']

end Numeral

namespace Text

theorem toChar_ofChar (c : Char) : (CodePoint.ofChar c).toChar = c := by
  have hvalid := c.valid
  simp only [UInt32.isValidChar, Nat.isValidChar] at hvalid
  have hval : (CodePoint.ofChar c).val = c.toNat := rfl
  have hnat : c.toNat = c.val.toNat := rfl
  have hwhole : (CodePoint.ofChar c).isHalf = false := by
    simp only [CodePoint.isHalf, hval, Bool.and_eq_false_iff, decide_eq_false_iff_not]
    omega
  simp [CodePoint.toChar, hwhole, hval, Char.ofNat_toNat]

theorem chars_ofChars (cs : List Char) : chars (ofChars cs) = cs := by
  simp only [chars, ofChars, List.map_map]
  exact (List.map_congr_left fun c _ => toChar_ofChar c).trans cs.map_id

end Text

end CacheWiring
