import CacheWiring.Schema.Shape
import Mathlib.Algebra.Order.Field.Rat
import Mathlib.Algebra.Order.Ring.Cast
import Mathlib.Order.Compare
import Mathlib.Tactic.NormNum.Basic

namespace CacheWiring

namespace Binary64

def value? : Binary64 → Option ℚ
  | .finite negative significand exponent _ =>
    some ((if negative then -(significand : ℚ) else significand) * 2 ^ exponent)
  | _ => none

theorem ratio_pos (significand : Nat) (exponent : Int) : 0 < (ratio significand exponent).2 := by
  unfold ratio scaled
  split
  · simp
  · exact Nat.one_pos

theorem ratio_eq (significand : Nat) (exponent : Int) :
    ((ratio significand exponent).1 : ℚ) =
      significand * 2 ^ exponent * (ratio significand exponent).2 := by
  have htwo : (2 : ℚ) ≠ 0 := by norm_num
  unfold ratio scaled
  split
  · rename_i hn
    obtain ⟨k, hk⟩ := Int.eq_ofNat_of_zero_le hn
    obtain rfl : exponent = -(k : Int) := by omega
    simp [htwo]
  · rename_i hn
    obtain ⟨k, rfl⟩ := Int.eq_ofNat_of_zero_le (show 0 ≤ exponent by omega)
    simp

/-- The signed numerator of a finite double, over the denominator that `ratio` gives. -/
theorem value?_mul_denominator {negative : Bool} {significand : Nat} {exponent : Int}
    {h : CanonicalPair significand exponent} {q : ℚ}
    (hq : (finite negative significand exponent h).value? = some q) :
    (((if negative then -((ratio significand exponent).1 : Int)
        else (ratio significand exponent).1) : Int) : ℚ) =
      q * (ratio significand exponent).2 := by
  cases hq
  cases negative <;> simp [ratio_eq]

/-- A double counts as whole when it is a whole number. -/
theorem isWhole_iff (x : Binary64) : x.isWhole = true ↔ ∃ n : Int, x.value? = some (n : ℚ) := by
  cases x with
  | nan payload => simp [isWhole, value?]
  | infinite negative => simp [isWhole, value?]
  | finite negative significand exponent h =>
    obtain ⟨q, hq⟩ : ∃ q, (finite negative significand exponent h).value? = some q := ⟨_, rfl⟩
    have hnumerator := value?_mul_denominator hq
    have hpos := ratio_pos significand exponent
    simp only [isWhole, hq, Option.some.injEq, beq_iff_eq]
    generalize ratio significand exponent = r at hnumerator hpos ⊢
    obtain ⟨p, d⟩ := r
    have hd : (d : ℚ) ≠ 0 := by exact_mod_cast hpos.ne'
    dsimp only at hnumerator hpos ⊢
    -- the sign is that of the numerator; it plays no part in divisibility
    constructor
    · intro hm
      obtain ⟨k, rfl⟩ := Nat.dvd_of_mod_eq_zero hm
      refine ⟨if negative then -(k : Int) else k, ?_⟩
      apply mul_right_cancel₀ hd
      rw [← hnumerator]
      cases negative <;> push_cast <;> simp [mul_comm]
    · intro hw
      obtain ⟨n, rfl⟩ := hw
      have hint : (if negative then -(p : Int) else p) = n * d := by exact_mod_cast hnumerator
      have hdvd : (d : Int) ∣ p := by
        cases negative
        · exact ⟨n, by simpa [mul_comm] using hint⟩
        · exact Int.dvd_neg.mp ⟨n, by simpa [mul_comm] using hint⟩
      exact Nat.mod_eq_zero_of_dvd (by exact_mod_cast hdvd)

theorem compareInt_eq {x : Binary64} {q : ℚ} (hq : x.value? = some q) (n : Int) :
    x.compareInt n = some (compare q n) := by
  cases x with
  | nan payload => cases hq
  | infinite negative => cases hq
  | finite negative significand exponent h =>
    have hnumerator := value?_mul_denominator hq
    have hpos := ratio_pos significand exponent
    simp only [compareInt]
    generalize ratio significand exponent = r at hnumerator hpos ⊢
    obtain ⟨p, d⟩ := r
    have hd : (0 : ℚ) < d := by exact_mod_cast hpos
    have hbound : (n : ℚ) * d = ((n * d : Int) : ℚ) := by push_cast; rfl
    dsimp only at hnumerator ⊢
    rw [← cmp_eq_compare q, ← cmp_mul_pos_right hd, ← hnumerator, hbound,
      Int.cast_strictMono.cmp_map_eq, cmp_eq_compare]

end Binary64

namespace Value

/-- A whole number: an integer, or a double that is one. -/
inductive Whole : Value → Int → Prop
  | int (n : Int) : Whole (.int n) n
  | float {x : Binary64} {n : Int} (hx : x.value? = some (n : ℚ)) : Whole (.float x) n

/-- An integer or a double, be it one that is not a number. -/
def IsNumeric (v : Value) : Prop := (∃ n, v = .int n) ∨ ∃ x, v = .float x

/-- At or below a bound. What is not a number is not. -/
inductive AtMost (bound : Int) : Value → Prop
  | int {n : Int} (hn : n ≤ bound) : AtMost bound (.int n)
  | float {x : Binary64} {q : ℚ} (hx : x.value? = some q) (hq : q ≤ bound) : AtMost bound (.float x)
  | negativeInfinity : AtMost bound (.float (.infinite true))

theorem isInteger_iff (v : Value) : v.isInteger = true ↔ ∃ n, v.Whole n := by
  constructor
  · intro hv
    unfold isInteger at hv
    split at hv
    · rename_i n
      exact ⟨n, .int n⟩
    · rename_i x
      obtain ⟨n, hn⟩ := (Binary64.isWhole_iff x).mp hv
      exact ⟨n, .float hn⟩
    · cases hv
  · intro hp
    obtain ⟨n, hn⟩ := hp
    cases hn with
    | int n => rfl
    | float hx => exact (Binary64.isWhole_iff _).mpr ⟨n, hx⟩

theorem isNumber_iff (v : Value) : v.isNumber = true ↔ v.IsNumeric := by
  unfold isNumber IsNumeric
  split <;> simp_all

theorem Whole.compareInt? {v : Value} {n : Int} (hv : v.Whole n) (bound : Int) :
    v.compareInt? bound = some (some (compare n bound)) := by
  cases hv with
  | int n => rfl
  | float hx =>
    have hcompare := Binary64.compareInt_eq hx bound
    rw [← cmp_eq_compare, Int.cast_strictMono.cmp_map_eq, cmp_eq_compare] at hcompare
    exact congrArg some hcompare

theorem Whole.standing {v : Value} {n : Int} (hv : v.Whole n) (bound : Int) :
    v.standing bound = some (compare n bound) := by
  have hnumber : v.isNumber = true := by cases hv <;> rfl
  simp [Value.standing, hnumber, hv.compareInt? bound]

theorem atMost_iff (bound : Int) (v : Value) :
    v.AtMost bound ↔ ∃ order, v.standing bound = some order ∧ order ≠ .gt := by
  constructor
  · intro hv
    cases hv with
    | int hn => exact ⟨_, rfl, compare_le_iff_le.mpr hn⟩
    | float hx hq => exact ⟨_, Binary64.compareInt_eq hx bound, compare_le_iff_le.mpr hq⟩
    | negativeInfinity => exact ⟨.lt, rfl, by decide⟩
  · intro hp
    obtain ⟨order, hs, ho⟩ := hp
    match v with
    | .int n =>
      cases hs
      exact .int (compare_le_iff_le.mp ho)
    | .float (.nan payload) => cases hs
    | .float (.infinite false) =>
      cases hs
      exact absurd rfl ho
    | .float (.infinite true) => exact .negativeInfinity
    | .float (.finite negative significand exponent h) =>
      have hvalue : (Binary64.finite negative significand exponent h).value? = some _ := rfl
      have hstanding := Binary64.compareInt_eq hvalue bound
      cases hs.symm.trans hstanding
      exact .float hvalue (compare_le_iff_le.mp ho)
    | .null | .bool _ | .str _ | .scalar (.special _) | .list _ | .dict _ | .pair .. | .set _
    | .knot .. | .link _ => cases hs

end Value

end CacheWiring
