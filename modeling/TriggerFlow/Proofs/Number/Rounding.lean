import TriggerFlow.Number.Binary64
import Mathlib.Algebra.Order.Field.Power
import Mathlib.Data.Rat.Cast.Order
import Mathlib.Tactic.FieldSimp
import Mathlib.Tactic.Linarith
import Mathlib.Tactic.NormNum
import Mathlib.Tactic.Positivity
import Mathlib.Tactic.Ring

/-!
# What rounds to a number

A finite number of the format is `significand * 2 ^ exponent`. The ratios that round to it reach halfway to its
neighbours, and just a quarter below a power of two, where the lower neighbour is nearer; the ends round to it where the
significand is even. Every ratio between these ends is rounded to the number, from the search for its binade to the
carry into the next one.
-/

namespace TriggerFlow

theorem twoTo_cast (n : Nat) : (twoTo n : ℚ) = 2 ^ n := by
  rw [show twoTo n = 2 ^ n from rfl]
  exact Nat.cast_pow 2 n

theorem twoTo_pos (n : Nat) : 0 < twoTo n := Nat.two_pow_pos n

/-- A power with a whole exponent that is not negative. -/
theorem twoTo_toNat {e : Int} (up : 0 ≤ e) : (twoTo e.toNat : ℚ) = 2 ^ e := by
  obtain ⟨n, rfl⟩ := Int.eq_ofNat_of_zero_le up
  rw [twoTo_cast]
  rfl

/-- A power with a negative exponent, by its reciprocal. -/
theorem twoTo_neg_toNat {e : Int} (down : ¬ 0 ≤ e) : (twoTo (-e).toNat : ℚ) = (2 ^ e)⁻¹ := by
  rw [twoTo_toNat (by omega), zpow_neg]

namespace Binary64

/-- A quotient is rounded to an integer at most a half away from it, a tie to an even one. -/
theorem roundDiv_eq {num den m : Nat} (positive : 0 < den) (low : (m : ℚ) - 1 / 2 ≤ num / den)
    (high : (num : ℚ) / den ≤ m + 1 / 2)
    (odd : m % 2 = 1 → (m : ℚ) - 1 / 2 < num / den ∧ (num : ℚ) / den < m + 1 / 2) : roundDiv num den = m := by
  have den_pos : (0 : ℚ) < den := by exact_mod_cast positive
  have split := Nat.div_add_mod num den
  have small := Nat.mod_lt num positive
  rw [le_div_iff₀ den_pos] at low
  rw [div_le_iff₀ den_pos] at high
  have low : 2 * (m * den) ≤ 2 * num + den := by
    have : (2 : ℚ) * (m * den) ≤ 2 * num + den := by linarith
    exact_mod_cast this
  have high : 2 * num ≤ 2 * (m * den) + den := by
    have : (2 : ℚ) * num ≤ 2 * (m * den) + den := by linarith
    exact_mod_cast this
  have odd : m % 2 = 1 → 2 * (m * den) < 2 * num + den ∧ 2 * num < 2 * (m * den) + den := by
    intro isOdd
    obtain ⟨low, high⟩ := odd isOdd
    rw [lt_div_iff₀ den_pos] at low
    rw [div_lt_iff₀ den_pos] at high
    constructor
    · have : (2 : ℚ) * (m * den) < 2 * num + den := by linarith
      exact_mod_cast this
    · have : (2 : ℚ) * num < 2 * (m * den) + den := by linarith
      exact_mod_cast this
  -- The integer is the whole part of the quotient or the next one.
  have atLeast : num / den ≤ m := by
    by_contra less
    have : (m + 1) * den ≤ num / den * den := Nat.mul_le_mul_right den (by omega)
    have := Nat.add_mul m 1 den
    have := Nat.mul_comm den (num / den)
    omega
  have atMost : m ≤ num / den + 1 := by
    by_contra more
    have : (num / den + 2) * den ≤ m * den := Nat.mul_le_mul_right den (by omega)
    have := Nat.add_mul (num / den) 2 den
    have := Nat.mul_comm den (num / den)
    omega
  have comm := Nat.mul_comm den (num / den)
  unfold roundDiv
  dsimp only
  rcases (by omega : m = num / den ∨ m = num / den + 1) with here | next
  · rw [if_neg, here]
    rw [here] at high odd
    omega
  · have grown := Nat.add_mul (num / den) 1 den
    rw [if_pos, next]
    rw [next] at low odd
    omega

/-- A ratio reaches a power of two as the comparison of whole numbers tells. -/
theorem reaches_iff {num den : Nat} (positive : 0 < den) (e : Int) :
    (if 0 ≤ e then den * twoTo e.toNat ≤ num else den ≤ num * twoTo (-e).toNat) ↔ (2 : ℚ) ^ e ≤ num / den := by
  have den_pos : (0 : ℚ) < den := by exact_mod_cast positive
  have power : (0 : ℚ) < 2 ^ e := by positivity
  rw [le_div_iff₀ den_pos]
  split
  · rename_i up
    rw [← twoTo_toNat up, mul_comm]
    exact_mod_cast Iff.rfl
  · rename_i down
    have scaled : ((den ≤ num * twoTo (-e).toNat : Prop)) ↔ (den : ℚ) ≤ num * (2 ^ e)⁻¹ := by
      rw [← twoTo_neg_toNat down]
      exact_mod_cast Iff.rfl
    rw [scaled, ← div_eq_mul_inv, le_div_iff₀ power, mul_comm]

/-- The binade of a positive ratio. -/
theorem log2Ratio_spec {num den : Nat} (some : 0 < num) (positive : 0 < den) :
    (2 : ℚ) ^ log2Ratio num den ≤ num / den ∧ (num : ℚ) / den < 2 ^ (log2Ratio num den + 1) := by
  have den_pos : (0 : ℚ) < den := by exact_mod_cast positive
  have two : (2 : ℚ) ≠ 0 := by norm_num
  have numLow : (2 : ℚ) ^ (num.log2 : Int) ≤ num := by exact_mod_cast Nat.log2_self_le (by omega)
  have numHigh : (num : ℚ) < 2 ^ ((num.log2 : Int) + 1) := by exact_mod_cast Nat.lt_log2_self
  have denLow : (2 : ℚ) ^ (den.log2 : Int) ≤ den := by exact_mod_cast Nat.log2_self_le (by omega)
  have denHigh : (den : ℚ) < 2 ^ ((den.log2 : Int) + 1) := by exact_mod_cast Nat.lt_log2_self
  have atLeast : (2 : ℚ) ^ ((num.log2 : Int) - den.log2 - 1) ≤ num / den := by
    rw [le_div_iff₀ den_pos]
    calc (2 : ℚ) ^ ((num.log2 : Int) - den.log2 - 1) * den
        ≤ 2 ^ ((num.log2 : Int) - den.log2 - 1) * 2 ^ ((den.log2 : Int) + 1) := by gcongr
      _ = 2 ^ (num.log2 : Int) := by
        rw [← zpow_add₀ two]
        congr 1
        ring
      _ ≤ num := numLow
  have atMost : (num : ℚ) / den < 2 ^ ((num.log2 : Int) - den.log2 + 1) := by
    rw [div_lt_iff₀ den_pos]
    calc (num : ℚ) < 2 ^ ((num.log2 : Int) + 1) := numHigh
      _ = 2 ^ ((num.log2 : Int) - den.log2 + 1) * 2 ^ (den.log2 : Int) := by
        rw [← zpow_add₀ two]
        congr 1
        ring
      _ ≤ 2 ^ ((num.log2 : Int) - den.log2 + 1) * den := by gcongr
  unfold log2Ratio
  dsimp only
  by_cases reaches : (2 : ℚ) ^ ((num.log2 : Int) - den.log2) ≤ num / den
  · rw [if_pos ((reaches_iff positive _).mpr reaches)]
    exact ⟨reaches, atMost⟩
  · rw [if_neg (mt (reaches_iff positive _).mp reaches)]
    exact ⟨atLeast, by simpa using reaches⟩

/-- A finite magnitude in the form that the format keeps: of full length, or on the finest grid. -/
structure Normal (significand : Nat) (exponent : Int) : Prop where
  short : significand < 2 ^ 53
  lowest : -1074 ≤ exponent
  highest : exponent ≤ 971
  full : 2 ^ 52 ≤ significand ∨ exponent = -1074

/-- Halfway to the neighbour below, which is nearer below a power of two. -/
def lowEnd (significand : Nat) (exponent : Int) : ℚ :=
  (if significand = 2 ^ 52 ∧ -1074 < exponent then (significand : ℚ) - 1 / 4 else significand - 1 / 2) * 2 ^ exponent

/-- Halfway to the neighbour above. -/
def highEnd (significand : Nat) (exponent : Int) : ℚ := ((significand : ℚ) + 1 / 2) * 2 ^ exponent

/-- The ratios that round to `significand * 2 ^ exponent`: the ends are among them where the significand is even. -/
structure RoundsTo (v : ℚ) (significand : Nat) (exponent : Int) : Prop where
  low : lowEnd significand exponent ≤ v
  high : v ≤ highEnd significand exponent
  odd : significand % 2 = 1 → lowEnd significand exponent < v ∧ v < highEnd significand exponent

/-- The bits of `significand * 2 ^ exponent`. -/
def magnitude (significand : Nat) (exponent : Int) : Nat := (exponent + 1074).toNat * twoTo 52 + significand

/-- A ratio on the grid of an exponent, rounded there. -/
theorem roundDiv_scaled {num den m : Nat} (positive : 0 < den) (e : Int)
    (low : ((m : ℚ) - 1 / 2) * 2 ^ e ≤ num / den) (high : (num : ℚ) / den ≤ (m + 1 / 2) * 2 ^ e)
    (odd : m % 2 = 1 → ((m : ℚ) - 1 / 2) * 2 ^ e < num / den ∧ (num : ℚ) / den < (m + 1 / 2) * 2 ^ e) :
    (if 0 ≤ e then roundDiv num (den * twoTo e.toNat) else roundDiv (num * twoTo (-e).toNat) den) = m := by
  have power : (0 : ℚ) < 2 ^ e := by positivity
  rw [← le_div_iff₀ power] at low
  rw [← div_le_iff₀ power] at high
  rw [← lt_div_iff₀ power, ← div_lt_iff₀ power] at odd
  split
  · rename_i up
    have same : (num : ℚ) / (den * twoTo e.toNat : Nat) = num / den / 2 ^ e := by
      rw [Nat.cast_mul, twoTo_toNat up, div_div]
    refine roundDiv_eq (Nat.mul_pos positive (twoTo_pos _)) ?_ ?_ ?_ <;> rwa [same]
  · rename_i down
    have same : ((num * twoTo (-e).toNat : Nat) : ℚ) / den = num / den / 2 ^ e := by
      rw [Nat.cast_mul, twoTo_neg_toNat down]
      ring
    refine roundDiv_eq positive ?_ ?_ ?_ <;> rwa [same]

theorem RoundsTo.pos {v : ℚ} {s : Nat} {e : Int} (near : RoundsTo v s e) (some : 0 < s) : 0 < v := by
  have one : (1 : ℚ) ≤ s := by exact_mod_cast some
  have power : (0 : ℚ) < 2 ^ e := by positivity
  refine lt_of_lt_of_le (mul_pos ?_ power) near.low
  split <;> linarith

/-- The binade of a ratio that rounds to a number is the number's own; below a power of two it may be the one before. -/
theorem RoundsTo.binade {v : ℚ} {s : Nat} {e : Int} (near : RoundsTo v s e) (normal : Normal s e) {k : Int}
    (low : (2 : ℚ) ^ k ≤ v) (high : v < 2 ^ (k + 1)) : max (-1074) (k - 52) = e ∨
      max (-1074) (k - 52) = e - 1 ∧ s = 2 ^ 52 ∧ -1074 < e ∧ v < 2 ^ (e + 52) := by
  have two : (2 : ℚ) ≠ 0 := by norm_num
  have power : (0 : ℚ) < 2 ^ e := by positivity
  have lowest := normal.lowest
  have short : (s : ℚ) + 1 ≤ 2 ^ 53 := by exact_mod_cast normal.short
  have above : v < 2 ^ (e + 53) := by
    calc v ≤ highEnd s e := near.high
      _ < 2 ^ 53 * 2 ^ e := by
        unfold highEnd
        gcongr
        linarith
      _ = 2 ^ (e + 53) := by
        rw [zpow_add₀ two, mul_comm]
        norm_cast
  have atMost : k < e + 53 := (zpow_lt_zpow_iff_right₀ (by norm_num : (1 : ℚ) < 2)).mp (low.trans_lt above)
  by_cases reaches : (2 : ℚ) ^ (e + 52) ≤ v
  · have atLeast : e + 52 < k + 1 := (zpow_lt_zpow_iff_right₀ (by norm_num : (1 : ℚ) < 2)).mp (reaches.trans_lt high)
    exact .inl (by omega)
  · rw [not_le] at reaches
    have below : k < e + 52 := (zpow_lt_zpow_iff_right₀ (by norm_num : (1 : ℚ) < 2)).mp (low.trans_lt reaches)
    rcases eq_or_ne e (-1074) with finest | coarse
    · exact .inl (by omega)
    · have full : 2 ^ 52 ≤ s := normal.full.resolve_right coarse
      have between : lowEnd s e < 2 ^ 52 * 2 ^ e := by
        refine near.low.trans_lt (reaches.trans_eq ?_)
        rw [zpow_add₀ two, mul_comm]
        norm_cast
      unfold lowEnd at between
      rw [mul_lt_mul_iff_left₀ power] at between
      have least : s = 2 ^ 52 := by
        by_contra other
        rw [if_neg fun both => other both.1] at between
        have more : (2 : ℚ) ^ 52 + 1 ≤ s := by exact_mod_cast lt_of_le_of_ne full (Ne.symm other)
        linarith
      have half : (2 : ℚ) ^ (e + 51) ≤ v := by
        refine le_trans ?_ near.low
        rw [lowEnd, if_pos ⟨least, by omega⟩, zpow_add₀ two, mul_comm, least]
        gcongr
        norm_num
      have atLeast : e + 51 < k + 1 := (zpow_lt_zpow_iff_right₀ (by norm_num : (1 : ℚ) < 2)).mp (half.trans_lt high)
      exact .inr ⟨by omega, least, by omega, reaches⟩

/-- What rounds to a number is at least half the least number. -/
theorem RoundsTo.atLeast {v : ℚ} {s : Nat} {e : Int} (near : RoundsTo v s e) (normal : Normal s e) (some : 0 < s) :
    (2 : ℚ) ^ (-1075 : Int) ≤ v := by
  have two : (2 : ℚ) ≠ 0 := by norm_num
  have one : (1 : ℚ) ≤ s := by exact_mod_cast some
  calc (2 : ℚ) ^ (-1075 : Int) = 2 ^ (-1 : Int) * 2 ^ (-1074 : Int) := by
        rw [← zpow_add₀ two]
        rfl
    _ = 1 / 2 * 2 ^ (-1074 : Int) := by norm_num
    _ ≤ 1 / 2 * 2 ^ e := by
      gcongr
      · norm_num
      · exact normal.lowest
    _ ≤ lowEnd s e := by
      unfold lowEnd
      gcongr
      split <;> linarith
    _ ≤ v := near.low

/-- What rounds to a number is at most the power of two behind the largest number. -/
theorem RoundsTo.atMost {v : ℚ} {s : Nat} {e : Int} (near : RoundsTo v s e) (normal : Normal s e) :
    v ≤ (2 : ℚ) ^ (1024 : Int) := by
  have two : (2 : ℚ) ≠ 0 := by norm_num
  have short : (s : ℚ) + 1 ≤ 2 ^ 53 := by exact_mod_cast normal.short
  calc v ≤ highEnd s e := near.high
    _ ≤ 2 ^ 53 * 2 ^ (971 : Int) := by
      unfold highEnd
      gcongr
      · linarith
      · norm_num
      · exact normal.highest
    _ = 2 ^ (53 : Int) * 2 ^ (971 : Int) := by norm_num
    _ = 2 ^ (1024 : Int) := (zpow_add₀ two 53 971).symm

/-- Every ratio between the ends of a number is rounded to the number. -/
theorem ofRatio_eq (negative : Bool) {num den s : Nat} {e : Int} (some : 0 < s) (normal : Normal s e)
    (positive : 0 < den) (near : RoundsTo ((num : ℚ) / den) s e) :
    ofRatio negative num den = ofCode negative (magnitude s e) := by
  have power : (0 : ℚ) < 2 ^ e := by positivity
  have two : (2 : ℚ) ≠ 0 := by norm_num
  have num_pos : 0 < num := by
    by_contra none
    obtain rfl : num = 0 := by omega
    simpa using near.pos some
  have inRange : magnitude s e ≤ 2047 * twoTo 52 := by
    have short := normal.short
    have highest := normal.highest
    simp only [magnitude, show twoTo 52 = 4503599627370496 from rfl]
    omega
  obtain ⟨low, high⟩ := log2Ratio_spec num_pos positive
  unfold ofRatio
  dsimp only
  rw [if_neg (by omega)]
  suffices same : (max (-1074) (log2Ratio num den - 52) + 1074).toNat * twoTo 52 +
      (if 0 ≤ max (-1074) (log2Ratio num den - 52) then
        roundDiv num (den * twoTo (max (-1074) (log2Ratio num den - 52)).toNat)
      else roundDiv (num * twoTo (-max (-1074) (log2Ratio num den - 52)).toNat) den) = magnitude s e by
    rw [same, min_eq_left inRange]
  rcases near.binade normal low high with own | ⟨before, least, coarse, less⟩
  · rw [own, roundDiv_scaled (m := s) positive e ?_ near.high ?_]
    · rfl
    · refine le_trans ?_ near.low
      unfold lowEnd
      gcongr
      split <;> linarith
    · intro isOdd
      obtain ⟨low, high⟩ := near.odd isOdd
      refine ⟨?_, high⟩
      refine lt_of_le_of_lt ?_ low
      unfold lowEnd
      gcongr
      split <;> linarith
  · -- Rounding on the finer grid carries into the binade of the number.
    have finer : (2 : ℚ) ^ (e - 1) * 2 = 2 ^ e := by
      rw [← zpow_add_one₀ two]
      congr 1
      ring
    rw [before, roundDiv_scaled (m := 2 ^ 53) positive (e - 1) ?_ ?_ (by norm_num)]
    · rw [least, magnitude, show twoTo 52 = 4503599627370496 from rfl]
      omega
    · refine le_trans (le_of_eq ?_) near.low
      rw [lowEnd, if_pos ⟨least, coarse⟩, ← finer, least]
      push_cast
      ring
    · refine less.le.trans ?_
      rw [zpow_add₀ two, ← finer]
      have : (0 : ℚ) < 2 ^ (e - 1) := by positivity
      norm_num
      linarith

/-- A finite number is in normal form, and its parts are its bits. -/
theorem shape_finite {x : Binary64} {negative : Bool} {s : Nat} {e : Int} (shape : x.shape = .finite negative s e) :
    Normal s e ∧ x = ofCode negative (magnitude s e) := by
  obtain ⟨bits⟩ := x
  have size := bits.toNat_lt
  have back : bits = UInt64.ofNat bits.toNat := (UInt64.ofNat_toNat).symm
  simp only [Binary64.shape, show twoTo 63 = 9223372036854775808 from rfl,
    show twoTo 52 = 4503599627370496 from rfl] at shape
  split at shape
  · split at shape <;> cases shape
  · split at shape
    all_goals
      injection shape with sign significand exponent
      subst sign significand exponent
      refine ⟨⟨by omega, by omega, by omega, by omega⟩, ?_⟩
      simp only [ofCode, magnitude, decide_eq_true_eq, show twoTo 63 = 9223372036854775808 from rfl,
        show twoTo 52 = 4503599627370496 from rfl, mk.injEq]
      refine back.trans (congrArg UInt64.ofNat ?_)
      split <;> omega

theorem shape_infinite {x : Binary64} {negative : Bool} (shape : x.shape = .infinite negative) :
    x = infinity negative := by
  obtain ⟨bits⟩ := x
  have size := bits.toNat_lt
  have back : bits = UInt64.ofNat bits.toNat := (UInt64.ofNat_toNat).symm
  simp only [Binary64.shape, show twoTo 63 = 9223372036854775808 from rfl,
    show twoTo 52 = 4503599627370496 from rfl] at shape
  split at shape
  · split at shape
    · injection shape with sign
      subst sign
      simp only [infinity, ofCode, decide_eq_true_eq, show twoTo 63 = 9223372036854775808 from rfl,
        show twoTo 52 = 4503599627370496 from rfl, mk.injEq]
      refine back.trans (congrArg UInt64.ofNat ?_)
      split <;> omega
    · cases shape
  · split at shape <;> cases shape

end Binary64

end TriggerFlow
