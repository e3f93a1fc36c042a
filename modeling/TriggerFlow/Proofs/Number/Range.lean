import TriggerFlow.Proofs.Number.Rounding

/-!
# Which integers are in range

The greatest finite number is `(2 ^ 53 - 1) * 2 ^ 971`. An integer is rounded to a finite number as long as it is
nearer to that one than to `2 ^ 1024`; halfway between the two the tie goes up, since the significand below is odd.
-/

namespace TriggerFlow

theorem twoTo_add (m n : Nat) : twoTo (m + n) = twoTo m * twoTo n := Nat.pow_add 2 m n

theorem twoTo_succ (n : Nat) : twoTo (n + 1) = 2 * twoTo n := Nat.pow_succ'

theorem twoTo_mono {m n : Nat} (le : m ≤ n) : twoTo m ≤ twoTo n := Nat.pow_le_pow_right Nat.two_pos le

namespace Binary64

/-- A quotient is rounded to an even integer or above from halfway below it. -/
theorem le_roundDiv_iff {num den half : Nat} (positive : 0 < den) :
    2 * half ≤ roundDiv num den ↔ 4 * half * den ≤ 2 * num + den := by
  have split := Nat.div_add_mod num den
  have small := Nat.mod_lt num positive
  have comm := Nat.mul_comm den (num / den)
  have twice : 4 * half * den = 2 * (2 * half * den) := by ring
  rw [roundDiv, twice]
  rcases Nat.lt_trichotomy (num / den + 1) (2 * half) with below | here | above
  · have : (num / den + 2) * den ≤ 2 * half * den := Nat.mul_le_mul_right den (by omega)
    have := Nat.add_mul (num / den) 2 den
    constructor
    · intro reached
      split at reached <;> omega
    · intro near
      omega
  · -- The next integer is the even one, so a tie goes up to it.
    have := Nat.add_mul (num / den) 1 den
    rw [← here]
    constructor
    · intro reached
      split at reached <;> omega
    · intro near
      rw [if_pos (by omega)]
  · have : 2 * half * den ≤ num / den * den := Nat.mul_le_mul_right den (by omega)
    constructor
    · intro reached
      omega
    · intro near
      split <;> omega

/-- A quotient below an integer is not rounded beyond it. -/
theorem roundDiv_le {num den m : Nat} (positive : 0 < den) (below : num ≤ m * den) : roundDiv num den ≤ m := by
  have split := Nat.div_add_mod num den
  have comm := Nat.mul_comm den (num / den)
  have whole : num / den ≤ m := Nat.div_le_of_le_mul (by rwa [Nat.mul_comm])
  rw [roundDiv]
  split
  · rename_i up
    have : num / den ≠ m := by
      intro same
      rw [same] at split comm
      omega
    omega
  · exact whole

/-- An integer lies between the power of two that its binade begins with and the next one. -/
theorem log2_bounds {num : Nat} (some : num ≠ 0) : twoTo num.log2 ≤ num ∧ num < twoTo (num.log2 + 1) :=
  ⟨Nat.log2_self_le some, Nat.lt_log2_self⟩

theorem log2Ratio_one {num : Nat} (some : num ≠ 0) : log2Ratio num 1 = num.log2 := by
  have reaches : twoTo num.log2 ≤ num := (log2_bounds some).1
  have one : Nat.log2 1 = 0 := by decide
  simp [log2Ratio, one, reaches]

/-- Bits are finite below the highest exponent. -/
theorem isFinite_iff (x : Binary64) : x.isFinite = true ↔ x.bits.toNat / twoTo 52 % 2048 ≠ 2047 := by
  rw [isFinite, shape]
  by_cases highest : x.bits.toNat / twoTo 52 % 2048 = 2047
  · rw [if_pos highest]
    by_cases infinite : x.bits.toNat % twoTo 52 = 0 <;> simp [infinite, highest]
  · rw [if_neg highest]
    by_cases lowest : x.bits.toNat / twoTo 52 % 2048 = 0 <;> simp [lowest, highest]

theorem isFinite_ofCode (negative : Bool) {code : Nat} (size : code ≤ 2047 * twoTo 52) :
    (ofCode negative code).isFinite = true ↔ code < 2047 * twoTo 52 := by
  have fraction : twoTo 52 = 4503599627370496 := rfl
  have sign : twoTo 63 = 9223372036854775808 := rfl
  have bits : (ofCode negative code).bits.toNat = if negative then code + twoTo 63 else code := by
    rw [ofCode, UInt64.toNat_ofNat']
    refine Nat.mod_eq_of_lt ?_
    split <;> omega
  rw [isFinite_iff, bits, fraction, sign]
  rw [fraction] at size
  split <;> omega

/-- On the grid of its binade an integer has 53 bits, or the next power of two after rounding. -/
theorem grid_bounds {num e : Nat} (some : num ≠ 0) (grid : num.log2 = e + 52) :
    twoTo 52 ≤ roundDiv num (twoTo e) ∧ roundDiv num (twoTo e) ≤ twoTo 53 := by
  obtain ⟨low, high⟩ := log2_bounds some
  rw [grid, Nat.add_assoc, Nat.add_comm, twoTo_add] at high
  rw [grid, Nat.add_comm, twoTo_add] at low
  constructor
  · have size : twoTo 52 = 2 * twoTo 51 := twoTo_succ 51
    have reached : twoTo 52 * twoTo e = 2 * twoTo 51 * twoTo e := by rw [size]
    have twice : 4 * twoTo 51 * twoTo e = 2 * (2 * twoTo 51 * twoTo e) := by ring
    rw [size, le_roundDiv_iff (twoTo_pos e)]
    omega
  · exact roundDiv_le (twoTo_pos e) high.le

/-- The bits of an integer come to those of infinity from halfway above the greatest finite number. -/
theorem integer_reaches_iff {num : Nat} (some : num ≠ 0) :
    2047 * twoTo 52 ≤ (max (-1074) ((num.log2 : Int) - 52) + 1074).toNat * twoTo 52 +
      (if 0 ≤ max (-1074) ((num.log2 : Int) - 52) then
        roundDiv num (1 * twoTo (max (-1074) ((num.log2 : Int) - 52)).toNat)
      else roundDiv (num * twoTo (-max (-1074) ((num.log2 : Int) - 52)).toNat) 1) ↔
    twoTo 1024 - twoTo 970 ≤ num := by
  obtain ⟨low, high⟩ := log2_bounds some
  have size : twoTo 52 = 4503599627370496 := rfl
  have double : twoTo 53 = 9007199254740992 := rfl
  have above : twoTo 1024 = 2 * twoTo 1023 := twoTo_succ 1023
  have half : twoTo 1023 = 9007199254740992 * twoTo 970 := by rw [← double, ← twoTo_add]
  by_cases small : num.log2 < 52
  · have exponent : max (-1074) ((num.log2 : Int) - 52) = -(52 - num.log2 : Nat) := by omega
    have below : twoTo (num.log2 + 1) * twoTo (52 - num.log2) = twoTo 53 := by
      rw [← twoTo_add, show num.log2 + 1 + (52 - num.log2) = 53 by omega]
    have bounded : roundDiv (num * twoTo (52 - num.log2)) 1 ≤ twoTo 53 := by
      refine roundDiv_le Nat.one_pos ?_
      rw [Nat.mul_one, ← below]
      exact Nat.mul_le_mul_right _ high.le
    have less : twoTo (num.log2 + 1) ≤ twoTo 970 := twoTo_mono (by omega)
    rw [exponent, if_neg (by omega), neg_neg, Int.toNat_natCast, size]
    omega
  · obtain ⟨e, grid⟩ := Nat.exists_eq_add_of_le' (Nat.le_of_not_lt small)
    have exponent : max (-1074) ((num.log2 : Int) - 52) = e := by omega
    obtain ⟨least, most⟩ := grid_bounds some grid
    rw [size] at least
    rw [exponent, if_pos (Int.natCast_nonneg e), Int.toNat_natCast, Nat.one_mul, size]
    rcases Nat.lt_trichotomy e 971 with smaller | rfl | greater
    · have less : twoTo (num.log2 + 1) ≤ twoTo 1023 := twoTo_mono (by omega)
      omega
    · -- In the last binade the integers that round up are the ones out of range.
      have tie : 2 * 4503599627370496 ≤ roundDiv num (twoTo 971) ↔
          4 * 4503599627370496 * twoTo 971 ≤ 2 * num + twoTo 971 := le_roundDiv_iff (twoTo_pos 971)
      have next : twoTo 971 = 2 * twoTo 970 := twoTo_succ 970
      omega
    · have more : twoTo 1024 ≤ twoTo num.log2 := twoTo_mono (by omega)
      omega

/-- An integer has no number near it in range if it is at least halfway from the greatest one to `2 ^ 1024`. -/
theorem ofInt?_eq_none_iff (n : Int) : ofInt? n = none ↔ twoTo 1024 - twoTo 970 ≤ n.natAbs := by
  have finite : ofInt? n = none ↔ ¬ (ofIntRounded n).isFinite = true := by
    rw [ofInt?]
    split <;> simp [*]
  rw [finite, ofIntRounded, ofRatio]
  split
  · rename_i zero
    have greater : twoTo 970 < twoTo 1024 := by
      rw [show 1024 = 54 + 970 from rfl, twoTo_add]
      exact (Nat.lt_mul_iff_one_lt_left (twoTo_pos 970)).mpr (by decide)
    rw [zero, Binary64.zero, isFinite_ofCode _ (Nat.zero_le _)]
    have := twoTo_pos 52
    omega
  · rename_i some
    rw [← integer_reaches_iff some, log2Ratio_one some, isFinite_ofCode _ (Nat.min_le_right _ _), Nat.not_lt,
      Nat.le_min, and_iff_left le_rfl]

end Binary64

end TriggerFlow
