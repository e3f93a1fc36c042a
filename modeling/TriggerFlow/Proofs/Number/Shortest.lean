import TriggerFlow.Number.Decimal
import TriggerFlow.Proofs.Number.Rounding

/-!
# The shortest digits read back

The search for the fewest digits ends with a decimal that lies between the ends of the number: seventeen digits have a
grid on which one of the two neighbours does. Every decimal there is read as the number, however its digits and its
exponent are divided.
-/

namespace TriggerFlow

theorem tenTo_cast (n : Nat) : (tenTo n : ℚ) = 10 ^ n := by
  rw [show tenTo n = 10 ^ n from rfl]
  exact Nat.cast_pow 10 n

theorem tenTo_pos (n : Nat) : 0 < tenTo n := Nat.pow_pos (by norm_num)

theorem tenTo_toNat {e : Int} (up : 0 ≤ e) : (tenTo e.toNat : ℚ) = 10 ^ e := by
  obtain ⟨n, rfl⟩ := Int.eq_ofNat_of_zero_le up
  rw [tenTo_cast]
  rfl

theorem tenTo_neg_toNat {e : Int} (down : ¬ 0 ≤ e) : (tenTo (-e).toNat : ℚ) = (10 ^ e)⁻¹ := by
  rw [tenTo_toNat (by omega), zpow_neg]

namespace Decimal

open Binary64 (Normal RoundsTo lowEnd highEnd magnitude)

/-- The number that digits and an exponent write. -/
def Scaled.value (s : Scaled) : ℚ := s.digits * 10 ^ s.exponent

theorem scaleRatio_pos (num : Nat) {den : Nat} (positive : 0 < den) (power : Int) :
    0 < (scaleRatio num den power).2 := by
  unfold scaleRatio
  split
  · exact positive
  · exact Nat.mul_pos positive (tenTo_pos _)

theorem scaleRatio_value (num den : Nat) (power : Int) :
    ((scaleRatio num den power).1 : ℚ) / (scaleRatio num den power).2 = num / den * 10 ^ power := by
  unfold scaleRatio
  split
  · rename_i up
    rw [Nat.cast_mul, tenTo_toNat up]
    ring
  · rename_i down
    rw [Nat.cast_mul, tenTo_neg_toNat down]
    field_simp

theorem toDigits_spec {n : Nat} (some : 0 < n) :
    (10 : ℚ) ^ (((Nat.toDigits 10 n).length : Int) - 1) ≤ n ∧ (n : ℚ) < 10 ^ ((Nat.toDigits 10 n).length : Int) := by
  have length : 0 < (Nat.toDigits 10 n).length := Nat.length_toDigits_pos
  constructor
  · have atLeast : 10 ^ ((Nat.toDigits 10 n).length - 1) ≤ n := by
      by_contra less
      rcases Nat.eq_zero_or_pos ((Nat.toDigits 10 n).length - 1) with zero | more
      · rw [zero] at less
        omega
      · have := (Nat.length_toDigits_le_iff (by norm_num : 1 < 10) more).mpr (not_le.mp less)
        omega
    have same : (((Nat.toDigits 10 n).length : Int) - 1) = ((Nat.toDigits 10 n).length - 1 : Nat) := by omega
    rw [same]
    exact_mod_cast atLeast
  · have atMost := (Nat.length_toDigits_le_iff (n := n) (by norm_num : 1 < 10) length).mp le_rfl
    exact_mod_cast atMost

/-- The decade of a positive ratio is not too high. -/
theorem log10Ratio_le {num den : Nat} (some : 0 < num) (positive : 0 < den) :
    (10 : ℚ) ^ log10Ratio num den ≤ num / den := by
  have den_pos : (0 : ℚ) < den := by exact_mod_cast positive
  have ten : (10 : ℚ) ≠ 0 := by norm_num
  obtain ⟨numLow, -⟩ := toDigits_spec some
  obtain ⟨-, denHigh⟩ := toDigits_spec positive
  unfold log10Ratio
  dsimp only
  generalize ((Nat.toDigits 10 num).length : Int) = digits at *
  generalize ((Nat.toDigits 10 den).length : Int) = others at *
  have power : (0 : ℚ) < 10 ^ (digits - others) := by positivity
  split
  · rename_i reaches
    have scaled := scaleRatio_value num den (-(digits - others))
    have below := scaleRatio_pos num positive (-(digits - others))
    have one : (1 : ℚ) ≤ num / den * 10 ^ (-(digits - others)) := by
      rw [← scaled, one_le_div (by exact_mod_cast below)]
      exact_mod_cast reaches
    rwa [zpow_neg, ← div_eq_mul_inv, one_le_div power] at one
  · rw [le_div_iff₀ den_pos]
    calc (10 : ℚ) ^ (digits - others - 1) * den ≤ 10 ^ (digits - others - 1) * 10 ^ others := by gcongr
      _ = 10 ^ (digits - 1) := by
        rw [← zpow_add₀ ten]
        congr 1
        ring
      _ ≤ num := numLow

namespace Interval

variable {s : Nat} {e : Int}

theorem around_den_pos (s : Nat) (e : Int) : 0 < (around s e).den := by
  unfold around
  dsimp only
  split
  · exact Nat.one_pos
  · exact twoTo_pos _

/-- Quarters of the unit, over the common denominator. -/
theorem around_scale (n : Nat) (e : Int) :
    ((n * (if 0 ≤ e - 2 then twoTo (e - 2).toNat else 1) : Nat) : ℚ) /
      (if 0 ≤ e - 2 then 1 else twoTo (-(e - 2)).toNat : Nat) = n / 4 * 2 ^ e := by
  have power : (2 : ℚ) ^ e = 2 ^ (e - 2) * 4 := by
    rw [show (4 : ℚ) = 2 ^ (2 : Int) by norm_num, ← zpow_add₀ (by norm_num : (2 : ℚ) ≠ 0)]
    congr 1
    ring
  split
  · rename_i up
    rw [Nat.cast_mul, twoTo_toNat up, power]
    push_cast
    ring
  · rename_i down
    rw [Nat.cast_mul, twoTo_neg_toNat down, power]
    push_cast
    field_simp

theorem around_low (some : 0 < s) (e : Int) : ((around s e).low : ℚ) / (around s e).den = lowEnd s e := by
  refine (around_scale _ e).trans ?_
  unfold lowEnd
  have quarters : 4 ≤ 4 * s := by omega
  rw [show twoTo 52 = 2 ^ 52 from rfl]
  split
  · rw [Nat.cast_sub (by omega)]
    push_cast
    ring
  · rw [Nat.cast_sub (by omega)]
    push_cast
    ring

theorem around_middle (s : Nat) (e : Int) : ((around s e).middle : ℚ) / (around s e).den = s * 2 ^ e := by
  refine (around_scale _ e).trans ?_
  push_cast
  ring

theorem around_high (s : Nat) (e : Int) : ((around s e).high : ℚ) / (around s e).den = highEnd s e := by
  refine (around_scale _ e).trans ?_
  unfold highEnd
  push_cast
  ring

theorem around_closed (s : Nat) (e : Int) : (around s e).closed = decide (s % 2 = 0) := rfl

theorem holds_iff (i : Interval) (positive : 0 < i.den) (d : Scaled) : i.holds d = true ↔
    if i.closed = true then (i.low : ℚ) / i.den ≤ d.value ∧ d.value ≤ (i.high : ℚ) / i.den
    else (i.low : ℚ) / i.den < d.value ∧ d.value < (i.high : ℚ) / i.den := by
  have den_pos : (0 : ℚ) < i.den := by exact_mod_cast positive
  have point_pos : (0 : ℚ) < (scaleRatio d.digits 1 d.exponent).2 := by
    exact_mod_cast scaleRatio_pos _ Nat.one_pos _
  have value : d.value = (scaleRatio d.digits 1 d.exponent).1 / (scaleRatio d.digits 1 d.exponent).2 := by
    rw [scaleRatio_value]
    simp [Scaled.value]
  rw [value, div_le_div_iff₀ den_pos point_pos, div_le_div_iff₀ point_pos den_pos, div_lt_div_iff₀ den_pos point_pos,
    div_lt_div_iff₀ point_pos den_pos]
  unfold holds
  dsimp only
  split <;> simp only [Bool.and_eq_true, decide_eq_true_eq] <;> exact_mod_cast Iff.rfl

/-- The search tells apart the decimals that round to the number. -/
theorem holds_around_iff (some : 0 < s) (e : Int) (d : Scaled) :
    (around s e).holds d = true ↔ RoundsTo d.value s e := by
  rw [holds_iff _ (around_den_pos s e), around_low some, around_high, around_closed]
  simp only [decide_eq_true_eq]
  constructor
  · split
    · rename_i even
      exact fun ⟨low, high⟩ => ⟨low, high, fun odd => by omega⟩
    · exact fun ⟨low, high⟩ => ⟨low.le, high.le, fun _ => ⟨low, high⟩⟩
  · intro near
    split
    · exact ⟨near.low, near.high⟩
    · exact near.odd (by omega)

/-- What is found on a grid has digits and rounds to the number. -/
theorem onGrid_spec (some : 0 < s) {grid : Int} {d : Scaled} (found : (around s e).onGrid grid = Option.some d) :
    d.digits ≠ 0 ∧ RoundsTo d.value s e := by
  unfold onGrid at found
  have holds := List.find?_some found
  rw [Bool.and_eq_true, decide_eq_true_eq, holds_around_iff some] at holds
  exact holds

/-- Closer to the number than any other, with room to both sides. -/
theorem roundsTo_of_close {v : ℚ} (close : |v - s * 2 ^ e| < 2 ^ e / 2)
    (closer : s = 2 ^ 52 → |v - s * 2 ^ e| < 2 ^ e / 4) : RoundsTo v s e := by
  have power : (0 : ℚ) < 2 ^ e := by positivity
  rw [abs_lt] at close
  have low : lowEnd s e < v := by
    unfold lowEnd
    split
    · rename_i least
      have := (abs_lt.mp (closer least.1)).1
      linarith
    · linarith
  have high : v < highEnd s e := by
    unfold highEnd
    linarith
  exact ⟨low.le, high.le, fun _ => ⟨low, high⟩⟩

/-- A step of a grid of seventeen digits is less than the distance to the neighbours of the number. -/
theorem step_lt (normal : Normal s e) {grid : Int} (fine : (10 : ℚ) ^ (grid + 16) ≤ s * 2 ^ e) :
    (10 : ℚ) ^ grid < 2 ^ e ∧ (s = 2 ^ 52 → (10 : ℚ) ^ grid < 2 ^ e / 2) := by
  have power : (0 : ℚ) < 2 ^ e := by positivity
  have short : (s : ℚ) + 1 ≤ 2 ^ 53 := by exact_mod_cast normal.short
  rw [zpow_add₀ (by norm_num)] at fine
  have wide : (10 : ℚ) ^ grid * 10 ^ 16 ≤ s * 2 ^ e := by exact_mod_cast fine
  refine ⟨by nlinarith, ?_⟩
  rintro rfl
  push_cast at wide
  linarith

/-- The ratio that is looked at on a grid is the number in steps of the grid: whole steps, and a part of one. -/
theorem steps_on_grid (s : Nat) (e grid : Int) {top bottom : Nat}
    (ratio : scaleRatio (around s e).middle (around s e).den (-grid) = (top, bottom)) :
    ∃ part : ℚ, (s : ℚ) * 2 ^ e = ((top / bottom : Nat) + part) * 10 ^ grid ∧ 0 ≤ part ∧ part < 1 := by
  have scaled := scaleRatio_value (around s e).middle (around s e).den (-grid)
  have below := scaleRatio_pos (around s e).middle (around_den_pos s e) (-grid)
  rw [around_middle, zpow_neg, ← div_eq_mul_inv, ratio] at scaled
  rw [ratio] at below
  dsimp only at scaled below
  have bottom_pos : (0 : ℚ) < bottom := by exact_mod_cast below
  have split : (bottom : ℚ) * (top / bottom : Nat) + (top % bottom : Nat) = top := by
    exact_mod_cast Nat.div_add_mod top bottom
  have whole : (top : ℚ) / bottom = (top / bottom : Nat) + ((top % bottom : Nat) : ℚ) / bottom := by
    rw [← split]
    field_simp
  refine ⟨((top % bottom : Nat) : ℚ) / bottom, ?_, by positivity, ?_⟩
  · rw [← whole, scaled]
    field_simp
  · rw [div_lt_one bottom_pos]
    exact_mod_cast Nat.mod_lt top below

/-- On a grid of seventeen digits one of the two neighbours rounds to the number. -/
theorem onGrid_ne_none (some : 0 < s) (normal : Normal s e) {grid : Int}
    (fine : (10 : ℚ) ^ (grid + 16) ≤ s * 2 ^ e) : (around s e).onGrid grid ≠ none := by
  have step : (0 : ℚ) < 10 ^ grid := by positivity
  obtain ⟨stepHalf, stepQuarter⟩ := step_lt normal fine
  obtain ⟨⟨top, bottom⟩, ratio⟩ : ∃ ratio, scaleRatio (around s e).middle (around s e).den (-grid) = ratio := ⟨_, rfl⟩
  obtain ⟨part, number, part_nonneg, part_lt⟩ := steps_on_grid s e grid ratio
  have hasDigits : top / bottom ≠ 0 := by
    intro none
    rw [zpow_add₀ (by norm_num), number, none] at fine
    push_cast at fine
    have wide : (10 : ℚ) ^ grid * 10 ^ 16 ≤ (0 + part) * 10 ^ grid := by exact_mod_cast fine
    nlinarith
  unfold onGrid
  rw [ratio]
  dsimp only
  rw [Ne, List.find?_eq_none]
  intro none
  rcases le_total part (1 / 2) with near | far
  · refine none ⟨top / bottom, grid⟩ (by split <;> simp) ?_
    rw [Bool.and_eq_true, decide_eq_true_eq, holds_around_iff some]
    have apart : |Scaled.value ⟨top / bottom, grid⟩ - s * 2 ^ e| ≤ 10 ^ grid / 2 := by
      rw [abs_le, Scaled.value, number]
      constructor <;> nlinarith
    exact ⟨hasDigits, roundsTo_of_close (by linarith) fun least => by linarith [stepQuarter least]⟩
  · refine none ⟨top / bottom + 1, grid⟩ (by split <;> simp) ?_
    rw [Bool.and_eq_true, decide_eq_true_eq, holds_around_iff some]
    have apart : |Scaled.value ⟨top / bottom + 1, grid⟩ - s * 2 ^ e| ≤ 10 ^ grid / 2 := by
      rw [abs_le, Scaled.value, number]
      push_cast
      constructor <;> nlinarith
    exact ⟨Nat.succ_ne_zero _, roundsTo_of_close (by linarith) fun least => by linarith [stepQuarter least]⟩

end Interval

theorem stripZeros_spec (fuel : Nat) (d : Scaled) (some : d.digits ≠ 0) :
    (d.stripZeros fuel).digits ≠ 0 ∧ (d.stripZeros fuel).value = d.value := by
  induction fuel generalizing d with
  | zero => exact ⟨some, rfl⟩
  | succ fuel ih =>
    unfold Scaled.stripZeros
    split
    · rename_i ends
      obtain ⟨kept, same⟩ := ih ⟨d.digits / 10, d.exponent + 1⟩ (by dsimp only; omega)
      refine ⟨kept, same.trans ?_⟩
      have whole : d.digits = d.digits / 10 * 10 := by omega
      have tens : (d.digits : ℚ) = (d.digits / 10 : Nat) * 10 := by exact_mod_cast whole
      rw [Scaled.value, Scaled.value, tens, zpow_add_one₀ (by norm_num)]
      ring
    · exact ⟨some, rfl⟩

/-- The shortest digits round to the number. -/
theorem shortest_spec {s : Nat} {e : Int} (some : 0 < s) (normal : Normal s e) :
    (shortest s e).digits ≠ 0 ∧ RoundsTo (shortest s e).value s e := by
  have middle_pos : 0 < (Interval.around s e).middle := by
    by_contra none
    have zero : (Interval.around s e).middle = 0 := by omega
    have middle := Interval.around_middle s e
    have one : (0 : ℚ) < s := by exact_mod_cast some
    have power : (0 : ℚ) < 2 ^ e := by positivity
    rw [zero, Nat.cast_zero, zero_div] at middle
    exact absurd middle.symm (mul_pos one power).ne'
  have decade := log10Ratio_le middle_pos (Interval.around_den_pos s e)
  rw [Interval.around_middle] at decade
  unfold shortest
  dsimp only
  split
  · rename_i d found
    obtain ⟨grid, -, here⟩ := List.exists_of_findSome?_eq_some found
    obtain ⟨digits, near⟩ := Interval.onGrid_spec some here
    obtain ⟨kept, same⟩ := stripZeros_spec 20 d digits
    exact ⟨kept, same ▸ near⟩
  · rename_i none
    rw [List.findSome?_eq_none_iff] at none
    refine absurd (none (log10Ratio (Interval.around s e).middle (Interval.around s e).den - 16) ?_)
      (Interval.onGrid_ne_none some normal ?_)
    · exact List.mem_map.mpr ⟨16, by simp, rfl⟩
    · simpa using decade

/-- The largest number has less than 310 places. -/
theorem two_pow_lt : (2 : ℚ) ^ (1024 : Int) < 10 ^ (310 : Int) := by
  have whole : 2 ^ 1024 < 10 ^ 310 := by decide +kernel
  exact_mod_cast whole

/-- The least number has less than 330 zeros behind its point. -/
theorem ten_pow_lt : (10 : ℚ) ^ (-330 : Int) < 2 ^ (-1075 : Int) := by
  have whole : 2 ^ 1075 < 10 ^ 330 := by decide +kernel
  rw [zpow_neg, zpow_neg]
  refine inv_strictAnti₀ (by positivity) ?_
  exact_mod_cast whole

/-- A decimal is less than the power of ten that its places lead up to. -/
theorem value_lt {d : Scaled} (digits : d.digits ≠ 0) :
    d.value < 10 ^ (((Nat.toDigits 10 d.digits).length : Int) + d.exponent) := by
  have step : (0 : ℚ) < 10 ^ d.exponent := by positivity
  rw [zpow_add₀ (by norm_num : (10 : ℚ) ≠ 0)]
  unfold Scaled.value
  gcongr
  exact (toDigits_spec (Nat.pos_of_ne_zero digits)).2

/-- A decimal is at least the power of ten of its first place. -/
theorem le_value {d : Scaled} (digits : d.digits ≠ 0) :
    (10 : ℚ) ^ (((Nat.toDigits 10 d.digits).length : Int) - 1 + d.exponent) ≤ d.value := by
  rw [zpow_add₀ (by norm_num : (10 : ℚ) ≠ 0)]
  unfold Scaled.value
  gcongr
  exact (toDigits_spec (Nat.pos_of_ne_zero digits)).1

/-- A decimal that rounds to a number is read as it. -/
theorem nearest_eq (negative : Bool) {s : Nat} {e : Int} (some : 0 < s) (normal : Normal s e) {d : Scaled}
    (digits : d.digits ≠ 0) (near : RoundsTo d.value s e) :
    nearest negative d.digits d.exponent = .ofCode negative (magnitude s e) := by
  have below := value_lt digits
  have above := le_value digits
  unfold nearest
  dsimp only
  generalize ((Nat.toDigits 10 d.digits).length : Int) = count at below above
  rw [if_neg digits, if_neg, if_neg]
  · refine Binary64.ofRatio_eq negative some normal (scaleRatio_pos _ Nat.one_pos _) ?_
    rw [scaleRatio_value]
    simpa [Scaled.value] using near
  · -- The least number is far above whatever has so few places.
    intro few
    have small : d.value < 10 ^ (-330 : Int) := below.trans_le (zpow_le_zpow_right₀ (by norm_num) few.le)
    exact absurd (small.trans ten_pow_lt) (not_lt.mpr (near.atLeast normal some))
  · intro many
    have large : (10 : ℚ) ^ (310 : Int) ≤ d.value := (zpow_le_zpow_right₀ (by norm_num) (by omega)).trans above
    exact absurd ((near.atMost normal).trans_lt two_pow_lt) (not_lt.mpr large)

/-- A finite number that is not zero is read from any digits that write a decimal close enough to it, and the shortest
digits do. -/
theorem nearest_shortest {x : Binary64} {negative : Bool} {s : Nat} {e : Int} (shape : x.shape = .finite negative s e)
    (some : 0 < s) {d : Scaled} (digits : d.digits ≠ 0) (same : d.value = (shortest s e).value) :
    nearest negative d.digits d.exponent = x := by
  obtain ⟨normal, bits⟩ := Binary64.shape_finite shape
  rw [bits]
  exact nearest_eq negative some normal digits (same ▸ (shortest_spec some normal).2)

end Decimal

end TriggerFlow
