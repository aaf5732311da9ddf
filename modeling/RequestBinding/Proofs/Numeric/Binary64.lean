import Mathlib.Tactic.Ring
import RequestBinding.Document.JsonNumber

/-!
# How large a floating-point number can become

Rounding is one function of a quotient of natural numbers, and the bits of its result grow with
the size of the quotient: one that is at most `2 ^ k` has an exponent of at most `1022 + k`, and a
fraction that may carry over. So a quotient that is not too large is not rounded to infinity, and
dividing by powers of ten, by which a number in JSON is written, never leads there.

Results:
1. `magnitude_ofRatio_le`: the bits of a rounded quotient.
2. `toRatio_le`: the exact value of a number, from its bits.
3. `magnitude_ofNat_le`: the bits of a natural number of 64 bits.
4. `JsonNumber.isFinite_of_float?`: what is read of a number in JSON is finite.
-/

namespace RequestBinding

namespace Binary64

/-! ## Rounding -/

theorem roundDiv_le (num den : Nat) : roundDiv num den ≤ num / den + 1 := by
  simp only [roundDiv]
  split
  · omega
  · split
    · exact Nat.le_refl _
    · omega

theorem mul_two_pow_le {num den a b : Nat} (hden : 0 < den)
    (h : num.log2 + 1 + a ≤ den.log2 + b) : num * 2 ^ a ≤ den * 2 ^ b :=
  calc num * 2 ^ a ≤ 2 ^ (num.log2 + 1) * 2 ^ a :=
        Nat.mul_le_mul_right _ (Nat.le_of_lt Nat.lt_log2_self)
    _ = 2 ^ (num.log2 + 1 + a) := (Nat.pow_add 2 _ _).symm
    _ ≤ 2 ^ (den.log2 + b) := Nat.pow_le_pow_right (by decide) h
    _ = 2 ^ den.log2 * 2 ^ b := Nat.pow_add 2 _ _
    _ ≤ den * 2 ^ b := Nat.mul_le_mul_right _ (Nat.log2_self_le (Nat.ne_of_gt hden))

/-- In units in which it has 53 bits, or one more, a quotient has no more than 54. -/
theorem scaled_le {num den e : Nat} (hden : 0 < den) (h : num.log2 + 1021 ≤ den.log2 + e) :
    scaled num den e ≤ 2 ^ 54 + 1 := by
  have hround {n d : Nat} (hle : n ≤ d * 2 ^ 54) : roundDiv n d ≤ 2 ^ 54 + 1 :=
    (roundDiv_le n d).trans (Nat.succ_le_succ (Nat.div_le_of_le_mul hle))
  unfold scaled
  split
  · rw [Nat.shiftLeft_eq]
    exact hround (mul_two_pow_le hden (by omega))
  · have hle : num * 2 ^ 0 ≤ den * 2 ^ (e - 1074 + 54) := mul_two_pow_le hden (by omega)
    rw [Nat.pow_zero, Nat.mul_one, Nat.pow_add, ← Nat.mul_assoc] at hle
    rw [Nat.shiftLeft_eq]
    exact hround hle

/-- The exponent of the unit of a quotient is that of its first bits, or one less. -/
theorem unitExponent_bounds (num den : Nat) :
    num.log2 + 1021 ≤ den.log2 + unitExponent num den ∧
      unitExponent num den ≤ num.log2 + 1022 - den.log2 := by
  simp only [unitExponent]
  split <;> omega

theorem unitExponent_le {num den k : Nat} (hnum : num ≠ 0) (h : num ≤ den * 2 ^ k) :
    unitExponent num den ≤ 1022 + k := by
  have hlog : num.log2 < den.log2 + 1 + k := by
    refine (Nat.log2_lt hnum).mpr ?_
    calc num ≤ den * 2 ^ k := h
      _ < 2 ^ (den.log2 + 1) * 2 ^ k :=
        Nat.mul_lt_mul_of_pos_right Nat.lt_log2_self (Nat.two_pow_pos k)
      _ = 2 ^ (den.log2 + 1 + k) := (Nat.pow_add 2 _ _).symm
  have hunit := (unitExponent_bounds num den).2
  omega

theorem magnitude_mk {n : Nat} (h : n < signBit) : (Binary64.mk (UInt64.ofNat n)).magnitude = n := by
  have hsize : n < UInt64.size := Nat.lt_of_lt_of_le h (by decide)
  rw [magnitude, UInt64.toNat_ofNat_of_lt' hsize, Nat.mod_eq_of_lt h]

/-- The bits of a rounded quotient that is at most `2 ^ k`. -/
theorem magnitude_ofRatio_le {num den k : Nat} (hden : 0 < den) (h : num ≤ den * 2 ^ k) :
    (ofRatio num den).magnitude ≤ (1027 + k) * leadingBit := by
  unfold ofRatio
  split
  · exact Nat.zero_le _
  · next hnum =>
    have hbits := scaled_le hden (unitExponent_bounds num den).1
    have hunit := Nat.mul_le_mul_right leadingBit (unitExponent_le hnum h)
    have hcarry : 2 ^ 54 + 1 ≤ 5 * leadingBit := by decide
    have hsum : unitExponent num den * leadingBit + scaled num den (unitExponent num den) ≤
        (1027 + k) * leadingBit :=
      calc _ ≤ (1022 + k) * leadingBit + 5 * leadingBit :=
            Nat.add_le_add hunit (hbits.trans hcarry)
        _ = (1027 + k) * leadingBit := by rw [← Nat.add_mul, Nat.add_right_comm]
    have hsmall : min infinityBits
        (unitExponent num den * leadingBit + scaled num den (unitExponent num den)) < signBit :=
      Nat.lt_of_le_of_lt (Nat.min_le_left _ _) (by decide)
    show (Binary64.mk (UInt64.ofNat _)).magnitude ≤ _
    rw [magnitude_mk hsmall]
    exact (Nat.min_le_right _ _).trans hsum

theorem isFinite_of_magnitude_le {x : Binary64} {k : Nat}
    (h : x.magnitude ≤ (1027 + k) * leadingBit) (hk : k ≤ 1000) : x.isFinite = true := by
  rw [isFinite, decide_eq_true_eq]
  calc x.magnitude ≤ (1027 + k) * leadingBit := h
    _ ≤ (1027 + 1000) * leadingBit := Nat.mul_le_mul_right _ (Nat.add_le_add_left hk _)
    _ < infinityBits := by decide

/-- The bits of a natural number that has 64 of them: it is far from infinity. -/
theorem magnitude_ofNat_le {n : Nat} (hn : n < 2 ^ 64) :
    (ofNat n).magnitude ≤ (1027 + 64) * leadingBit :=
  magnitude_ofRatio_le Nat.one_pos (by rw [Nat.one_mul]; exact Nat.le_of_lt hn)

/-- A sign is no part of the magnitude. -/
theorem magnitude_withSign (negative : Bool) (x : Binary64) :
    (x.withSign negative).magnitude = x.magnitude := by
  have hx : x.magnitude < signBit := Nat.mod_lt _ (by decide)
  simp only [withSign, magnitude] at *
  rw [UInt64.toNat_ofNat_of_lt']
  · cases negative with
    | false => simp
    | true => simp
  · simp only [signBit, UInt64.size] at *
    split <;> omega

theorem isFinite_withSign (negative : Bool) (x : Binary64) :
    (x.withSign negative).isFinite = x.isFinite := by
  rw [isFinite, isFinite, magnitude_withSign]

/-! ## Exact values -/

theorem one_shiftLeft (n : Nat) : 1 <<< n = 2 ^ n := by
  rw [Nat.shiftLeft_eq, Nat.one_mul]

theorem toRatio_pos (x : Binary64) : 0 < x.toRatio.2 := by
  simp only [toRatio]
  split
  · exact Nat.lt_of_lt_of_eq (Nat.two_pow_pos _) (one_shiftLeft _).symm
  · split
    · exact Nat.lt_of_lt_of_eq (Nat.two_pow_pos _) (one_shiftLeft _).symm
    · exact Nat.one_pos

/-- The exact value of a number is bounded by its bits. -/
theorem toRatio_le {x : Binary64} {k : Nat} (h : x.magnitude < (1023 + k) * leadingBit) :
    x.toRatio.1 ≤ x.toRatio.2 * 2 ^ k := by
  have hlead : 0 < leadingBit := by decide
  have hexponent : x.magnitude / leadingBit < 1023 + k := (Nat.div_lt_iff_lt_mul hlead).mpr h
  have hfraction : x.magnitude % leadingBit + leadingBit ≤ 2 ^ 53 :=
    Nat.le_of_lt (Nat.add_lt_add_right (Nat.mod_lt _ hlead) leadingBit)
  simp only [toRatio]
  split
  · rw [one_shiftLeft, ← Nat.pow_add]
    calc x.magnitude % leadingBit ≤ 2 ^ 53 := (Nat.le_add_right _ _).trans hfraction
      _ ≤ 2 ^ (1074 + k) := Nat.pow_le_pow_right (by decide) (by omega)
  · split
    · rw [one_shiftLeft, ← Nat.pow_add]
      exact hfraction.trans (Nat.pow_le_pow_right (by decide) (by omega))
    · rw [Nat.shiftLeft_eq, Nat.one_mul]
      calc _ ≤ 2 ^ 53 * 2 ^ (x.magnitude / leadingBit - 1075) := Nat.mul_le_mul_right _ hfraction
        _ = 2 ^ (53 + (x.magnitude / leadingBit - 1075)) := (Nat.pow_add 2 _ _).symm
        _ ≤ 2 ^ k := Nat.pow_le_pow_right (by decide) (by omega)

/-- A quotient by a number that is at least `2 ^ j`. -/
theorem magnitude_div_le {x y : Binary64} {j k : Nat}
    (hx : x.magnitude < (1023 + (k + j)) * leadingBit)
    (hy : y.toRatio.2 * 2 ^ j ≤ y.toRatio.1) :
    (x.div y).magnitude ≤ (1027 + k) * leadingBit := by
  have hone : 0 < y.toRatio.1 :=
    Nat.lt_of_lt_of_le (Nat.mul_pos y.toRatio_pos (Nat.two_pow_pos j)) hy
  show (ofRatio (x.toRatio.1 * y.toRatio.2) (x.toRatio.2 * y.toRatio.1)).magnitude ≤ _
  refine magnitude_ofRatio_le (Nat.mul_pos x.toRatio_pos hone) ?_
  calc x.toRatio.1 * y.toRatio.2 ≤ x.toRatio.2 * 2 ^ (k + j) * y.toRatio.2 :=
        Nat.mul_le_mul_right _ (toRatio_le hx)
    _ = x.toRatio.2 * (y.toRatio.2 * 2 ^ j) * 2 ^ k := by ring
    _ ≤ x.toRatio.2 * y.toRatio.1 * 2 ^ k :=
        Nat.mul_le_mul_right _ (Nat.mul_le_mul_left _ hy)

end Binary64

/-! ## Numbers in JSON -/

namespace JsonNumber

open Binary64 (leadingBit)

theorem append_le {s : Nat} (hs : s ≤ maxUInt64) (digits : List Char) :
    (append s digits).1 ≤ maxUInt64 := by
  induction digits generalizing s with
  | nil => exact hs
  | cons c rest ih =>
    simp only [append]
    split
    · exact hs
    · next hnext => exact ih (Nat.le_of_not_lt hnext)

/-- A power of ten that one factor holds is at least one. -/
theorem one_le_power {n : Nat} (hn : n ≤ maxPower) :
    (power n).toRatio.2 * 2 ^ 0 ≤ (power n).toRatio.1 := by
  have hall : ∀ n < maxPower + 1, (power n).toRatio.2 * 2 ^ 0 ≤ (power n).toRatio.1 := by
    decide +kernel
  exact hall n (Nat.lt_succ_of_le hn)

/-- The largest of them is far above one. -/
theorem two_pow_le_maxPower :
    (power maxPower).toRatio.2 * 2 ^ 100 ≤ (power maxPower).toRatio.1 := by
  decide +kernel

/-- Dividing by a power of ten, however large, never leads to infinity. -/
theorem isFinite_divide {x : Binary64} {n : Nat} (hx : x.magnitude ≤ (1027 + 64) * leadingBit) :
    (divide x n).isFinite = true := by
  have hlarge : x.magnitude < (1023 + (69 + 0)) * leadingBit :=
    Nat.lt_of_le_of_lt hx (by decide)
  induction n using Nat.strong_induction_on generalizing x with
  | h n ih =>
    rw [divide]
    split
    · next hn =>
      exact Binary64.isFinite_of_magnitude_le
        (Binary64.magnitude_div_le hlarge (one_le_power hn)) (by decide)
    · next hn =>
      split
      · next hzero =>
        have hle : x.magnitude ≤ (1027 + 0) * leadingBit :=
          (Nat.le_of_eq hzero).trans (Nat.zero_le _)
        exact Binary64.isFinite_of_magnitude_le hle (by decide)
      · have hsmall : (x.div (power maxPower)).magnitude ≤ (1027 + 0) * leadingBit :=
          Binary64.magnitude_div_le (Nat.lt_of_lt_of_le hlarge (by decide)) two_pow_le_maxPower
        have hnext : (x.div (power maxPower)).magnitude ≤ (1027 + 64) * leadingBit :=
          hsmall.trans (by decide)
        refine ih (n - maxPower) ?_ hnext (Nat.lt_of_le_of_lt hnext (by decide))
        simp only [maxPower] at *
        omega

/-- A significand that fits is scaled to a finite number or not at all. -/
theorem isFinite_of_scale? {significand : Nat} {exponent : Int} {x : Binary64}
    (hs : significand ≤ maxUInt64) (h : scale? significand exponent = some x) :
    x.isFinite = true := by
  have hlarge : (Binary64.ofNat significand).magnitude ≤ (1027 + 64) * leadingBit :=
    Binary64.magnitude_ofNat_le (Nat.lt_of_le_of_lt hs (by decide))
  simp only [scale?] at h
  split at h
  · cases h
    exact isFinite_divide hlarge
  · split at h
    · split at h
      · next hfinite =>
        cases h
        exact hfinite
      · cases h
    · split at h
      · cases h
        exact Binary64.isFinite_of_magnitude_le hlarge (by decide)
      · cases h

theorem isFinite_of_float? {negative : Bool} {whole fraction : List Char} {exponent : Int}
    {x : Binary64} (h : float? negative whole fraction exponent = some x) :
    x.isFinite = true := by
  obtain ⟨y, hscale, rfl⟩ := Option.map_eq_some_iff.mp h
  rw [Binary64.isFinite_withSign]
  exact isFinite_of_scale? (append_le (append_le (Nat.zero_le _) whole) fraction) hscale

end JsonNumber

end RequestBinding
