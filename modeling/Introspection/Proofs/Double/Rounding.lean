import Mathlib

/-!
# Rounding to double precision

A positive double is a mantissa with an exponent, and its rank is its place among the doubles from
zero on. Rounding keeps order, since the rank of what is rounded to grows with what is rounded.

* `halfEven`: division by a power of two, rounded;
* `Tells`: mantissas with two more bits, which tell what was shifted out;
* `rank`, **`rank_mono`**: the place of what a number of smallest units is rounded to;
* `IsRounded`, **`exists_round`**: the result of rounding and its rank.
-/

namespace Introspection.Double

open Float.Model Float.Model.UnpackedFloat

/-! ## Halves to even -/

/-- `m / 2 ^ n`, rounded to the nearest integer, and from halfway to the even one. -/
def halfEven (m n : Nat) : Nat :=
  if 2 * (m % 2 ^ n) < 2 ^ n then m / 2 ^ n
  else if 2 * (m % 2 ^ n) = 2 ^ n then m / 2 ^ n + m / 2 ^ n % 2
  else m / 2 ^ n + 1

theorem div_le_halfEven (m n : Nat) : m / 2 ^ n ≤ halfEven m n := by
  rw [halfEven]
  split
  · exact Nat.le_refl _
  · split <;> omega

theorem halfEven_le (m n : Nat) : halfEven m n ≤ m / 2 ^ n + 1 := by
  rw [halfEven]
  split
  · exact Nat.le_succ _
  · split <;> omega

theorem halfEven_mono {m m' : Nat} (h : m ≤ m') (n : Nat) : halfEven m n ≤ halfEven m' n := by
  by_cases hq : m / 2 ^ n = m' / 2 ^ n
  · have hr : m % 2 ^ n ≤ m' % 2 ^ n := by
      have := Nat.div_add_mod m (2 ^ n)
      have := Nat.div_add_mod m' (2 ^ n)
      rw [hq] at *
      omega
    rw [halfEven, halfEven, hq]
    split <;> split <;> (try split) <;> (try split) <;> omega
  · have hlt : m / 2 ^ n < m' / 2 ^ n := Nat.lt_of_le_of_ne (Nat.div_le_div_right h) hq
    exact Nat.le_trans (halfEven_le m n) (Nat.le_trans hlt (div_le_halfEven m' n))

theorem halfEven_mul_two_pow (m n k : Nat) : halfEven (m * 2 ^ k) (n + k) = halfEven m n := by
  have hdiv : m * 2 ^ k / 2 ^ (n + k) = m / 2 ^ n := by
    rw [Nat.pow_add, Nat.mul_div_mul_right _ _ (Nat.two_pow_pos k)]
  have hmod : m * 2 ^ k % 2 ^ (n + k) = m % 2 ^ n * 2 ^ k := by
    rw [Nat.pow_add, Nat.mul_mod_mul_right]
  have hpos := Nat.two_pow_pos k
  simp only [halfEven, hdiv, hmod]
  simp only [Nat.pow_add, ← Nat.mul_assoc, Nat.mul_lt_mul_right hpos,
    Nat.mul_left_inj (Nat.ne_of_gt hpos)]

theorem halfEven_zero (m : Nat) : halfEven m 0 = m := by
  simp [halfEven, Nat.mod_one]

/-! ## Shifting -/

/-- A mantissa tells a number divided by a power of two: the quotient, whether at least half is left
over, and whether anything else than nothing or half is. -/
structure Tells (m n : Nat) (em : ExtendedMantissa) : Prop where
  mantissa : em.mantissa = m / 2 ^ n
  roundBit : em.roundBit = decide (2 ^ n ≤ 2 * (m % 2 ^ n))
  stickyBit : em.stickyBit = decide (m % 2 ^ n ≠ 0 ∧ 2 * (m % 2 ^ n) ≠ 2 ^ n)

theorem Tells.shiftRightOne {m n : Nat} {em : ExtendedMantissa} (h : Tells m n em) :
    Tells m (n + 1) em.shiftRightOne := by
  have hmod : m % 2 ^ (n + 1) = m % 2 ^ n + 2 ^ n * (m / 2 ^ n % 2) := Nat.mod_mul
  have hlt := Nat.mod_lt m (Nat.two_pow_pos n)
  have hhalf : m / 2 ^ n % 2 = 0 ∨ m / 2 ^ n % 2 = 1 := Nat.mod_two_eq_zero_or_one _
  constructor
  · rw [ExtendedMantissa.shiftRightOne, h.mantissa, Nat.div_div_eq_div_mul, Nat.pow_succ]
  · rw [ExtendedMantissa.shiftRightOne, h.mantissa, hmod, Nat.pow_succ]
    rcases hhalf with hhalf | hhalf <;> simp [hhalf] <;> omega
  · rw [ExtendedMantissa.shiftRightOne, h.roundBit, h.stickyBit, hmod, Nat.pow_succ]
    rcases hhalf with hhalf | hhalf <;> rw [hhalf, Bool.eq_iff_iff] <;> simp <;> omega

theorem tells_shiftRight (m n : Nat) :
    Tells m n (ExtendedMantissa.ofMantissaAndAccuracy m .exact >>> n) := by
  induction n with
  | zero => constructor <;> simp [ExtendedMantissa.ofMantissaAndAccuracy, HShiftRight.hShiftRight,
      Nat.repeat, Nat.mod_one]
  | succ n ih => exact ih.shiftRightOne

theorem Tells.roundedMantissa {m n : Nat} {em : ExtendedMantissa} (h : Tells m n em) :
    em.roundedMantissa = halfEven m n := by
  obtain ⟨q, r, s⟩ := em
  obtain ⟨rfl, rfl, rfl⟩ := h
  have hpos := Nat.two_pow_pos n
  rw [halfEven, ExtendedMantissa.roundedMantissa]
  rcases Nat.lt_trichotomy (2 * (m % 2 ^ n)) (2 ^ n) with hlt | heq | hgt
  · have hround : decide (2 ^ n ≤ 2 * (m % 2 ^ n)) = false := decide_eq_false (by omega)
    rw [if_pos hlt, hround]
    cases decide (m % 2 ^ n ≠ 0 ∧ 2 * (m % 2 ^ n) ≠ 2 ^ n) <;> rfl
  · have hround : decide (2 ^ n ≤ 2 * (m % 2 ^ n)) = true := decide_eq_true (by omega)
    have hsticky : decide (m % 2 ^ n ≠ 0 ∧ 2 * (m % 2 ^ n) ≠ 2 ^ n) = false :=
      decide_eq_false (by omega)
    rw [if_neg (by omega), if_pos heq, hround, hsticky]
    rfl
  · have hround : decide (2 ^ n ≤ 2 * (m % 2 ^ n)) = true := decide_eq_true (by omega)
    have hsticky : decide (m % 2 ^ n ≠ 0 ∧ 2 * (m % 2 ^ n) ≠ 2 ^ n) = true :=
      decide_eq_true (by omega)
    rw [if_neg (by omega), if_neg (by omega), hround, hsticky]
    rfl

/-! ## Ranks -/

/-- The rank of what a number of smallest units is rounded to. -/
def rank (v : Nat) : Nat := (v.log2 - 52) * 2 ^ 52 + halfEven v (v.log2 - 52)

theorem div_lt_two_pow (v : Nat) : v / 2 ^ (v.log2 - 52) < 2 ^ 53 := by
  rw [Nat.div_lt_iff_lt_mul (Nat.two_pow_pos _), ← Nat.pow_add]
  exact Nat.lt_of_lt_of_le Nat.lt_log2_self (Nat.pow_le_pow_right (by decide) (by omega))

theorem two_pow_le_div {v : Nat} (h : 52 < v.log2) : 2 ^ 52 ≤ v / 2 ^ (v.log2 - 52) := by
  have hv : v ≠ 0 := by
    rintro rfl
    exact absurd h (by decide)
  rw [Nat.le_div_iff_mul_le (Nat.two_pow_pos _), ← Nat.pow_add,
    Nat.add_sub_cancel' (Nat.le_of_lt h)]
  exact Nat.log2_self_le hv

theorem halfEven_le_two_pow (v : Nat) : halfEven v (v.log2 - 52) ≤ 2 ^ 53 :=
  Nat.le_trans (halfEven_le v _) (div_lt_two_pow v)

theorem two_pow_le_halfEven {v : Nat} (h : 52 < v.log2) : 2 ^ 52 ≤ halfEven v (v.log2 - 52) :=
  Nat.le_trans (two_pow_le_div h) (div_le_halfEven v _)

theorem halfEven_pos {v : Nat} (hv : 0 < v) : 0 < halfEven v (v.log2 - 52) := by
  by_cases h : 52 < v.log2
  · exact Nat.lt_of_lt_of_le (by decide) (two_pow_le_halfEven h)
  · rw [Nat.sub_eq_zero_of_le (Nat.not_lt.mp h), halfEven_zero]
    exact hv

/-- **Rounding keeps order.** Where a larger number is rounded to a larger unit, the smaller one is
rounded to at most the first mantissa that has this unit. -/
theorem rank_mono {v v' : Nat} (h : v ≤ v') : rank v ≤ rank v' := by
  by_cases hv : v = 0
  · subst hv
    have hzero : rank 0 = 0 := by decide
    exact hzero ▸ Nat.zero_le _
  have hlog : v.log2 ≤ v'.log2 :=
    (Nat.le_log2 (by omega)).mpr (Nat.le_trans (Nat.log2_self_le hv) h)
  rw [rank, rank]
  by_cases hn : v.log2 - 52 = v'.log2 - 52
  · rw [hn]
    exact Nat.add_le_add_left (halfEven_mono h _) _
  · have hle := halfEven_le_two_pow v
    have hge := two_pow_le_halfEven (v := v') (by omega)
    have hstep : (v.log2 - 52 + 1) * 2 ^ 52 ≤ (v'.log2 - 52) * 2 ^ 52 :=
      Nat.mul_le_mul_right _ (by omega)
    omega

/-! ## What is rounded to -/

/-- A mantissa and an exponent that rounding gives. -/
structure IsRounded (m : Nat) (e : Int) : Prop where
  lt : m < 2 ^ 53
  le : -1074 ≤ e
  normal : e = -1074 ∨ 2 ^ 52 ≤ m

theorem targetExponent_eq (m : Nat) (e : Int) :
    Format.binary64.targetExponent (totalExponent m e) = max (m.log2 + e - 52) (-1074) := by
  simp only [Format.targetExponent, totalExponent, Format.mantissaBits, Format.minExponent]
  omega

theorem log2_mul_two_pow {m : Nat} (hm : 0 < m) (k : Nat) : (m * 2 ^ k).log2 = m.log2 + k := by
  have hpos := Nat.two_pow_pos k
  have hlo := Nat.mul_le_mul_right (2 ^ k) (Nat.log2_self_le (Nat.ne_of_gt hm))
  have hhi := Nat.mul_lt_mul_of_pos_right (Nat.lt_log2_self (n := m)) hpos
  rw [← Nat.pow_add] at hlo hhi
  rw [Nat.log2_eq_iff (Nat.ne_of_gt (Nat.mul_pos hm hpos)), Nat.add_right_comm]
  exact ⟨hlo, hhi⟩

theorem shiftToTargetExponent_of_lt {m : Nat} {e : Int} (hm : m < 2 ^ 53) (he : -1074 ≤ e) :
    shiftToTargetExponent .binary64 m e .exact = (⟨m, false, false⟩, e) := by
  have hlog : m.log2 ≤ 52 := by
    by_cases hzero : m = 0
    · simp [hzero]
    · exact Nat.le_of_lt_succ ((Nat.log2_lt hzero).mpr hm)
  have hshift : (max ((m.log2 : Int) + e - 52) (-1074) - e).toNat = 0 := by omega
  simp [shiftToTargetExponent, targetExponent_eq, shiftToExponent, hshift,
    ExtendedMantissa.ofMantissaAndAccuracy, HShiftRight.hShiftRight, Nat.repeat]

/-- A mantissa that has been rounded up to the next power of two is shifted once more. -/
theorem shiftToTargetExponent_two_pow {e : Int} (he : -1074 ≤ e) :
    shiftToTargetExponent .binary64 (2 ^ 53) e .exact = (⟨2 ^ 52, false, false⟩, e + 1) := by
  have hshift : (max (((2 ^ 53 : Nat).log2 : Int) + e - 52) (-1074) - e).toNat = 1 := by
    rw [Nat.log2_two_pow]
    omega
  simp only [shiftToTargetExponent, targetExponent_eq, shiftToExponent, hshift]
  rfl

/-- What rounding gives may have to be shifted once more, which keeps its rank. -/
theorem exists_shiftToTargetExponent {m : Nat} (hm : 0 < m) (hle : m ≤ 2 ^ 53) {e : Int}
    (he : -1074 ≤ e) (hn : e = -1074 ∨ 2 ^ 52 ≤ m) :
    ∃ m' e', shiftToTargetExponent .binary64 m e .exact = (⟨m', false, false⟩, e') ∧ 0 < m' ∧
      IsRounded m' e' ∧ (e' + 1074) * 2 ^ 52 + m' = (e + 1074) * 2 ^ 52 + m := by
  by_cases hlt : m < 2 ^ 53
  · exact ⟨m, e, shiftToTargetExponent_of_lt hlt he, hm, ⟨hlt, he, hn⟩, rfl⟩
  · obtain rfl : m = 2 ^ 53 := Nat.le_antisymm hle (Nat.not_lt.mp hlt)
    exact ⟨2 ^ 52, e + 1, shiftToTargetExponent_two_pow he, by decide,
      ⟨by decide, by omega, .inr (Nat.le_refl _)⟩, by omega⟩

theorem exists_roundWithAccuracy (s : Sign) {m : Nat} (hm : 0 < m) {e : Int} (he : -1074 ≤ e)
    (hle : e ≤ max ((m.log2 : Int) + e - 52) (-1074)) :
    ∃ m' e' hm', roundWithAccuracy .binary64 s m e .exact = .finite s m' e' hm' ∧
      IsRounded m' e' ∧ (e' + 1074) * 2 ^ 52 + m' = rank (m * 2 ^ (e + 1074).toNat) := by
  obtain ⟨v, hv⟩ : ∃ v, v = m * 2 ^ (e + 1074).toNat := ⟨_, rfl⟩
  obtain ⟨t, ht⟩ : ∃ t, t = max ((m.log2 : Int) + e - 52) (-1074) := ⟨_, rfl⟩
  have hlog : v.log2 = m.log2 + (e + 1074).toNat := hv ▸ log2_mul_two_pow hm _
  have hn : v.log2 - 52 = (t - e).toNat + (e + 1074).toNat := by omega
  have hpos : 0 < v := hv ▸ Nat.mul_pos hm (Nat.two_pow_pos _)
  have hrounded : (shiftToTargetExponent .binary64 m e .exact).1.roundedMantissa =
      halfEven v (v.log2 - 52) := by
    rw [shiftToTargetExponent, targetExponent_eq, ← ht, shiftToExponent,
      (tells_shiftRight m (t - e).toNat).roundedMantissa, hn, hv, halfEven_mul_two_pow]
  have hexponent : (shiftToTargetExponent .binary64 m e .exact).2 = t := by
    rw [shiftToTargetExponent, targetExponent_eq, ← ht, shiftToExponent]
    dsimp only
    omega
  have hnormal : t = -1074 ∨ 2 ^ 52 ≤ halfEven v (v.log2 - 52) := by
    by_cases hsmall : v.log2 ≤ 52
    · exact .inl (by omega)
    · exact .inr (two_pow_le_halfEven (by omega))
  obtain ⟨m', e', hagain, hm', hr, hrank⟩ :=
    exists_shiftToTargetExponent (halfEven_pos hpos) (halfEven_le_two_pow v) (by omega) hnormal
  refine ⟨m', e', hm', ?_, hr, ?_⟩
  · simp only [roundWithAccuracy, hrounded, hexponent, hagain]
    exact dif_neg (Nat.ne_of_gt hm')
  · rw [hrank, ← hv, rank]
    omega

/-- **A number of smallest units is rounded to the double of its rank.** -/
theorem exists_round (s : Sign) {m : Nat} (hm : 0 < m) {e : Int} (he : -1074 ≤ e) :
    ∃ m' e' hm', UnpackedFloat.round .binary64 s m e = .finite s m' e' hm' ∧ IsRounded m' e' ∧
      (e' + 1074) * 2 ^ 52 + m' = rank (m * 2 ^ (e + 1074).toNat) := by
  obtain ⟨k, hk⟩ : ∃ k, k = (e - max ((m.log2 : Int) + e - 52) (-1074)).toNat := ⟨_, rfl⟩
  have hlog := log2_mul_two_pow hm k
  have hsplit : (e + 1074).toNat = k + (e - k + 1074).toNat := by omega
  rw [UnpackedFloat.round, targetExponent_eq, decreaseExponent]
  dsimp only
  rw [← hk, Nat.shiftLeft_eq, hsplit, Nat.pow_add, ← Nat.mul_assoc]
  exact exists_roundWithAccuracy s (Nat.mul_pos hm (Nat.two_pow_pos k)) (by omega) (by omega)

end Introspection.Double
