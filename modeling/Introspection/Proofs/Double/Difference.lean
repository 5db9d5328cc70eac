import Introspection.Proofs.Double.Rounding

/-!
# Differences of doubles

Each double but for what is no number has a place on a line of integers, and comparing doubles is
comparing their places. A difference is rounded, or too large for any finite double, but what is
taken from a later double ends at a later place.

* `place?`, `IsFitting`, `compare_eq`: places on the line, and the comparison of doubles;
* `repack`, `place?_repack_finite`: what becomes of a result that is put into its bits;
* `units`, `roundedPlace`: numbers of smallest units, and the places that they are rounded to;
* `place?_repack_sub`: the places of differences;
* **`lt_sub_of_le`**: what is less than a difference is less than a later one.
-/

namespace Introspection.Double

open Float.Model Float.Model.UnpackedFloat

/-! ## Places -/

/-- The place of infinity. -/
def top : Int := 2047 * 2 ^ 52

/-- The place of a double on a line of integers. -/
def place? : UnpackedFloat → Option Int
  | .notANumber => none
  | .infinity s => some (s.apply top)
  | .zero _ => some 0
  | .finite s m e _ => some (s.apply ((e + 1074) * 2 ^ 52 + m))

/-- What fits into the bits of a double. -/
def IsFitting : UnpackedFloat → Prop
  | .finite _ m e _ => IsRounded m e ∧ e ≤ 971
  | _ => True

theorem toNat_one_append (m : BitVec 52) : (1#1 ++ m).toNat = 2 ^ 52 + m.toNat := by
  rw [BitVec.toNat_append, ← Nat.shiftLeft_add_eq_or_of_lt m.isLt]
  rfl

theorem isFitting_unpack (b : BitVec Format.binary64.numBits) :
    IsFitting (UnpackedFloat.unpack .binary64 b) := by
  have hm : (unpackMantissa b).toNat < 2 ^ 52 := (unpackMantissa b).isLt
  have he : (unpackExponent b).toNat < 2 ^ 11 := (unpackExponent b).isLt
  rw [UnpackedFloat.unpack]
  split
  · split <;> trivial
  · rename_i hinfinite
    have htop : (unpackExponent b).toNat ≠ 2047 := fun h => hinfinite (BitVec.eq_of_toNat_eq h)
    split
    · rename_i hsmall
      split
      · trivial
      · rw [hsmall]
        exact ⟨⟨Nat.lt_trans hm (by decide), by decide, .inl (by decide)⟩, by decide⟩
    · rename_i hnormal
      have hbottom : (unpackExponent b).toNat ≠ 0 := fun h => hnormal (BitVec.eq_of_toNat_eq h)
      have hbias : ((unpackExponent b).toNat : Int) - (Format.binary64.exponentBias +
          Format.binary64.mantissaBitsWithoutImplicit : Nat) = (unpackExponent b).toNat - 1075 :=
        rfl
      have hmantissa := toNat_one_append (unpackMantissa b)
      refine ⟨⟨?_, ?_, .inr ?_⟩, ?_⟩ <;> omega

/-- Zero, or what has a mantissa. -/
def IsNumber : UnpackedFloat → Prop
  | .zero _ | .finite .. => True
  | _ => False

theorem IsRounded.place_pos {m : Nat} {e : Int} (h : IsRounded m e) (hm : 0 < m) :
    0 < (e + 1074) * 2 ^ 52 + m := by
  have := h.le
  omega

theorem place_lt {u : UnpackedFloat} (hu : IsFitting u) (hn : IsNumber u) {p : Int}
    (h : place? u = some p) : -top < p ∧ p < top := by
  cases u with
  | notANumber => cases h
  | infinity s => exact hn.elim
  | zero s =>
    cases h
    decide
  | finite s m e hm =>
    obtain ⟨⟨hlt, hle, -⟩, hmax⟩ := hu
    cases s <;> cases h <;> simp only [top, Sign.apply] <;> omega

theorem isNumber_or_infinity {u : UnpackedFloat} {p : Int} (h : place? u = some p) :
    IsNumber u ∨ ∃ s, u = .infinity s ∧ p = s.apply top := by
  cases u with
  | notANumber => cases h
  | infinity s =>
    cases h
    exact .inr ⟨s, rfl, rfl⟩
  | zero s => exact .inl trivial
  | finite s m e hm => exact .inl trivial

theorem place_bounds {u : UnpackedFloat} (hu : IsFitting u) {p : Int} (h : place? u = some p) :
    -top ≤ p ∧ p ≤ top := by
  obtain hn | ⟨s, rfl, rfl⟩ := isNumber_or_infinity h
  · have := place_lt hu hn h
    omega
  · cases s <;> decide

/-! ## Comparing -/

/-- An exponent counts more than any mantissa. -/
theorem compare_then {m m' : Nat} {e e' : Int} (h : IsRounded m e) (h' : IsRounded m' e') :
    (compare e e').then (compare m m') =
      compare ((e + 1074) * 2 ^ 52 + m) ((e' + 1074) * 2 ^ 52 + m') := by
  obtain ⟨hm, he, hn⟩ := h
  obtain ⟨hm', he', hn'⟩ := h'
  rcases Int.lt_trichotomy e e' with hlt | rfl | hgt
  · rw [Int.compare_eq_lt.mpr hlt, Int.compare_eq_lt.mpr (by omega)]
    rfl
  · rw [Int.compare_eq_eq.mpr rfl, Ordering.eq_then]
    rcases Nat.lt_trichotomy m m' with hlt | rfl | hgt
    · rw [Nat.compare_eq_lt.mpr hlt, Int.compare_eq_lt.mpr (by omega)]
    · rw [Nat.compare_eq_eq.mpr rfl, Int.compare_eq_eq.mpr rfl]
    · rw [Nat.compare_eq_gt.mpr hgt, Int.compare_eq_gt.mpr (by omega)]
  · rw [Int.compare_eq_gt.mpr hgt, Int.compare_eq_gt.mpr (by omega)]
    rfl

theorem compare_neg (p q : Int) : compare (-p) (-q) = (compare p q).swap := by
  rcases Int.lt_trichotomy p q with hlt | rfl | hgt
  · rw [Int.compare_eq_lt.mpr hlt, Int.compare_eq_gt.mpr (by omega)]
    rfl
  · rw [Int.compare_eq_eq.mpr rfl, Int.compare_eq_eq.mpr rfl]
    rfl
  · rw [Int.compare_eq_gt.mpr hgt, Int.compare_eq_lt.mpr (by omega)]
    rfl

/-- **Doubles are compared by their places.** -/
theorem compare_eq {u v : UnpackedFloat} (hu : IsFitting u) (hv : IsFitting v) :
    u.compare v = (place? u).bind fun p => (place? v).map (compare p) := by
  have hlt {p q : Int} (h : p < q) : some Ordering.lt = some (compare p q) :=
    congrArg some (Int.compare_eq_lt.mpr h).symm
  have hgt {p q : Int} (h : q < p) : some Ordering.gt = some (compare p q) :=
    congrArg some (Int.compare_eq_gt.mpr h).symm
  cases u with
  | notANumber => rfl
  | infinity s =>
    cases v with
    | notANumber => cases s <;> rfl
    | infinity s' => cases s <;> cases s' <;> decide
    | zero s' => cases s <;> rfl
    | finite s' m e hm =>
      obtain ⟨hlow, hhigh⟩ := place_lt hv trivial rfl
      cases s with
      | negative => exact hlt hlow
      | positive => exact hgt hhigh
  | zero s =>
    cases v with
    | notANumber => rfl
    | infinity s' => cases s' <;> rfl
    | zero s' => rfl
    | finite s' m e hm =>
      have hpos := hv.1.place_pos hm
      cases s' with
      | negative => exact hgt (Int.neg_neg_of_pos hpos)
      | positive => exact hlt hpos
  | finite s m e hm =>
    cases v with
    | notANumber => cases s <;> rfl
    | infinity s' =>
      obtain ⟨hlow, hhigh⟩ := place_lt hu trivial rfl
      cases s' with
      | negative => cases s <;> exact hgt hlow
      | positive => cases s <;> exact hlt hhigh
    | zero s' =>
      have hpos := hu.1.place_pos hm
      cases s with
      | negative => exact hlt (Int.neg_neg_of_pos hpos)
      | positive => exact hgt hpos
    | finite s' m' e' hm' =>
      have hpos := hu.1.place_pos hm
      have hpos' := hv.1.place_pos hm'
      have hthen := compare_then hu.1 hv.1
      cases s <;> cases s'
      · exact congrArg some ((congrArg Ordering.swap hthen).trans (compare_neg _ _).symm)
      · exact hlt (Int.lt_trans (Int.neg_neg_of_pos hpos) hpos')
      · exact hgt (Int.lt_trans (Int.neg_neg_of_pos hpos') hpos)
      · exact congrArg some hthen

theorem lt_iff {u v : UnpackedFloat} (hu : IsFitting u) (hv : IsFitting v) :
    u.lt v ↔ ∃ p q, place? u = some p ∧ place? v = some q ∧ p < q := by
  rw [UnpackedFloat.lt, compare_eq hu hv]
  cases place? u <;> cases place? v <;> simp [Int.compare_eq_lt]

theorem le_iff {u v : UnpackedFloat} (hu : IsFitting u) (hv : IsFitting v) :
    u.le v ↔ ∃ p q, place? u = some p ∧ place? v = some q ∧ p ≤ q := by
  rw [UnpackedFloat.le, compare_eq hu hv]
  cases place? u <;> cases place? v <;> simp [Int.isLE_compare]

/-! ## Bits -/

/-- A result when it has been put into bits. -/
def repack (u : UnpackedFloat) : UnpackedFloat :=
  UnpackedFloat.unpack .binary64 (UnpackedFloat.pack .binary64 u)

theorem isFitting_repack (u : UnpackedFloat) : IsFitting (repack u) := isFitting_unpack _

theorem ofNat_ne {k n : Nat} (hk : k < 2 ^ 11) (hn : n < 2 ^ 11) (h : k ≠ n) :
    BitVec.ofNat 11 k ≠ BitVec.ofNat 11 n := by
  intro heq
  have hnat := congrArg BitVec.toNat heq
  rw [BitVec.toNat_ofNat, BitVec.toNat_ofNat, Nat.mod_eq_of_lt hk, Nat.mod_eq_of_lt hn] at hnat
  exact h hnat

theorem unpack_packComponents (s : Sign) {k m : Nat} (hk : 0 < k) (hk' : k < 2047)
    (hm : 2 ^ 52 ≤ m) (hm' : m < 2 ^ 53) :
    UnpackedFloat.unpack .binary64 (packComponents .binary64 s (.ofNat 11 k) (.ofNat 52 m)) =
      .finite s m (k - 1075) (by omega) := by
  have hmantissa : (1#1 ++ BitVec.ofNat 52 m).toNat = m := by
    rw [toNat_one_append, BitVec.toNat_ofNat]
    omega
  have hexponent : ((BitVec.ofNat 11 k).toNat : Int) -
      (Format.binary64.exponentBias + Format.binary64.mantissaBitsWithoutImplicit) =
        k - 1075 := by
    rw [BitVec.toNat_ofNat, Nat.mod_eq_of_lt (by omega)]
    rfl
  have htop : BitVec.ofNat 11 k ≠ -1#11 := ofNat_ne (by omega) (n := 2047) (by decide) (by omega)
  have hbottom : BitVec.ofNat 11 k ≠ 0#11 := ofNat_ne (by omega) (by decide) (by omega)
  rw [UnpackedFloat.unpack]
  simp only [unpackMantissa_packComponents, unpackExponent_packComponents,
    unpackSign_packComponents, Sign.ofBitVec_toBitVec, hmantissa, hexponent]
  rw [if_neg htop, if_neg hbottom]

theorem unpack_packComponents_zero (s : Sign) {m : Nat} (hm : 0 < m) (hm' : m < 2 ^ 52) :
    UnpackedFloat.unpack .binary64 (packComponents .binary64 s 0#11 (.ofNat 52 m)) =
      .finite s m (-1074) hm := by
  have hmantissa : (BitVec.ofNat 52 m).toNat = m := by
    rw [BitVec.toNat_ofNat]
    exact Nat.mod_eq_of_lt hm'
  have hne : BitVec.ofNat 52 m ≠ 0#52 := by
    intro heq
    rw [heq] at hmantissa
    exact Nat.ne_of_lt hm hmantissa
  have htop : (0#11 : BitVec 11) ≠ -1#11 := by decide
  rw [UnpackedFloat.unpack]
  simp only [unpackMantissa_packComponents, unpackExponent_packComponents,
    unpackSign_packComponents, Sign.ofBitVec_toBitVec, hmantissa]
  rw [if_neg htop, if_pos trivial, dif_neg hne]
  rfl

/-- What is rounded is put into bits as it is, or as infinity if it is too large. -/
theorem repack_finite (s : Sign) {m : Nat} (hm : 0 < m) {e : Int} (h : IsRounded m e) :
    repack (.finite s m e hm) = if e ≤ 971 then .finite s m e hm else .infinity s := by
  obtain ⟨hlt, hle, hnormal⟩ := h
  have hbiased : (e + Format.binary64.exponentBias +
      Format.binary64.mantissaBitsWithoutImplicit).toNat = (e + 1075).toNat := by
    change (e + (1023 : Nat) + (52 : Nat)).toNat = _
    omega
  rw [repack, UnpackedFloat.pack]
  simp only [hbiased]
  by_cases hmax : e ≤ 971
  · rw [if_pos hmax, if_neg (by change ¬2048 ≤ _; omega)]
    by_cases hbit : 2 ^ 52 ≤ m
    · have hlog : m.log2 + 1 = Format.binary64.mantissaBits := by
        rw [(Nat.log2_eq_iff (by omega)).mpr ⟨hbit, hlt⟩]
        rfl
      have hback : (((e + 1075).toNat : Nat) : Int) - 1075 = e := by omega
      rw [if_pos hlog, unpack_packComponents s (by omega) (by omega) hbit hlt]
      simp only [hback]
    · have hlog : m.log2 + 1 ≠ Format.binary64.mantissaBits := by
        have := (Nat.log2_lt (Nat.ne_of_gt hm)).mpr (Nat.not_le.mp hbit)
        change _ ≠ 53
        omega
      rw [if_neg hlog, unpack_packComponents_zero s hm (Nat.not_le.mp hbit)]
      simp only [hnormal.resolve_right hbit]
  · rw [if_neg hmax, if_pos (by change 2048 ≤ _; omega)]
    cases s <;> rfl

theorem place?_repack_finite (s : Sign) {m : Nat} (hm : 0 < m) {e : Int} (h : IsRounded m e) :
    place? (repack (.finite s m e hm)) = some (s.apply (min ((e + 1074) * 2 ^ 52 + m) top)) := by
  have hlt := h.lt
  have hnormal := h.normal
  rw [repack_finite s hm h]
  by_cases hmax : e ≤ 971
  · rw [if_pos hmax, place?, Int.min_eq_left (by rw [top]; omega)]
  · rw [if_neg hmax, place?, Int.min_eq_right (by rw [top]; omega)]

/-! ## Differences -/

/-- The number of smallest units of a double. -/
def units : UnpackedFloat → Int
  | .finite s m e _ => s.apply (m * 2 ^ (e + 1074).toNat : Nat)
  | _ => 0

/-- The number of smallest units of a double, of which there are `2 ^ 1074` in one. -/
def unitsOf (x : Float) : Int := units x.toModel.unpack

/-- The place that a number of smallest units is rounded to. -/
def roundedPlace (n : Int) : Int :=
  if n < 0 then -min (rank n.natAbs : Int) top else min (rank n.natAbs : Int) top

theorem roundedPlace_apply (s : Sign) (n : Nat) :
    roundedPlace (s.apply n) = s.apply (min (rank n : Int) top) := by
  cases s with
  | positive => exact if_neg (by simp [Sign.apply])
  | negative =>
    simp only [Sign.apply, roundedPlace, Int.natAbs_neg, Int.natAbs_natCast]
    by_cases hn : n = 0
    · subst hn
      decide
    · rw [if_pos (by omega)]

theorem roundedPlace_mono {n n' : Int} (h : n ≤ n') : roundedPlace n ≤ roundedPlace n' := by
  rw [roundedPlace, roundedPlace]
  have htop : 0 ≤ top := by decide
  by_cases hn : n < 0
  · by_cases hn' : n' < 0
    · have := rank_mono (show n'.natAbs ≤ n.natAbs by omega)
      rw [if_pos hn, if_pos hn']
      omega
    · rw [if_pos hn, if_neg hn']
      omega
  · have := rank_mono (show n.natAbs ≤ n'.natAbs by omega)
    rw [if_neg hn, if_neg (by omega)]
    omega

theorem rank_of_isRounded {m : Nat} (hm : 0 < m) {e : Int} (h : IsRounded m e) :
    (rank (m * 2 ^ (e + 1074).toNat) : Int) = (e + 1074) * 2 ^ 52 + m := by
  obtain ⟨hlt, hle, hnormal⟩ := h
  have hlog := log2_mul_two_pow hm (e + 1074).toNat
  have hm' : m.log2 ≤ 52 := Nat.le_of_lt_succ ((Nat.log2_lt (Nat.ne_of_gt hm)).mpr hlt)
  have hn : (m * 2 ^ (e + 1074).toNat).log2 - 52 = 0 + (e + 1074).toNat := by
    rcases hnormal with rfl | hbit
    · rw [hlog]
      exact Nat.sub_eq_zero_of_le hm'
    · have := (Nat.log2_eq_iff (by omega)).mpr ⟨hbit, hlt⟩
      omega
  rw [rank, hn, halfEven_mul_two_pow, halfEven_zero]
  omega

theorem place?_repack_normalize (n : Int) {e : Int} (he : -1074 ≤ e) :
    place? (repack (UnpackedFloat.normalize .binary64 n e .positive)) =
      some (roundedPlace (n * 2 ^ (e + 1074).toNat)) := by
  have hround (s : Sign) {m : Nat} (hm : 0 < m) :
      place? (repack (UnpackedFloat.round .binary64 s m e)) =
        some (roundedPlace (s.apply (m * 2 ^ (e + 1074).toNat : Nat))) := by
    obtain ⟨m', e', hm', heq, hrounded, hrank⟩ := exists_round s hm he
    rw [heq, place?_repack_finite s hm' hrounded, hrank, roundedPlace_apply]
  rcases Int.lt_trichotomy n 0 with hlt | rfl | hgt
  · have hn : n = -((-n).toNat : Int) := by omega
    have hunits : n * 2 ^ (e + 1074).toNat =
        Sign.negative.apply ((-n).toNat * 2 ^ (e + 1074).toNat : Nat) := by
      rw [Sign.apply, Int.natCast_mul, ← Int.neg_mul, ← hn, Int.natCast_pow]
      rfl
    rw [hunits, ← hround .negative (by omega), UnpackedFloat.normalize, Int.compare_eq_lt.mpr hlt]
  · rw [Int.zero_mul, UnpackedFloat.normalize, Int.compare_eq_eq.mpr rfl]
    change place? (repack (.zero .positive)) = _
    decide
  · have hn : n = (n.toNat : Int) := by omega
    have hunits : n * 2 ^ (e + 1074).toNat =
        Sign.positive.apply (n.toNat * 2 ^ (e + 1074).toNat : Nat) := by
      rw [Sign.apply, Int.natCast_mul, ← hn, Int.natCast_pow]
      rfl
    rw [hunits, ← hround .positive (by omega), UnpackedFloat.normalize, Int.compare_eq_gt.mpr hgt]

theorem place?_repack {u : UnpackedFloat} (hu : IsFitting u) (hn : IsNumber u) :
    place? (repack u) = some (roundedPlace (units u)) := by
  cases u with
  | notANumber => exact hn.elim
  | infinity s => exact hn.elim
  | zero s => cases s <;> rfl
  | finite s m e hm =>
    rw [place?_repack_finite s hm hu.1, units, roundedPlace_apply, rank_of_isRounded hm hu.1]

/-- A mantissa that is brought to a smaller exponent is worth what it was. -/
theorem apply_mul_two_pow (s : Sign) (m : Nat) {e e' : Int} (he' : -1074 ≤ e') (hle : e' ≤ e) :
    s.apply ((m * 2 ^ (e - e').toNat : Nat) : Int) * 2 ^ (e' + 1074).toNat =
      s.apply ((m * 2 ^ (e + 1074).toNat : Nat) : Int) := by
  have hsum : (e + 1074).toNat = (e - e').toNat + (e' + 1074).toNat := by omega
  rw [hsum, Nat.pow_add, ← Nat.mul_assoc, Int.natCast_mul _ (2 ^ _), Int.natCast_pow]
  cases s with
  | positive => rfl
  | negative => exact Int.neg_mul _ _

/-- **The place of a difference** is the one that the exact difference is rounded to. -/
theorem place?_repack_sub {u w : UnpackedFloat} (hu : IsFitting u) (hun : IsNumber u)
    (hw : IsFitting w) (hwn : IsNumber w) :
    place? (repack (UnpackedFloat.sub .binary64 u w)) =
      some (roundedPlace (units u - units w)) := by
  cases u with
  | notANumber => exact hun.elim
  | infinity s => exact hun.elim
  | zero s =>
    cases w with
    | notANumber => exact hwn.elim
    | infinity s' => exact hwn.elim
    | zero s' => cases s <;> cases s' <;> rfl
    | finite s' m e hm =>
      have hunits : units (.zero s) - units (.finite s' m e hm) =
          units (.finite (-s') m e hm) := by
        rw [show units (.zero s) = 0 from rfl, Int.zero_sub]
        cases s' with
        | positive => rfl
        | negative => exact Int.neg_neg _
      rw [hunits, ← place?_repack (u := .finite (-s') m e hm) hw trivial]
      rfl
  | finite s m e hm =>
    cases w with
    | notANumber => exact hwn.elim
    | infinity s' => exact hwn.elim
    | zero s' =>
      rw [show units (.zero s') = 0 from rfl, Int.sub_zero, ← place?_repack hu trivial]
      rfl
    | finite s' m' e' hm' =>
      have hmin : -1074 ≤ min e e' := Int.le_min.mpr ⟨hu.1.le, hw.1.le⟩
      simp only [UnpackedFloat.sub, decreaseExponent, Nat.shiftLeft_eq, units]
      rw [place?_repack_normalize _ hmin, Int.sub_mul,
        apply_mul_two_pow s m hmin (Int.min_le_left ..),
        apply_mul_two_pow s' m' hmin (Int.min_le_right ..)]

theorem scaled_le {m m' : Nat} {e e' : Int} (h : IsRounded m e) (h' : IsRounded m' e')
    (hle : (e + 1074) * 2 ^ 52 + m ≤ (e' + 1074) * 2 ^ 52 + m') :
    m * 2 ^ (e + 1074).toNat ≤ m' * 2 ^ (e' + 1074).toNat := by
  obtain ⟨hm, he, hn⟩ := h
  obtain ⟨hm', he', hn'⟩ := h'
  rcases Int.lt_trichotomy e e' with hlt | rfl | hgt
  · calc m * 2 ^ (e + 1074).toNat
        ≤ 2 ^ 53 * 2 ^ (e + 1074).toNat := Nat.mul_le_mul_right _ (Nat.le_of_lt hm)
      _ = 2 ^ 52 * 2 ^ ((e + 1074).toNat + 1) := by rw [Nat.pow_succ 2 (e + 1074).toNat]; omega
      _ ≤ m' * 2 ^ (e' + 1074).toNat :=
        Nat.mul_le_mul (hn'.resolve_left (by omega)) (Nat.pow_le_pow_right (by decide) (by omega))
  · exact Nat.mul_le_mul_right _ (by omega)
  · have := hn.resolve_left (by omega)
    omega

theorem units_le {u v : UnpackedFloat} (hu : IsFitting u) (hun : IsNumber u) (hv : IsFitting v)
    (hvn : IsNumber v) {p q : Int} (hp : place? u = some p) (hq : place? v = some q)
    (h : p ≤ q) : units u ≤ units v := by
  cases u with
  | notANumber => exact hun.elim
  | infinity s => exact hun.elim
  | zero s =>
    cases hp
    cases v with
    | notANumber => exact hvn.elim
    | infinity s' => exact hvn.elim
    | zero s' => exact Int.le_refl _
    | finite s' m e hm =>
      have he := hv.1.le
      cases s' <;> cases hq <;> simp only [units, Sign.apply] at h ⊢ <;> omega
  | finite s m e hm =>
    have he := hu.1.le
    cases v with
    | notANumber => exact hvn.elim
    | infinity s' => exact hvn.elim
    | zero s' =>
      cases hq
      cases s <;> cases hp <;> simp only [units, Sign.apply] at h ⊢ <;> omega
    | finite s' m' e' hm' =>
      have he' := hv.1.le
      cases s <;> cases s' <;> cases hp <;> cases hq <;> simp only [units, Sign.apply] at h ⊢
      · exact Int.neg_le_neg (Int.ofNat_le.mpr (scaled_le hv.1 hu.1 (by omega)))
      · omega
      · omega
      · exact Int.ofNat_le.mpr (scaled_le hu.1 hv.1 h)

/-! ## Order -/

theorem sub_infinity {u : UnpackedFloat} (hn : IsNumber u) (s : Sign) :
    UnpackedFloat.sub .binary64 u (.infinity s) = .infinity (-s) := by
  cases u with
  | notANumber => exact hn.elim
  | infinity s' => exact hn.elim
  | zero s' => rfl
  | finite s' m e hm => rfl

theorem infinity_sub {w : UnpackedFloat} (hn : IsNumber w) (s : Sign) :
    UnpackedFloat.sub .binary64 (.infinity s) w = .infinity s := by
  cases w with
  | notANumber => exact hn.elim
  | infinity s' => exact hn.elim
  | zero s' => rfl
  | finite s' m e hm => rfl

theorem place?_repack_infinity (s : Sign) :
    place? (repack (.infinity s)) = some (s.apply top) := by
  cases s <;> rfl

theorem sub_infinity_negative {v : UnpackedFloat} (hv : IsFitting v) {q : Int}
    (hq : place? v = some q) (hlow : -top < q) :
    UnpackedFloat.sub .binary64 v (.infinity .negative) = .infinity .positive := by
  obtain hn | ⟨s, rfl, rfl⟩ := isNumber_or_infinity hq
  · exact sub_infinity hn .negative
  · cases s with
    | positive => rfl
    | negative => exact absurd hlow (Int.lt_irrefl _)

/-- What remains above the least place when infinity is subtracted has been later than the least of
all, and the subtracted infinity was the negative one. -/
theorem negative_of_sub_infinity {u : UnpackedFloat} (hu : IsFitting u) {a p : Int}
    (ha : place? u = some a) {s : Sign}
    (hp : place? (repack (UnpackedFloat.sub .binary64 u (.infinity s))) = some p)
    (hlow : -top < p) : s = .negative ∧ -top < a := by
  obtain hn | ⟨s', rfl, rfl⟩ := isNumber_or_infinity ha
  · rw [sub_infinity hn, place?_repack_infinity] at hp
    cases hp
    cases s with
    | positive => exact absurd hlow (Int.lt_irrefl _)
    | negative => exact ⟨rfl, (place_lt hu hn ha).1⟩
  · cases s' <;> cases s
    · cases hp
    · cases hp
      exact absurd hlow (Int.lt_irrefl _)
    · exact ⟨rfl, by decide⟩
    · cases hp

theorem low_of_sub {u w : UnpackedFloat} (hu : IsFitting u) (hw : IsNumber w) {a p : Int}
    (ha : place? u = some a)
    (hp : place? (repack (UnpackedFloat.sub .binary64 u w)) = some p) (hlow : -top < p) :
    -top < a := by
  obtain hn | ⟨s, rfl, rfl⟩ := isNumber_or_infinity ha
  · exact (place_lt hu hn ha).1
  · rw [infinity_sub hw, place?_repack_infinity] at hp
    cases hp
    exact hlow

/-- A difference above the least place is followed by the differences of what is later. -/
theorem exists_place?_sub {u v : UnpackedFloat} (hu : IsFitting u) (hv : IsFitting v)
    (hle : u.le v) {w : UnpackedFloat} (hw : IsFitting w) {p : Int}
    (hp : place? (repack (UnpackedFloat.sub .binary64 u w)) = some p) (hlow : -top < p) :
    ∃ q, place? (repack (UnpackedFloat.sub .binary64 v w)) = some q ∧ p ≤ q := by
  obtain ⟨a, b, ha, hb, hab⟩ := (le_iff hu hv).mp hle
  have hmax : p ≤ top := (place_bounds (isFitting_repack _) hp).2
  cases hc : place? w with
  | none =>
    have hnan : UnpackedFloat.sub .binary64 u w = .notANumber := by
      cases w with
      | notANumber => cases u <;> rfl
      | infinity s => cases hc
      | zero s => cases hc
      | finite s m e hm => cases hc
    rw [hnan] at hp
    cases hp
  | some c =>
    obtain hwn | ⟨s, rfl, -⟩ := isNumber_or_infinity hc
    · have hlater := low_of_sub hu hwn ha hp hlow
      obtain hvn | ⟨s, rfl, rfl⟩ := isNumber_or_infinity hb
      · have hearlier := Int.lt_of_le_of_lt hab (place_lt hv hvn hb).2
        obtain hun | ⟨s, rfl, rfl⟩ := isNumber_or_infinity ha
        · rw [place?_repack_sub hu hun hw hwn] at hp
          cases hp
          have hunits := units_le hu hun hv hvn ha hb hab
          exact ⟨_, place?_repack_sub hv hvn hw hwn, roundedPlace_mono (by omega)⟩
        · cases s with
          | positive => exact absurd hearlier (Int.lt_irrefl _)
          | negative => exact absurd hlater (Int.lt_irrefl _)
      · rw [infinity_sub hwn, place?_repack_infinity]
        cases s with
        | positive => exact ⟨top, rfl, hmax⟩
        | negative => exact absurd (Int.lt_of_lt_of_le hlater hab) (Int.lt_irrefl _)
    · obtain ⟨rfl, hlater⟩ := negative_of_sub_infinity hu ha hp hlow
      rw [sub_infinity_negative hv hb (Int.lt_of_lt_of_le hlater hab), place?_repack_infinity]
      exact ⟨top, rfl, hmax⟩

theorem isNumber_of_isFinite {x : Float} (h : x.isFinite) : IsNumber x.toModel.unpack := by
  change x.toModel.unpack.isFinite = true at h
  cases hx : x.toModel.unpack with
  | notANumber | infinity =>
    rw [hx] at h
    cases h
  | zero s => trivial
  | finite s m e hm => trivial

theorem lt_iff_unpack (a b : Float) : a < b ↔ a.toModel.unpack.lt b.toModel.unpack :=
  decide_eq_true_iff

theorem le_iff_unpack (a b : Float) : a ≤ b ↔ a.toModel.unpack.le b.toModel.unpack :=
  decide_eq_true_iff

/-- **What is less than a difference is less than a later one.** A later difference may be no
number, as infinity less infinity is none, but then nothing is less than the earlier one. -/
theorem lt_sub_of_le {a b s t : Float} (h : a ≤ b) (ht : t < a - s) : t < b - s := by
  have hfit (x : Float) : IsFitting x.toModel.unpack := isFitting_unpack _
  rw [lt_iff_unpack, lt_iff (hfit _) (hfit _)] at ht ⊢
  obtain ⟨p, q, hp, hq, hlt⟩ := ht
  have hlow := Int.lt_of_le_of_lt (place_bounds (hfit _) hp).1 hlt
  obtain ⟨q', hq', hle⟩ :=
    exists_place?_sub (hfit a) (hfit b) ((le_iff_unpack a b).mp h) (hfit s) hq hlow
  exact ⟨p, q', hp, hq', Int.lt_of_lt_of_le hlt hle⟩

/-- What is not below a difference of finite doubles is at least as great, unless it is no
number. -/
theorem not_lt_sub_iff {a b t : Float} (ha : a.isFinite) (hb : b.isFinite) (ht : 0 ≤ t) :
    ¬t < a - b ↔ a - b ≤ t := by
  have hfit (x : Float) : IsFitting x.toModel.unpack := isFitting_unpack _
  have hsub : place? (a - b).toModel.unpack = _ :=
    place?_repack_sub (hfit a) (isNumber_of_isFinite ha) (hfit b) (isNumber_of_isFinite hb)
  obtain ⟨-, q, -, hq, -⟩ := (le_iff (hfit _) (hfit _)).mp ((le_iff_unpack 0 t).mp ht)
  rw [lt_iff_unpack, le_iff_unpack, lt_iff (hfit _) (hfit _), le_iff (hfit _) (hfit _), hsub, hq]
  simp

end Introspection.Double
