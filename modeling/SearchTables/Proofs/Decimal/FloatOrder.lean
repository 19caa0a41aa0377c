import SearchTables.Decimal.Order
import Mathlib

/-! # The order of doubles — doubles are compared by their exact values

Core compares two doubles by their signs, exponents and mantissas. The exponent goes before the mantissa,
which is right because a mantissa has fifty-three bits unless the exponent is the smallest one
(`Dyadic.compare_value`). So a finite double is smaller than another exactly when the fraction that it
stands for is (`lt_iff_of_rational`), and the same holds of the exact comparison of integers and doubles
(`Extended.lt_iff_of_place`). -/

namespace SearchTables

open Float.Model Float.Model.UnpackedFloat

/-! ## Mantissas and exponents -/

namespace Dyadic

/-- The exact value. -/
def value (d : Dyadic) : ℚ := d.mantissa * 2 ^ d.exponent

/-- A magnitude is **canonical** when its mantissa has fifty-three bits, or fewer at the smallest
exponent. -/
structure IsCanonical (d : Dyadic) : Prop where
  mantissa_lt : d.mantissa < 2 ^ 53
  le_exponent : minExponent ≤ d.exponent
  full : 2 ^ 52 ≤ d.mantissa ∨ d.exponent = minExponent

/-- The value is the fraction of numerator and denominator. -/
theorem num_div_den (d : Dyadic) : (d.num : ℚ) / d.den = d.value := by
  rw [num, den, value, Nat.pow_eq, Nat.pow_eq]
  push_cast
  rcases Int.le_total 0 d.exponent with h | h
  · have hneg : (-d.exponent).toNat = 0 := by omega
    have hexp : ((d.exponent.toNat : ℕ) : ℤ) = d.exponent := by omega
    rw [hneg, pow_zero, div_one, ← zpow_natCast, hexp]
  · have hpos : d.exponent.toNat = 0 := by omega
    have hexp : (((-d.exponent).toNat : ℕ) : ℤ) = -d.exponent := by omega
    rw [hpos, pow_zero, mul_one, ← zpow_natCast, hexp, zpow_neg, div_inv_eq_mul]

/-- A smaller exponent makes a smaller value. -/
theorem value_lt_of_exponent_lt {d e : Dyadic} (hd : d.IsCanonical) (he : e.IsCanonical)
    (h : d.exponent < e.exponent) : d.value < e.value := by
  -- the exponent of the second one is not the smallest, so its mantissa is full
  have hfull : 2 ^ 52 ≤ e.mantissa := by
    rcases he.full with hfull | hmin
    · exact hfull
    · have := hd.le_exponent
      omega
  have hd53 : (d.mantissa : ℚ) < 2 ^ 53 := by exact_mod_cast hd.mantissa_lt
  have he52 : (2 : ℚ) ^ 52 ≤ e.mantissa := by exact_mod_cast hfull
  have hpow : (2 : ℚ) ^ (d.exponent + 1) ≤ 2 ^ e.exponent :=
    zpow_le_zpow_right₀ (by norm_num) (by omega)
  calc d.value = d.mantissa * 2 ^ d.exponent := rfl
    _ < 2 ^ 53 * 2 ^ d.exponent := mul_lt_mul_of_pos_right hd53 (zpow_pos (by norm_num) _)
    _ = 2 ^ 52 * 2 ^ (d.exponent + 1) := by rw [zpow_add_one₀ (by norm_num)]; ring
    _ ≤ e.mantissa * 2 ^ e.exponent :=
        mul_le_mul he52 hpow (zpow_pos (by norm_num) _).le (Nat.cast_nonneg _)
    _ = e.value := rfl

/-- **Canonical magnitudes are compared by their exponents, and then by their mantissas.** -/
theorem compare_value {d e : Dyadic} (hd : d.IsCanonical) (he : e.IsCanonical) :
    (compare d.exponent e.exponent).then (compare d.mantissa e.mantissa) = compare d.value e.value := by
  rcases lt_trichotomy d.exponent e.exponent with h | h | h
  · rw [compare_lt_iff_lt.2 h, compare_lt_iff_lt.2 (value_lt_of_exponent_lt hd he h)]
    rfl
  · have hpow : (0 : ℚ) < 2 ^ e.exponent := zpow_pos (by norm_num) _
    rw [compare_eq_iff_eq.2 h, value, value, h]
    show compare d.mantissa e.mantissa = _
    rcases lt_trichotomy d.mantissa e.mantissa with hm | hm | hm
    · have hcast : (d.mantissa : ℚ) < e.mantissa := by exact_mod_cast hm
      rw [compare_lt_iff_lt.2 hm, compare_lt_iff_lt.2 (mul_lt_mul_of_pos_right hcast hpow)]
    · rw [hm, compare_eq_iff_eq.2 rfl, compare_eq_iff_eq.2 rfl]
    · have hcast : (e.mantissa : ℚ) < d.mantissa := by exact_mod_cast hm
      rw [compare_gt_iff_gt.2 hm, compare_gt_iff_gt.2 (mul_lt_mul_of_pos_right hcast hpow)]
  · rw [compare_gt_iff_gt.2 h, compare_gt_iff_gt.2 (value_lt_of_exponent_lt he hd h)]
    rfl

end Dyadic

/-! ## Bits -/

/-- The bits of a double. -/
def bitsOf (x : Float) : BitVec Format.binary64.numBits := x.toModel.toBits.toBitVec

/-- The sign of a double. -/
def signOf (x : Float) : Sign := if isNegative x then .negative else .positive

section

variable (x : Float)

/-- The bits are those of a natural number. -/
theorem toNat_bitsOf : (bitsOf x).toNat = x.toBits.toNat := rfl

/-- The exponent takes eleven bits above the mantissa. -/
theorem toNat_unpackExponent :
    (unpackExponent (bitsOf x)).toNat = x.toBits.toNat % Nat.pow 2 63 / Nat.pow 2 52 := by
  rw [unpackExponent_def, BitVec.extractLsb'_toNat, Nat.shiftRight_eq_div_pow, toNat_bitsOf]
  show _ / 2 ^ 52 % 2 ^ 11 = _ % 2 ^ 63 / 2 ^ 52
  omega

/-- The mantissa takes the lowest bits. -/
theorem toNat_unpackMantissa :
    (unpackMantissa (bitsOf x)).toNat = x.toBits.toNat % Nat.pow 2 63 % Nat.pow 2 52 := by
  rw [unpackMantissa_def, BitVec.extractLsb'_toNat, Nat.shiftRight_eq_div_pow, toNat_bitsOf]
  show _ / 2 ^ 0 % 2 ^ 52 = _ % 2 ^ 63 % 2 ^ 52
  omega

/-- The sign is the highest bit. -/
theorem ofBitVec_unpackSign : Sign.ofBitVec (unpackSign (bitsOf x)) = signOf x := by
  have hlt : x.toBits.toNat < 2 ^ 64 := x.toBits.toNat_lt
  have hpow : Nat.pow 2 63 = 2 ^ 63 := rfl
  have hval : (unpackSign (bitsOf x)).toNat = x.toBits.toNat / 2 ^ 63 := by
    rw [unpackSign_def, BitVec.extractLsb'_toNat, Nat.shiftRight_eq_div_pow, toNat_bitsOf]
    show _ / 2 ^ 63 % 2 ^ 1 = _ / 2 ^ 63
    omega
  rw [signOf, isNegative, hpow]
  by_cases h : 2 ^ 63 ≤ x.toBits.toNat
  · have hone : unpackSign (bitsOf x) = 1#1 := by
      apply BitVec.eq_of_toNat_eq
      rw [hval]
      show _ = 1
      omega
    rw [hone, decide_eq_true h]
    rfl
  · have hzero : unpackSign (bitsOf x) = 0#1 := by
      apply BitVec.eq_of_toNat_eq
      rw [hval]
      show _ = 0
      omega
    rw [hzero, decide_eq_false h]
    rfl

end

variable {x y : Float} {d : Dyadic}

/-- The magnitude of a finite double is canonical. -/
theorem isCanonical_of_magnitude (h : magnitude? x = some d) : d.IsCanonical := by
  have h52 : Nat.pow 2 52 = 2 ^ 52 := rfl
  have h63 : Nat.pow 2 63 = 2 ^ 63 := rfl
  unfold magnitude? at h
  dsimp only at h
  rw [h52, h63] at h
  split_ifs at h with hlast hfirst
  · obtain rfl := Option.some.inj h
    exact ⟨by dsimp only; omega, le_refl _, .inr rfl⟩
  · obtain rfl := Option.some.inj h
    exact ⟨by dsimp only; omega, by dsimp only; omega, .inl (by dsimp only; omega)⟩

/-- What a finite double is unpacked to: zero, or its mantissa and exponent. -/
theorem unpack_of_magnitude (h : magnitude? x = some d) :
    (d.mantissa = 0 ∧ x.toModel.unpack = .zero (signOf x)) ∨
      ∃ hpos : 0 < d.mantissa, x.toModel.unpack = .finite (signOf x) d.mantissa d.exponent hpos := by
  have hunpack : x.toModel.unpack = UnpackedFloat.unpack Format.binary64 (bitsOf x) := rfl
  have hexponent := toNat_unpackExponent x
  have hmantissa := toNat_unpackMantissa x
  -- the bits are compared as numbers, which is how `magnitude?` looks at them
  have hlast : unpackExponent (bitsOf x) = -1#_ ↔ (unpackExponent (bitsOf x)).toNat = 0x7ff := by
    rw [← BitVec.toNat_inj]
    rfl
  have hfirst : unpackExponent (bitsOf x) = 0#_ ↔ (unpackExponent (bitsOf x)).toNat = 0 := by
    rw [← BitVec.toNat_inj]
    rfl
  have hnone : unpackMantissa (bitsOf x) = 0#_ ↔ (unpackMantissa (bitsOf x)).toNat = 0 := by
    rw [← BitVec.toNat_inj]
    rfl
  -- the leading bit of a normal double is not stored
  have hwhole : (1#1 ++ unpackMantissa (bitsOf x)).toNat =
      (unpackMantissa (bitsOf x)).toNat + Nat.pow 2 52 := by
    have hlt := (unpackMantissa (bitsOf x)).isLt
    rw [BitVec.toNat_append, ← Nat.shiftLeft_add_eq_or_of_lt hlt, Nat.shiftLeft_eq, Nat.add_comm]
    rfl
  rw [hunpack]
  unfold UnpackedFloat.unpack
  dsimp only
  rw [ofBitVec_unpackSign]
  unfold magnitude? at h
  dsimp only at h
  rw [← hexponent, ← hmantissa] at h
  split_ifs at h with horder hzero
  · -- without a leading bit: zero, or a subnormal double
    obtain rfl := Option.some.inj h
    rw [if_neg (mt hlast.1 horder), if_pos (hfirst.2 hzero)]
    by_cases hm : unpackMantissa (bitsOf x) = 0#_
    · left
      rw [dif_pos hm]
      exact ⟨hnone.1 hm, rfl⟩
    · right
      refine ⟨Nat.pos_of_ne_zero (mt hnone.2 hm), ?_⟩
      rw [dif_neg hm]
      congr 1
      rw [hzero]
      rfl
  · -- a normal double
    obtain rfl := Option.some.inj h
    right
    rw [if_neg (mt hlast.1 horder), if_neg (mt hfirst.1 hzero)]
    refine ⟨Nat.add_pos_right _ (Nat.two_pow_pos 52), ?_⟩
    have hexp : ((unpackExponent (bitsOf x)).toNat : Int) -
        (Format.binary64.exponentBias + Format.binary64.mantissaBitsWithoutImplicit) =
          Dyadic.minExponent + ((unpackExponent (bitsOf x)).toNat - 1 : Nat) := by
      show ((unpackExponent (bitsOf x)).toNat : Int) - (1023 + 52) = -1074 + _
      omega
    congr 1

/-! ## Values -/

/-- The exact value of a finite double. -/
def rational? (x : Float) : Option ℚ :=
  (magnitude? x).map fun d => if isNegative x then -d.value else d.value

/-- A magnitude is positive unless its mantissa is zero. -/
theorem Dyadic.value_pos {d : Dyadic} (h : 0 < d.mantissa) : 0 < d.value :=
  mul_pos (Nat.cast_pos.2 h) (zpow_pos (by norm_num) _)

/-- **Finite doubles are compared by their exact values.** -/
theorem compare_unpack {p q : ℚ} (hx : rational? x = some p) (hy : rational? y = some q) :
    x.toModel.unpack.compare y.toModel.unpack = some (compare p q) := by
  obtain ⟨d, hd, rfl⟩ := Option.map_eq_some_iff.1 hx
  obtain ⟨e, he, rfl⟩ := Option.map_eq_some_iff.1 hy
  have hcompare := Dyadic.compare_value (isCanonical_of_magnitude hd) (isCanonical_of_magnitude he)
  -- zeros have no sign, and a mantissa makes a sign count
  rcases unpack_of_magnitude hd with ⟨hdzero, hxu⟩ | ⟨hdpos, hxu⟩ <;>
    rcases unpack_of_magnitude he with ⟨hezero, hyu⟩ | ⟨hepos, hyu⟩ <;>
    rw [hxu, hyu, signOf, signOf]
  · have hdv : d.value = 0 := by simp [Dyadic.value, hdzero]
    have hev : e.value = 0 := by simp [Dyadic.value, hezero]
    rw [hdv, hev, neg_zero, ite_self, ite_self]
    rfl
  · have hdv : d.value = 0 := by simp [Dyadic.value, hdzero]
    have hev := Dyadic.value_pos hepos
    rw [hdv, neg_zero, ite_self]
    cases isNegative y
    · exact congrArg some (compare_lt_iff_lt.2 hev).symm
    · exact congrArg some (compare_gt_iff_gt.2 (neg_lt_zero.2 hev)).symm
  · have hdv := Dyadic.value_pos hdpos
    have hev : e.value = 0 := by simp [Dyadic.value, hezero]
    rw [hev, neg_zero, ite_self]
    cases isNegative x
    · exact congrArg some (compare_gt_iff_gt.2 hdv).symm
    · exact congrArg some (compare_lt_iff_lt.2 (neg_lt_zero.2 hdv)).symm
  · have hdv := Dyadic.value_pos hdpos
    have hev := Dyadic.value_pos hepos
    cases isNegative x <;> cases isNegative y
    · exact congrArg some hcompare
    · exact congrArg some (compare_gt_iff_gt.2 (lt_trans (neg_lt_zero.2 hev) hdv)).symm
    · exact congrArg some (compare_lt_iff_lt.2 (lt_trans (neg_lt_zero.2 hdv) hev)).symm
    · have hswap : compare (-d.value) (-e.value) = (compare d.value e.value).swap := by
        rcases lt_trichotomy d.value e.value with h | h | h
        · rw [compare_lt_iff_lt.2 h, compare_gt_iff_gt.2 (neg_lt_neg h)]
          rfl
        · rw [compare_eq_iff_eq.2 h, compare_eq_iff_eq.2 (congrArg Neg.neg h)]
          rfl
        · rw [compare_gt_iff_gt.2 h, compare_lt_iff_lt.2 (neg_lt_neg h)]
          rfl
      exact congrArg some ((congrArg Ordering.swap hcompare).trans hswap.symm)

/-- One double is smaller than another when its value is. -/
theorem lt_iff_of_rational {p q : ℚ} (hx : rational? x = some p) (hy : rational? y = some q) :
    x < y ↔ p < q := by
  have hlt : x < y ↔ x.toModel.unpack.lt y.toModel.unpack = true := by
    show decide (x.toModel < y.toModel) = true ↔ _
    rw [decide_eq_true_iff]
    rfl
  rw [hlt, UnpackedFloat.lt, compare_unpack hx hy, beq_iff_eq, Option.some.injEq, compare_lt_iff_lt]

/-- One double is equal to another when its value is. -/
theorem beq_iff_of_rational {p q : ℚ} (hx : rational? x = some p) (hy : rational? y = some q) :
    (x == y) = true ↔ p = q := by
  have hbeq : (x == y) = x.toModel.unpack.beq y.toModel.unpack := rfl
  rw [hbeq, UnpackedFloat.beq, compare_unpack hx hy, beq_iff_eq, Option.some.injEq, compare_eq_iff_eq]

/-! ## Extended numbers -/

namespace Extended

/-- A finite number has a denominator. -/
def IsProper : Extended → Prop
  | .finite _ den => 0 < den
  | _ => True

/-- Where a number stands on the line of rationals, which has an end on either side. -/
def place? : Extended → Option (WithBot (WithTop ℚ))
  | .finite num den => some ((num / den : ℚ) : WithTop ℚ)
  | .infinite negative => some (if negative then ⊥ else ((⊤ : WithTop ℚ) : WithBot (WithTop ℚ)))
  | .undefined => none

/-- The number of a double has a denominator. -/
theorem isProper_ofFloat (x : Float) : (ofFloat x).IsProper := by
  rw [ofFloat, exactValue?]
  cases magnitude? x with
  | none =>
      show (if isNotANumber x = true then _ else _ : Extended).IsProper
      split <;> trivial
  | some d => exact d.den_pos

/-- A finite double stands at its value. -/
theorem place?_ofFloat {x : Float} {q : ℚ} (h : rational? x = some q) :
    (ofFloat x).place? = some ((q : WithTop ℚ) : WithBot (WithTop ℚ)) := by
  obtain ⟨d, hd, rfl⟩ := Option.map_eq_some_iff.1 h
  rw [ofFloat, exactValue?, hd]
  show some _ = some _
  congr 3
  rw [← d.num_div_den]
  split
  · push_cast
    rw [neg_div]
  · push_cast
    rfl

/-- Fractions are in the order of the products across. -/
theorem mul_lt_mul_iff {n m : Int} {d e : Nat} (hd : 0 < d) (he : 0 < e) :
    n * e < m * d ↔ (n / d : ℚ) < m / e := by
  have hd' : (0 : ℚ) < d := Nat.cast_pos.2 hd
  have he' : (0 : ℚ) < e := Nat.cast_pos.2 he
  rw [div_lt_div_iff₀ hd' he']
  exact_mod_cast Iff.rfl

/-- Fractions are equal when the products across are. -/
theorem mul_eq_mul_iff {n m : Int} {d e : Nat} (hd : 0 < d) (he : 0 < e) :
    n * e = m * d ↔ (n / d : ℚ) = m / e := by
  have hd' : (d : ℚ) ≠ 0 := Nat.cast_ne_zero.2 hd.ne'
  have he' : (e : ℚ) ≠ 0 := Nat.cast_ne_zero.2 he.ne'
  rw [div_eq_div_iff hd' he']
  exact_mod_cast Iff.rfl

variable {a b : Extended} {p q : WithBot (WithTop ℚ)}

/-- **Numbers are in the order of their places.** -/
theorem lt_iff_of_place (ha : a.IsProper) (hb : b.IsProper) (hp : a.place? = some p)
    (hq : b.place? = some q) : a.lt b = true ↔ p < q := by
  cases a with
  | undefined => cases hp
  | finite n d =>
      obtain rfl := Option.some.inj hp
      cases b with
      | undefined => cases hq
      | finite m e =>
          obtain rfl := Option.some.inj hq
          -- two finite numbers; all that is left after that are comparisons with infinity
          rw [lt, decide_eq_true_iff, WithBot.coe_lt_coe, WithTop.coe_lt_coe]
          exact mul_lt_mul_iff ha hb
      | infinite negative =>
          obtain rfl := Option.some.inj hq
          cases negative with
          | false => exact iff_of_true rfl (WithBot.coe_lt_coe.2 (WithTop.coe_lt_top _))
          | true => simp [lt]
  | infinite negative =>
      obtain rfl := Option.some.inj hp
      cases b with
      | undefined => cases hq
      | finite m e =>
          obtain rfl := Option.some.inj hq
          cases negative <;> simp [lt]
      | infinite other =>
          obtain rfl := Option.some.inj hq
          cases negative <;> cases other <;> simp [lt]

/-- Numbers are equal when their places are. -/
theorem eq_iff_of_place (ha : a.IsProper) (hb : b.IsProper) (hp : a.place? = some p)
    (hq : b.place? = some q) : a.eq b = true ↔ p = q := by
  cases a with
  | undefined => cases hp
  | finite n d =>
      obtain rfl := Option.some.inj hp
      cases b with
      | undefined => cases hq
      | finite m e =>
          obtain rfl := Option.some.inj hq
          rw [eq, beq_iff_eq, WithBot.coe_inj, WithTop.coe_inj]
          exact mul_eq_mul_iff ha hb
      | infinite negative =>
          obtain rfl := Option.some.inj hq
          cases negative <;> simp [eq]
  | infinite negative =>
      obtain rfl := Option.some.inj hp
      cases b with
      | undefined => cases hq
      | finite m e =>
          obtain rfl := Option.some.inj hq
          cases negative <;> simp [eq]
      | infinite other =>
          obtain rfl := Option.some.inj hq
          cases negative <;> cases other <;> simp [eq]

end Extended

end SearchTables
