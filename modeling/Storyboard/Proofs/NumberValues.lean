import Storyboard.Proofs.ExactSums

/-!
# Doubles written as JSON values

`Loose.numberValue` writes a double as a JSON value: a finite double that holds a whole number
below `2^53` in magnitude as that integer, another finite double as itself, and an infinity or
NaN as nothing. `Loose.toNumber` reads a value back as a double, nothing as NaN. Every double reads
back as itself, but for negative zero, which is written as the integer zero and reads back as
positive zero.

An integer is read back through `Binary64.ofInt`, so the round trip rests on a double being fixed
by the number it holds. The bits of a double are packed back from its unpacked form
(`pack_unpack_of_valid`), so a double is its unpacked form (`eq_of_unpack_eq`); and a canonical
form of a number other than zero is fixed by the number: it fixes the sign and the position of
the leading bit, which fixes the exponent, 52 below the leading bit or the least one
(`Canonical.exponent_eq`), and so the mantissa (`Canonical.eq_of_valueOf_eq`). A zero keeps only
its sign.

Main statement: `numberValue_reads_back`.
-/

namespace Storyboard

namespace Binary64

open Float.Model UnpackedFloat

/-! ## A double is its unpacked form -/

/-- Two doubles that unpack to the same form are the same double. -/
theorem eq_of_unpack_eq {x y : Float} (h : x.toModel.unpack = y.toModel.unpack) : x = y := by
  obtain ⟨⟨bx, vx⟩⟩ := x
  obtain ⟨⟨b, vy⟩⟩ := y
  have hbits : bx.toBitVec = b.toBitVec := by
    rw [← pack_unpack_of_valid vx, ← pack_unpack_of_valid vy]
    exact congrArg (UnpackedFloat.pack Format.binary64) h
  obtain rfl : bx = b := UInt64.eq_of_toBitVec_eq hbits
  rfl

theorem unpack_zero : (0 : Float).toModel.unpack = .zero .positive := rfl

theorem unpack_neg_zero : (-0 : Float).toModel.unpack = .zero .negative := rfl

/-! ## Canonical forms are fixed by their values -/

/-- A positive mantissa at any exponent is worth more than zero. -/
theorem mantissa_value_pos {m : Nat} (h : 0 < m) (e : Int) : (0 : ℚ) < (m : ℚ) * 2 ^ e :=
  mul_pos (by exact_mod_cast h) (zpow_pos (by norm_num) e)

theorem valueOf_finite_ne_zero (s : Sign) {m : Nat} (e : Int) (h : 0 < m) :
    valueOf (.finite s m e h) ≠ 0 := by
  rw [← abs_ne_zero, abs_valueOf_finite]
  exact (mantissa_value_pos h e).ne'

/-- A finite form stands for a negative number exactly when its sign is negative. -/
theorem valueOf_finite_neg_iff (s : Sign) {m : Nat} (e : Int) (h : 0 < m) :
    valueOf (.finite s m e h) < 0 ↔ s = .negative := by
  have hp := mantissa_value_pos h e
  cases s with
  | negative =>
    simp only [valueOf, Sign.apply, Int.cast_neg, Int.cast_natCast, neg_mul, neg_lt_zero, iff_true]
    exact hp
  | positive =>
    simp only [valueOf, Sign.apply, Int.cast_natCast, reduceCtorEq, iff_false, not_lt]
    exact hp.le

/-- Two mantissas worth the same have their leading bit at the same position. -/
theorem lead_eq_of_value_eq {m m' : Nat} {e e' : Int} (hm : 0 < m)
    (h : (m : ℚ) * 2 ^ e = m' * 2 ^ e') : (m.log2 : Int) + e = m'.log2 + e' := by
  have hval : (m : ℚ) * 2 ^ (e - e') = m' := by
    rw [zpow_sub₀ two_ne_zero, ← mul_div_assoc, h, mul_div_cancel_right₀ _ (zpow_ne_zero _ two_ne_zero)]
  have hlead := (log2_of_value hm hval).2
  omega

/-- A canonical form's exponent is set by the position of its leading bit: 52 below it, but not
below the least exponent. -/
theorem Canonical.exponent_eq {s : Sign} {m : Nat} {e : Int} {h : 0 < m}
    (hc : Canonical (.finite s m e h)) : e = max ((m.log2 : Int) + e - 52) (-1074) := by
  cases hc with
  | subnormal _ _ hm =>
    have : m.log2 < 52 := (Nat.log2_lt (by omega)).2 hm
    omega
  | normal _ _ hlo hhi helo =>
    have : m.log2 = 52 := (Nat.log2_eq_iff (by omega)).2 ⟨hlo, hhi⟩
    omega

/-- Two canonical finite forms of one number are the same form: the number fixes the sign, the
leading bit, then the exponent and the mantissa. -/
theorem Canonical.finite_eq {s s' : Sign} {m m' : Nat} {e e' : Int} {h : 0 < m} {h' : 0 < m'}
    (hc : Canonical (.finite s m e h)) (hc' : Canonical (.finite s' m' e' h'))
    (hv : valueOf (.finite s m e h) = valueOf (.finite s' m' e' h')) :
    UnpackedFloat.finite s m e h = .finite s' m' e' h' := by
  have hs : s = s' := by
    have hneg : s = .negative ↔ s' = .negative := by
      rw [← valueOf_finite_neg_iff s e h, ← valueOf_finite_neg_iff s' e' h', hv]
    cases s <;> cases s' <;> simp at hneg ⊢
  have habs : (m : ℚ) * 2 ^ e = m' * 2 ^ e' := by
    rw [← abs_valueOf_finite s e h, ← abs_valueOf_finite s' e' h', hv]
  have he : e = e' := by
    have hlead := lead_eq_of_value_eq h habs
    have h1 := hc.exponent_eq
    have h2 := hc'.exponent_eq
    omega
  subst he hs
  have hm : (m : ℚ) = m' := mul_right_cancel₀ (zpow_ne_zero e two_ne_zero) habs
  obtain rfl : m = m' := by exact_mod_cast hm
  rfl

/-- A canonical form of a number other than zero is finite. -/
theorem Canonical.finite_of_valueOf_ne_zero {u : UnpackedFloat} (hu : Canonical u)
    (h0 : valueOf u ≠ 0) : ∃ s m e h, u = .finite s m e h := by
  cases hu with
  | zero s => exact absurd (valueOf_zero s) h0
  | subnormal s h _ => exact ⟨_, _, _, h, rfl⟩
  | normal s h _ _ _ _ => exact ⟨_, _, _, h, rfl⟩

/-- A canonical form of zero is a zero. -/
theorem Canonical.zero_of_valueOf_eq_zero {u : UnpackedFloat} (hu : Canonical u)
    (h0 : valueOf u = 0) : ∃ s, u = .zero s := by
  cases hu with
  | zero s => exact ⟨s, rfl⟩
  | subnormal s h _ => exact absurd h0 (valueOf_finite_ne_zero _ _ h)
  | normal s h _ _ _ _ => exact absurd h0 (valueOf_finite_ne_zero _ _ h)

/-- A canonical form is fixed by the number it stands for, when that is not zero. -/
theorem Canonical.eq_of_valueOf_eq {u v : UnpackedFloat} (hu : Canonical u) (hv : Canonical v)
    (h : valueOf u = valueOf v) (h0 : valueOf u ≠ 0) : u = v := by
  obtain ⟨s, m, e, hm, rfl⟩ := hu.finite_of_valueOf_ne_zero h0
  obtain ⟨s', m', e', hm', rfl⟩ := hv.finite_of_valueOf_ne_zero (h ▸ h0)
  exact hu.finite_eq hv h

/-! ## Doubles that hold whole numbers -/

/-- Two doubles that hold the same whole number other than zero are the same double. -/
theorem eq_of_holdsWhole {x y : Float} {X : Int} (hx : HoldsWhole x X) (hy : HoldsWhole y X)
    (h0 : X ≠ 0) : x = y := by
  have hcx := canonical_toModel x hx.1
  have hcy := canonical_toModel y hy.1
  have hne : valueOf x.toModel.unpack ≠ 0 := by
    rw [hx.2]
    exact_mod_cast h0
  exact eq_of_unpack_eq (hcx.eq_of_valueOf_eq hcy (hx.2.trans hy.2.symm) hne)

/-- A double that holds zero is positive or negative zero. -/
theorem eq_zero_of_holdsWhole {x : Float} (hx : HoldsWhole x 0) : x = 0 ∨ x = -0 := by
  obtain ⟨s, hs⟩ := (canonical_toModel x hx.1).zero_of_valueOf_eq_zero (by rw [hx.2]; rfl)
  cases s with
  | positive => exact .inl (eq_of_unpack_eq (hs.trans unpack_zero.symm))
  | negative => exact .inr (eq_of_unpack_eq (hs.trans unpack_neg_zero.symm))

theorem holdsWhole_zero : HoldsWhole 0 0 := by
  unfold HoldsWhole
  rw [unpack_zero, valueOf_zero]
  exact ⟨rfl, by norm_num⟩

theorem holdsWhole_neg_zero : HoldsWhole (-0) 0 := by
  unfold HoldsWhole
  rw [unpack_neg_zero, valueOf_zero]
  exact ⟨rfl, by norm_num⟩

/-- A finite form at an exponent of at most zero holds at most its mantissa in magnitude. -/
theorem natAbs_le_of_valueOf {s : Sign} {m : Nat} {e : Int} {h : 0 < m} {X : Int} (he : e ≤ 0)
    (hv : valueOf (.finite s m e h) = X) : X.natAbs ≤ m := by
  have habs : (m : ℚ) * 2 ^ e = (X.natAbs : ℚ) := by
    rw [← abs_valueOf_finite s e h, hv, Nat.cast_natAbs, Int.cast_abs]
  have hnat := mul_two_pow_eq habs (a := 0) (b := (-e).toNat) (by omega)
  rw [Nat.pow_zero, Nat.mul_one] at hnat
  rw [hnat]
  exact Nat.le_mul_of_pos_right _ (Nat.two_pow_pos _)

/-- A double below `2^53` in magnitude that holds a whole number holds one below `2^53`: the
converse of `abs_lt_two_pow_53`. -/
theorem natAbs_lt_of_abs_lt {x : Float} {X : Int} (hx : HoldsWhole x X)
    (h : x.abs < 9007199254740992) : X.natAbs < 2 ^ 53 := by
  have hc := canonical_toModel x hx.1
  have hu : x.abs.toModel.unpack = x.toModel.unpack.abs := unpack_pack hc.abs
  have hlt : x.toModel.unpack.abs.lt (.finite .positive (2 ^ 52) 1 (by decide)) = true := by
    have h' : Float.lt x.abs 9007199254740992 = true := h
    simp only [Float.lt, decide_eq_true_eq] at h'
    change x.abs.toModel.unpack.lt (9007199254740992 : Float).toModel.unpack = true at h'
    rwa [hu, toModel_unpack_two_pow_53] at h'
  have hv := hx.2
  generalize x.toModel.unpack = u at hc hv hlt
  cases hc with
  | zero s =>
    rw [eq_zero_of_valueOf_zero hv]
    decide
  | subnormal s h hm => exact Nat.lt_of_le_of_lt (natAbs_le_of_valueOf (by omega) hv) (by omega)
  | @normal s m e h hlo hhi helo hehi =>
    -- below `2^53` a normal form has an exponent of at most zero
    have he : e ≤ 0 := by
      by_contra he
      simp only [UnpackedFloat.abs, UnpackedFloat.lt, UnpackedFloat.compare] at hlt
      rcases (show e = 1 ∨ 1 < e by omega) with rfl | he1
      · simp at hlt
        have := Nat.compare_eq_lt.1 hlt
        omega
      · simp [Int.compare_eq_gt.2 he1] at hlt
    exact Nat.lt_of_le_of_lt (natAbs_le_of_valueOf he hv) hhi

/-- The integer a double holds reads back as that double, but negative zero reads back as
positive zero. -/
theorem ofInt_of_holdsWhole {n : Float} {X : Int} (hn : HoldsWhole n X) (hX : X.natAbs < 2 ^ 53) :
    ofInt X = if n = -0 then 0 else n := by
  by_cases h0 : X = 0
  · subst h0
    have hzero : ofInt 0 = 0 := by decide
    rcases eq_zero_of_holdsWhole hn with rfl | rfl
    · rw [hzero, if_neg (by decide)]
    · rw [hzero, if_pos rfl]
  · -- negative zero holds zero, so `n` is not it
    have hne : n ≠ -0 := by
      rintro rfl
      have hval : (X : ℚ) = 0 := hn.2.symm.trans holdsWhole_neg_zero.2
      exact h0 (by exact_mod_cast hval)
    rw [if_neg hne]
    exact eq_of_holdsWhole (holdsWhole_ofInt hX) hn h0

/-- An integral double below `2^53` in magnitude holds a whole number below `2^53`, which its
integer part clamped to 64 bits is. -/
theorem holdsWhole_of_isIntegral {n : Float} (hi : isIntegral n = true) (ha : n.abs < 9007199254740992) :
    ∃ X, HoldsWhole n X ∧ X.natAbs < 2 ^ 53 ∧ toInt64Clamped n = X := by
  obtain ⟨X, hX⟩ : ∃ X, truncate? n = some X := by
    unfold isIntegral at hi
    unfold truncate?
    simp only [Bool.and_eq_true] at hi
    simp only [hi.1, if_true]
    exact ⟨_, rfl⟩
  have hw : HoldsWhole n X := (holdsWhole_iff n X).2 ⟨hi, hX⟩
  have hb := natAbs_lt_of_abs_lt hw ha
  have hclamp : clampInt64 X = X := by
    unfold clampInt64
    simp only [Nat.pow_eq]
    omega
  exact ⟨X, hw, hb, by rw [toInt64Clamped, hX]; exact hclamp⟩

end Binary64

namespace Loose

open Binary64

/-- Nothing is written exactly for an infinity or NaN. -/
theorem numberValue_eq_none_iff (n : Float) : numberValue n = none ↔ n.isFinite = false := by
  unfold numberValue
  by_cases hf : n.isFinite = true
  · simp only [hf, Bool.not_true, Bool.false_eq_true, if_false, reduceCtorEq]
    split <;> simp
  · simp only [Bool.not_eq_true] at hf
    simp [hf]

/-- A double is written as an integer or as itself. -/
theorem numberValue_eq_some {n : Float} {v : Json} (h : numberValue n = some v) :
    (∃ X, v = .int X) ∨ v = .float n := by
  unfold numberValue at h
  split at h
  · cases h
  · split at h
    · exact .inl ⟨_, (Option.some.inj h).symm⟩
    · exact .inr (Option.some.inj h).symm

/-- A double is written as the integer `X` exactly when it holds `X` and `X` is below `2^53` in
magnitude. -/
theorem numberValue_eq_int_iff (n : Float) (X : Int) :
    numberValue n = some (.int X) ↔ HoldsWhole n X ∧ X.natAbs < 2 ^ 53 := by
  refine ⟨fun h => ?_, fun ⟨hw, hb⟩ => numberValue_of_holdsWhole hw hb⟩
  unfold numberValue at h
  split at h
  · cases h
  · split at h
    · next hc =>
      simp only [Bool.and_eq_true, decide_eq_true_eq] at hc
      obtain ⟨Y, hw, hb, hY⟩ := holdsWhole_of_isIntegral hc.1 hc.2
      have hXY : X = Y := by
        rw [← hY]
        simpa using h.symm
      exact hXY ▸ ⟨hw, hb⟩
    · simp at h

/-- Writing a double and reading it back gives the double, but negative zero comes back as
positive zero; an infinity or NaN is written as nothing, which reads back as NaN. -/
theorem toNumber_numberValue (n : Float) :
    toNumber (numberValue n) = if n.isFinite then (if n = -0 then 0 else n) else nan := by
  by_cases hf : n.isFinite = true
  · rw [if_pos hf]
    cases hv : numberValue n with
    | none => exact absurd ((numberValue_eq_none_iff n).1 hv) (by simp [hf])
    | some v =>
      rcases numberValue_eq_some hv with ⟨X, rfl⟩ | rfl
      · obtain ⟨hw, hb⟩ := (numberValue_eq_int_iff n X).1 hv
        exact ofInt_of_holdsWhole hw hb
      · -- negative zero is written as an integer, so this double is not negative zero
        have hne : n ≠ -0 := by
          rintro rfl
          rw [numberValue_of_holdsWhole holdsWhole_neg_zero (by decide)] at hv
          simp at hv
        rw [if_neg hne]
        rfl
  · rw [if_neg hf, (numberValue_eq_none_iff n).2 (by simpa using hf)]
    rfl

/-- A double written as a JSON value reads back as itself when it is finite, but negative zero,
which reads back as positive zero. It is written as an integer exactly when it holds a whole
number below `2^53` in magnitude, and as that number; and it is written as nothing exactly when
it is an infinity or NaN. -/
theorem numberValue_reads_back (n : Float) :
    toNumber (numberValue n) = (if n.isFinite then (if n = -0 then 0 else n) else nan) ∧
      (∀ X, numberValue n = some (.int X) ↔ HoldsWhole n X ∧ X.natAbs < 2 ^ 53) ∧
      (numberValue n = none ↔ n.isFinite = false) :=
  ⟨toNumber_numberValue n, numberValue_eq_int_iff n, numberValue_eq_none_iff n⟩

/-- A half is written as itself, and negative zero reads back as positive zero. -/
example : toNumber (numberValue 2.5) = 2.5 ∧ toNumber (numberValue (-0)) = 0 := by
  rw [toNumber_numberValue, toNumber_numberValue]
  decide

end Loose

end Storyboard
