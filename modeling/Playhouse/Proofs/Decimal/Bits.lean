import Playhouse.Proofs.Decimal.Rounding

/-!
The bits of a floating-point number: a sign, an exponent and a fraction. `classify` reads them off as
the packing writes them, so a number is told by its class, and a finite one has the canonical form.
-/
namespace Playhouse.Decimal
open Float.Model Nat Float
open Float.Model.UnpackedFloat

/-- The sign of a number that is negative or not. -/
def signOf : Bool → Sign
  | true => .negative
  | false => .positive

theorem toNat_packComponents (sign : Sign) (exponent : BitVec 11) (mantissa : BitVec 52) :
    (packComponents Format.binary64 sign exponent mantissa).toNat =
      sign.toBitVec.toNat * 2 ^ 63 + exponent.toNat * 2 ^ 52 + mantissa.toNat := by
  have below := mantissa.isLt
  have above := exponent.isLt
  unfold packComponents
  rw [BitVec.toNat_append, ← shiftLeft_add_eq_or_of_lt below, BitVec.toNat_append, ← shiftLeft_add_eq_or_of_lt above]
  simp only [shiftLeft_eq]
  omega

/-- A number is what its bits are. -/
theorem eq_ofModel_pack {x : Float} {u : UnpackedFloat}
    (same : x.toBits.toNat = (UnpackedFloat.pack Format.binary64 u).toNat) : x = ofModel (pack u) := by
  rcases x with ⟨bits, valid⟩
  congr 1
  unfold Model.pack
  congr 1
  apply UInt64.toNat_inj.1
  exact same

theorem unpackSign_packComponents (sign : Sign) (exponent : BitVec 11) (mantissa : BitVec 52) :
    unpackSign (packComponents Format.binary64 sign exponent mantissa) = sign.toBitVec := by
  have below := mantissa.isLt
  have above := exponent.isLt
  have bit := sign.toBitVec.isLt
  apply BitVec.eq_of_toNat_eq
  unfold unpackSign
  simp only [BitVec.toNat_cast, BitVec.extractLsb_toNat, toNat_packComponents, shiftRight_eq_div_pow]
  omega

@[simp] theorem ofBitVec_toBitVec (sign : Sign) : Sign.ofBitVec sign.toBitVec = sign := by
  cases sign <;> rfl

/-! ### The fields of the bits -/

section
variable (bits : UInt64)

theorem toNat_unpackMantissa :
    (unpackMantissa (show BitVec Format.binary64.numBits from bits.toBitVec)).toNat = bits.toNat % 2 ^ 52 := by
  simp only [unpackMantissa, BitVec.toNat_cast, BitVec.extractLsb_toNat]
  rfl

theorem toNat_unpackExponent :
    (unpackExponent (show BitVec Format.binary64.numBits from bits.toBitVec)).toNat = bits.toNat / 2 ^ 52 % 2 ^ 11 := by
  simp only [unpackExponent, BitVec.toNat_cast, BitVec.extractLsb_toNat, shiftRight_eq_div_pow]
  rfl

end

/-! ### Packing a canonical number -/

theorem biased_exponent (exponent : Int) :
    exponent + (Format.binary64.exponentBias : Int) + (52 : Nat) = exponent + 1075 := by
  have : Format.binary64.exponentBias = 1023 := rfl
  omega

section
variable {value : Binary} (canonical : value.Canonical) (sign : Sign)
include canonical

/-- The fields of a number with all its bits. -/
theorem pack_normal (full : 2 ^ 52 ≤ value.mantissa) :
    UnpackedFloat.pack Format.binary64 (canonical.signed sign) =
      packComponents Format.binary64 sign (BitVec.ofNat 11 (value.exponent + 1075).toNat)
        (BitVec.ofNat 52 value.mantissa) := by
  obtain ⟨positive, bits, least, most, -⟩ := canonical
  have log : value.mantissa.log2 + 1 = Format.binary64.mantissaBits := by
    have := (log2_lt (Nat.pos_iff_ne_zero.1 positive)).2 bits
    have := (le_log2 (Nat.pos_iff_ne_zero.1 positive)).2 full
    change value.mantissa.log2 + 1 = 53
    omega
  unfold UnpackedFloat.pack
  simp only [biased_exponent, if_pos log]
  rw [if_neg (by simp only [reducePow]; omega)]

/-- The fields of a number with fewer bits, which has the least exponent. -/
theorem pack_subnormal (few : value.mantissa < 2 ^ 52) :
    UnpackedFloat.pack Format.binary64 (canonical.signed sign) =
      packComponents Format.binary64 sign 0#11 (BitVec.ofNat 52 value.mantissa) := by
  obtain ⟨positive, bits, least, most, full⟩ := canonical
  have log : ¬ value.mantissa.log2 + 1 = Format.binary64.mantissaBits := by
    have := (log2_lt (Nat.pos_iff_ne_zero.1 positive)).2 few
    change ¬ value.mantissa.log2 + 1 = 53
    omega
  unfold UnpackedFloat.pack
  simp only [biased_exponent, if_neg log]
  rw [if_neg (by simp only [reducePow]; omega)]

theorem unpack_pack : (pack (canonical.signed sign)).unpack = canonical.signed sign := by
  have differ {n : Nat} {a b : BitVec n} (other : a.toNat ≠ b.toNat) : a ≠ b := fun same => other (same ▸ rfl)
  have bias : ((Format.binary64.exponentBias : Int) + (52 : Nat)) = 1075 := rfl
  change UnpackedFloat.unpack Format.binary64 (UnpackedFloat.pack Format.binary64 _) = .finite sign _ _ canonical.positive
  by_cases full : 2 ^ 52 ≤ value.mantissa
  · rw [pack_normal canonical sign full]
    obtain ⟨positive, bits, least, most, -⟩ := canonical
    have exponent : (BitVec.ofNat 11 (value.exponent + 1075).toNat).toNat = (value.exponent + 1075).toNat := by
      rw [BitVec.toNat_ofNat]
      omega
    have mantissa : (1#1 ++ BitVec.ofNat 52 value.mantissa).toNat = value.mantissa := by
      have below := (BitVec.ofNat 52 value.mantissa).isLt
      rw [BitVec.toNat_append, ← shiftLeft_add_eq_or_of_lt below, BitVec.toNat_ofNat, shiftLeft_eq]
      change 1 * 2 ^ 52 + value.mantissa % 2 ^ 52 = _
      omega
    have finite : BitVec.ofNat 11 (value.exponent + 1075).toNat ≠ -1#11 := by
      refine differ ?_
      rw [exponent]
      change _ ≠ 2047
      omega
    have some_ : BitVec.ofNat 11 (value.exponent + 1075).toNat ≠ 0#11 := by
      refine differ ?_
      rw [exponent]
      change _ ≠ 0
      omega
    have place : ((value.exponent + 1075).toNat : Int) - (1075 : Int) = value.exponent := by omega
    unfold UnpackedFloat.unpack
    dsimp only
    rw [if_neg (by rwa [unpackExponent_packComponents]), if_neg (by rwa [unpackExponent_packComponents]),
      UnpackedFloat.finite.injEq]
    simp only [unpackMantissa_packComponents, unpackExponent_packComponents, unpackSign_packComponents,
      ofBitVec_toBitVec, exponent, mantissa, bias, place, and_self]
  · have few : value.mantissa < 2 ^ 52 := by omega
    rw [pack_subnormal canonical sign few]
    obtain ⟨positive, bits, least, most, full⟩ := canonical
    have mantissa : (BitVec.ofNat 52 value.mantissa).toNat = value.mantissa := by
      rw [BitVec.toNat_ofNat, mod_eq_of_lt few]
    have some_ : BitVec.ofNat 52 value.mantissa ≠ 0#52 := by
      refine differ ?_
      rw [mantissa]
      exact Nat.pos_iff_ne_zero.1 positive
    have place : ((0 : Nat) : Int) - (1075 : Int) + 1 = value.exponent := by omega
    unfold UnpackedFloat.unpack
    dsimp only
    rw [if_neg (by rw [unpackExponent_packComponents]; decide), if_pos (unpackExponent_packComponents ..),
      dif_neg (by rwa [unpackMantissa_packComponents]), UnpackedFloat.finite.injEq]
    simp only [unpackMantissa_packComponents, unpackExponent_packComponents, unpackSign_packComponents,
      ofBitVec_toBitVec, mantissa, bias, BitVec.toNat_zero, place, and_self]

end

/-! ### The class of a number -/

section
variable {x : Float} {negative : Bool}

theorem toNat_signOf (bits : UInt64) : (signOf (bits.toNat / 2 ^ 63 == 1)).toBitVec.toNat = bits.toNat / 2 ^ 63 := by
  have below := bits.toNat_lt
  rcases (show bits.toNat / 2 ^ 63 = 0 ∨ bits.toNat / 2 ^ 63 = 1 by omega) with zero | one
  · rw [zero]
    rfl
  · rw [one]
    rfl

/-- The class of the bits, by their three fields. -/
theorem classify_eq (bits : UInt64) : classify bits = (bits.toNat / 2 ^ 63 == 1,
      if bits.toNat / 2 ^ 52 % 2 ^ 11 = 2047 then
        if bits.toNat % 2 ^ 52 = 0 then .infinite else .nan
      else if bits.toNat / 2 ^ 52 % 2 ^ 11 = 0 then .finite ⟨bits.toNat % 2 ^ 52, -1074⟩
      else .finite ⟨2 ^ 52 + bits.toNat % 2 ^ 52, (bits.toNat / 2 ^ 52 % 2 ^ 11 : Nat) - 1075⟩) := by
  unfold classify
  simp only [twoTo, fractionBits, pow_eq, beq_iff_eq]
  split
  · rfl
  · split <;> rfl

theorem classify_nan (class_ : classify x.toBits = (negative, .nan)) : x = ofModel (pack .notANumber) := by
  rw [classify_eq, Prod.mk.injEq] at class_
  obtain ⟨-, class_⟩ := class_
  split at class_
  · rename_i ones
    split at class_
    · cases class_
    · rename_i some_
      have exponent : unpackExponent (show BitVec Format.binary64.numBits from x.toBits.toBitVec) = -1#11 := by
        apply BitVec.eq_of_toNat_eq
        rw [toNat_unpackExponent, ones]
        rfl
      have mantissa : unpackMantissa (show BitVec Format.binary64.numBits from x.toBits.toBitVec) ≠ 0#52 := by
        intro same
        apply some_
        rw [← toNat_unpackMantissa, same]
        rfl
      exact eq_ofModel_pack (congrArg BitVec.toNat (x.toModel.valid.eq_packedNaN exponent mantissa))
  · split at class_ <;> cases class_

theorem classify_infinite (class_ : classify x.toBits = (negative, .infinite)) :
    x = ofModel (pack (.infinity (signOf negative))) := by
  rw [classify_eq, Prod.mk.injEq] at class_
  obtain ⟨rfl, class_⟩ := class_
  split at class_
  · rename_i ones
    split at class_
    · rename_i none_
      apply eq_ofModel_pack
      change _ = (packComponents Format.binary64 _ _ _).toNat
      rw [toNat_packComponents, toNat_signOf]
      change _ = _ + 2047 * 2 ^ 52 + 0
      omega
    · cases class_
  · split at class_ <;> cases class_

theorem classify_finite {value : Binary} (class_ : classify x.toBits = (negative, .finite value)) :
    value.mantissa = 0 ∧ x = ofModel (pack (.zero (signOf negative))) ∨ ∃ canonical : value.Canonical,
        x = ofModel (pack (canonical.signed (signOf negative))) := by
  have below := x.toBits.toNat_lt
  rw [classify_eq, Prod.mk.injEq] at class_
  obtain ⟨rfl, class_⟩ := class_
  split at class_
  · split at class_ <;> cases class_
  rename_i finite
  split at class_
  · rename_i least
    cases class_
    rcases Nat.eq_zero_or_pos (x.toBits.toNat % 2 ^ 52) with none_ | some_
    · refine .inl ⟨none_, eq_ofModel_pack ?_⟩
      change _ = (packComponents Format.binary64 _ _ _).toNat
      rw [toNat_packComponents, toNat_signOf]
      change _ = _ + 0 * 2 ^ 52 + 0
      omega
    · have canonical : Binary.Canonical ⟨x.toBits.toNat % 2 ^ 52, -1074⟩ :=
        ⟨some_, by change _ % _ < _; omega, le_refl _, by change (-1074 : Int) ≤ 971; omega, .inr rfl⟩
      refine .inr ⟨canonical, eq_ofModel_pack ?_⟩
      rw [pack_subnormal canonical _ (mod_lt _ (by norm_num)), toNat_packComponents, toNat_signOf, BitVec.toNat_ofNat]
      change _ = _ + 0 * 2 ^ 52 + x.toBits.toNat % 2 ^ 52 % 2 ^ 52
      omega
  · rename_i normal
    cases class_
    have canonical : Binary.Canonical
        ⟨2 ^ 52 + x.toBits.toNat % 2 ^ 52, (x.toBits.toNat / 2 ^ 52 % 2 ^ 11 : Nat) - 1075⟩ :=
      ⟨by change 0 < 2 ^ 52 + _; omega, by change 2 ^ 52 + _ % _ < _; omega,
        by change (-1074 : Int) ≤ (x.toBits.toNat / 2 ^ 52 % 2 ^ 11 : Nat) - 1075; omega,
        by change ((x.toBits.toNat / 2 ^ 52 % 2 ^ 11 : Nat) : Int) - 1075 ≤ 971; omega, .inl (Nat.le_add_right _ _)⟩
    refine .inr ⟨canonical, eq_ofModel_pack ?_⟩
    rw [pack_normal canonical _ (Nat.le_add_right _ _), toNat_packComponents, toNat_signOf,
      BitVec.toNat_ofNat, BitVec.toNat_ofNat]
    change _ = _ + (((x.toBits.toNat / 2 ^ 52 % 2 ^ 11 : Nat) : Int) - 1075 + 1075).toNat % 2 ^ 11 * 2 ^ 52 +
      (2 ^ 52 + x.toBits.toNat % 2 ^ 52) % 2 ^ 52
    omega

end

end Playhouse.Decimal
