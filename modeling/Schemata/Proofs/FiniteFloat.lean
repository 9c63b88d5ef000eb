import Mathlib
import Schemata.Document
import Schemata.Json

namespace Schemata

open Float.Model Float.Model.UnpackedFloat

/-- No infinity, no NaN, and an exponent within the bound. -/
def Bounded (bound : Int) : UnpackedFloat → Prop
  | .zero _ => True
  | .finite _ _ exponent _ => exponent ≤ bound
  | .infinity _ => False
  | .notANumber => False

theorem Bounded.isFinite {bound : Int} {x : UnpackedFloat} (bounded : Bounded bound x) :
    x.isFinite = true := by
  cases x with
  | zero | finite => rfl
  | infinity | notANumber => exact bounded.elim

theorem Bounded.neg {bound : Int} {x : UnpackedFloat} (bounded : Bounded bound x) :
    Bounded bound x.neg := by
  cases x with
  | zero => trivial
  | finite => exact bounded
  | infinity | notANumber => exact bounded.elim

theorem log2_le_of_le_succ {n rounded : Nat} (near : rounded ≤ n + 1) :
    rounded.log2 ≤ n.log2 + 1 := by
  by_cases zero : rounded = 0
  · rw [zero, Nat.log2_zero]
    exact Nat.zero_le _
  · have below := Nat.lt_log2_self (n := n)
    have wider : 2 ^ (n.log2 + 2) = 2 * 2 ^ (n.log2 + 1) := by rw [Nat.pow_succ, Nat.mul_comm]
    rw [← Nat.lt_add_one_iff, Nat.log2_lt zero]
    omega

theorem mantissa_shiftRight_le (extended : ExtendedMantissa) (count : Nat) :
    (extended >>> count).mantissa ≤ extended.mantissa := by
  show (count.repeat ExtendedMantissa.shiftRightOne extended).mantissa ≤ _
  induction count with
  | zero => exact Nat.le_refl _
  | succ count ih =>
    rw [Nat.repeat]
    exact Nat.le_trans (Nat.div_le_self _ 2) ih

theorem roundedMantissa_le (extended : ExtendedMantissa) :
    extended.roundedMantissa ≤ extended.mantissa + 1 := by
  rcases extended with ⟨mantissa, _ | _, _ | _⟩
  · exact Nat.le_succ _
  · exact Nat.le_succ _
  · exact Nat.add_le_add_left (Nat.lt_succ_iff.mp (Nat.mod_lt _ (by decide))) _
  · exact Nat.le_refl _

theorem shiftToTargetExponent_le (mantissa : Nat) (exponent : Int) (accuracy : Accuracy) :
    let shifted := shiftToTargetExponent Format.binary64 mantissa exponent accuracy
    shifted.1.mantissa ≤ mantissa ∧
      shifted.2 ≤ max exponent (max (mantissa.log2 + exponent - 52) (-1074)) := by
  constructor
  · refine Nat.le_trans (mantissa_shiftRight_le _ _) ?_
    rcases accuracy with _ | _ | _ | _ <;> exact Nat.le_refl _
  · simp only [shiftToTargetExponent, shiftToExponent, Format.targetExponent, totalExponent,
      Format.mantissaBits, Format.minExponent]
    omega

/-- Rounding does not take an exponent far up. -/
theorem bounded_roundWithAccuracy {mantissa : Nat} {exponent bound : Int}
    (within : exponent + 2 * mantissa.log2 ≤ bound) (positive : 2 * mantissa.log2 ≤ bound)
    (sign : Sign) (accuracy : Accuracy) :
    Bounded bound (roundWithAccuracy Format.binary64 sign mantissa exponent accuracy) := by
  obtain ⟨first, lift⟩ := shiftToTargetExponent_le mantissa exponent accuracy
  unfold roundWithAccuracy
  revert first lift
  rcases shiftToTargetExponent Format.binary64 mantissa exponent accuracy with ⟨extended, moved⟩
  intro first lift
  dsimp only at first lift
  have rounded := roundedMantissa_le extended
  have carried : extended.roundedMantissa.log2 ≤ mantissa.log2 + 1 :=
    log2_le_of_le_succ (by omega)
  obtain ⟨-, again⟩ := shiftToTargetExponent_le extended.roundedMantissa moved .exact
  dsimp only
  split
  · trivial
  · refine Int.le_trans again ?_
    omega

theorem log2_le_of_lt {n bits : Nat} (small : n < 2 ^ (bits + 1)) : n.log2 ≤ bits := by
  by_cases zero : n = 0
  · rw [zero, Nat.log2_zero]
    exact Nat.zero_le _
  · exact Nat.lt_succ_iff.mp ((Nat.log2_lt zero).mpr small)

theorem bounded_round {n : Nat} (small : n < 2 ^ 64) (sign : Sign) :
    Bounded 230 (UnpackedFloat.round Format.binary64 sign n 0) := by
  -- the mantissa is brought to 53 bits, which takes a shift by at most 52
  have shift : (0 - Format.binary64.targetExponent (totalExponent n 0)).toNat ≤ 52 := by
    simp only [Format.targetExponent, totalExponent, Format.mantissaBits, Format.minExponent]
    omega
  have shifted (count : Nat) (few : count ≤ 52) : Bounded 230
      (roundWithAccuracy Format.binary64 sign (n <<< count) (0 - count) .exact) := by
    have fits : (n <<< count).log2 ≤ 115 := by
      refine log2_le_of_lt ?_
      rw [Nat.shiftLeft_eq]
      calc n * 2 ^ count < 2 ^ 64 * 2 ^ count :=
            Nat.mul_lt_mul_of_pos_right small (Nat.two_pow_pos _)
        _ ≤ 2 ^ 64 * 2 ^ 52 := Nat.mul_le_mul_left _ (Nat.pow_le_pow_right (by decide) few)
    exact bounded_roundWithAccuracy (by omega) (by omega) sign .exact
  exact shifted _ shift

theorem bounded_unpackedOfNat {n : Nat} (small : n < 2 ^ 64) :
    Bounded 230 (UnpackedFloat.ofNat Format.binary64 n) := by
  unfold UnpackedFloat.ofNat UnpackedFloat.ofInt UnpackedFloat.normalize
  split
  · next below => exact absurd (Int.compare_eq_lt.mp below) (by omega)
  · trivial
  · exact bounded_round small .positive

theorem bounded_product {mantissa : Nat} {exponent : Int} (small : mantissa < 2 ^ 117)
    (low : exponent ≤ 200) (sign : Sign) :
    Bounded 500 (roundWithAccuracy Format.binary64 sign mantissa exponent .exact) := by
  have fits := log2_le_of_lt small
  exact bounded_roundWithAccuracy (by omega) (by omega) sign .exact

theorem bounded_unpack {bound : Int} (least : -1074 ≤ bound) {bits : BitVec 64}
    {field : BitVec 11} (here : @unpackExponent Format.binary64 bits = field)
    (within : field.toNat ≤ bound + 1075) (finite : field ≠ -1#11) :
    Bounded bound (UnpackedFloat.unpack Format.binary64 bits) := by
  unfold UnpackedFloat.unpack
  rw [here]
  dsimp only
  rw [if_neg finite]
  have bias : (Format.binary64.exponentBias : Int) + Format.binary64.mantissaBitsWithoutImplicit =
      1075 := by decide
  split
  · next zero =>
    split
    · trivial
    · show (field.toNat : Int) - _ + 1 ≤ bound
      rw [bias, zero]
      exact least
  · show (field.toNat : Int) - _ ≤ bound
    rw [bias]
    omega

/-- A bounded number keeps within its bound when it is packed. -/
theorem bounded_pack {bound : Int} (least : -1074 ≤ bound) (most : bound ≤ 900)
    {x : UnpackedFloat} (bounded : Bounded bound x) :
    Bounded bound (Float.Model.pack x).unpack := by
  show Bounded bound (UnpackedFloat.unpack Format.binary64 (UnpackedFloat.pack Format.binary64 x))
  cases x with
  | infinity | notANumber => exact bounded.elim
  | zero sign =>
    exact bounded_unpack least unpackExponent_packComponents (by simp; omega) (by decide)
  | finite sign mantissa exponent positive =>
    have bias : exponent + Format.binary64.exponentBias +
        Format.binary64.mantissaBitsWithoutImplicit = exponent + 1075 := by
      have half : (Format.binary64.exponentBias : Int) = 1023 := by decide
      show exponent + (Format.binary64.exponentBias : Int) + 52 = _
      omega
    have within : exponent ≤ bound := bounded
    simp only [UnpackedFloat.pack, bias]
    have field : (BitVec.ofNat 11 (exponent + 1075).toNat).toNat = (exponent + 1075).toNat := by
      rw [BitVec.toNat_ofNat]
      exact Nat.mod_eq_of_lt (by omega)
    split
    · omega
    · split
      · refine bounded_unpack least unpackExponent_packComponents (by omega) fun same => ?_
        have full : (BitVec.ofNat 11 (exponent + 1075).toNat).toNat = 2047 := by rw [same]; rfl
        omega
      · exact bounded_unpack least unpackExponent_packComponents (by simp; omega) (by decide)

theorem mantissa_lt_of_unpack {bits : BitVec 64} {sign : Sign} {mantissa : Nat} {exponent : Int}
    {positive : 0 < mantissa}
    (unpacked : UnpackedFloat.unpack Format.binary64 bits =
      .finite sign mantissa exponent positive) : mantissa < 2 ^ 53 := by
  unfold UnpackedFloat.unpack at unpacked
  dsimp only at unpacked
  split at unpacked
  · split at unpacked <;> cases unpacked
  · split at unpacked
    · split at unpacked
      · cases unpacked
      · cases unpacked
        exact Nat.lt_of_lt_of_le (BitVec.isLt _) (by decide)
    · cases unpacked
      exact BitVec.isLt _

theorem unpack_one :
    ∃ positive, (Float.ofBits 0x3FF0000000000000).toModel.unpack =
      .finite .positive (2 ^ 52) (-52) positive := ⟨by decide, rfl⟩

theorem bounded_mul_one {x : Float} (bounded : Bounded 230 x.toModel.unpack) :
    Bounded 500 (x * Float.ofBits 0x3FF0000000000000).toModel.unpack := by
  obtain ⟨positive, one⟩ := unpack_one
  refine bounded_pack (by decide) (by decide) ?_
  rw [one]
  cases unpacked : x.toModel.unpack with
  | infinity | notANumber => rw [unpacked] at bounded; exact bounded.elim
  | zero => trivial
  | finite sign mantissa exponent =>
    rw [unpacked] at bounded
    have within : exponent ≤ 230 := bounded
    have small := mantissa_lt_of_unpack unpacked
    exact bounded_product (by omega) (by omega) _

theorem bounded_ofScientific {n : Nat} (small : n < 2 ^ 64) :
    Bounded 500 (UnpackedFloat.ofScientific Format.binary64 n 0) := by
  have width : Format.binary64.mantissaBits = 53 := rfl
  have fits : n <<< Format.binary64.mantissaBits * 10 ^ Int.toNat 0 < 2 ^ 117 := by
    rw [width, Int.toNat_zero, Nat.pow_zero, Nat.mul_one, Nat.shiftLeft_eq]
    omega
  unfold UnpackedFloat.ofScientific
  split
  · trivial
  · have range : (2 : Int) ^ Format.binary64.exponentBits = 2048 := rfl
    have least : ¬(0 : Int) < -(2 ^ Format.binary64.exponentBits + n.log2) := by
      rw [range]
      omega
    rw [if_neg (by decide), if_neg least, if_pos (by decide), UnpackedFloat.mul]
    exact bounded_product fits (by decide) _

theorem bounded_ofNat {n : Nat} (small : n < 2 ^ 64) :
    Bounded 500 (Float.ofNat n).toModel.unpack := by
  show Bounded 500 (Float.ofScientific n false 0).toModel.unpack
  unfold Float.ofScientific
  split
  · refine bounded_mul_one (bounded_pack (by decide) (by decide) (bounded_unpackedOfNat ?_))
    exact UInt64.toNat_lt _
  · exact bounded_pack (by decide) (by decide) (bounded_ofScientific small)

theorem bounded_ofInt {n : Int} (small : n.natAbs < 2 ^ 64) :
    Bounded 500 (Float.ofInt n).toModel.unpack := by
  cases n with
  | ofNat n => exact bounded_ofNat small
  | negSucc n => exact bounded_pack (by decide) (by decide) (bounded_ofNat small).neg

/-- The float of an integer of 64 bits is finite. -/
theorem Document.isFinite_floatOfInteger (n : Int64) :
    (Document.floatOfInteger n).isFinite = true := by
  refine (bounded_ofInt ?_).isFinite
  have := n.toInt_lt
  have := n.le_toInt
  omega

theorem isFinite_ofNat {n : Nat} (small : n < 2 ^ 64) : (Float.ofNat n).isFinite = true :=
  (bounded_ofNat small).isFinite

theorem toNat_unpackExponent (bits : BitVec 64) :
    (@unpackExponent Format.binary64 bits).toNat =
      bits.toNat / Decimal.Binary.fractions % 2048 := by
  simp [unpackExponent, Nat.shiftRight_eq_div_pow, Decimal.Binary.fractions]

theorem isFinite_iff (x : Float) :
    x.isFinite = true ↔ x.toBits.toNat / Decimal.Binary.fractions % 2048 ≠ 2047 := by
  have field := toNat_unpackExponent x.toModel.toBits.toBitVec
  have full : @unpackExponent Format.binary64 x.toModel.toBits.toBitVec = -1#11 ↔
      x.toBits.toNat / Decimal.Binary.fractions % 2048 = 2047 := by
    rw [← BitVec.toNat_inj, field]
    exact Iff.rfl
  rw [ne_eq, ← not_congr full]
  show (UnpackedFloat.unpack Format.binary64 x.toModel.toBits.toBitVec).isFinite = true ↔ _
  unfold UnpackedFloat.unpack
  dsimp only
  by_cases special : @unpackExponent Format.binary64 x.toModel.toBits.toBitVec = -1#11
  · rw [if_pos special]
    split
    · exact iff_of_false nofun (not_not_intro special)
    · exact iff_of_false nofun (not_not_intro special)
  · rw [if_neg special]
    split
    · split
      · exact iff_of_true rfl special
      · exact iff_of_true rfl special
    · exact iff_of_true rfl special

/-- The floats that have an exact value are the finite ones. -/
theorem Decimal.Binary.isSome_ofFloat?_iff (x : Float) :
    (Decimal.Binary.ofFloat? x).isSome ↔ x.isFinite = true := by
  rw [isFinite_iff]
  unfold Decimal.Binary.ofFloat?
  dsimp only
  split
  · next full => simp [full]
  · next other => split <;> simp [other]

end Schemata
