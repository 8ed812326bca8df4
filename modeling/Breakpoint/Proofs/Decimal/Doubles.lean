import Mathlib
import Breakpoint.Decimal.Reading

/-!
# Doubles that are no number

A double that is not below zero is at least zero, unless it is no number. The double nearest to a
decimal is always a number, or infinite: it comes of a product or a quotient with a finite double that
is not zero, and neither of them makes no number of a number.
-/

namespace Breakpoint.Decimal

open Float.Model (Format UnpackedFloat)
open Float.Model.UnpackedFloat (Accuracy Sign div isNaN_iff isNaN_unpack_iff_of_valid mul pack
  packComponents packedInfinity packedNaN roundWithAccuracy unpack unpackExponent
  unpackExponent_packComponents valid_pack)

variable {spec : Format} {x : UnpackedFloat}

/-! ## Unpacked doubles -/

/-- What is no number is packed with the greatest exponent. -/
theorem packComponents_ne_packedNaN {exponent : BitVec 11} (h : exponent ≠ -1#11) (sign : Sign)
    (mantissa : BitVec 52) :
    packComponents .binary64 sign exponent mantissa ≠ packedNaN .binary64 := by
  intro hsame
  have hexponent := congrArg unpackExponent hsame
  rw [packedNaN, unpackExponent_packComponents, unpackExponent_packComponents] at hexponent
  exact h hexponent

/-- Infinity is packed otherwise than what is no number. -/
theorem packedInfinity_ne_packedNaN (sign : Sign) :
    packedInfinity .binary64 sign ≠ packedNaN .binary64 := by
  cases sign <;> decide

/-- Only what is no number is packed as no number. -/
theorem pack_eq_packedNaN_iff (x : UnpackedFloat) :
    pack .binary64 x = packedNaN .binary64 ↔ x = .notANumber := by
  cases x with
  | notANumber => exact iff_of_true rfl rfl
  | infinity sign => exact iff_of_false (packedInfinity_ne_packedNaN sign) nofun
  | zero sign => exact iff_of_false (packComponents_ne_packedNaN (by decide) _ _) nofun
  | finite sign mantissa exponent hpositive =>
    refine iff_of_false ?_ nofun
    rw [pack]
    dsimp only
    generalize (exponent + _ + _ : Int).toNat = biased
    split
    · exact packedInfinity_ne_packedNaN sign
    · next hfits =>
      split
      · -- the greatest exponent is that of infinity
        refine packComponents_ne_packedNaN (fun hexponent => ?_) _ _
        have hvalue := congrArg BitVec.toNat hexponent
        rw [BitVec.toNat_ofNat, Nat.mod_eq_of_lt (by omega)] at hvalue
        have hgreatest : (-1#11).toNat = 2047 := by decide
        omega
      · exact packComponents_ne_packedNaN (by decide) _ _

/-- Packing keeps what is no number. -/
theorem isNaN_unpack_pack (x : UnpackedFloat) :
    (unpack .binary64 (pack .binary64 x)).isNaN = x.isNaN := by
  rw [Bool.eq_iff_iff, isNaN_unpack_iff_of_valid valid_pack, pack_eq_packedNaN_iff, isNaN_iff]

/-- Rounding makes a number. -/
theorem isNaN_roundWithAccuracy (sign : Sign) (mantissa : Nat) (exponent : Int)
    (accuracy : Accuracy) :
    (roundWithAccuracy spec sign mantissa exponent accuracy).isNaN = false := by
  rw [roundWithAccuracy]
  dsimp only
  split <;> rfl

/-- The double is finite and not zero. -/
def isOrdinary : UnpackedFloat → Bool
  | .finite .. => true
  | _ => false

/-- A product with a finite double that is not zero is a number, and so is a quotient by one. -/
theorem isNaN_mul_and_div {y : UnpackedFloat} (hx : x.isNaN = false) (hy : isOrdinary y = true) :
    (mul spec x y).isNaN = false ∧ (div spec x y).isNaN = false := by
  cases y with
  | finite sign mantissa exponent hpositive =>
    cases x with
    | notANumber => cases hx
    | infinity => exact ⟨rfl, rfl⟩
    | zero => exact ⟨rfl, rfl⟩
    | finite => exact ⟨isNaN_roundWithAccuracy .., isNaN_roundWithAccuracy ..⟩
  | _ => cases hy

/-- A natural number is a number as a double. -/
theorem isNaN_ofNat (n : Nat) : (UnpackedFloat.ofNat spec n).isNaN = false := by
  rw [UnpackedFloat.ofNat, UnpackedFloat.ofInt, UnpackedFloat.normalize]
  split
  · exact isNaN_roundWithAccuracy ..
  · rfl
  · exact isNaN_roundWithAccuracy ..

/-- A decimal number is a number as a double. -/
theorem isNaN_ofScientific (number : Nat) (power : Int) :
    (UnpackedFloat.ofScientific spec number power).isNaN = false := by
  rw [UnpackedFloat.ofScientific]
  split
  · rfl
  · split
    · rfl
    · split
      · rfl
      · split
        · exact (isNaN_mul_and_div rfl rfl).1
        · exact (isNaN_mul_and_div rfl rfl).2

/-! ## Doubles -/

/-- That a double is not negative is told by its parts. -/
theorem zero_le_iff_model {x : Float} :
    0 ≤ x ↔ UnpackedFloat.le (.zero .positive) x.toModel.unpack = true := by
  change decide (((0 : Float).toModel.le x.toModel) = true) = true ↔ _
  rw [decide_eq_true_iff]
  rfl

/-- That a double is negative is told by its parts. -/
theorem lt_zero_iff_model {x : Float} :
    x < 0 ↔ UnpackedFloat.lt x.toModel.unpack (.zero .positive) = true := by
  change decide ((x.toModel.lt (0 : Float).toModel) = true) = true ↔ _
  rw [decide_eq_true_iff]
  rfl

/-- A double is at least zero if it is not below zero and a number. -/
theorem zero_le_iff {x : Float} : 0 ≤ x ↔ ¬ x < 0 ∧ x.isNaN = false := by
  have hnan : x.isNaN = x.toModel.unpack.isNaN := rfl
  rw [zero_le_iff_model, lt_zero_iff_model, hnan]
  cases x.toModel.unpack with
  | notANumber => decide
  | zero sign => exact ⟨fun _ => ⟨Bool.false_ne_true, rfl⟩, fun _ => rfl⟩
  | infinity sign => cases sign <;> decide
  | finite sign mantissa exponent hpositive =>
    cases sign with
    | negative => exact ⟨fun h => absurd h Bool.false_ne_true, fun h => absurd rfl h.1⟩
    | positive => exact ⟨fun _ => ⟨Bool.false_ne_true, rfl⟩, fun _ => rfl⟩

/-- What is no number is not below zero. -/
theorem isNaN_of_lt_zero {x : Float} (h : x < 0) : x.isNaN = false := by
  have hnan : x.isNaN = x.toModel.unpack.isNaN := rfl
  rw [lt_zero_iff_model] at h
  rw [hnan]
  cases hx : x.toModel.unpack with
  | notANumber =>
    rw [hx] at h
    cases h
  | _ => rfl

/-- The sign of what is no number is not seen. -/
theorem isNaN_withSign (negative : Bool) (x : Float) : (withSign negative x).isNaN = x.isNaN := by
  cases negative with
  | false => rfl
  | true =>
    have hneg : (-x).isNaN = x.toModel.unpack.neg.isNaN := isNaN_unpack_pack _
    have hnan : x.isNaN = x.toModel.unpack.isNaN := rfl
    rw [withSign, if_pos rfl, hneg, hnan]
    cases x.toModel.unpack <;> rfl

/-- The powers of ten that doubles hold are finite and not zero. -/
theorem isOrdinary_powersOfTen :
    Float.exactlyRepresentablePowersOfTen.all (fun x => isOrdinary x.toModel.unpack) = true := by
  decide +kernel

/-- The double that a mantissa and an exponent write is a number. -/
theorem isNaN_float_ofScientific (number : Nat) (isNegative : Bool) (power : Nat) :
    (Float.ofScientific number isNegative power).isNaN = false := by
  rw [Float.ofScientific]
  split
  · next hexact =>
    have hnumber : number.toUInt64.toFloat.toModel.unpack.isNaN = false :=
      (isNaN_unpack_pack _).trans (isNaN_ofNat _)
    have hpower := Array.all_eq_true.1 isOrdinary_powersOfTen power (Nat.lt_succ_of_le hexact.2)
    dsimp only
    split
    · exact (isNaN_unpack_pack _).trans (isNaN_mul_and_div hnumber hpower).2
    · exact (isNaN_unpack_pack _).trans (isNaN_mul_and_div hnumber hpower).1
  · exact (isNaN_unpack_pack _).trans (isNaN_ofScientific _ _)

/-- The double nearest to a decimal is a number. -/
theorem isNaN_nearest (number : Nat) (power : Int) : (nearest number power).isNaN = false := by
  rw [nearest]
  split
  · decide +kernel
  · dsimp only
    split
    · decide +kernel
    · split
      · decide +kernel
      · exact isNaN_float_ofScientific ..

end Breakpoint.Decimal
