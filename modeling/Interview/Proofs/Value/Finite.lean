import Interview.Decimal.Numeral
import Mathlib

/-!
# Doubles that numerals denote

A numeral denotes a number, however large. The double that is read for it is that number rounded, or
infinity beyond the range of doubles, but never the double that stands for no number.
-/

namespace Interview.Decimal

open Float.Model (Format)
open Float.Model.UnpackedFloat

variable {negative : Bool} {bits : Nat} {text : List Char} {number : Float}

/-! ## The double with given bits -/

theorem toNat_unpackExponent {packed : BitVec Format.binary64.numBits} :
    (unpackExponent packed).toNat = packed.toNat / 2 ^ 52 % 2 ^ 11 := by
  simp [unpackExponent, Nat.shiftRight_eq_div_pow]

theorem toNat_unpackMantissa {packed : BitVec Format.binary64.numBits} :
    (unpackMantissa packed).toNat = packed.toNat % 2 ^ 52 := by
  simp [unpackMantissa]

/-- Bits stand for a number if their mantissa is zero wherever their exponent is the greatest. -/
theorem isNaN_ofBits {bits : UInt64}
    (regular : @unpackExponent Format.binary64 bits.toBitVec = -1#_ →
      @unpackMantissa Format.binary64 bits.toBitVec = 0#_) :
    (Float.ofBits bits).isNaN = false := by
  have valid : Format.binary64.Valid bits.toBitVec :=
    ⟨fun greatest other => absurd (regular greatest) other⟩
  rw [← Bool.not_eq_true]
  show ¬ (unpack Format.binary64
    (pack Format.binary64 (unpack Format.binary64 bits.toBitVec))).isNaN = true
  rw [pack_unpack_of_valid valid, isNaN_unpack_iff_of_valid valid]
  intro same
  have none := @isNaNBits_packedNaN Format.binary64
  rw [← same] at none
  obtain ⟨greatest, other⟩ := of_decide_eq_true none
  exact other (regular greatest)

/-- Bits up to those of infinity, with either sign, stand for a number. -/
theorem isNaN_ofMagnitude (within : bits ≤ infinityBits) :
    (ofMagnitude negative bits).isNaN = false := by
  refine isNaN_ofBits fun greatest => ?_
  rw [← BitVec.toNat_inj, toNat_unpackExponent] at greatest
  rw [← BitVec.toNat_inj, toNat_unpackMantissa]
  have top : (-1#11).toNat = 2 ^ 11 - 1 := by decide
  have bound : infinityBits = (2 ^ 11 - 1) * 2 ^ 52 := rfl
  have greatest := greatest.trans top
  have signed : ∃ sign, (if negative then bits + Nat.pow 2 63 else bits) = bits + sign * 2 ^ 63 := by
    cases negative with
    | false => exact ⟨0, rfl⟩
    | true => exact ⟨1, rfl⟩
  obtain ⟨sign, signed⟩ := signed
  rw [UInt64.toNat_toBitVec, UInt64.toNat_ofNat', signed] at greatest ⊢
  show _ = 0
  omega

/-- Every decimal numeral denotes a number. -/
theorem isNaN_ofScientific {digits : Nat} {exponent : Int} :
    (ofScientific negative digits exponent).isNaN = false := by
  have nearest (num den : Nat) : nearestBits num den ≤ infinityBits := by
    unfold nearestBits
    split
    · exact Nat.zero_le _
    · exact Nat.min_le_right ..
  unfold ofScientific
  split
  · exact isNaN_ofMagnitude (Nat.zero_le _)
  split
  · exact isNaN_ofMagnitude (Nat.le_refl _)
  split
  · exact isNaN_ofMagnitude (Nat.zero_le _)
  split
  · exact isNaN_ofMagnitude (nearest ..)
  · exact isNaN_ofMagnitude (nearest ..)

theorem isNaN_of_readFraction? (read : readFraction? text = some number) :
    number.isNaN = false := by
  simp only [readFraction?, readUnsigned?, Option.ite_none_left_eq_some] at read
  obtain ⟨-, read⟩ := read
  obtain ⟨exponent, -, rfl⟩ := Option.map_eq_some_iff.mp read
  exact isNaN_ofScientific

end Interview.Decimal
