import Mathlib
import LaneConvert.Definition

/-!
# Integers of a scalar type

An integer type of some width holds as many values in a row as its bits can tell apart, from zero on
or with as many below zero as above. Wrapping keeps the residue of a number and clamping goes to the
nearest value, and both leave alone what is in range. Which bounds of one type the values of another
can exceed is a matter of signs and bits only, and a bound that can be exceeded is a value of the
type that exceeds it.
-/

namespace LaneConvert

namespace Scalar

/-- The smallest integer of a type. -/
def low (t : Scalar) : Int := if t.isSigned then -2 ^ (t.bits - 1) else 0

/-- The largest integer of a type. -/
def high (t : Scalar) : Int := if t.isSigned then 2 ^ (t.bits - 1) - 1 else 2 ^ t.bits - 1

/-- A number is an integer of a type. -/
def InRange (t : Scalar) (x : Int) : Prop := t.low ≤ x ∧ x ≤ t.high

/-- Whether a number is in range is decided by its bounds. -/
instance (t : Scalar) (x : Int) : Decidable (t.InRange x) :=
  inferInstanceAs (Decidable (t.low ≤ x ∧ x ≤ t.high))

/-- The integer of a type with the residue of a number. -/
def wrap (t : Scalar) (x : Int) : Int := (x - t.low) % 2 ^ t.bits + t.low

/-- The integer of a type that is nearest to a number. -/
def clamp (t : Scalar) (x : Int) : Int := max t.low (min x t.high)

variable {t : Scalar} {x y : Int}

/-- A type holds as many integers in a row as its bits can tell apart. -/
theorem high_eq (t : Scalar) : t.high = t.low + 2 ^ t.bits - 1 := by cases t <;> decide

/-- Zero is an integer of every type. -/
theorem low_nonpos (t : Scalar) : t.low ≤ 0 := by cases t <;> decide

/-- The largest value of a type is not below zero. -/
theorem high_nonneg (t : Scalar) : 0 ≤ t.high := by cases t <;> decide

/-- The range of a type is not empty. -/
theorem low_le_high (t : Scalar) : t.low ≤ t.high := t.low_nonpos.trans t.high_nonneg

/-- A wrapped number is in range. -/
theorem inRange_wrap (t : Scalar) (x : Int) : t.InRange (t.wrap x) := by
  have hpos : (0 : Int) < 2 ^ t.bits := Int.pow_pos (by decide)
  have hlow := Int.emod_nonneg (x - t.low) hpos.ne'
  have hhigh := Int.emod_lt_of_pos (x - t.low) hpos
  rw [InRange, wrap, high_eq]
  omega

/-- Wrapping keeps the residue of a number. -/
theorem wrap_modEq (t : Scalar) (x : Int) : t.wrap x ≡ x [ZMOD 2 ^ t.bits] := by
  have hresidue := (Int.mod_modEq (x - t.low) (2 ^ t.bits)).add_right t.low
  rwa [sub_add_cancel] at hresidue

/-- Two integers of a type with the same residue are the same. -/
theorem eq_of_modEq (hx : t.InRange x) (hy : t.InRange y) (h : x ≡ y [ZMOD 2 ^ t.bits]) :
    x = y := by
  have hhigh := t.high_eq
  obtain ⟨hxlow, hxhigh⟩ := hx
  obtain ⟨hylow, hyhigh⟩ := hy
  have hshift : (x - t.low) % 2 ^ t.bits = (y - t.low) % 2 ^ t.bits := h.sub_right t.low
  rw [Int.emod_eq_of_lt (by omega) (by omega), Int.emod_eq_of_lt (by omega) (by omega)] at hshift
  omega

/-- Wrapping leaves alone what is in range. -/
theorem wrap_of_inRange (h : t.InRange x) : t.wrap x = x :=
  eq_of_modEq (t.inRange_wrap x) h (t.wrap_modEq x)

/-- A clamped number is in range. -/
theorem inRange_clamp (t : Scalar) (x : Int) : t.InRange (t.clamp x) := by
  have hle := t.low_le_high
  rw [InRange, clamp]
  omega

/-- Clamping leaves alone what is in range. -/
theorem clamp_of_inRange (h : t.InRange x) : t.clamp x = x := by
  obtain ⟨hlow, hhigh⟩ := h
  rw [clamp]
  omega

end Scalar

/-- The number that a limit stands for. -/
def limit? (word : String) : Option Int :=
  match word with
  | "0" => some 0
  | "CHAR_MIN" => some (-128)
  | "CHAR_MAX" => some 127
  | "UCHAR_MAX" => some 255
  | "SHRT_MIN" => some (-32768)
  | "SHRT_MAX" => some 32767
  | "USHRT_MAX" => some 65535
  | "INT_MIN" => some (-2147483648)
  | "INT_MAX" => some 2147483647
  | "UINT_MAX" => some 4294967295
  | "LONG_MIN" => some (-9223372036854775808)
  | "LONG_MAX" => some 9223372036854775807
  | "ULONG_MAX" => some 18446744073709551615
  | _ => none

/-- The word for the smallest value of an integer type names that value. -/
theorem limit?_minName {t : Scalar} (h : t.isInteger = true) : limit? t.minName = some t.low := by
  cases t <;> first | rfl | exact absurd h (by decide)

/-- The word for the largest value of an integer type names that value. -/
theorem limit?_maxName {t : Scalar} (h : t.isInteger = true) : limit? t.maxName = some t.high := by
  cases t <;> first | rfl | exact absurd h (by decide)

namespace Expression

variable {source target : Scalar}

/-- The comparison of signs and bits is one of largest integers. -/
theorem exceedsMax_iff_high_lt (hsource : source.isInteger = true)
    (htarget : target.isInteger = true) :
    exceedsMax source target = true ↔ target.high < source.high := by
  revert hsource htarget
  cases source <;> cases target <;> decide +kernel

/-- The comparison of signs and bits is one of smallest integers. -/
theorem exceedsMin_iff_low_lt (hsource : source.isInteger = true)
    (htarget : target.isInteger = true) :
    exceedsMin source target = true ↔ source.low < target.low := by
  revert hsource htarget
  cases source <;> cases target <;> decide +kernel

/-- A bound that can be exceeded is a value of the type that exceeds it. -/
theorem inRange_high_of_exceedsMax (hsource : source.isInteger = true)
    (htarget : target.isInteger = true) (h : exceedsMax source target = true) :
    source.InRange target.high := by
  have hlt := (exceedsMax_iff_high_lt hsource htarget).mp h
  exact ⟨source.low_nonpos.trans target.high_nonneg, hlt.le⟩

/-- A lower bound that can be exceeded is a value of the source. -/
theorem inRange_low_of_exceedsMin (hsource : source.isInteger = true)
    (htarget : target.isInteger = true) (h : exceedsMin source target = true) :
    source.InRange target.low := by
  have hlt := (exceedsMin_iff_low_lt hsource htarget).mp h
  exact ⟨hlt.le, target.low_nonpos.trans source.high_nonneg⟩

/-- An upper bound that cannot be exceeded is above the source. -/
theorem high_le_of_not_exceedsMax (hsource : source.isInteger = true)
    (htarget : target.isInteger = true) (h : ¬ exceedsMax source target = true) :
    source.high ≤ target.high :=
  le_of_not_gt (mt (exceedsMax_iff_high_lt hsource htarget).mpr h)

/-- A lower bound that cannot be exceeded is below the source. -/
theorem low_le_of_not_exceedsMin (hsource : source.isInteger = true)
    (htarget : target.isInteger = true) (h : ¬ exceedsMin source target = true) :
    target.low ≤ source.low :=
  le_of_not_gt (mt (exceedsMin_iff_low_lt hsource htarget).mpr h)

end Expression

end LaneConvert
