import LaneConvert.Proofs.Integer.Reading

/-!
# Saturation without intrinsics

Where the platform has no operation that saturates between two integer types, the argument is
clamped in its own type and then cast. A bound is written only where some value of the source type
goes beyond it, and it is then itself a value of the source type, so nothing is lost when it is read
there. The text of the expression is worth the nearest integer of the target type.
-/

namespace LaneConvert

namespace Expression

/-- The lower bound that an expression clamps to, if any. -/
def lowerBound? : Expression → Option String
  | clamp _ _ min? _ => min?
  | _ => none

/-- The upper bound that an expression clamps to, if any. -/
def upperBound? : Expression → Option String
  | clamp _ _ _ max? => max?
  | _ => none

variable {source target : Scalar}

/-- A saturating expression has a lower bound exactly if that can be exceeded. -/
theorem lowerBound?_saturating (source target : Scalar) :
    (saturating source target).lowerBound? =
      if exceedsMin source target then some target.minName else none := by
  unfold saturating
  split
  · rfl
  · next hinside =>
    rw [Bool.or_eq_true, not_or] at hinside
    rw [if_neg hinside.2]
    rfl

/-- A saturating expression has an upper bound exactly if that can be exceeded. -/
theorem upperBound?_saturating (source target : Scalar) :
    (saturating source target).upperBound? =
      if exceedsMax source target then some target.maxName else none := by
  unfold saturating
  split
  · rfl
  · next hinside =>
    rw [Bool.or_eq_true, not_or] at hinside
    rw [if_neg hinside.1]
    rfl

/-- The lower bound of a saturating expression is the smallest value of the target. -/
theorem lowerBound?_eq_some_iff {limit : String} :
    (saturating source target).lowerBound? = some limit ↔
      exceedsMin source target = true ∧ target.minName = limit := by
  rw [lowerBound?_saturating, Option.ite_none_right_eq_some, Option.some.injEq]

/-- The upper bound of a saturating expression is the largest value of the target. -/
theorem upperBound?_eq_some_iff {limit : String} :
    (saturating source target).upperBound? = some limit ↔
      exceedsMax source target = true ∧ target.maxName = limit := by
  rw [upperBound?_saturating, Option.ite_none_right_eq_some, Option.some.injEq]

/-- A saturating expression is a cast exactly if neither bound can be exceeded. -/
theorem saturating_eq_cast_iff :
    saturating source target = .cast target ↔
      ¬ exceedsMax source target = true ∧ ¬ exceedsMin source target = true := by
  rw [← not_or, ← Bool.or_eq_true]
  unfold saturating
  split
  · next houtside => simp [houtside]
  · next hinside => simp [hinside]

/-- Both forms are written as a cast of the argument within the bounds. -/
theorem text_saturating (source target : Scalar) :
    (saturating source target).text =
      castText target.name (clampText source (saturating source target).lowerBound?
        (saturating source target).upperBound?) := by
  unfold saturating
  split <;> rfl

/-- The largest integer of the source type is the first to exceed that of the target type. -/
theorem exceedsMax_iff (hsource : source.isInteger = true) (htarget : target.isInteger = true) :
    exceedsMax source target = true ↔ ∃ x, source.InRange x ∧ target.high < x := by
  rw [exceedsMax_iff_high_lt hsource htarget]
  constructor
  · intro hlt
    exact ⟨source.high, ⟨source.low_le_high, le_rfl⟩, hlt⟩
  · rintro ⟨x, hx, hlt⟩
    exact hlt.trans_le hx.2

/-- A lower bound can be exceeded exactly if some value of the source is below it. -/
theorem exceedsMin_iff (hsource : source.isInteger = true) (htarget : target.isInteger = true) :
    exceedsMin source target = true ↔ ∃ x, source.InRange x ∧ x < target.low := by
  rw [exceedsMin_iff_low_lt hsource htarget]
  constructor
  · intro hlt
    exact ⟨source.low, ⟨le_rfl, source.low_le_high⟩, hlt⟩
  · rintro ⟨x, hx, hlt⟩
    exact hx.1.trans_lt hlt

/-- The bounds of a saturating expression are limits of types. -/
theorem areLimits_saturating (htarget : target.isInteger = true) :
    AreLimits (saturating source target).lowerBound? (saturating source target).upperBound? := by
  constructor
  · intro limit hlimit
    obtain ⟨-, rfl⟩ := lowerBound?_eq_some_iff.mp hlimit
    exact ⟨_, limit?_minName htarget⟩
  · intro limit hlimit
    obtain ⟨-, rfl⟩ := upperBound?_eq_some_iff.mp hlimit
    exact ⟨_, limit?_maxName htarget⟩

/-- The text of the expression is worth the nearest integer of the target type. -/
theorem readText?_saturating (hsource : source.isInteger = true)
    (htarget : target.isInteger = true) {x : Int} (hx : source.InRange x) :
    readText? source x (saturating source target).text = some (target, target.clamp x) := by
  rw [text_saturating, readText?_castText (areLimits_saturating htarget), lowerBound?_saturating,
    upperBound?_saturating, bounded?_saturating hsource htarget hx, Option.map_some,
    Scalar.wrap_of_inRange (target.inRange_clamp x)]

end Expression

open Expression

/-- A saturating conversion between integer types without an intrinsic has an upper bound exactly if
some value of the source type exceeds the largest value of the target type, a lower bound exactly if
some value falls below the smallest, and is a cast exactly if neither is the case. Every bound is
the limit of the target type and a value of the source type, so it is worth the same number where
it is cast to the source type. The expression as it is written is worth the argument brought into
the range of the target type, which is the argument itself wherever it fits. -/
theorem saturating_clamps {source target : Scalar} (hsource : source.isInteger = true)
    (htarget : target.isInteger = true) :
    ((saturating source target).upperBound?.isSome = true ↔
      ∃ x, source.InRange x ∧ target.high < x) ∧
    ((saturating source target).lowerBound?.isSome = true ↔
      ∃ x, source.InRange x ∧ x < target.low) ∧
    (saturating source target = .cast target ↔
      (¬ ∃ x, source.InRange x ∧ target.high < x) ∧ ¬ ∃ x, source.InRange x ∧ x < target.low) ∧
    (∀ limit, (saturating source target).upperBound? = some limit →
      limit = target.maxName ∧ limit? limit = some target.high ∧ source.InRange target.high ∧
        ∀ x, readText? source x (boundText source limit) = some (source, target.high)) ∧
    (∀ limit, (saturating source target).lowerBound? = some limit →
      limit = target.minName ∧ limit? limit = some target.low ∧ source.InRange target.low ∧
        ∀ x, readText? source x (boundText source limit) = some (source, target.low)) ∧
    ∀ x, source.InRange x →
      readText? source x (saturating source target).text = some (target, target.clamp x) ∧
        (target.InRange x → target.clamp x = x) := by
  have hmax := exceedsMax_iff hsource htarget
  have hmin := exceedsMin_iff hsource htarget
  refine ⟨?_, ?_, ?_, ?_, ?_, ?_⟩
  · rw [upperBound?_saturating, ← hmax]
    simp
  · rw [lowerBound?_saturating, ← hmin]
    simp
  · rw [saturating_eq_cast_iff, hmax, hmin]
  · intro limit hlimit
    obtain ⟨hexceeds, rfl⟩ := upperBound?_eq_some_iff.mp hlimit
    have hnumber := limit?_maxName htarget
    have hrange := inRange_high_of_exceedsMax hsource htarget hexceeds
    refine ⟨rfl, hnumber, hrange, fun x => ?_⟩
    rw [readText?_boundText hnumber, Scalar.wrap_of_inRange hrange]
  · intro limit hlimit
    obtain ⟨hexceeds, rfl⟩ := lowerBound?_eq_some_iff.mp hlimit
    have hnumber := limit?_minName htarget
    have hrange := inRange_low_of_exceedsMin hsource htarget hexceeds
    refine ⟨rfl, hnumber, hrange, fun x => ?_⟩
    rw [readText?_boundText hnumber, Scalar.wrap_of_inRange hrange]
  · intro x hx
    exact ⟨readText?_saturating hsource htarget hx, Scalar.clamp_of_inRange⟩

/-- Both bounds, a value beyond each of them and one in between. -/
theorem saturating_clamps_long :
    (∃ x, Scalar.long.InRange x ∧ Scalar.ushort.high < x) ∧
      (∃ x, Scalar.long.InRange x ∧ x < Scalar.ushort.low) ∧
      readText? .long 70000 (saturating .long .ushort).text = some (.ushort, 65535) ∧
      readText? .long (-5) (saturating .long .ushort).text = some (.ushort, 0) ∧
      readText? .long 77 (saturating .long .ushort).text = some (.ushort, 77) := by
  have hsource : Scalar.long.isInteger = true := rfl
  have htarget : Scalar.ushort.isInteger = true := rfl
  obtain ⟨hmax, hmin, -, -, -, hvalue⟩ := saturating_clamps hsource htarget
  have hinside : Scalar.ushort.InRange 77 := by decide
  obtain ⟨htext, hsame⟩ := hvalue 77 (by decide)
  rw [hsame hinside] at htext
  exact ⟨hmax.mp rfl, hmin.mp rfl, (hvalue 70000 (by decide)).1, (hvalue (-5) (by decide)).1, htext⟩

example : (saturating .long .ushort).text = "(ushort)(clamp(x, (long)0, (long)USHRT_MAX))" := by
  decide

end LaneConvert
