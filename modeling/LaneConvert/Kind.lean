import LaneConvert.Scalar

/-!
# Qualifiers and kinds of conversion

A conversion has two qualifiers. A saturating conversion takes values out of range to the nearest
limit of its target; a rounding mode says which neighbour an inexact result becomes. Both are listed
in the order in which functions are generated. The categories and widths of the two scalar types
decide which qualifiers a conversion between them may carry: saturation needs an integer target, and
a rounding mode needs a conversion that can lose precision.
-/

namespace LaneConvert

/-- What becomes of a value outside the range of the target. -/
inductive Saturation where
  /-- Nothing is promised beyond the plain conversion. -/
  | off
  /-- The nearest limit of the target. -/
  | on
  deriving DecidableEq, Repr

namespace Saturation

/-- Both choices, the plain one first. -/
def all : List Saturation := [off, on]

/-- What a choice adds to the name of a function. -/
def suffix : Saturation → String
  | off => ""
  | on => "_sat"

/-- The word for a choice in a message. -/
def label : Saturation → String
  | off => "non-saturating"
  | on => "saturating"

/-- Whether values out of range go to the limits. -/
def isOn (s : Saturation) : Bool := s = on

end Saturation

/-- Which neighbour an inexact result becomes. -/
inductive Rounding where
  /-- Whatever the conversion does when its name says nothing. -/
  | implied
  /-- The neighbour nearer to zero. -/
  | towardZero
  /-- The nearest neighbour, and of two the even one. -/
  | nearestEven
  /-- The greater neighbour. -/
  | upward
  /-- The lesser neighbour. -/
  | downward
  deriving DecidableEq, Repr

namespace Rounding

/-- The modes that a function names, in the order of generation. -/
def explicitModes : List Rounding := [towardZero, nearestEven, upward, downward]

/-- Every mode in the order of generation, the implied one first. -/
def all : List Rounding := implied :: explicitModes

/-- What a mode adds to the name of a function. -/
def suffix : Rounding → String
  | implied => ""
  | towardZero => "_rtz"
  | nearestEven => "_rte"
  | upward => "_rtp"
  | downward => "_rtn"

/-- The words for a mode in a message. -/
def label : Rounding → String
  | implied => "default rounding"
  | towardZero => "round toward zero"
  | nearestEven => "round to nearest even"
  | upward => "round toward +inf"
  | downward => "round toward -inf"

/-- Whether a function names the mode. -/
def isExplicit (r : Rounding) : Bool := r ≠ implied

end Rounding

/-- What a conversion between two scalar types goes from and to. -/
inductive Kind where
  | intToInt
  | floatToInt
  | intToFloat
  /-- Between floating-point types, to fewer bits. -/
  | floatNarrowing
  /-- Between floating-point types, to as many bits or more. -/
  | floatToFloat
  deriving DecidableEq, Repr

namespace Kind

/-- The kind of the conversions from one scalar type to another. -/
def between (source target : Scalar) : Kind :=
  match source.isFloat, target.isFloat with
  | false, false => intToInt
  | true, false => floatToInt
  | false, true => intToFloat
  | true, true => if target.bits < source.bits then floatNarrowing else floatToFloat

/-- The words for a kind in a message. -/
def label : Kind → String
  | intToInt => "integer-to-integer"
  | floatToInt => "float-to-integer"
  | intToFloat => "integer-to-float"
  | floatNarrowing => "narrowing float"
  | floatToFloat => "float-to-float"

/-- Whether conversions of this kind may saturate. -/
def acceptsSaturation : Kind → Bool
  | intToInt | floatToInt => true
  | _ => false

/-- Whether conversions of this kind may name a rounding mode. -/
def acceptsRounding : Kind → Bool
  | floatToInt | intToFloat | floatNarrowing => true
  | _ => false

/-- Whether a pair of qualifiers is legal for this kind. -/
def accepts (k : Kind) (s : Saturation) (r : Rounding) : Bool :=
  (!s.isOn || k.acceptsSaturation) && (!r.isExplicit || k.acceptsRounding)

/-- Every kind of conversion can do without qualifiers. -/
theorem accepts_plain (k : Kind) : k.accepts .off .implied = true := rfl

/-- A pair of qualifiers is legal unless one of the two is refused. -/
theorem accepts_iff {k : Kind} {s : Saturation} {r : Rounding} :
    k.accepts s r = true ↔ (s.isOn && !k.acceptsSaturation) = false ∧
      (r.isExplicit && !k.acceptsRounding) = false := by
  unfold accepts
  cases s.isOn <;> cases k.acceptsSaturation <;> cases r.isExplicit <;>
    cases k.acceptsRounding <;> decide

/-- The choices of saturation for conversions of this kind, in the order of generation. -/
def saturations (k : Kind) : List Saturation :=
  Saturation.all.filter fun s => !s.isOn || k.acceptsSaturation

/-- The rounding modes for conversions of this kind, in the order of generation. -/
def roundings (k : Kind) : List Rounding :=
  Rounding.all.filter fun r => !r.isExplicit || k.acceptsRounding

/-- A listed choice and a listed mode are legal together. -/
theorem accepts_of_mem {k : Kind} {s : Saturation} {r : Rounding} (hs : s ∈ k.saturations)
    (hr : r ∈ k.roundings) : k.accepts s r = true := by
  have hsaturation := (List.mem_filter.mp hs).2
  have hrounding := (List.mem_filter.mp hr).2
  rw [accepts, hsaturation, hrounding]
  rfl

end Kind

end LaneConvert
