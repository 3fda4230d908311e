import LaneConvert.Tables

/-!
# Conversions and intrinsics

A conversion is named by its two scalar types, its width and its qualifiers. Only legal
combinations are conversions, and each stands for one generated function. Functions of one name may
differ in their argument, so a function is told from all others by its signature only. The
conversions of a catalog and a table are listed by source, then target, then width, then saturation,
then rounding mode, each in its own order.

The platform offers some conversions as intrinsic functions, at some widths only. An intrinsic is
named by a stem of the platform, its operation, its result type and the qualifiers that the
operation leaves open. A conversion that is no work at all needs no intrinsic.
-/

namespace LaneConvert

/-- A legal conversion from one vector type to another of the same width. -/
structure Conversion where
  /-- The scalar type converted from. -/
  source : Scalar
  /-- The scalar type converted to. -/
  target : Scalar
  /-- The number of lanes. -/
  width : Width
  /-- What becomes of values out of range. -/
  saturation : Saturation
  /-- What becomes of inexact values. -/
  rounding : Rounding
  /-- The kind of the conversion allows its qualifiers. -/
  legal : (Kind.between source target).accepts saturation rounding = true
  deriving DecidableEq

namespace Conversion

/-- The conversion with the given parts. An illegal saturation is reported before an illegal
rounding mode. -/
def of (source target : Scalar) (width : Width) (saturation : Saturation) (rounding : Rounding) :
    Except TableError Conversion :=
  match hs : saturation.isOn && !(Kind.between source target).acceptsSaturation,
      hr : rounding.isExplicit && !(Kind.between source target).acceptsRounding with
  | true, _ => .error (.illegalSaturation source target)
  | false, true => .error (.illegalRounding source target)
  | false, false =>
    .ok ⟨source, target, width, saturation, rounding, Kind.accepts_iff.mpr ⟨hs, hr⟩⟩

/-- The conversion without qualifiers, legal between any two types. -/
def plain (source target : Scalar) (width : Width) : Conversion :=
  ⟨source, target, width, .off, .implied, Kind.accepts_plain _⟩

/-- The kind of a conversion. -/
def kind (c : Conversion) : Kind := Kind.between c.source c.target

/-- Whether a conversion stays within one type. -/
def isIdentity (c : Conversion) : Bool := c.source = c.target

/-- The same conversion at another width. -/
def atWidth (c : Conversion) (width : Width) : Conversion := { c with width }

/-- The type of the argument. -/
def sourceType (c : Conversion) : String := c.source.name ++ c.width.suffix

/-- The type of the result. -/
def targetType (c : Conversion) : String := c.target.name ++ c.width.suffix

/-- The name of the generated function. -/
def functionName (c : Conversion) : String :=
  "convert_" ++ c.targetType ++ c.saturation.suffix ++ c.rounding.suffix

/-- The function name with the type of the argument, which no two conversions share. -/
def signature (c : Conversion) : String := c.functionName ++ "(" ++ c.sourceType ++ ")"

end Conversion

/-- Every conversion from one type to another at one width. -/
def Conversion.variants (source target : Scalar) (width : Width) : List Conversion :=
  (Kind.between source target).saturations.attach.flatMap fun ⟨saturation, hs⟩ =>
    (Kind.between source target).roundings.attach.map fun ⟨rounding, hr⟩ =>
      ⟨source, target, width, saturation, rounding, Kind.accepts_of_mem hs hr⟩

/-- Every conversion between types of the catalog at a width of the table, in the order in which
functions are generated. -/
def conversions (catalog : Catalog) (table : WidthTable) : List Conversion :=
  catalog.types.flatMap fun source =>
    catalog.types.flatMap fun target =>
      table.widths.flatMap fun width => Conversion.variants source target width

/-- What the platform's intrinsics are called and at which widths they exist. -/
structure IntrinsicSet where
  /-- The text every intrinsic name begins with. -/
  stem : String
  /-- The widths at which intrinsics exist. -/
  widths : List Width
  /-- The widths ascend, so none is listed twice. -/
  sorted : widths.Pairwise (· < ·)
  deriving DecidableEq

namespace IntrinsicSet

/-- The set with a given stem and widths. Widths may be given in any order and repeatedly. -/
def of (stem : String) (widths : List Width) : IntrinsicSet :=
  ⟨stem, Selection.arrange Width.all widths, Selection.arrange_sorted Width.all_sorted _⟩

/-- The stem of intrinsic names unless another is chosen. -/
def standardStem : String := "__spirv_"

/-- The widths of intrinsics unless others are chosen. -/
def standardWidths : List Width := [.scalar, .two, .four]

/-- The intrinsics of the platform the library is written for. -/
def standard : IntrinsicSet := of standardStem standardWidths

/-- Whether intrinsics exist at a width. -/
def covers (set : IntrinsicSet) (width : Width) : Bool := width ∈ set.widths

/-- A set covers a width exactly if it lists it. -/
theorem covers_iff {set : IntrinsicSet} {width : Width} :
    set.covers width = true ↔ width ∈ set.widths := decide_eq_true_iff

end IntrinsicSet

/-- What an intrinsic computes, apart from the types that overloading tells. -/
inductive Operation where
  /-- Unsigned to signed integers, going to the limits. -/
  | satUnsignedToSigned
  /-- Signed to unsigned integers, going to the limits. -/
  | satSignedToUnsigned
  /-- From signed integers, keeping the low bits. -/
  | fromSigned
  /-- From unsigned integers, keeping the low bits. -/
  | fromUnsigned
  /-- Floating point to signed integers. -/
  | floatToSigned
  /-- Floating point to unsigned integers. -/
  | floatToUnsigned
  /-- Signed integers to floating point. -/
  | signedToFloat
  /-- Unsigned integers to floating point. -/
  | unsignedToFloat
  /-- Between floating-point types. -/
  | floatToFloat
  deriving DecidableEq, Repr

namespace Operation

/-- The name of an operation within an intrinsic name. -/
def name : Operation → String
  | satUnsignedToSigned => "SatConvertUToS"
  | satSignedToUnsigned => "SatConvertSToU"
  | fromSigned => "SConvert"
  | fromUnsigned => "UConvert"
  | floatToSigned => "ConvertFToS"
  | floatToUnsigned => "ConvertFToU"
  | signedToFloat => "ConvertSToF"
  | unsignedToFloat => "ConvertUToF"
  | floatToFloat => "FConvert"

/-- Whether an intrinsic name says if the operation saturates. -/
def namesSaturation : Operation → Bool
  | floatToSigned | floatToUnsigned => true
  | _ => false

/-- Whether an intrinsic name says how the operation rounds. -/
def namesRounding : Operation → Bool
  | floatToSigned | floatToUnsigned | signedToFloat | unsignedToFloat => true
  | _ => false

end Operation

/-- The operation that carries out a conversion, if the platform has one. A plain conversion between
integers of the same width changes no bits and has none. -/
def Conversion.operation? (c : Conversion) : Option Operation :=
  match c.kind with
  | .intToInt =>
    if c.saturation.isOn then
      match c.source.isSigned, c.target.isSigned with
      | false, true => some .satUnsignedToSigned
      | true, false => some .satSignedToUnsigned
      | _, _ => none
    else if c.source.bits = c.target.bits then none
    else if c.source.isSigned then some .fromSigned
    else some .fromUnsigned
  | .floatToInt => if c.target.isSigned then some .floatToSigned else some .floatToUnsigned
  | .intToFloat => if c.source.isSigned then some .signedToFloat else some .unsignedToFloat
  | .floatNarrowing | .floatToFloat =>
    if c.rounding.isExplicit then none else some .floatToFloat

/-- The name of the intrinsic that carries out a conversion by an operation. -/
def IntrinsicSet.intrinsicName (set : IntrinsicSet) (op : Operation) (c : Conversion) : String :=
  set.stem ++ op.name ++ "_R" ++ c.targetType ++
    (if op.namesSaturation then c.saturation.suffix else "") ++
    (if op.namesRounding then c.rounding.suffix else "")

/-- How a conversion is carried out in one step. -/
inductive Resolution where
  /-- The argument is the result. -/
  | passThrough
  /-- One call of the named intrinsic. -/
  | intrinsic (name : String)
  deriving DecidableEq, Repr

/-- How the platform carries out a conversion in one step, if it can. -/
def IntrinsicSet.resolve? (set : IntrinsicSet) (c : Conversion) : Option Resolution :=
  if c.isIdentity && !c.rounding.isExplicit then some .passThrough
  else if set.covers c.width then
    c.operation?.map fun op => .intrinsic (set.intrinsicName op c)
  else none

end LaneConvert
