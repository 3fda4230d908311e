/-!
# Scalar types

The ten scalar types that conversions run between, in the order of the catalog: the integers from
the narrowest to the widest, each signed type before its unsigned partner, then the floating-point
types. Everything else about a type follows from its width in bits and its category, apart from the
names of its limits, which are fixed words of the target language.
-/

namespace LaneConvert

/-- How the bits of a scalar type are read. -/
inductive Category where
  /-- Two's-complement integers. -/
  | signed
  /-- Integers from zero on. -/
  | unsigned
  /-- Floating-point numbers. -/
  | float
  deriving DecidableEq, Repr

/-- The word for a category. -/
def Category.name : Category → String
  | .signed => "signed"
  | .unsigned => "unsigned"
  | .float => "float"

/-- An optional feature of the target that some scalar types need. -/
inductive Extension where
  /-- Double precision. -/
  | fp64
  /-- Integers of 64 bits. -/
  | int64
  deriving DecidableEq, Repr

/-- The word for an extension. -/
def Extension.name : Extension → String
  | .fp64 => "fp64"
  | .int64 => "int64"

/-- A scalar type of the target language. -/
inductive Scalar where
  | char
  | uchar
  | short
  | ushort
  | int
  | uint
  | long
  | ulong
  | float
  | double
  deriving DecidableEq, Repr

namespace Scalar

/-- Every scalar type, in catalog order. -/
def all : List Scalar :=
  [char, uchar, short, ushort, int, uint, long, ulong, float, double]

/-- Every scalar type is listed. -/
theorem mem_all (t : Scalar) : t ∈ all := by cases t <;> decide

/-- The position of a type in the catalog. -/
def rank : Scalar → Nat
  | char => 0
  | uchar => 1
  | short => 2
  | ushort => 3
  | int => 4
  | uint => 5
  | long => 6
  | ulong => 7
  | float => 8
  | double => 9

/-- Types are ordered as the catalog lists them. -/
instance : LT Scalar := ⟨fun s t => s.rank < t.rank⟩

/-- The order of types is decided by their positions. -/
instance (s t : Scalar) : Decidable (s < t) := inferInstanceAs (Decidable (s.rank < t.rank))

/-- The list of all types is in the order of the types. -/
theorem all_sorted : all.Pairwise (· < ·) := by decide

/-- The name of a type in the target language. -/
def name : Scalar → String
  | char => "char"
  | uchar => "uchar"
  | short => "short"
  | ushort => "ushort"
  | int => "int"
  | uint => "uint"
  | long => "long"
  | ulong => "ulong"
  | float => "float"
  | double => "double"

/-- The width of a type in bits. -/
def bits : Scalar → Nat
  | char | uchar => 8
  | short | ushort => 16
  | int | uint | float => 32
  | long | ulong | double => 64

/-- How the bits of a type are read. -/
def category : Scalar → Category
  | char | short | int | long => .signed
  | uchar | ushort | uint | ulong => .unsigned
  | float | double => .float

/-- Whether a type holds floating-point numbers. -/
def isFloat (t : Scalar) : Bool := t.category = .float

/-- Whether a type holds integers. -/
def isInteger (t : Scalar) : Bool := !t.isFloat

/-- Whether a type holds integers of both signs. -/
def isSigned (t : Scalar) : Bool := t.category = .signed

/-- Whether a type holds integers from zero on. -/
def isUnsigned (t : Scalar) : Bool := t.category = .unsigned

/-- The signed integer type of the same width. Floating-point types have none. -/
def signedPartner? : Scalar → Option Scalar
  | char | uchar => some char
  | short | ushort => some short
  | int | uint => some int
  | long | ulong => some long
  | float | double => none

/-- The unsigned integer type of the same width. Floating-point types have none. -/
def unsignedPartner? : Scalar → Option Scalar
  | char | uchar => some uchar
  | short | ushort => some ushort
  | int | uint => some uint
  | long | ulong => some ulong
  | float | double => none

/-- The word for the largest value of a type. -/
def maxName : Scalar → String
  | char => "CHAR_MAX"
  | uchar => "UCHAR_MAX"
  | short => "SHRT_MAX"
  | ushort => "USHRT_MAX"
  | int => "INT_MAX"
  | uint => "UINT_MAX"
  | long => "LONG_MAX"
  | ulong => "ULONG_MAX"
  | float => "FLT_MAX"
  | double => "DBL_MAX"

/-- The word for the smallest value of a type. -/
def minName : Scalar → String
  | char => "CHAR_MIN"
  | short => "SHRT_MIN"
  | int => "INT_MIN"
  | long => "LONG_MIN"
  | uchar | ushort | uint | ulong => "0"
  | float => "-FLT_MAX"
  | double => "-DBL_MAX"

/-- The extension a type depends on, if any. -/
def extension? : Scalar → Option Extension
  | long | ulong => some .int64
  | double => some .fp64
  | _ => none

/-- The type of a given name. Names are matched exactly. -/
def ofName? (name : String) : Option Scalar := all.find? fun t => t.name = name

/-- The name of a type stands for that type. -/
theorem ofName?_name (t : Scalar) : ofName? t.name = some t := by cases t <;> decide

end Scalar

end LaneConvert
