import LaneConvert.Scalar
import LaneConvert.Conversion
import LaneConvert.Text.Quoted

/-!
# Definitions

A definition is a conversion with the expression its function returns and the extension that guards
it. The expression is a call, a cast, a reinterpretation of bits, a cast of a clamped value, or a
vector put together from two narrower conversions of slices of the argument `x`. Expressions are
read from elsewhere too, so their texts are free; the library's own expressions name only types,
limits and slices of the target language.

A definition that needs an optional extension stands between two conditional directives, so that it
disappears where the extension is missing. One guard is enough for two extensions: wherever double
precision is present without 64-bit integers, the prelude of the library has already stopped the
compiler, so the double-precision guard takes precedence.

A list of definitions is in order if every signature is new and every definition that is put
together from parts calls the parts its width splits into. What can be wrong with a list of
definitions or with a written library is an error of the library, with its lines counted from one.
-/

namespace LaneConvert

namespace Extension

/-- The directive in front of a definition that needs the extension. -/
def opening : Extension → String
  | fp64 => "#ifdef cl_khr_fp64"
  | int64 => "#if defined cles_khr_int64 || !defined(__EMBEDDED_PROFILE__)"

/-- The directive behind a definition that needs an extension. -/
def closing : String := "#endif"

/-- Of two needs, the one that is guarded. -/
def merge? : Option Extension → Option Extension → Option Extension
  | some fp64, _ => some fp64
  | _, some fp64 => some fp64
  | some int64, _ => some int64
  | _, need => need

end Extension

/-- The extension that guards a conversion between two types, if one is needed. -/
def guard? (source target : Scalar) : Option Extension :=
  Extension.merge? source.extension? target.extension?

/-- The expression that a generated function returns. -/
inductive Expression where
  /-- A call of an intrinsic on `x`. -/
  | call (callee : String)
  /-- A cast to the type that `x` already has. -/
  | passThrough (type : String)
  /-- A cast of a single value. -/
  | cast (type : Scalar)
  /-- The same bits read as another type. -/
  | reinterpret (type : Scalar)
  /-- A cast of `x` after it was brought within bounds in its own type. -/
  | clamp (type source : Scalar) (min? max? : Option String)
  /-- A vector of two converted slices of `x`. -/
  | concat (type : String) (low : Conversion) (lowSlice : String) (high : Conversion)
      (highSlice : String)
  deriving DecidableEq

namespace Expression

/-- A cast written out. -/
def castText (type operand : String) : String := "(" ++ type ++ ")(" ++ operand ++ ")"

/-- A bound written out: the limit read in the type of the argument. -/
def boundText (source : Scalar) (limit : String) : String := "(" ++ source.name ++ ")" ++ limit

/-- A converted slice written out. -/
def sliceText (c : Conversion) (slice : String) : String := c.functionName ++ "(x." ++ slice ++ ")"

/-- The argument brought within bounds, written out. -/
def clampText (source : Scalar) : Option String → Option String → String
  | some min, some max =>
    "clamp(x, " ++ boundText source min ++ ", " ++ boundText source max ++ ")"
  | none, some max => "min(x, " ++ boundText source max ++ ")"
  | some min, none => "max(x, " ++ boundText source min ++ ")"
  | none, none => "x"

/-- An expression written out. -/
def text : Expression → String
  | call callee => callee ++ "(x)"
  | passThrough type => castText type "x"
  | cast type => castText type.name "x"
  | reinterpret type => "as_" ++ type.name ++ "(x)"
  | clamp type source min? max? => castText type.name (clampText source min? max?)
  | concat type low lowSlice high highSlice =>
    castText type (sliceText low lowSlice ++ ", " ++ sliceText high highSlice)

/-- The generated functions that an expression calls, in order. -/
def calls : Expression → List String
  | concat _ low _ high _ => [low.functionName, high.functionName]
  | _ => []

/-- Whether an expression is a single call of an intrinsic. -/
def isCall : Expression → Bool
  | call _ => true
  | _ => false

/-- Whether an expression is put together from two conversions. -/
def isConcat : Expression → Bool
  | concat .. => true
  | _ => false

/-- Whether some value of the source type can exceed the largest value of the target type. Any type
that is not signed counts as unsigned. -/
def exceedsMax (source target : Scalar) : Bool :=
  match source.isSigned, target.isSigned with
  | false, true => target.bits ≤ source.bits
  | _, _ => target.bits < source.bits

/-- Whether some value of the source type can fall below the smallest value of the target type. -/
def exceedsMin (source target : Scalar) : Bool :=
  match source.isSigned, target.isSigned with
  | true, true => target.bits < source.bits
  | true, false => true
  | false, _ => false

/-- A saturating conversion between integers without an intrinsic: only bounds that can be exceeded
are clamped, and a conversion that stays in range is a cast. -/
def saturating (source target : Scalar) : Expression :=
  if exceedsMax source target || exceedsMin source target then
    clamp target source
      (if exceedsMin source target then some target.minName else none)
      (if exceedsMax source target then some target.maxName else none)
  else cast target

end Expression

/-- What is wrong with a conditional directive. -/
inductive GuardFault where
  /-- The directive closes nothing. -/
  | strayClosing
  /-- The directive is never closed. -/
  | neverClosed
  deriving DecidableEq, Repr

/-- The words for a fault of a conditional directive. -/
def GuardFault.label : GuardFault → String
  | strayClosing => "#endif without a matching #if"
  | neverClosed => "conditional is never closed"

/-- A defect of a library. -/
inductive LibraryError where
  /-- No expression gives this scalar conversion with its qualifiers. -/
  | noLowering (conversion : Conversion)
  /-- The conversion is put together from a width that is not generated. -/
  | missingWidth (conversion : Conversion) (width : Width)
  /-- A function with this signature is defined a second time. -/
  | repeatedSignature (signature : String)
  /-- A conditional directive has no partner. -/
  | unbalanced (line : Nat) (fault : GuardFault)
  /-- A conditional directive follows before the definition that begins at the line has ended. -/
  | straddling (signature : String) (line : Nat)
  /-- A definition calls other functions than those its conversion splits into. -/
  | wrongParts (signature : String) (expected found : List String)
  deriving DecidableEq

namespace LibraryError

/-- The wording of a defect. -/
def message : LibraryError → String
  | noLowering c =>
    "No way to lower " ++ c.signature ++ ": a plain cast cannot express " ++ c.saturation.label ++
      " with " ++ c.rounding.label
  | missingWidth c width =>
    c.signature ++ " decomposes into width " ++ width.label ++ ", which is not being generated"
  | repeatedSignature signature => "Conversion " ++ signature ++ " is defined more than once"
  | unbalanced line fault =>
    "Unbalanced conditional at line " ++ toString line ++ ": " ++ fault.label
  | straddling signature line =>
    "Definition of " ++ signature ++ " starting at line " ++ toString line ++
      " crosses a conditional directive"
  | wrongParts signature expected found =>
    signature ++ " should be assembled from " ++ Text.quoteList expected ++ " but calls " ++
      Text.quoteList found

/-- The identifier of a defect. -/
def code : LibraryError → String
  | noLowering _ => "CODEGEN-001"
  | missingWidth _ _ => "CODEGEN-002"
  | repeatedSignature _ => "CODEGEN-003"
  | unbalanced _ _ => "CODEGEN-004"
  | straddling _ _ => "CODEGEN-005"
  | wrongParts _ _ _ => "CODEGEN-006"

/-- Advice on a defect, if there is any. -/
def help? : LibraryError → Option String
  | noLowering _ =>
    some "Make the primitive available at scalar width, or drop the type from the catalog"
  | unbalanced _ _ =>
    some "Every guard opened before a definition must be closed right after it"
  | _ => none

/-- How a defect is presented. -/
def diagnostic (e : LibraryError) : Diagnostic := ⟨e.message, some e.code, e.help?⟩

end LibraryError

/-- A generated function. -/
structure Definition where
  /-- The conversion that the function carries out. -/
  conversion : Conversion
  /-- The extension whose guard brackets the function, if any. -/
  guard? : Option Extension
  /-- The expression that the function returns. -/
  result : Expression
  deriving DecidableEq

namespace Definition

/-- The line that names the function. -/
def signatureLine (d : Definition) : String :=
  d.conversion.targetType ++ " " ++ d.conversion.functionName ++ "(" ++ d.conversion.sourceType ++
    " x)"

/-- The line with the words that stand before the signature, if there are any words. -/
def decorationLines (decorations : List String) : List String :=
  if decorations.isEmpty then [] else [" ".intercalate decorations]

/-- The lines of the function itself. -/
def bodyLines (d : Definition) (decorations : List String) : List String :=
  decorationLines decorations ++
    [d.signatureLine, "\x7b", "  return " ++ d.result.text ++ ";", "\x7d"]

/-- The lines of a definition, its guard included. -/
def lines (d : Definition) (decorations : List String) : List String :=
  match d.guard? with
  | none => d.bodyLines decorations
  | some extension =>
    extension.opening :: d.bodyLines decorations ++ [Extension.closing]

/-- The functions that a definition has to call if it is put together from parts. -/
def expectedCalls? (d : Definition) : Option (List String) :=
  if d.result.isConcat then
    d.conversion.width.split?.map fun split =>
      split.parts.map fun width => (d.conversion.atWidth width).functionName
  else none

/-- The first defect in a list of definitions, where `seen` holds the signatures before it. A
repeated signature is reported before wrong parts of the same definition. -/
def reviewAfter (seen : List String) : List Definition → Except LibraryError Unit
  | [] => .ok ()
  | d :: rest =>
    if d.conversion.signature ∈ seen then
      .error (.repeatedSignature d.conversion.signature)
    else
      match d.expectedCalls? with
      | some expected =>
        if d.result.calls = expected then reviewAfter (d.conversion.signature :: seen) rest
        else .error (.wrongParts d.conversion.signature expected d.result.calls)
      | none => reviewAfter (d.conversion.signature :: seen) rest

/-- Check that all signatures differ and that definitions call the parts they split into. -/
def review (definitions : List Definition) : Except LibraryError Unit :=
  reviewAfter [] definitions

end Definition

/-- Lines as one text, each ended by a line feed. -/
def joinLines (lines : List String) : String := String.join (lines.map (· ++ "\n"))

end LaneConvert
