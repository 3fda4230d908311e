import LaneConvert.Lowering
import LaneConvert.Library.Layout
import LaneConvert.Files
import LaneConvert.Tables
import LaneConvert.Text.Quoted
import LaneConvert.Toml.Table
import LaneConvert.Decimal
import LaneConvert.Toml.Document

/-!
# Configurations

A configuration says which types and widths a library has, which intrinsics it may use, and how and
where it is written. Every part may be left out, and then has its standard value. A configuration
holds what was written; whether its tables are in order is decided when a plan is made from it.

A configuration is read from a document entry by entry, in the order in which the keys appear, and
the first problem ends the reading. A chapter is written as a table of its fields or as a list of
them in their fixed order, where fields at the end may be missing and surplus values are ignored. A
bad name is reported with the whole list that it stands in. A text is no configuration if it is no
document, or if some key or value of the document has no place in a configuration. The second kind
of defect is reported with the place in the text.

What reads documents and what decodes their values are libraries of their own. Assumed of the first
is which texts are documents, what tables and values these hold, and which bytes each value takes
up; assumed of the second is the order in which fields are tried, the wording of its complaints and
the value that each is about. The reading of documents and `Configuration.ofText` write these
assumptions out. Whatever holds of commands with every configuration does not depend on them: it
needs no more than that a text says one configuration or has one defect.
-/

namespace LaneConvert

/-- What a configuration says. -/
structure Configuration where
  /-- The types to convert between. -/
  types? : Option (List Scalar) := none
  /-- The widths to generate. -/
  widths? : Option (List Width) := none
  /-- The text that names of intrinsics begin with. -/
  stem? : Option String := none
  /-- The widths at which intrinsics exist. -/
  intrinsicWidths? : Option (List Width) := none
  /-- Where the library is written. -/
  path? : Option Path := none
  /-- Where the header comment of the library is found. -/
  header? : Option Path := none
  /-- The headers that the library includes. -/
  includes? : Option (List String) := none
  /-- The words in front of every signature. -/
  decorations? : Option (List String) := none
  deriving DecidableEq

namespace Configuration

/-- The configuration that says nothing. -/
def empty : Configuration := {}

/-- The catalog of a configuration. -/
def catalog (c : Configuration) : Except TableError Catalog :=
  match c.types? with
  | some types => Catalog.ofList types
  | none => .ok .full

/-- The table of widths of a configuration. -/
def table (c : Configuration) : Except TableError WidthTable :=
  match c.widths? with
  | some widths => WidthTable.ofList widths
  | none => .ok .full

/-- The intrinsics of a configuration. -/
def intrinsics (c : Configuration) : IntrinsicSet :=
  .of (c.stem?.getD IntrinsicSet.standardStem)
    (c.intrinsicWidths?.getD IntrinsicSet.standardWidths)

/-- The layout of a configuration, given the header comment that it names. -/
def layout (c : Configuration) (headerText? : Option String) : Layout where
  header := headerText?.getD Layout.standard.header
  includes := c.includes?.getD Layout.standard.includes
  decorations := c.decorations?.getD Layout.standard.decorations

/-- Where the library is written, if the configuration says so. Relative paths start in the
directory of the configuration. -/
def output? (c : Configuration) (base : Path) : Option Path := c.path?.map base.join

/-- Where the header comment is found, if the configuration names one. -/
def headerPath? (c : Configuration) (base : Path) : Option Path := c.header?.map base.join

end Configuration

open Toml

/-- The parts of a configuration. -/
inductive Chapter where
  | catalog
  | primitives
  | output
  deriving DecidableEq, Repr

/-- The word for a part of a configuration in a message. -/
def Chapter.label : Chapter → String
  | catalog => "struct CatalogSection"
  | primitives => "struct PrimitiveSection"
  | output => "struct OutputSection"

/-- What is expected in some place of a configuration. -/
inductive Wanted where
  | string
  | path
  | sequence
  | chapter (chapter : Chapter)
  deriving DecidableEq, Repr

/-- The words for what is expected. -/
def Wanted.label : Wanted → String
  | string => "a string"
  | path => "path string"
  | sequence => "a sequence"
  | chapter c => c.label

/-- The words for a value that is not expected. Dates and times count as tables. -/
def foundLabel : Value → String
  | .string text => "string " ++ Text.quote text
  | .integer value => "integer `" ++ toString value ++ "`"
  | .float value => "floating point `" ++ value.text ++ "`"
  | .boolean value => "boolean `" ++ (if value then "true" else "false") ++ "`"
  | .array _ | .tables _ => "sequence"
  | .moment _ | .table _ _ => "map"

/-- What is wrong with a key or value. -/
inductive Problem where
  /-- The key has no meaning where it stands; these keys have one. -/
  | unknownKey (name : String) (known : List String)
  /-- The value is of another form than expected. -/
  | unexpected (found : String) (wanted : Wanted)
  /-- The string names no type or width. -/
  | badName (error : TableError)
  deriving DecidableEq, Repr

/-- A list of keys in words. -/
def keysPhrase (keys : List String) : String :=
  match keys.map fun key => "`" ++ key ++ "`" with
  | [] => "no keys"
  | [key] => key
  | [first, second] => first ++ " or " ++ second
  | all => "one of " ++ ", ".intercalate all

/-- The wording of a problem. -/
def Problem.message : Problem → String
  | unknownKey name known => "unknown field `" ++ name ++ "`, expected " ++ keysPhrase known
  | unexpected found wanted => "invalid type: " ++ found ++ ", expected " ++ wanted.label
  | badName error => error.message

/-- A problem with the place where it is written. -/
structure Misfit where
  problem : Problem
  span : Span
  deriving DecidableEq, Repr

/-- Why a text is no configuration. -/
inductive ConfigurationError where
  /-- The text is no document. What the reader of documents says about it, with the place in the
  text, is not kept. -/
  | malformed
  /-- The document does not fit. -/
  | misfit (misfit : Misfit)
  deriving DecidableEq, Repr

/-- The wording of a defect. For a text that is no document the words are fixed. They stand for the
message of the reader of documents, which names what it met and where, and differ from it. -/
def ConfigurationError.message : ConfigurationError → String
  | malformed => "Invalid configuration: the text is not a TOML document"
  | misfit m => "Invalid configuration: " ++ m.problem.message

/-- How a defect is presented. -/
def ConfigurationError.diagnostic (e : ConfigurationError) : Diagnostic where
  message := e.message
  code := some "convgen::cli::config_error"
  help := some "See the [catalog], [primitives] and [output] tables accepted by convgen"

namespace Configuration

/-- A reader of a value with its place. -/
abbrev ValueReader (α : Type) := Span → Value → Except Misfit α

/-- The complaint that a value is not what is expected. -/
def unexpected {α : Type} (wanted : Wanted) : ValueReader α := fun span value =>
  .error ⟨.unexpected (foundLabel value) wanted, span⟩

/-- A string, where the given thing is expected. -/
def readText (wanted : Wanted) : ValueReader String := fun span value =>
  match value with
  | .string text => .ok text
  | other => unexpected wanted span other

/-- A path. -/
def readPath : ValueReader Path := fun span value => Path.mk <$> readText .path span value

/-- A list, each item of which is read in its own place. -/
def readList {α : Type} (read : ValueReader α) : ValueReader (List α) := fun span value =>
  match value with
  | .array items | .tables items =>
    items.mapM fun item => read (item.span?.getD span) item.content
  | other => unexpected .sequence span other

/-- A list of names. -/
def readNames {α : Type} (ofName : String → Except TableError α) : ValueReader (List α) :=
  fun span =>
    readList (fun itemSpan value => do
      let name ← readText .string itemSpan value
      (ofName name).mapError fun e => ⟨.badName e, span⟩) span

/-- A field of a table, with what its value does to a configuration. -/
structure Field where
  name : String
  read : Configuration → ValueReader Configuration

/-- The fields of the catalog chapter. -/
def catalogFields : List Field := [
  ⟨"types", fun c span value => do
    return { c with types? := ← readNames Scalar.ofName span value }⟩,
  ⟨"widths", fun c span value => do
    return { c with widths? := ← readNames Width.ofText span value }⟩]

/-- The fields of the chapter on intrinsics. -/
def primitiveFields : List Field := [
  ⟨"prefix", fun c span value => do return { c with stem? := ← readText .string span value }⟩,
  ⟨"widths", fun c span value => do
    return { c with intrinsicWidths? := ← readNames Width.ofText span value }⟩]

/-- The fields of the output chapter. -/
def outputFields : List Field := [
  ⟨"path", fun c span value => do return { c with path? := ← readPath span value }⟩,
  ⟨"header", fun c span value => do return { c with header? := ← readPath span value }⟩,
  ⟨"includes", fun c span value => do
    return { c with includes? := ← readList (readText .string) span value }⟩,
  ⟨"decorations", fun c span value => do
    return { c with decorations? := ← readList (readText .string) span value }⟩]

/-- The key that stands for a date or time where a table is expected. -/
def momentKey : String := "$__toml_private_datetime"

/-- The complaint that a key is not among the given fields. -/
def unknownKey {α : Type} (fields : List Field) (name : String) (span : Span) : Except Misfit α :=
  .error ⟨.unknownKey name (fields.map Field.name), span⟩

/-- Read one entry of a table. A value without a place is reported in the place of its key. -/
def readEntry (fields : List Field) (c : Configuration) (e : Entry Item) :
    Except Misfit Configuration :=
  match fields.find? fun f => f.name = e.key.name with
  | none => unknownKey fields e.key.name e.key.span
  | some f => f.read c (e.content.span?.getD e.key.span) e.content.content

/-- Read a table of fields. -/
def readEntries (fields : List Field) (c : Configuration) (entries : Entries) :
    Except Misfit Configuration :=
  entries.foldlM (readEntry fields) c

/-- Read the values of fields in their order. -/
def readValues (fields : List Field) (c : Configuration) (span : Span) (items : List Item) :
    Except Misfit Configuration :=
  (fields.zip items).foldlM (fun c (f, item) => f.read c (item.span?.getD span) item.content) c

/-- Read a chapter. -/
def readChapter (chapter : Chapter) (fields : List Field) (c : Configuration) :
    ValueReader Configuration := fun span value =>
  match value with
  | .table _ entries => readEntries fields c entries
  | .array items | .tables items => readValues fields c span items
  | .moment _ => unknownKey fields momentKey span
  | other => unexpected (.chapter chapter) span other

/-- The chapters of a configuration. -/
def chapters : List Field := [
  ⟨"catalog", readChapter .catalog catalogFields⟩,
  ⟨"primitives", readChapter .primitives primitiveFields⟩,
  ⟨"output", readChapter .output outputFields⟩]

/-- The configuration that a text says. All that is assumed of the reader of documents and of the
decoding of their values stands behind this function: `document?` says which texts are documents and
what stands in them, and `readEntries` in which order that is decoded, which complaint comes first
and which place it is about. -/
def ofText (text : String) : Except ConfigurationError Configuration :=
  match document? text with
  | none => .error .malformed
  | some entries => (readEntries chapters empty entries).mapError .misfit

end Configuration

end LaneConvert
