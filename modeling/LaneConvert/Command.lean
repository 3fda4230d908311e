import LaneConvert.Run
import LaneConvert.Configuration
import LaneConvert.Lowering
import LaneConvert.Library.Inspection

/-!
# Commands

The four things one can ask for: generate the library, list its functions, explain one of them, and
check a configuration or a library that is already written. Only generation changes a file, and only
after the whole text was made and inspected.

Before a command can start it needs a setup: the plan of the library, its layout and where it goes.
A setup comes from a configuration, and that from a file that is named, from the file of the usual
name in the working directory, or from nothing at all.
-/

namespace LaneConvert

/-- What a command works with. -/
structure Setup where
  plan : Plan
  layout : Layout
  /-- Where the library is written if nothing else is said. -/
  output? : Option Path
  deriving DecidableEq

namespace Configuration

/-- The file in which a configuration is looked for. -/
def usualPath : Path := ⟨"convgen.toml"⟩

/-- The file that holds the configuration: the one that is named, else the usual one if there is
such a file. -/
def sourcePath? (files : Tree) (named? : Option Path) : Option Path :=
  match named? with
  | some path => some path
  | none => if files.isFile usualPath then some usualPath else none

/-- Read the configuration, with the directory that relative paths in it start in. What a text says
is left to `ofText`: whatever holds of commands with every configuration needs no more of it than
that a text says one configuration or has one defect. -/
def load (files : Tree) (named? : Option Path) : Run (Configuration × Path) :=
  match sourcePath? files named? with
  | none => do
    Run.record .debug .configuration
      ("No " ++ usualPath.text ++ " found, using built-in defaults")
    return (empty, .here)
  | some path => do
    Run.record .info .configuration ("Loading configuration from " ++ path.text)
    let text ← Run.readFile files path
    let configuration ← Run.ofResult ((ofText text).mapError .configuration)
    return (configuration, path.directory)

/-- Record the size of a catalog that a configuration chooses. -/
def recordCatalog (c : Configuration) (catalog : Catalog) : Run Unit :=
  if c.types?.isSome then
    Run.record .debug .catalog ("Type catalog: " ++ toString catalog.types.length ++ " types")
  else pure ()

/-- Record the sizes of a plan. -/
def recordPlan (p : Plan) : Run Unit :=
  Run.record .debug .configuration
    ("Generator setup: " ++ toString p.catalog.types.length ++ " types, " ++
      toString p.table.widths.length ++ " widths, intrinsics at [" ++
      ", ".intercalate (p.intrinsics.widths.map Width.title) ++ "]")

/-- The setup of a configuration. Its tables are checked before the header comment is read. -/
def setup (c : Configuration) (files : Tree) (base : Path) : Run Setup := do
  let catalog ← Run.ofTable c.catalog
  c.recordCatalog catalog
  let table ← Run.ofTable c.table
  let headerText? ← (c.headerPath? base).mapM (Run.readFile files)
  let plan : Plan := ⟨catalog, table, c.intrinsics⟩
  recordPlan plan
  return ⟨plan, c.layout headerText?, c.output? base⟩

end Configuration

/-- The setup for a command, given the file that is named for the configuration. -/
def Setup.prepare (files : Tree) (named? : Option Path) : Run Setup := do
  let (configuration, base) ← Configuration.load files named?
  configuration.setup files base

namespace Setup

/-- The definitions in front of the first conversion that cannot be defined. -/
def definedFirst : List (Except LibraryError Definition) → List Definition
  | .ok d :: rest => d :: definedFirst rest
  | _ => []

/-- The record of a definition. -/
def definitionRecord (d : Definition) : Record :=
  ⟨.trace, .definitions, d.conversion.signature ++ ": " ++ d.result.text⟩

/-- The definitions of the plan. -/
def definitions (s : Setup) : Run (List Definition) := do
  Run.recordAll ((definedFirst (s.plan.conversions.map s.plan.define)).map definitionRecord)
  let definitions ← Run.ofLibrary s.plan.definitions
  Run.record .debug .definitions
    ("Synthesized " ++ toString definitions.length ++ " definitions (" ++
      toString (definitions.countP fun d => d.result.isCall) ++ " primitive, " ++
      toString (definitions.countP fun d => d.result.isConcat) ++ " decomposed)")
  return definitions

/-- The text of the library. -/
def render (s : Setup) : Run String := do
  let definitions ← s.definitions
  let text := s.layout.text s.plan.catalog definitions
  Run.record .info .layout
    ("Rendered " ++ toString definitions.length ++ " conversion functions (" ++
      toString text.utf8ByteSize ++ " bytes)")
  return text

end Setup

/-- A request to the program. -/
inductive Command where
  /-- Generate the library, into the given file if there is one. -/
  | generate (configuration? output? : Option Path)
  /-- List the signatures that contain a text. -/
  | list (configuration? : Option Path) (filter? : Option String)
  /-- Explain the function of a name that converts from a type. -/
  | explain (configuration? : Option Path) (name : String) (source : Scalar)
  /-- Check the configuration, and a written library if one is given. -/
  | check (configuration? : Option Path) (library? : Option Path)
  deriving DecidableEq

namespace Command

/-- Hand over a library that has passed its inspection: write it to the file that is named, or print
it if none is. -/
def deliver (files : Tree) (target? : Option Path) (text : String) (summary : Summary) : Run Unit :=
  match target? with
  | some path => do
    Run.replaceFile files path text
    Run.record .info .generating
      ("Wrote " ++ toString summary.functions ++ " conversion functions (" ++
        toString summary.guarded ++ " guarded) to " ++ path.text)
  | none => Run.print text

/-- Generate the library. -/
def runGenerate (files : Tree) (configuration? output? : Option Path) : Run Unit := do
  let setup ← Setup.prepare files configuration?
  let text ← setup.render
  let summary ← Run.ofLibrary (inspect text)
  deliver files (output?.or setup.output?) text summary

/-- Whether a conversion is listed under a filter. -/
def isListed (filter? : Option String) (c : Conversion) : Bool :=
  match filter? with
  | none => true
  | some part => Text.contains part.toList c.signature.toList

/-- The line of a conversion in a list. -/
def listLine (c : Conversion) : String := c.targetType ++ " " ++ c.signature

/-- List the conversions. -/
def runList (files : Tree) (configuration? : Option Path) (filter? : Option String) :
    Run Unit := do
  let setup ← Setup.prepare files configuration?
  let listed := setup.plan.conversions.filter (isListed filter?)
  Run.record .info .listing (toString listed.length ++ " conversions listed")
  Run.print (joinLines (listed.map listLine))

/-- Whether a conversion has a name and a source. -/
def isNamed (name : String) (source : Scalar) (c : Conversion) : Bool :=
  c.functionName = name && c.source = source

/-- Explain a conversion. -/
def runExplain (files : Tree) (configuration? : Option Path) (name : String) (source : Scalar) :
    Run Unit := do
  let setup ← Setup.prepare files configuration?
  match setup.plan.conversions.find? (isNamed name source) with
  | none => Run.fail (.unknownConversion name source)
  | some c =>
    let lowering ← Run.ofLibrary (setup.plan.explain c)
    Run.record .debug .explaining
      (c.signature ++ " lowers to " ++ toString lowering.leaves ++ " leaf operations")
    Run.print lowering.text

/-- Check a written library against what would be generated, where the number of functions of the
latter is known. -/
def checkLibrary (files : Tree) (setup : Setup) (count : Nat) (path : Path) : Run Unit := do
  let existing ← Run.readFile files path
  let summary ← Run.ofLibrary (inspect existing)
  let expected ← setup.render
  if existing = expected then
    Run.print (path.text ++ " is up to date: " ++ toString summary.functions ++ " functions, " ++
      toString summary.guarded ++ " guarded\n")
  else
    Run.record .warning .checking
      (path.text ++ " has " ++ toString summary.functions ++
        " functions, the generator produces " ++ toString count)
    Run.fail (.stale path)

/-- Check the configuration, and then a written library if one is given. -/
def runCheck (files : Tree) (configuration? library? : Option Path) : Run Unit := do
  let setup ← Setup.prepare files configuration?
  let definitions ← setup.definitions
  Run.ofLibrary (Definition.review definitions)
  Run.print ("Configuration OK: " ++ toString definitions.length ++ " conversion functions\n")
  match library? with
  | none => pure ()
  | some path => checkLibrary files setup definitions.length path

/-- Run a command on a tree. -/
def run (files : Tree) : Command → Run Unit
  | generate configuration? output? => runGenerate files configuration? output?
  | list configuration? filter? => runList files configuration? filter?
  | explain configuration? name source => runExplain files configuration? name source
  | check configuration? library? => runCheck files configuration? library?

/-- The tree that a command leaves, whether it succeeds or fails. -/
def filesAfter (files : Tree) (c : Command) : Tree := files.applyAll (c.run files).changes

end Command

end LaneConvert
