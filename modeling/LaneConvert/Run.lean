import LaneConvert.Definition
import LaneConvert.Tables
import LaneConvert.Configuration
import LaneConvert.Files

/-!
# Runs

A run is the course of a command: what it prints, what it records, which changes it makes to files
and what it ends with. A run that fails stops there, and what it printed, recorded and changed
before is kept. Everything a command can fail with is a failure, presented in one way whichever
command met it. The records make up a journal, so that one can see afterwards what the command did;
how much of a journal is shown is chosen from outside and changes nothing else.
-/

namespace LaneConvert

/-- How important a record is. -/
inductive Level where
  | error
  | warning
  | info
  | debug
  | trace
  deriving DecidableEq, Repr

namespace Level

/-- The word for a level, of five characters. -/
def label : Level → String
  | error => "ERROR"
  | warning => "WARN "
  | info => "INFO "
  | debug => "DEBUG"
  | trace => "TRACE"

/-- The number of levels that are as important or more. -/
def rank : Level → Nat
  | error => 1
  | warning => 2
  | info => 3
  | debug => 4
  | trace => 5

end Level

/-- What a record is about. -/
inductive Topic where
  | catalog
  | definitions
  | layout
  | configuration
  | files
  | generating
  | listing
  | explaining
  | checking
  deriving DecidableEq, Repr

/-- The word for a topic. -/
def Topic.label : Topic → String
  | catalog => "convgen_types::types"
  | definitions => "convgen_codegen::synth"
  | layout => "convgen_codegen::emit"
  | configuration => "convgen::config"
  | files => "convgen::io"
  | generating => "convgen::commands::generate"
  | listing => "convgen::commands::list"
  | explaining => "convgen::commands::explain"
  | checking => "convgen::commands::check"

/-- An entry of a journal. -/
structure Record where
  level : Level
  topic : Topic
  message : String
  deriving DecidableEq, Repr

namespace Record

/-- A message of several lines, all but the first indented. -/
def indented (message : String) : String :=
  String.join (message.toList.map fun c => if c = '\n' then "\n    " else c.toString)

/-- A record written out. -/
def text (r : Record) : String :=
  "[" ++ r.level.label ++ " " ++ r.topic.label ++ "] " ++ indented r.message

/-- The text of the records down to a given number of levels, one after another. -/
def journalText (levels : Nat) (records : List Record) : String :=
  String.join ((records.filter fun r => r.level.rank ≤ levels).map fun r => r.text ++ "\n")

end Record

/-- Why a command fails. -/
inductive Failure where
  /-- The file is missing, is no file or holds no text. -/
  | unreadable (path : Path)
  /-- A file could not be written. -/
  | unwritable (fault : Tree.WriteFault)
  /-- The configuration does not say anything sensible. -/
  | configuration (error : ConfigurationError)
  /-- The tables of the configuration are not in order. -/
  | table (error : TableError)
  /-- The library is not in order. -/
  | library (error : LibraryError)
  /-- No conversion of the plan has this name and source. -/
  | unknownConversion (name : String) (source : Scalar)
  /-- The file is not what would be generated. -/
  | stale (path : Path)
  deriving DecidableEq

namespace Failure

/-- The presentation of an operation on a file that did not succeed. -/
def ioDiagnostic (operation : String) (path : Path) : Diagnostic :=
  ⟨"Failed to " ++ operation ++ " " ++ path.text, some "convgen::cli::io_error", none⟩

/-- How a failure is presented. -/
def diagnostic : Failure → Diagnostic
  | unreadable path => ioDiagnostic "read" path
  | unwritable (.noDirectory directory) => ioDiagnostic "create a temporary file in" directory
  | unwritable (.irreplaceable path) => ioDiagnostic "replace" path
  | configuration error => error.diagnostic
  | table error => error.diagnostic
  | library error => error.diagnostic
  | unknownConversion name source =>
    ⟨"No conversion named `" ++ name ++ "` takes a `" ++ source.name ++ "` argument",
      some "convgen::cli::unknown_conversion",
      some "Run `convgen list --filter <name>` to see the generated signatures"⟩
  | stale path =>
    ⟨path.text ++ " is out of date with the generator", some "convgen::cli::stale_artifact",
      some "Regenerate it with `convgen generate --output <path>`"⟩

end Failure

/-- The course of a command that ends with a value or a failure. -/
structure Run (α : Type) where
  /-- The text that was printed. -/
  printed : String
  /-- The records, the first one first. -/
  journal : List Record
  /-- The changes of files, the first one first. -/
  changes : List Tree.Change
  /-- The value or failure at the end. -/
  result : Except Failure α

namespace Run

variable {α β : Type}

/-- The run that only ends. -/
def ofResult (result : Except Failure α) : Run α := ⟨"", [], [], result⟩

/-- One run after another. -/
def andThen (first : Run α) (next : α → Run β) : Run β :=
  match first.result with
  | .error failure => ⟨first.printed, first.journal, first.changes, .error failure⟩
  | .ok a =>
    let second := next a
    ⟨first.printed ++ second.printed, first.journal ++ second.journal,
      first.changes ++ second.changes, second.result⟩

/-- Runs are put one after another by what they end with. -/
instance : Monad Run where
  pure a := ofResult (.ok a)
  bind := andThen

/-- The run that fails. -/
def fail (failure : Failure) : Run α := ofResult (.error failure)

/-- The run that prints a text. It always succeeds: that the standard output can be closed or full,
so that a command fails while it prints, is left out. -/
def print (text : String) : Run Unit := ⟨text, [], [], .ok ()⟩

/-- The run that makes several records. -/
def recordAll (records : List Record) : Run Unit := ⟨"", records, [], .ok ()⟩

/-- The run that makes one record. -/
def record (level : Level) (topic : Topic) (message : String) : Run Unit :=
  recordAll [⟨level, topic, message⟩]

/-- The run that makes changes to files. -/
def changeAll (changes : List Tree.Change) : Run Unit := ⟨"", [], changes, .ok ()⟩

/-- The run that ends as an operation on tables does. -/
def ofTable (result : Except TableError α) : Run α := ofResult (result.mapError .table)

/-- The run that ends as an operation on libraries does. -/
def ofLibrary (result : Except LibraryError α) : Run α := ofResult (result.mapError .library)

/-- The run that reads a text file. -/
def readFile (files : Tree) (path : Path) : Run String :=
  match files.read? path with
  | some text => pure text
  | none => fail (.unreadable path)

/-- The run that replaces a text file. The text is first written to a draft next to the file, so the
directory of the path is looked at before the path itself, and the draft is there when it is. A
draft that cannot take the place of the file is cleared away, as `Tree.discarding` assumes. A draft
that was made can be filled, since disks are never full. -/
def replaceFile (files : Tree) (path : Path) (text : String) : Run Unit :=
  match files.draft? path.directory with
  | none => fail (.unwritable (.noDirectory path.directory))
  | some draft => do
    let drafting := Tree.drafting draft text
    changeAll drafting
    match (files.applyAll drafting).target? path with
    | none =>
      changeAll (Tree.discarding draft)
      fail (.unwritable (.irreplaceable path))
    | some target =>
      changeAll [.rename draft target]
      record .debug .files
        ("Wrote " ++ toString text.utf8ByteSize ++ " bytes to " ++ path.text)

/-- The result of two runs in a row is that of their results in a row. -/
theorem result_bind (first : Run α) (next : α → Run β) :
    (first >>= next).result = first.result >>= fun a => (next a).result := by
  change (first.andThen next).result = _
  unfold andThen
  split <;> simp_all [bind, Except.bind]

/-- Behind a run that succeeds the next one goes on, and what both do is kept in order. -/
theorem bind_of_ok {first : Run α} {a : α} (h : first.result = .ok a) (next : α → Run β) :
    first >>= next = ⟨first.printed ++ (next a).printed, first.journal ++ (next a).journal,
      first.changes ++ (next a).changes, (next a).result⟩ := by
  change first.andThen next = _
  simp only [andThen, h]

/-- Behind a run that fails nothing is done. -/
theorem bind_of_error {first : Run α} {failure : Failure} (h : first.result = .error failure)
    (next : α → Run β) :
    first >>= next = ⟨first.printed, first.journal, first.changes, .error failure⟩ := by
  change first.andThen next = _
  simp only [andThen, h]

end Run

end LaneConvert
