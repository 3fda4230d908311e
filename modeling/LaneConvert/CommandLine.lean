import LaneConvert.Command

/-!
# Command lines

A command line names one command with its options. Words are read from left to right: a request for
help is answered where it is met, a word that does not fit ends the reading, and what is missing or
excludes each other shows only at the end. How much of the journal is shown can be said in front of
the command and behind it; what is said behind it counts.
-/

namespace LaneConvert

/-- An option with a value. -/
inductive Setting where
  | configuration
  | output
  | filter
  | source
  deriving DecidableEq, Repr

namespace Setting

/-- The word of an option. -/
def word : Setting → String
  | configuration => "config"
  | output => "output"
  | filter => "filter"
  | source => "from"

/-- The letter of an option, if it has one. -/
def letter? : Setting → Option Char
  | configuration => some 'c'
  | output => some 'o'
  | filter => some 'f'
  | source => none

/-- Whether a text can be the value of an option: a path is not empty, and a source is a type. -/
def accepts (s : Setting) (value : String) : Bool :=
  match s with
  | configuration | output => value ≠ ""
  | filter => true
  | source => (Scalar.ofName? value).isSome

end Setting

/-- The name of a command. -/
inductive CommandName where
  | generate
  | list
  | explain
  | check
  deriving DecidableEq, Repr

namespace CommandName

/-- Every name of a command. -/
def all : List CommandName := [generate, list, explain, check]

/-- The word of a command. -/
def word : CommandName → String
  | generate => "generate"
  | list => "list"
  | explain => "explain"
  | check => "check"

/-- The command of a word. -/
def ofWord? (word : String) : Option CommandName := all.find? fun name => name.word = word

/-- The options of a command. -/
def settings : CommandName → List Setting
  | generate => [.configuration, .output]
  | list => [.configuration, .filter]
  | explain => [.source, .configuration]
  | check => [.configuration]

/-- Whether a text can be the operand of a command, of which there is one at most. -/
def acceptsOperand (name : CommandName) (operand : String) : Bool :=
  match name with
  | generate | list => false
  | explain => true
  | check => operand ≠ ""

end CommandName

/-- Why the reading of a command line ends early. -/
inductive Stop where
  /-- Help was asked for. -/
  | help
  /-- The command line is not in order. -/
  | usage
  deriving DecidableEq, Repr

/-- How much of the journal is asked for. -/
structure Volume where
  /-- How often more was asked for. -/
  verbose : Nat
  /-- How often less was asked for. -/
  quiet : Nat
  deriving DecidableEq, Repr

namespace Volume

/-- Nothing said. -/
def silent : Volume := ⟨0, 0⟩

/-- Whether both more and less was asked for. -/
def isContradictory (v : Volume) : Bool := 0 < v.verbose && 0 < v.quiet

/-- What is said first, unless it is said again later. -/
def override (first later : Volume) : Volume where
  verbose := if later.verbose = 0 then first.verbose else later.verbose
  quiet := if later.quiet = 0 then first.quiet else later.quiet

/-- The number of levels that are shown: errors and warnings unless something else is said. -/
def levels (v : Volume) : Nat := min 5 (2 + v.verbose - v.quiet)

end Volume

/-- A flag, which has no value. -/
inductive Flag where
  | verbose
  | quiet
  | help
  deriving DecidableEq, Repr

namespace Flag

/-- Every flag. -/
def all : List Flag := [verbose, quiet, help]

/-- The word of a flag. -/
def word : Flag → String
  | verbose => "verbose"
  | quiet => "quiet"
  | help => "help"

/-- The letter of a flag. -/
def letter : Flag → Char
  | verbose => 'v'
  | quiet => 'q'
  | help => 'h'

/-- What a flag changes, unless it ends the reading. -/
def applyTo (v : Volume) : Flag → Except Stop Volume
  | verbose => .ok { v with verbose := v.verbose + 1 }
  | quiet => .ok { v with quiet := v.quiet + 1 }
  | help => .error .help

end Flag

/-- What has been read of a command line, or of its part behind the command. -/
structure Given where
  volume : Volume
  /-- The options with their values. -/
  values : List (Setting × String)
  operand? : Option String
  deriving DecidableEq, Repr

namespace Given

/-- Nothing read. -/
def nothing : Given := ⟨.silent, [], none⟩

/-- The value of an option. -/
def value? (g : Given) (s : Setting) : Option String :=
  (g.values.find? fun e => e.1 = s).map Prod.snd

/-- Add the value of an option, which may be given once. -/
def addValue (g : Given) (s : Setting) (value : String) : Except Stop Given :=
  if s.accepts value && (g.value? s).isNone then .ok { g with values := (s, value) :: g.values }
  else .error .usage

/-- Add a flag. -/
def addFlag (g : Given) (flag : Flag) : Except Stop Given := do
  return { g with volume := ← flag.applyTo g.volume }

/-- Add an operand of a command, which may have one. -/
def addOperand (g : Given) (name : CommandName) (operand : String) : Except Stop Given :=
  if name.acceptsOperand operand && g.operand?.isNone then
    .ok { g with operand? := some operand }
  else .error .usage

end Given

/-- What an argument is by its form. -/
inductive Argument where
  /-- Two dashes, behind which there are only operands. -/
  | separator
  /-- A word behind two dashes, with the value attached to it. -/
  | long (word : String) (value? : Option String)
  /-- Letters behind a dash. -/
  | short (letters : List Char)
  /-- Anything else. -/
  | plain (text : String)
  deriving DecidableEq, Repr

namespace Argument

/-- A word, and the value behind its equals sign if there is one. -/
def splitEquals (cs : List Char) : String × Option String :=
  (String.ofList (cs.takeWhile (· ≠ '=')),
    match cs.dropWhile (· ≠ '=') with
    | [] => none
    | _ :: value => some (String.ofList value))

/-- The form of an argument. A single dash is plain. -/
def ofText (text : String) : Argument :=
  match text.toList with
  | ['-', '-'] => separator
  | '-' :: '-' :: rest => let (word, value?) := splitEquals rest; long word value?
  | '-' :: c :: rest => short (c :: rest)
  | _ => plain text

/-- Whether an argument can be a value of its own. -/
def isPlain : Argument → Bool
  | plain _ => true
  | _ => false

end Argument

/-- What reading an argument leads to: more was read, or the value of an option has to follow. -/
inductive Progress where
  | done (given : Given)
  | awaiting (given : Given) (setting : Setting)

namespace Progress

/-- Read an option, whose value may be attached. -/
def ofSetting (g : Given) (s : Setting) : Option String → Except Stop Progress
  | some value => do return done (← g.addValue s value)
  | none => .ok (awaiting g s)

/-- Read a word behind two dashes. A flag takes no value. -/
def ofLong (settings : List Setting) (g : Given) (word : String) (value? : Option String) :
    Except Stop Progress :=
  match settings.find? fun s => s.word = word with
  | some s => ofSetting g s value?
  | none =>
    match Flag.all.find? fun flag => flag.word = word, value? with
    | some flag, none => do return done (← g.addFlag flag)
    | _, _ => .error .usage

/-- The value attached to a letter, of which an equals sign in front is no part. -/
def attached? : List Char → Option String
  | [] => none
  | '=' :: value => some (String.ofList value)
  | value => some (String.ofList value)

/-- Read letters behind a dash. What follows the letter of an option is its value. -/
def ofShort (settings : List Setting) (g : Given) : List Char → Except Stop Progress
  | [] => .ok (done g)
  | c :: rest =>
    match settings.find? fun s => s.letter? = some c with
    | some s => ofSetting g s (attached? rest)
    | none =>
      match Flag.all.find? fun flag => flag.letter = c with
      | some flag => do ofShort settings (← g.addFlag flag) rest
      | none => .error .usage

end Progress

namespace CommandName

/-- Read the arguments behind two dashes. -/
def readOperands (name : CommandName) (g : Given) (arguments : List String) : Except Stop Given :=
  arguments.foldlM (fun g operand => g.addOperand name operand) g

/-- Read one argument of a command. -/
def readArgument (name : CommandName) (g : Given) : Argument → Except Stop Progress
  | .separator => .error .usage
  | .plain text => do return .done (← g.addOperand name text)
  | .long word value? => Progress.ofLong name.settings g word value?
  | .short letters => Progress.ofShort name.settings g letters

/-- Read the arguments of a command. -/
def readArguments (name : CommandName) (g : Given) : List String → Except Stop Given
  | [] => .ok g
  | argument :: rest =>
    if Argument.ofText argument = .separator then name.readOperands g rest
    else
      match name.readArgument g (.ofText argument), rest with
      | .ok (.done g), rest => name.readArguments g rest
      | .ok (.awaiting g s), value :: rest =>
        if (Argument.ofText value).isPlain then
          match g.addValue s value with
          | .ok g => name.readArguments g rest
          | .error stop => .error stop
        else .error .usage
      | .ok (.awaiting _ _), [] => .error .usage
      | .error stop, _ => .error stop

/-- The path in an option. -/
def path? (g : Given) (s : Setting) : Option Path := (g.value? s).map Path.mk

/-- The command that was given, if nothing is missing. -/
def command? (name : CommandName) (g : Given) : Option Command :=
  match name with
  | generate => some (.generate (path? g .configuration) (path? g .output))
  | list => some (.list (path? g .configuration) (g.value? .filter))
  | explain => do
    let operand ← g.operand?
    let source ← (← g.value? .source) |> Scalar.ofName?
    return .explain (path? g .configuration) operand source
  | check => some (.check (path? g .configuration) (g.operand?.map Path.mk))

end CommandName

/-- A command with the number of levels of its journal that are shown. -/
structure Invocation where
  command : Command
  levels : Nat
  deriving DecidableEq

namespace Invocation

/-- Check and join what was said in front of a command and behind it. -/
def join (front : Volume) (name : CommandName) (g : Given) : Except Stop Invocation :=
  match name.command? g with
  | some command =>
    if front.isContradictory || g.volume.isContradictory then .error .usage
    else .ok ⟨command, (front.override g.volume).levels⟩
  | none => .error .usage

/-- Answer the request for help on a command. -/
def helpOn : List String → Stop
  | [] => .help
  | [word] => if word = "help" || (CommandName.ofWord? word).isSome then .help else .usage
  | _ => .usage

/-- Read a command line, where something was already said. -/
def readFrom (front : Volume) : List String → Except Stop Invocation
  | [] => .error .usage
  | argument :: rest =>
    match Argument.ofText argument with
    | .separator => .error .usage
    | .plain word =>
      if word = "help" then .error (helpOn rest)
      else
        match CommandName.ofWord? word with
        | some name => do join front name (← name.readArguments .nothing rest)
        | none => .error .usage
    | .long word value? => do
      match ← Progress.ofLong [] { Given.nothing with volume := front } word value? with
      | .done g => readFrom g.volume rest
      | .awaiting _ _ => .error .usage
    | .short letters => do
      match ← Progress.ofShort [] { Given.nothing with volume := front } letters with
      | .done g => readFrom g.volume rest
      | .awaiting _ _ => .error .usage

/-- Read a command line, the name of the program aside. -/
def ofArguments (arguments : List String) : Except Stop Invocation := readFrom .silent arguments

end Invocation

end LaneConvert
