import LaneConvert.CommandLine

/-!
# The program

The command line runs on the files of the system. The files that a command may look at are collected
into a tree first, the command runs on the tree, and the file that it changed is then put in place.
-/

namespace LaneConvert.Program

/-- The path of a place, as the system takes it. -/
def systemPath (l : Location) : String := "/" ++ "/".intercalate l

/-- What the system has in a place. A file that is only to be replaced is not read. -/
def lookUp (reading : Bool) (l : Location) : IO (Option Node) := do
  let path := System.mkFilePath [systemPath l]
  try
    match (← path.metadata).type with
    | .dir => return some .directory
    | .file => return some (.file (← if reading then IO.FS.readBinFile path else pure .empty))
    | _ => return some (.special (← if reading then IO.FS.readBinFile path else pure .empty))
  catch _ => return none

/-- Add all places to a tree that a path leads through from a given place. Places that are already
in the tree are not looked up again. -/
def collectFrom (reading : Bool) (t : Tree) (l : Location) : List String → IO Tree
  | [] => return t
  | segment :: rest => do
    if Path.isIdle segment then collectFrom reading t l rest
    else if segment = ".." then collectFrom reading t l.dropLast rest
    else
      let next := l ++ [segment]
      if (t.node? next).isSome then collectFrom reading t next rest
      else
        match ← lookUp reading next with
        | some node => collectFrom reading (t.put next node) next rest
        | none => return t

/-- Add all places to a tree that a path leads through. -/
def collect (reading : Bool) (t : Tree) (p : Path) : IO Tree :=
  collectFrom reading t (if p.isAbsolute then [] else t.home) p.segments

/-- The tree that holds the working directory only. -/
def homeTree : IO Tree := do
  let home := (Path.mk (← IO.currentDir).toString).segments.filter fun s => !Path.isIdle s
  collectFrom true ⟨[], home⟩ [] home

/-- The file that a command names for the configuration. -/
def configurationPath? : Command → Option Path
  | .generate configuration? _ | .list configuration? _ | .explain configuration? _ _
  | .check configuration? _ => configuration?

/-- The written library that a command looks at. -/
def libraryPath? : Command → Option Path
  | .check _ library? => library?
  | _ => none

/-- The file that a command names for the library to be written. -/
def outputPath? : Command → Option Path
  | .generate _ output? => output?
  | _ => none

/-- The tree of all files that a command may look at: the files that it reads, and then the place
where it writes. -/
def treeFor (c : Command) : IO Tree := do
  let read := Configuration.usualPath :: ((configurationPath? c).toList ++ (libraryPath? c).toList)
  let t ← read.foldlM (collect true) (← homeTree)
  let outputs (output? : Option Path) (t : Tree) : IO Tree :=
    (output?.toList ++ output?.toList.map Path.directory).foldlM (collect false) t
  match (Configuration.load t (configurationPath? c)).result with
  | .error _ => return t
  | .ok (configuration, base) =>
    let t ← (configuration.headerPath? base).toList.foldlM (collect true) t
    outputs ((outputPath? c).or (configuration.output? base)) t

/-- Put a file in place of another in one step. -/
def install (l : Location) (content : ByteArray) : IO Unit := do
  let path := systemPath l
  let fresh := path ++ ".new"
  IO.FS.writeBinFile fresh content
  IO.FS.rename fresh path

/-- Put the files in place that a command changed. -/
def installChanges (before after : Tree) : IO Unit :=
  for (l, node) in after.entries do
    if before.node? l ≠ some node then
      match node with
      | .file content => install l content
      | .special _ | .directory => pure ()

/-- The lines that explain a failure. -/
def report (d : Diagnostic) : String :=
  String.join [(d.code.map (· ++ "\n")).getD "", d.message, "\n",
    (d.help.map ("help: " ++ · ++ "\n")).getD ""]

/-- How the program is called. -/
def usage : String :=
  joinLines [
    "Usage: convgen [-v|-q] generate [--config FILE] [--output OUT]",
    "       convgen [-v|-q] list [--config FILE] [--filter TEXT]",
    "       convgen [-v|-q] explain NAME --from TYPE [--config FILE]",
    "       convgen [-v|-q] check [FILE] [--config FILE]"]

/-- Run a command on the files of the system, ending with the status of the program. -/
def execute (i : Invocation) : IO UInt32 := do
  let before ← treeFor i.command
  let run := i.command.run before
  installChanges before (i.command.filesAfter before)
  (← IO.getStderr).putStr (Record.journalText i.levels run.journal)
  (← IO.getStdout).putStr run.printed
  match run.result with
  | .ok _ => return 0
  | .error failure =>
    (← IO.getStderr).putStr (report failure.diagnostic)
    return 1

end LaneConvert.Program

/-- The program. -/
def main (arguments : List String) : IO UInt32 := do
  match LaneConvert.Invocation.ofArguments arguments with
  | .ok invocation => LaneConvert.Program.execute invocation
  | .error .help =>
    IO.print LaneConvert.Program.usage
    return 0
  | .error .usage =>
    IO.eprint LaneConvert.Program.usage
    return 2
