import LaneConvert.Text.Word
import LaneConvert.Definition

/-!
# Inspection of a written library

A written library is in order if its conditionals pair up, no directive cuts through a function and
no signature occurs twice. Only directives that open or close a conditional, signatures of
conversion functions and the brace that ends a function count for this; every other line could stand
anywhere. The inspection reads the lines once, from first to last, each without the blanks around
it, and stops at the first defect; a conditional that is never closed shows only at the end.
-/

namespace LaneConvert

open Text

/-- The role of a line. -/
inductive Line where
  /-- A directive that opens a conditional. -/
  | opening
  /-- A directive that closes a conditional. -/
  | closing
  /-- The head of a function, with the name of the function and its argument type. -/
  | signature (name argument : String)
  /-- The end of a function. -/
  | brace
  /-- A line of no structural role. -/
  | other
  deriving DecidableEq, Repr

namespace Line

/-- The words of directives that open a conditional. -/
def openingWords : List String := ["if", "ifdef", "ifndef"]

/-- The word of a directive: the word behind the number sign, if the line begins with one. -/
def directive? : List Char → Option String
  | '#' :: rest => some (String.ofList (splitWord (trimStart rest)).1)
  | _ => none

/-- The beginning of every name of a conversion function. -/
def stem : List Char := "convert_".toList

/-- Whether a word names a conversion function: it goes on behind the common beginning. -/
def namesConversion (word : List Char) : Bool :=
  stem.isPrefixOf word && stem.length < word.length

/-- The name and the argument type in the head of a conversion function: a result type, one space,
the name, and an argument type with the argument `x` in parentheses. -/
def signature? (cs : List Char) : Option (String × String) :=
  match splitWord cs with
  | (result, ' ' :: afterResult) =>
    match splitWord afterResult with
    | (name, '(' :: afterName) =>
      match splitWord afterName with
      | (argument, [' ', 'x', ')']) =>
        if !result.isEmpty && namesConversion name && !argument.isEmpty then
          some (String.ofList name, String.ofList argument)
        else none
      | _ => none
    | _ => none
  | _ => none

/-- The role of a line without the blanks around it. -/
def ofTrimmed (cs : List Char) : Line :=
  match directive? cs with
  | some word =>
    if word ∈ openingWords then opening else if word = "endif" then closing else other
  | none =>
    match signature? cs with
    | some (name, argument) => signature name argument
    | none => if cs = ['}'] then brace else other

/-- Whether a comment starts at the beginning of a line. -/
def startsComment (cs : List Char) : Bool := ['/', '*'].isPrefixOf cs

/-- Whether a comment ends somewhere in a line. -/
def endsComment (cs : List Char) : Bool := contains ['*', '/'] cs

/-- The roles of the lines outside comments, with the numbers of the lines, from a given number on.
A comment takes all of the lines it touches; `commented` says whether one is open. -/
def number (n : Nat) (commented : Bool) : List (List Char) → List (Nat × Line)
  | [] => []
  | line :: rest =>
    let cs := trim line
    if commented || startsComment cs then number (n + 1) (!endsComment cs) rest
    else (n, ofTrimmed cs) :: number (n + 1) false rest

/-- The roles of the lines of a text outside comments, with their numbers. -/
def numbered (text : String) : List (Nat × Line) := number 1 false (lines text.toList)

end Line

/-- What an inspection counts. -/
structure Summary where
  /-- The number of functions. -/
  functions : Nat
  /-- The number of functions inside a conditional. -/
  guarded : Nat
  deriving DecidableEq, Repr

/-- What is known about a library up to some line. -/
structure Inspection where
  /-- The lines of the conditionals that are open, the innermost first. -/
  openings : List Nat
  /-- The signatures so far. -/
  seen : List String
  /-- The signature and the line of the function that has not ended, if there is one. -/
  current? : Option (String × Nat)
  /-- The counts so far. -/
  summary : Summary
  deriving DecidableEq, Repr

namespace Inspection

/-- What is known before the first line. -/
def start : Inspection := ⟨[], [], none, ⟨0, 0⟩⟩

/-- A directive is in order only between functions. -/
def directive (i : Inspection) (next : Except LibraryError Inspection) :
    Except LibraryError Inspection :=
  match i.current? with
  | some (signature, line) => .error (.straddling signature line)
  | none => next

/-- Read a line with its number. -/
def step (i : Inspection) : Nat × Line → Except LibraryError Inspection
  | (n, .opening) => i.directive (.ok { i with openings := n :: i.openings })
  | (n, .closing) =>
    i.directive <|
      match i.openings with
      | [] => .error (.unbalanced n .strayClosing)
      | _ :: rest => .ok { i with openings := rest }
  | (n, .signature name argument) =>
    let signature := name ++ "(" ++ argument ++ ")"
    if signature ∈ i.seen then .error (.repeatedSignature signature)
    else
      .ok {
        openings := i.openings
        seen := signature :: i.seen
        current? := some (signature, n)
        summary := ⟨i.summary.functions + 1,
          i.summary.guarded + if i.openings.isEmpty then 0 else 1⟩ }
  | (_, .brace) => .ok { i with current? := none }
  | (_, .other) => .ok i

/-- Read lines from first to last. -/
def run (i : Inspection) (lines : List (Nat × Line)) : Except LibraryError Inspection :=
  lines.foldlM step i

/-- The counts at the end of a library, where no conditional may be open. -/
def finish (i : Inspection) : Except LibraryError Summary :=
  match i.openings with
  | [] => .ok i.summary
  | line :: _ => .error (.unbalanced line .neverClosed)

/-- Lines are read by reading a first part of them and going on from there. -/
theorem run_append (i : Inspection) (a b : List (Nat × Line)) :
    i.run (a ++ b) = i.run a >>= fun j => j.run b := by
  simp [run, List.foldlM_append]

end Inspection

/-- Check a written library and count its functions. -/
def inspect (text : String) : Except LibraryError Summary :=
  Inspection.start.run (Line.numbered text) >>= Inspection.finish

end LaneConvert
