import LaneConvert.Toml.Table
import LaneConvert.Toml.Number
import LaneConvert.Toml.Reader

/-!
# Documents

A document is a sequence of assignments and headers, each on a line of its own, with comments and
empty lines between them. Values nest, and so do tables in braces, but only to a fixed depth; keys
have as many parts at most. A document is read as a whole or not at all. These rules, with those for
values and tables, are what is assumed of the library that reads configurations.
-/

namespace LaneConvert.Toml

/-- The greatest depth of nested values, and the greatest number of parts of a key. -/
def maxDepth : Nat := 79

namespace Reader

/-- Whether a character may stand in a key without quotes. -/
def isBare (c : Char) : Bool := c.isAlphanum || c = '_' || c = '-'

/-- A key without quotes. -/
def bareKey : Reader String := do
  let cs ← takeWhile isBare
  guard !cs.isEmpty
  return String.ofList cs

/-- One part of a key. -/
def simpleKey : Reader Key := do
  let (name, span) ← spanned (shortString <|> bareKey)
  return ⟨name, span⟩

/-- The parts of a key, of which there may be a given number, with the blanks around them. The last
part is given separately. -/
def keys : Nat → Reader (List Key × Key)
  | 0 => failure
  | more + 1 => do
    blanks
    let key ← simpleKey
    blanks
    if ← accept '.' then
      let (path, last) ← keys more
      return (key :: path, last)
    else return ([], key)

/-- Whether a character may stand in a value without quotes. -/
def isWordChar (c : Char) : Bool :=
  c.isAlphanum || c = '_' || c = '-' || c = '+' || c = '.' || c = ':'

/-- Whether a word is a date and a space and a digit come next, so that a time has to follow. -/
def goesOn (word rest : List Char) : Bool :=
  match rest with
  | ' ' :: c :: _ => afterDate? word = some [] && c.isDigit
  | _ => false

/-- A value without quotes. -/
def bareValue : Reader Value := do
  let cs ← takeWhile isWordChar
  if goesOn cs (← get).rest then
    expect ' '
    let time ← takeWhile isWordChar
    (word? (cs ++ ' ' :: time) : Option Value)
  else (word? cs : Option Value)

/-- A value that holds no other values. -/
def plainValue : Reader Value := (Value.string <$> string) <|> bareValue

/-- A value with the place where it is written. -/
def item (read : Reader Value) : Reader Item := do
  let (content, span) ← spanned read
  return ⟨some span, content⟩

/-- The items of an array up to its closing bracket. A comma may stand behind the last one. -/
def items (inner : Reader Item) : Nat → Reader (List Item)
  | 0 => failure
  | fuel + 1 => do
    gap
    if ← accept ']' then return []
    let first ← inner
    gap
    if ← accept ',' then return first :: (← items inner fuel)
    expect ']'
    return [first]

/-- An array in brackets. -/
def array (inner : Reader Item) : Reader Value := do
  expect '['
  return .array (← items inner (← fuel))

/-- A key and its value. -/
def assignment (inner : Reader Item) : Reader Assignment := do
  let (path, key) ← keys maxDepth
  expect '='
  blanks
  return ⟨path, key, ← inner⟩

/-- The assignments in braces up to the closing brace, of which there is at least one. -/
def assignments (inner : Reader Item) : Nat → Reader (List Assignment)
  | 0 => failure
  | fuel + 1 => do
    let first ← assignment inner
    blanks
    if ← accept ',' then return first :: (← assignments inner fuel)
    expect '}'
    return [first]

/-- A table in braces. -/
def inlineTable (inner : Reader Item) : Reader Value := do
  expect '{'
  blanks
  if ← accept '}' then return .table .inline []
  let entries ← (Entries.assign [] (← assignments inner (← fuel)) : Option Entries)
  return .table .inline entries

/-- A value whose parts nest to at most the given depth. -/
def value : Nat → Reader Item
  | 0 => item plainValue
  | depth + 1 => item (array (value depth) <|> inlineTable (value depth) <|> plainValue)

/-- The brackets of a header and the key in them. -/
def headingKey : Reader (Bool × List Key × Key) := do
  expect '['
  let repeated ← accept '['
  let (path, key) ← keys maxDepth
  expect ']'
  if repeated then expect ']'
  return (repeated, path, key)

/-- The header of a table. -/
def heading : Reader Heading := do
  let ((repeated, path, key), span) ← spanned headingKey
  return ⟨path, key, repeated, span⟩

end Reader

/-- A line of a document, or several if its value goes over lines. -/
inductive Statement where
  | heading (heading : Heading)
  | assignment (assignment : Assignment)

namespace Reader

/-- An assignment or a header with the end of its line. -/
def statement : Reader Statement := do
  let s ← (Statement.heading <$> heading) <|> (Statement.assignment <$> assignment (value maxDepth))
  lineEnd
  return s

/-- All statements up to the end of the text. -/
def statements : Nat → Reader (List Statement)
  | 0 => failure
  | fuel + 1 => do
    gap
    if (← peek?).isNone then return []
    let first ← statement
    return first :: (← statements fuel)

end Reader

/-- The assignments in front of the first header, and the sections. -/
def sections : List Statement → List Assignment × List Section
  | [] => ([], [])
  | .assignment a :: rest => let (front, more) := sections rest; (a :: front, more)
  | .heading h :: rest => let (front, more) := sections rest; ([], ⟨h, front⟩ :: more)

/-- The cursor at the beginning of a text, behind a byte order mark if it has one. -/
def Cursor.start (text : String) : Cursor :=
  match text.toList with
  | '\uFEFF' :: rest => ⟨'\uFEFF'.utf8Size, rest⟩
  | rest => ⟨0, rest⟩

/-- The entries of a document, if the text is one. -/
def document? (text : String) : Option Entries := do
  let start := Cursor.start text
  let (statements, _) ← Reader.statements (start.rest.length + 1) start
  let (front, more) := sections statements
  more.foldlM (fun entries s => s.addTo s.heading.path entries) (← Entries.assign [] front)

end LaneConvert.Toml
