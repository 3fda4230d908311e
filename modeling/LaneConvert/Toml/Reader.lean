/-!
# Reading with positions

A reader looks at the text from a cursor on and either fails or gives a result and the cursor behind
what it has read. The cursor counts bytes, so that every value can be reported with the place where
it is written. A reader that fails has moved nothing, and why it failed is not kept.

The strings of a document are read here as well. A string stands in double quotes, where a backslash
starts an escape, or in single quotes, where every character stands for itself. In three quotes of
either kind it may go over several lines: a line end right behind the opening quotes is dropped, and
one or two quotes may stand anywhere, also in front of the closing ones.
-/

namespace LaneConvert.Toml

/-- A stretch of a text, in bytes. -/
structure Span where
  /-- The offset of the first byte. -/
  start : Nat
  /-- The offset behind the last byte. -/
  stop : Nat
  deriving DecidableEq, Repr

/-- The number of bytes in a span. -/
def Span.length (s : Span) : Nat := s.stop - s.start

/-- A place in a text, with what follows it. -/
structure Cursor where
  /-- The number of bytes before the place. -/
  offset : Nat
  /-- The characters behind the place. -/
  rest : List Char
  deriving DecidableEq, Repr

/-- A reader of some part of a text. -/
abbrev Reader (α : Type) := StateT Cursor Option α

namespace Reader

/-- Take characters as long as they satisfy a test, counting their bytes. -/
def takeWhileFrom (p : Char → Bool) (offset : Nat) (taken : List Char) :
    List Char → List Char × Cursor
  | [] => (taken.reverse, ⟨offset, []⟩)
  | c :: rest =>
    if p c then takeWhileFrom p (offset + c.utf8Size) (c :: taken) rest
    else (taken.reverse, ⟨offset, c :: rest⟩)

/-- The longest run of characters that satisfy a test, possibly empty. -/
def takeWhile (p : Char → Bool) : Reader (List Char) := fun cursor =>
  some (takeWhileFrom p cursor.offset [] cursor.rest)

/-- The next character, which is not taken. -/
def peek? : Reader (Option Char) := fun cursor => some (cursor.rest.head?, cursor)

/-- Take a given character if it is next, and tell whether it was. -/
def accept (c : Char) : Reader Bool := fun cursor =>
  match cursor.rest with
  | d :: rest =>
    if d = c then some (true, ⟨cursor.offset + d.utf8Size, rest⟩) else some (false, cursor)
  | [] => some (false, cursor)

/-- Take a given character. -/
def expect (c : Char) : Reader Unit := do
  unless ← accept c do failure

/-- The byte offset of the cursor. -/
def position : Reader Nat := do return (← get).offset

/-- A bound on the number of characters that can still be taken, one more than there are. -/
def fuel : Reader Nat := do return (← get).rest.length + 1

/-- What a reader gives, with the span of what it has read. -/
def spanned {α : Type} (read : Reader α) : Reader (α × Span) := do
  let start ← position
  let result ← read
  return (result, ⟨start, ← position⟩)

/-- A run of blanks within a line. -/
def blanks : Reader Unit := do
  let _ ← takeWhile fun c => c = ' ' || c = '\t'

end Reader

/-- Whether a character may stand in a comment or in a quoted string: tabulations and whatever is no
ASCII control. -/
def isPlain (c : Char) : Bool := c = '\t' || (0x20 ≤ c.toNat && c.toNat ≠ 0x7F)

/-- The cursor behind all blanks, line ends and comments. A carriage return counts only in front of
a line feed, and inside a comment only plain characters do. -/
def Cursor.skipGap (commented : Bool) (offset : Nat) : List Char → Cursor
  | [] => ⟨offset, []⟩
  | '\n' :: rest => skipGap false (offset + 1) rest
  | '\r' :: '\n' :: rest => skipGap false (offset + 2) rest
  | c :: rest =>
    if commented then
      if isPlain c then skipGap true (offset + c.utf8Size) rest else ⟨offset, c :: rest⟩
    else if c = ' ' || c = '\t' then skipGap false (offset + 1) rest
    else if c = '#' then skipGap true (offset + 1) rest
    else ⟨offset, c :: rest⟩

namespace Reader

/-- All blanks, line ends and comments that come next. -/
def gap : Reader Unit := modify fun cursor => Cursor.skipGap false cursor.offset cursor.rest

/-- Blanks up to the end of a line or a comment, which are not taken. -/
def lineEnd : Reader Unit := do
  blanks
  match (← get).rest with
  | [] | '#' :: _ | '\n' :: _ | '\r' :: '\n' :: _ => return
  | _ => failure

end Reader

/-- The character of a one-letter escape. -/
def shortEscape? : Char → Option Char
  | 'b' => some '\x08'
  | 't' => some '\t'
  | 'n' => some '\n'
  | 'f' => some '\x0C'
  | 'r' => some '\r'
  | '"' => some '"'
  | '\\' => some '\\'
  | _ => none

/-- The value of a hexadecimal digit. -/
def hexValue? (c : Char) : Option Nat :=
  if c.isDigit then some (c.toNat - '0'.toNat)
  else if 'a' ≤ c && c ≤ 'f' then some (c.toNat - 'a'.toNat + 10)
  else if 'A' ≤ c && c ≤ 'F' then some (c.toNat - 'A'.toNat + 10)
  else none

/-- The character with a code point written in hexadecimal. -/
def codePoint? (digits : List Char) : Option Char := do
  let n ← digits.foldlM (fun n c => return n * 16 + (← hexValue? c)) 0
  if n.isValidChar then some (Char.ofNat n) else none

/-- The rest of a one-line string in double quotes: the string, and the cursor behind it. -/
def basicString? (offset : Nat) (read : String) : List Char → Option (String × Cursor)
  | [] => none
  | '"' :: rest => some (read, ⟨offset + 1, rest⟩)
  | '\\' :: 'u' :: a :: b :: c :: d :: rest => do
    basicString? (offset + 6) (read.push (← codePoint? [a, b, c, d])) rest
  | '\\' :: 'U' :: a :: b :: c :: d :: e :: f :: g :: h :: rest => do
    basicString? (offset + 10) (read.push (← codePoint? [a, b, c, d, e, f, g, h])) rest
  | '\\' :: c :: rest => do basicString? (offset + 2) (read.push (← shortEscape? c)) rest
  | c :: rest => if isPlain c then basicString? (offset + c.utf8Size) (read.push c) rest else none

/-- The rest of a one-line string in single quotes: the string, and the cursor behind it. -/
def literalString? (offset : Nat) (read : String) : List Char → Option (String × Cursor)
  | [] => none
  | '\'' :: rest => some (read, ⟨offset + 1, rest⟩)
  | c :: rest => if isPlain c then literalString? (offset + c.utf8Size) (read.push c) rest else none

/-- Whether blanks and then a line end come next. -/
def endsInBlanks : List Char → Bool
  | '\n' :: _ | '\r' :: '\n' :: _ => true
  | c :: rest => (c = ' ' || c = '\t') && endsInBlanks rest
  | [] => false

/-- The rest of a string in three double quotes. Behind a backslash at the end of a line all blanks
and line ends are skipped; `skipping` says that this is going on. -/
def longBasicString? (skipping : Bool) (offset : Nat) (read : String) :
    List Char → Option (String × Cursor)
  | [] => none
  | '"' :: '"' :: '"' :: '"' :: '"' :: rest => some (read ++ "\"\"", ⟨offset + 5, rest⟩)
  | '"' :: '"' :: '"' :: '"' :: rest => some (read ++ "\"", ⟨offset + 4, rest⟩)
  | '"' :: '"' :: '"' :: rest => some (read, ⟨offset + 3, rest⟩)
  | '\n' :: rest =>
    longBasicString? skipping (offset + 1) (if skipping then read else read.push '\n') rest
  | '\r' :: '\n' :: rest =>
    longBasicString? skipping (offset + 2) (if skipping then read else read.push '\n') rest
  | '\\' :: 'u' :: a :: b :: c :: d :: rest => do
    longBasicString? false (offset + 6) (read.push (← codePoint? [a, b, c, d])) rest
  | '\\' :: 'U' :: a :: b :: c :: d :: e :: f :: g :: h :: rest => do
    longBasicString? false (offset + 10) (read.push (← codePoint? [a, b, c, d, e, f, g, h])) rest
  | '\\' :: c :: rest =>
    if endsInBlanks (c :: rest) then longBasicString? true (offset + 1) read (c :: rest)
    else do longBasicString? false (offset + 2) (read.push (← shortEscape? c)) rest
  | c :: rest =>
    if skipping && (c = ' ' || c = '\t') then longBasicString? true (offset + 1) read rest
    else if isPlain c then longBasicString? false (offset + c.utf8Size) (read.push c) rest
    else none

/-- The rest of a string in three single quotes. -/
def longLiteralString? (offset : Nat) (read : String) : List Char → Option (String × Cursor)
  | [] => none
  | '\'' :: '\'' :: '\'' :: '\'' :: '\'' :: rest => some (read ++ "\x27\x27", ⟨offset + 5, rest⟩)
  | '\'' :: '\'' :: '\'' :: '\'' :: rest => some (read ++ "\x27", ⟨offset + 4, rest⟩)
  | '\'' :: '\'' :: '\'' :: rest => some (read, ⟨offset + 3, rest⟩)
  | '\n' :: rest => longLiteralString? (offset + 1) (read.push '\n') rest
  | '\r' :: '\n' :: rest => longLiteralString? (offset + 2) (read.push '\n') rest
  | c :: rest =>
    if isPlain c then longLiteralString? (offset + c.utf8Size) (read.push c) rest else none

/-- The cursor behind one line end, if one comes next. -/
def Cursor.skipLineEnd (cursor : Cursor) : Cursor :=
  match cursor.rest with
  | '\n' :: rest => ⟨cursor.offset + 1, rest⟩
  | '\r' :: '\n' :: rest => ⟨cursor.offset + 2, rest⟩
  | _ => cursor

namespace Reader

/-- A string on one line, as keys and values may be written. -/
def shortString : Reader String := fun cursor =>
  match cursor.rest with
  | '"' :: rest => basicString? (cursor.offset + 1) "" rest
  | '\'' :: rest => literalString? (cursor.offset + 1) "" rest
  | _ => none

/-- A string of any form. -/
def string : Reader String := fun cursor =>
  match cursor.rest with
  | '"' :: '"' :: '"' :: rest =>
    let start := Cursor.skipLineEnd ⟨cursor.offset + 3, rest⟩
    longBasicString? false start.offset "" start.rest
  | '\'' :: '\'' :: '\'' :: rest =>
    let start := Cursor.skipLineEnd ⟨cursor.offset + 3, rest⟩
    longLiteralString? start.offset "" start.rest
  | _ => shortString cursor

end Reader

end LaneConvert.Toml
