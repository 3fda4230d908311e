import LaneConvert.Toml.Reader
import LaneConvert.Decimal

/-!
# Values and tables of a document

A document is a table of values. Every value knows where it is written, except for tables that have
no place of their own because they are only named on the way to something else. Tables and arrays
also know how they were written, since that decides what may still be added to them.

A document names its tables piece by piece: a dotted key makes tables on its way, a header opens one
table or adds one to a list of tables. No key is ever given a second meaning. A table in braces is
complete; a table under a header is complete except for tables under longer headers; a table made by
dotted keys grows only by dotted keys and longer headers, and a table that was only implied may get
its header later, which moves it to the end of its parent.
-/

namespace LaneConvert.Toml

/-- A key with the place where it is written, quotes included. -/
structure Key where
  name : String
  span : Span
  deriving DecidableEq, Repr

/-- A key with what it stands for. -/
structure Entry (α : Type) where
  key : Key
  content : α
  deriving Repr

/-- Something with the place where it is written, if it has one. -/
structure Located (α : Type) where
  span? : Option Span
  content : α
  deriving Repr

/-- How a table is written. -/
inductive Origin where
  /-- In braces. -/
  | inline
  /-- Under a header of its own. -/
  | header
  /-- As the beginning of a dotted key. -/
  | dotted
  /-- Only as the beginning of a header. -/
  | implied
  deriving DecidableEq, Repr

/-- A value of a document. -/
inductive Value where
  | string (text : String)
  | integer (value : Int)
  | float (value : Decimal.Binary64)
  | boolean (value : Bool)
  /-- A date, a time or both. -/
  | moment (text : String)
  /-- A list in brackets. -/
  | array (items : List (Located Value))
  /-- A list of tables, each under a header that says so. -/
  | tables (items : List (Located Value))
  /-- A table, whose entries are in the order of their keys' first appearance. -/
  | table (origin : Origin) (entries : List (Entry (Located Value)))

/-- A value with its place. -/
abbrev Item := Located Value

/-- The entries of a table. -/
abbrev Entries := List (Entry Item)

namespace Entries

/-- The entry of a key name, if there is one. -/
def find? (entries : Entries) (name : String) : Option Item :=
  (List.find? (fun e => e.key.name = name) entries).map Entry.content

/-- The entries without a key name. -/
def erase (entries : Entries) (name : String) : Entries :=
  entries.filter fun e => e.key.name ≠ name

/-- Replace what a key stands for by what the change makes of it. A new key goes to the end, and a
change may fail. -/
def alter (key : Key) (change : Option Item → Option Item) : Entries → Option Entries
  | [] => do return [⟨key, ← change none⟩]
  | e :: rest =>
    if e.key.name = key.name then do return ⟨e.key, ← change (some e.content)⟩ :: rest
    else do return e :: (← alter key change rest)

/-- Add a key that has no meaning yet. -/
def insert (key : Key) (item : Item) (entries : Entries) : Option Entries :=
  alter key (fun | none => some item | some _ => none) entries

end Entries

/-- Change the entries of a table. -/
def Item.changeTable (item : Item) (change : Origin → Entries → Option Entries) : Option Item :=
  match item with
  | ⟨span?, .table origin entries⟩ => do return ⟨span?, .table origin (← change origin entries)⟩
  | _ => none

/-- Change the last item of a list. -/
def changeLast? (change : Item → Option Item) : List Item → Option (List Item)
  | [] => none
  | [item] => do return [← change item]
  | item :: rest => do return item :: (← changeLast? change rest)

/-- A value under a key, which may be dotted. -/
structure Assignment where
  /-- The keys in front of the last one. -/
  path : List Key
  /-- The last key. -/
  key : Key
  /-- The value. -/
  item : Item

/-- Whether a dotted key may go through a table of the given origin; at the last step, the table
must have been made by dotted keys. -/
def Origin.acceptsDotted (origin : Origin) (last : Bool) : Bool :=
  match origin with
  | .dotted => true
  | .implied => !last
  | .inline | .header => false

/-- Add a value under the rest of a dotted key. -/
def Assignment.addTo (a : Assignment) : List Key → Entries → Option Entries
  | [], entries => entries.insert a.key a.item
  | key :: path, entries =>
    entries.alter key fun
      | none => do return ⟨none, .table .dotted (← a.addTo path [])⟩
      | some ⟨span?, .table origin inner⟩ => do
        guard (origin.acceptsDotted path.isEmpty)
        return ⟨span?, .table origin (← a.addTo path inner)⟩
      | some ⟨span?, .tables items⟩ => do
        guard !path.isEmpty
        return ⟨span?, .tables
          (← changeLast? (fun item => item.changeTable fun _ => a.addTo path) items)⟩
      | some _ => none

/-- The entries with all assignments added. -/
def Entries.assign (entries : Entries) (assignments : List Assignment) : Option Entries :=
  assignments.foldlM (fun entries a => a.addTo a.path entries) entries

/-- The header of a table. -/
structure Heading where
  /-- The keys in front of the last one. -/
  path : List Key
  /-- The last key. -/
  key : Key
  /-- Whether the table is one of a list. -/
  repeated : Bool
  /-- The place of the header, brackets included. -/
  span : Span

/-- A header with the assignments under it. -/
structure Section where
  heading : Heading
  assignments : List Assignment

namespace Section

/-- The place of a section, from its header to the end of its last value. -/
def span (s : Section) : Span :=
  match s.assignments.getLast?.bind fun a => a.item.span? with
  | some last => ⟨s.heading.span.start, last.stop⟩
  | none => s.heading.span

/-- The table of a section, on top of the entries that it already has. -/
def table (s : Section) (entries : Entries) : Option Item := do
  return ⟨some s.span, .table .header (← entries.assign s.assignments)⟩

/-- The place of a list of tables, from the first to the last. -/
def listSpan? (items : List Item) : Option Span := do
  let first ← (← items.head?).span?
  let last ← (← items.getLast?).span?
  return ⟨first.start, last.stop⟩

/-- Add the table of a section at the end of its path. -/
def place (s : Section) (entries : Entries) : Option Entries :=
  if s.heading.repeated then
    entries.alter s.heading.key fun
      | none => do
        let items := [← s.table []]
        return ⟨listSpan? items, .tables items⟩
      | some ⟨_, .tables items⟩ => do
        let items := items ++ [← s.table []]
        return ⟨listSpan? items, .tables items⟩
      | some _ => none
  else
    match entries.find? s.heading.key.name with
    | none => do return entries ++ [⟨s.heading.key, ← s.table []⟩]
    | some ⟨_, .table .implied inner⟩ => do
      return entries.erase s.heading.key.name ++ [⟨s.heading.key, ← s.table inner⟩]
    | some _ => none

/-- Add the table of a section under the rest of its path. -/
def addTo (s : Section) : List Key → Entries → Option Entries
  | [], entries => s.place entries
  | key :: path, entries =>
    entries.alter key fun
      | none => do return ⟨none, .table .implied (← s.addTo path [])⟩
      | some ⟨span?, .table origin inner⟩ => do
        guard (origin ≠ .inline)
        return ⟨span?, .table origin (← s.addTo path inner)⟩
      | some ⟨span?, .tables items⟩ => do
        return ⟨span?, .tables
          (← changeLast? (fun item => item.changeTable fun _ => s.addTo path) items)⟩
      | some _ => none

end Section

end LaneConvert.Toml
