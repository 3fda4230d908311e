import LaneConvert.Kind
import LaneConvert.Width

/-!
# The tables of a library

A library is generated for a catalog of scalar types and a table of widths. Both are selected by a
list written in any order, which is valid only if no element is listed twice, and both keep the
fixed order of all types or widths, whatever the order of the list. Neither is ever empty. Whatever
a width splits into is itself in the table, so that a conversion without an operation of its own can
be put together from narrower ones. What can be wrong with a name, a selection or the qualifiers
asked of a conversion is said here too, and none of it can be mended while a library is generated.
-/

namespace LaneConvert

/-- The presentation of an error. -/
structure Diagnostic where
  /-- One sentence that says what went wrong. -/
  message : String
  /-- The identifier the error is filed under, if it has one. -/
  code : Option String
  /-- Advice on how to go on, if there is any. -/
  help : Option String
  deriving DecidableEq, Repr

/-- A defect of a selection of types or widths, or of a requested conversion. -/
inductive TableError where
  /-- No scalar type has this name. -/
  | unknownType (name : String)
  /-- No width is written like this, blanks around it aside. -/
  | unknownWidth (text : String)
  /-- A type is selected a second time. -/
  | repeatedType (type : Scalar)
  /-- A width is selected a second time. -/
  | repeatedWidth (width : Width)
  /-- A width is selected without one of the widths it splits into. -/
  | missingPart (width part : Width)
  /-- The kind of the conversion does not allow saturation. -/
  | illegalSaturation (source target : Scalar)
  /-- The kind of the conversion does not allow a rounding mode. -/
  | illegalRounding (source target : Scalar)
  /-- No type is selected. -/
  | noTypes
  /-- No width is selected. -/
  | noWidths
  deriving DecidableEq, Repr

namespace TableError

/-- The beginning of a sentence about the conversions from one type to another. -/
def conversionPhrase (source target : Scalar) : String :=
  "The " ++ (Kind.between source target).label ++ " conversion " ++ source.name ++ " -> " ++
    target.name

/-- The wording of a defect. -/
def message : TableError → String
  | unknownType name => "Unknown scalar type `" ++ name ++ "`"
  | unknownWidth text => "Unknown vector width `" ++ text ++ "`"
  | repeatedType type => "Scalar type `" ++ type.name ++ "` is listed more than once"
  | repeatedWidth width => "Vector width `" ++ width.label ++ "` is listed more than once"
  | missingPart width part =>
    "Vector width " ++ width.label ++ " decomposes into width " ++ part.label ++
      ", which is not in the width table"
  | illegalSaturation source target =>
    conversionPhrase source target ++ " does not accept saturation"
  | illegalRounding source target =>
    conversionPhrase source target ++ " does not accept an explicit rounding mode"
  | noTypes => "The type catalog is empty"
  | noWidths => "The vector width table is empty"

/-- The identifier of a defect. -/
def code : TableError → String
  | unknownType _ => "CATALOG-001"
  | unknownWidth _ => "CATALOG-002"
  | repeatedType _ => "CATALOG-003"
  | repeatedWidth _ => "CATALOG-004"
  | missingPart _ _ => "CATALOG-005"
  | illegalSaturation _ _ => "CATALOG-006"
  | illegalRounding _ _ => "CATALOG-007"
  | noTypes => "CATALOG-008"
  | noWidths => "CATALOG-009"

/-- Advice on a defect, if there is any. -/
def help? : TableError → Option String
  | unknownType _ => some ("Known types are: " ++ ", ".intercalate (Scalar.all.map Scalar.name))
  | unknownWidth _ =>
    some "Vector widths are written as \"\" (scalar), \"2\", \"3\", \"4\", \"8\" or \"16\""
  | missingPart width _ =>
    some ("Add the missing width, or drop " ++ width.label ++ " from the table")
  | illegalSaturation _ _ =>
    some "Saturation is only legal when the destination is an integer type"
  | illegalRounding _ _ =>
    some ("Rounding modes apply to float <-> integer conversions and to narrowing float " ++
      "conversions")
  | _ => none

/-- How a defect is presented. -/
def diagnostic (e : TableError) : Diagnostic := ⟨e.message, some e.code, e.help?⟩

end TableError

/-- The scalar type of a given name. -/
def Scalar.ofName (name : String) : Except TableError Scalar :=
  match Scalar.ofName? name with
  | some type => .ok type
  | none => .error (.unknownType name)

/-- The width a text stands for. The error shows the text without the blanks around it. -/
def Width.ofText (text : String) : Except TableError Width :=
  match Width.ofText? text with
  | some width => .ok width
  | none => .error (.unknownWidth (Width.trimmed text))

namespace Selection

variable {α : Type} [DecidableEq α]

/-- The first element of the list that occurs in `seen` or before itself in the list. -/
def firstRepeatAfter? (seen : List α) : List α → Option α
  | [] => none
  | a :: rest => if a ∈ seen then some a else firstRepeatAfter? (a :: seen) rest

/-- The first element that already occurred in the list, if any does. -/
def firstRepeat? (selection : List α) : Option α := firstRepeatAfter? [] selection

/-- The members of a table that are selected, in the order of the table. -/
def arrange (table selection : List α) : List α := table.filter (· ∈ selection)

/-- Of the members of a table exactly the selected ones are arranged. -/
theorem mem_arrange {table selection : List α} {a : α} (h : a ∈ table) :
    a ∈ arrange table selection ↔ a ∈ selection := by
  simp [arrange, h]

/-- A selection takes over the order of an ascending table. -/
theorem arrange_sorted [LT α] {table : List α} (h : table.Pairwise (· < ·)) (selection : List α) :
    (arrange table selection).Pairwise (· < ·) :=
  h.filter _

end Selection

/-- A selection of scalar types in catalog order. -/
structure Catalog where
  /-- The selected types. -/
  types : List Scalar
  /-- The types are in catalog order, so none is listed twice. -/
  sorted : types.Pairwise (· < ·)
  /-- At least one type is selected. -/
  nonempty : types ≠ []
  deriving DecidableEq

namespace Catalog

/-- The catalog of all scalar types. -/
def full : Catalog := ⟨Scalar.all, Scalar.all_sorted, by decide⟩

/-- The catalog of the selected types. A repeated type is reported before an empty selection. -/
def ofList (selection : List Scalar) : Except TableError Catalog :=
  match Selection.firstRepeat? selection with
  | some type => .error (.repeatedType type)
  | none =>
    if h : Selection.arrange Scalar.all selection = [] then .error .noTypes
    else
      .ok ⟨Selection.arrange Scalar.all selection,
        Selection.arrange_sorted Scalar.all_sorted _, h⟩

/-- Whether a type is in the catalog. -/
def contains (c : Catalog) (type : Scalar) : Bool := type ∈ c.types

/-- Whether some type of the catalog depends on an extension. -/
def requires (c : Catalog) (extension : Extension) : Bool :=
  c.types.any fun type => type.extension? = some extension

end Catalog

/-- A selection of widths, narrowest first, that is closed under splitting. -/
structure WidthTable where
  /-- The selected widths. -/
  widths : List Width
  /-- The widths ascend, so none is listed twice. -/
  sorted : widths.Pairwise (· < ·)
  /-- At least one width is selected. -/
  nonempty : widths ≠ []
  /-- The parts of every selected width are selected. -/
  closed : ∀ width ∈ widths, ∀ part ∈ width.parts, part ∈ widths

namespace WidthTable

/-- Tables of the same widths are the same. -/
instance : DecidableEq WidthTable := fun s t =>
  decidable_of_decidable_of_iff (p := s.widths = t.widths)
    ⟨fun h => by cases s; cases t; cases h; rfl, fun h => congrArg widths h⟩

/-- The table of all widths. -/
def full : WidthTable := ⟨Width.all, Width.all_sorted, by decide, by decide⟩

/-- The first of the widths that lacks a part among `selected`, with its first missing part. -/
def missingPart? (selected : List Width) : List Width → Option (Width × Width)
  | [] => none
  | width :: rest =>
    match width.parts.find? (· ∉ selected) with
    | some part => some (width, part)
    | none => missingPart? selected rest

/-- If no width lacks a part, the parts of all widths are selected. -/
theorem missingPart?_eq_none {selected widths : List Width}
    (h : missingPart? selected widths = none) :
    ∀ width ∈ widths, ∀ part ∈ width.parts, part ∈ selected := by
  induction widths with
  | nil => simp
  | cons width rest ih =>
    unfold missingPart? at h
    split at h
    · simp at h
    · next hfind =>
      rw [List.find?_eq_none] at hfind
      intro w hw part hpart
      rcases List.mem_cons.mp hw with rfl | hw
      · simpa using hfind part hpart
      · exact ih h w hw part hpart

/-- The table of the selected widths. A repeated width is reported first, then an empty selection,
then the narrowest width that lacks a part. -/
def ofList (selection : List Width) : Except TableError WidthTable :=
  let selected := Selection.arrange Width.all selection
  match Selection.firstRepeat? selection with
  | some width => .error (.repeatedWidth width)
  | none =>
    if hne : selected = [] then .error .noWidths
    else
      match hmissing : missingPart? selected selected with
      | some (width, part) => .error (.missingPart width part)
      | none =>
        .ok ⟨selected, Selection.arrange_sorted Width.all_sorted _, hne,
          missingPart?_eq_none hmissing⟩

/-- Whether a width is in the table. -/
def contains (t : WidthTable) (width : Width) : Bool := width ∈ t.widths

end WidthTable

end LaneConvert
