import LaneConvert.Text.Word

/-!
# Vector widths

A conversion works on one value or on a vector of 2, 3, 4, 8 or 16 lanes. Every width but the
scalar one splits into two narrower widths, and each part works on a named slice of the vector:
halves for the even widths, the first two lanes and the third for a vector of three.
-/

namespace LaneConvert

/-- The number of lanes a conversion works on at once. -/
inductive Width where
  | scalar
  | two
  | three
  | four
  | eight
  | sixteen
  deriving DecidableEq, Repr

namespace Width

/-- Every width, from the narrowest to the widest. -/
def all : List Width := [scalar, two, three, four, eight, sixteen]

/-- Every width is listed. -/
theorem mem_all (w : Width) : w ∈ all := by cases w <;> decide

/-- The number of lanes of a width. -/
def lanes : Width → Nat
  | scalar => 1
  | two => 2
  | three => 3
  | four => 4
  | eight => 8
  | sixteen => 16

/-- Widths are ordered by their number of lanes. -/
instance : LT Width := ⟨fun v w => v.lanes < w.lanes⟩

/-- The order of widths is decided by their numbers of lanes. -/
instance (v w : Width) : Decidable (v < w) := inferInstanceAs (Decidable (v.lanes < w.lanes))

/-- The list of all widths ascends. -/
theorem all_sorted : all.Pairwise (· < ·) := by decide

/-- What a width adds to the name of a scalar type: nothing for the scalar width, else the number
of lanes. -/
def suffix : Width → String
  | scalar => ""
  | two => "2"
  | three => "3"
  | four => "4"
  | eight => "8"
  | sixteen => "16"

/-- The word for a width in a message. -/
def label : Width → String
  | scalar => "scalar"
  | w => w.suffix

/-- The capitalised word for a width in a log line. -/
def title : Width → String
  | scalar => "Scalar"
  | two => "Two"
  | three => "Three"
  | four => "Four"
  | eight => "Eight"
  | sixteen => "Sixteen"

/-- Whether a width is that of a single value. -/
def isScalar (w : Width) : Bool := w = scalar

/-- Two narrower widths that make up a wider one. -/
structure Split where
  /-- The width of the part that takes the first lanes. -/
  low : Width
  /-- The name of the slice that the first part works on. -/
  lowSlice : String
  /-- The width of the part that takes the last lanes. -/
  high : Width
  /-- The name of the slice that the last part works on. -/
  highSlice : String
  deriving DecidableEq, Repr

/-- The split into two equal halves. -/
def Split.halves (half : Width) : Split := ⟨half, "lo", half, "hi"⟩

/-- How a width splits. Only the scalar width does not. -/
def split? : Width → Option Split
  | scalar => none
  | two => some (.halves scalar)
  | three => some ⟨two, "s01", scalar, "s2"⟩
  | four => some (.halves two)
  | eight => some (.halves four)
  | sixteen => some (.halves eight)

/-- The widths of the parts of a split, the low part first. -/
def Split.parts (s : Split) : List Width := [s.low, s.high]

/-- The widths that a width splits into, none for the scalar width. -/
def parts (w : Width) : List Width := (w.split?.map Split.parts).getD []

/-- The two parts of a split have the lanes of the whole. -/
theorem lanes_split {w : Width} {s : Split} (h : w.split? = some s) :
    s.low.lanes + s.high.lanes = w.lanes := by
  cases w <;> simp [split?, Split.halves] at h <;> subst h <;> rfl

/-- The first part of a split has fewer lanes than the whole. -/
theorem lanes_low_lt {w : Width} {s : Split} (h : w.split? = some s) :
    s.low.lanes < w.lanes := by
  cases w <;> simp [split?, Split.halves] at h <;> subst h <;> decide

/-- The last part of a split has fewer lanes than the whole. -/
theorem lanes_high_lt {w : Width} {s : Split} (h : w.split? = some s) :
    s.high.lanes < w.lanes := by
  cases w <;> simp [split?, Split.halves] at h <;> subst h <;> decide

/-- Whether a text spells the word for the scalar width, in capitals or not. -/
def spellsScalar (s : String) : Bool := s.toList.map Char.toLower = "scalar".toList

/-- A text for a width without the blanks around it. -/
def trimmed (text : String) : String := String.ofList (Text.trim text.toList)

/-- The width a text stands for, blanks around it aside: the number of lanes, nothing at all or the
word for the scalar width. -/
def ofText? (text : String) : Option Width :=
  let word := trimmed text
  if word = "1" || spellsScalar word then some scalar
  else all.find? fun w => w.suffix = word

end Width

end LaneConvert
