import LaneConvert.Lowering

/-!
# The layout of a library

A library is written as one text: a header comment, the headers it includes, a prelude for each
extension that its types need, and the definitions one after another. The layout says what the
surroundings of the definitions are. It is applied only to a complete list of definitions.
-/

namespace LaneConvert

/-- The text around the definitions of a library. -/
structure Layout where
  /-- The comment a library begins with, taken as it stands. -/
  header : String
  /-- The headers a library includes. -/
  includes : List String
  /-- The words in front of every signature. -/
  decorations : List String
  deriving DecidableEq

/-- The lines of the header comment of a library that brings none of its own. -/
def standardHeaderLines : List String := [
  "/* !!!! AUTOGENERATED FILE generated by convgen !!!!!",
  "",
  "   DON'T CHANGE THIS FILE. MAKE YOUR CHANGES TO THE GENERATOR AND RUN:",
  "   $ convgen generate --output <this file>",
  "",
  "   OpenCL type conversion functions",
  "",
  "   Permission is hereby granted, free of charge, to any person obtaining a copy",
  "   of this software and associated documentation files (the \"Software\"), to deal",
  "   in the Software without restriction, including without limitation the rights",
  "   to use, copy, modify, merge, publish, distribute, sublicense, and/or sell",
  "   copies of the Software, and to permit persons to whom the Software is",
  "   furnished to do so, subject to the following conditions:",
  "",
  "   The above copyright notice and this permission notice shall be included in",
  "   all copies or substantial portions of the Software.",
  "",
  "   THE SOFTWARE IS PROVIDED \"AS IS\", WITHOUT WARRANTY OF ANY KIND, EXPRESS OR",
  "   IMPLIED, INCLUDING BUT NOT LIMITED TO THE WARRANTIES OF MERCHANTABILITY,",
  "   FITNESS FOR A PARTICULAR PURPOSE AND NONINFRINGEMENT. IN NO EVENT SHALL THE",
  "   AUTHORS OR COPYRIGHT HOLDERS BE LIABLE FOR ANY CLAIM, DAMAGES OR OTHER",
  "   LIABILITY, WHETHER IN AN ACTION OF CONTRACT, TORT OR OTHERWISE, ARISING FROM,",
  "   OUT OF OR IN CONNECTION WITH THE SOFTWARE OR THE USE OR OTHER DEALINGS IN",
  "   THE SOFTWARE.",
  "*/"]

/-- The lines that switch an extension on, and stop the compiler where it cannot be supported. -/
def Extension.preludeLines : Extension → List String
  | .fp64 => [
    "#ifdef cl_khr_fp64",
    "#pragma OPENCL EXTENSION cl_khr_fp64 : enable",
    "",
    "#if defined(__EMBEDDED_PROFILE__) && !defined(cles_khr_int64)",
    "#error Embedded profile that supports cl_khr_fp64 also has to support cles_khr_int64",
    "#endif",
    "",
    "#endif"]
  | .int64 => [
    "#ifdef cles_khr_int64",
    "#pragma OPENCL EXTENSION cles_khr_int64 : enable",
    "#endif"]

namespace Layout

/-- The surroundings of a library for which nothing else is chosen. -/
def standard : Layout where
  header := joinLines standardHeaderLines
  includes := ["clc/clc.h", "spirv/spirv.h"]
  decorations := ["_CLC_DEF", "_CLC_OVERLOAD"]

/-- Whether a text ends where a line ends. The empty text does. -/
def endsLine (text : String) : Bool :=
  match text.toList.getLast? with
  | none => true
  | some c => c = '\n'

/-- The header with its last line ended. -/
def headerText (l : Layout) : String := if endsLine l.header then l.header else l.header ++ "\n"

/-- A group of lines set off by an empty line behind it. An empty group leaves nothing. -/
def setOff (group : List String) : List String := if group.isEmpty then [] else group ++ [""]

/-- The lines that include the headers. -/
def includeLines (l : Layout) : List String :=
  setOff (l.includes.map fun header => "#include <" ++ header ++ ">")

/-- The prelude of one extension, if the catalog needs the extension. -/
def preludeLines (catalog : Catalog) (extension : Extension) : List String :=
  if catalog.requires extension then setOff extension.preludeLines else []

/-- Everything behind the header. -/
def lines (l : Layout) (catalog : Catalog) (definitions : List Definition) : List String :=
  l.includeLines ++ preludeLines catalog .fp64 ++ preludeLines catalog .int64 ++
    definitions.flatMap fun d => d.lines l.decorations

/-- The whole text of a library. -/
def text (l : Layout) (catalog : Catalog) (definitions : List Definition) : String :=
  l.headerText ++ "\n" ++ joinLines (l.lines catalog definitions)

end Layout

/-- The text of the library of a plan, if every conversion of it can be defined. -/
def Plan.render (p : Plan) (l : Layout) : Except LibraryError String :=
  p.definitions.map (l.text p.catalog)

/-- A library is rendered from the complete list of definitions or not at all. -/
theorem Plan.render_eq_ok_iff {p : Plan} {l : Layout} {text : String} :
    p.render l = .ok text ↔
      ∃ definitions, p.definitions = .ok definitions ∧ l.text p.catalog definitions = text := by
  unfold Plan.render
  cases p.definitions <;> simp [Except.map]

/-- Definitions are rendered in every layout. -/
theorem Plan.exists_render {p : Plan} {definitions : List Definition}
    (h : p.definitions = .ok definitions) (l : Layout) : ∃ text, p.render l = .ok text :=
  ⟨_, render_eq_ok_iff.mpr ⟨definitions, h, rfl⟩⟩

end LaneConvert
