import LaneConvert.Library.Layout
import LaneConvert.Proofs.Lowering
import LaneConvert.Proofs.Names

/-!
# The lines of a written library

Every piece of a library that a plan writes fits on its line, provided that the stem of the
intrinsics, the headers to include and the words in front of signatures do. The text is then cut
into lines as it was put together: the lines of the header, an empty line, and the lines behind it.
-/

namespace LaneConvert

open Text

/-- A name fits on a line. -/
theorem oneLine_of_isNameChar {s : String} (h : ∀ c ∈ s.toList, isNameChar c = true) :
    OneLine s := by
  intro hmem
  exact absurd (h _ hmem) (by decide)

/-- An intrinsic name fits on a line if its stem does. -/
theorem oneLine_intrinsicName {set : IntrinsicSet} (hstem : OneLine set.stem) (op : Operation)
    (c : Conversion) : OneLine (set.intrinsicName op c) := by
  have hop : OneLine op.name := by cases op <;> decide
  have htype : OneLine (vectorName c.target c.width) :=
    oneLine_of_isNameChar c.isNameChar_targetType
  have hsaturation : OneLine c.saturation.suffix := by cases c.saturation <;> decide
  have hrounding : OneLine c.rounding.suffix := by cases c.rounding <;> decide
  have hsuffix : OneLine (IntrinsicSet.intrinsicSuffix op c) := by
    rw [IntrinsicSet.intrinsicSuffix, oneLine_append]
    constructor
    · split
      · exact hsaturation
      · decide
    · split
      · exact hrounding
      · decide
  simp +decide [IntrinsicSet.intrinsicName_eq, hstem, hop, htype, hsuffix]

/-- The name of a scalar type fits on a line. -/
theorem oneLine_name (t : Scalar) : OneLine t.name := by cases t <;> decide

/-- A saturating expression fits on a line. -/
theorem oneLine_saturating (source target : Scalar) :
    OneLine (Expression.saturating source target).text := by
  have hmin : OneLine target.minName := by cases target <;> decide
  have hmax : OneLine target.maxName := by cases target <;> decide
  have hsource := oneLine_name source
  have htarget := oneLine_name target
  simp only [Expression.saturating]
  split
  · split <;> split <;>
      simp +decide [Expression.text, Expression.castText, Expression.clampText,
        Expression.boundText, hmin, hmax, hsource, htarget]
  · simp +decide [Expression.text, Expression.castText, htarget]

/-- No expression of a plan leaves its line, if the stem of the intrinsics does not. -/
theorem Plan.LowersTo.oneLine {p : Plan} {c : Conversion} {e : Expression} (h : p.LowersTo c e)
    (hstem : OneLine p.intrinsics.stem) : OneLine e.text := by
  have htype : OneLine c.targetType := oneLine_of_isNameChar c.isNameChar_targetType
  have htarget := oneLine_name c.target
  cases h with
  | passThrough => simp +decide [Expression.text, Expression.castText, htype]
  | intrinsic op => simp +decide [Expression.text, oneLine_intrinsicName hstem op c]
  | scalar _ _ expressed =>
    cases Conversion.hasScalarForm_of_eq_ok expressed with
    | saturating => exact oneLine_saturating _ _
    | reinterpret => simp +decide [Expression.text, htarget]
    | castInteger | castMixed | castFloat =>
      simp +decide [Expression.text, Expression.castText, htarget]
  | parts split _ splits =>
    have hslices : OneLine split.lowSlice ∧ OneLine split.highSlice := by
      revert splits
      cases c.width <;> simp only [Width.split?] <;> intro h <;> cases h <;> decide
    have hfunction : ∀ w, OneLine (c.atWidth w).functionName :=
      fun w => oneLine_of_isNameChar (c.atWidth w).isNameChar_functionName
    simp +decide [Conversion.joined, Expression.text, Expression.castText, Expression.sliceText,
      htype, hfunction, hslices]

/-- The expressions of a plan fit on a line if the stem of its intrinsics does. -/
theorem Plan.oneLine_results {p : Plan} {definitions : List Definition}
    (hstem : OneLine p.intrinsics.stem) (h : p.definitions = .ok definitions) :
    ∀ d ∈ definitions, OneLine d.result.text := by
  intro d hd
  exact (lowersTo_of_mem h hd).oneLine hstem

/-- Words that fit on a line still do with spaces between them. -/
theorem oneLine_intercalate {words : List String} (h : ∀ word ∈ words, OneLine word) :
    OneLine (" ".intercalate words) := by
  induction words with
  | nil => decide
  | cons word rest ih =>
    rw [List.forall_mem_cons] at h
    cases rest with
    | nil => simpa using h.1
    | cons next rest => simpa +decide [h.1] using ih h.2

/-- The directive in front of a definition fits on a line. -/
theorem Extension.oneLine_opening (e : Extension) : OneLine e.opening := by cases e <;> decide

namespace Definition

variable {d : Definition} {decorations : List String}

/-- The head of a function fits on a line. -/
theorem oneLine_signatureLine (d : Definition) : OneLine d.signatureLine := by
  have htarget := oneLine_of_isNameChar d.conversion.isNameChar_targetType
  have hname := oneLine_of_isNameChar d.conversion.isNameChar_functionName
  have hsource := oneLine_of_isNameChar d.conversion.isNameChar_sourceType
  simp +decide [signatureLine, htarget, hname, hsource]

/-- The lines of a function are single lines if its decorations and its expression are. -/
theorem oneLine_bodyLines (hdecorations : ∀ word ∈ decorations, OneLine word)
    (hresult : OneLine d.result.text) : ∀ line ∈ d.bodyLines decorations, OneLine line := by
  have hdecoration : ∀ line ∈ decorationLines decorations, OneLine line := by
    unfold decorationLines
    split
    · simp
    · simpa using oneLine_intercalate hdecorations
  have hsignature := d.oneLine_signatureLine
  intro line hline
  rcases List.mem_append.mp hline with hline | hline
  · exact hdecoration line hline
  · simp only [List.mem_cons, List.not_mem_nil, or_false] at hline
    rcases hline with rfl | rfl | rfl | rfl
    · exact hsignature
    · decide
    · simp +decide [hresult]
    · decide

/-- The lines of a definition are single lines if its decorations and its expression are. -/
theorem oneLine_lines (hdecorations : ∀ word ∈ decorations, OneLine word)
    (hresult : OneLine d.result.text) : ∀ line ∈ d.lines decorations, OneLine line := by
  have hbody := oneLine_bodyLines hdecorations hresult
  unfold lines
  split
  · exact hbody
  · next extension _ =>
    intro line hline
    simp only [List.cons_append, List.mem_cons, List.mem_append, List.not_mem_nil,
      or_false] at hline
    rcases hline with rfl | hline | rfl
    · exact extension.oneLine_opening
    · exact hbody line hline
    · decide

end Definition

namespace Layout

variable {l : Layout} {catalog : Catalog} {definitions : List Definition}

/-- A group that is set off holds its own lines and an empty one. -/
theorem mem_setOff {group : List String} {line : String} (h : line ∈ setOff group) :
    line ∈ group ∨ line = "" := by
  unfold setOff at h
  split at h
  · simp at h
  · simpa using h

/-- The lines of a library are single lines if the headers it includes, its decorations and its
expressions are. -/
theorem oneLine_lines (hincludes : ∀ header ∈ l.includes, OneLine header)
    (hdecorations : ∀ word ∈ l.decorations, OneLine word)
    (hresults : ∀ d ∈ definitions, OneLine d.result.text) :
    ∀ line ∈ l.lines catalog definitions, OneLine line := by
  have hprelude : ∀ e, ∀ line ∈ preludeLines catalog e, OneLine line := by
    intro e line hline
    unfold preludeLines at hline
    split at hline
    · revert line
      cases e <;> decide
    · simp at hline
  intro line hline
  simp only [lines, List.mem_append, List.mem_flatMap] at hline
  rcases hline with ((hline | hline) | hline) | ⟨d, hd, hline⟩
  · rcases mem_setOff hline with hline | rfl
    · obtain ⟨header, hheader, rfl⟩ := List.mem_map.mp hline
      simp +decide [hincludes header hheader]
    · decide
  · exact hprelude _ line hline
  · exact hprelude _ line hline
  · exact Definition.oneLine_lines hdecorations (hresults d hd) line hline

/-- A text is found to end its line exactly if it does. -/
theorem endsLine_iff {text : String} : endsLine text = true ↔ EndsLine text.toList := by
  unfold endsLine EndsLine
  split
  · next h => simp [h]
  · next c h => simp [h]

/-- The header keeps its lines, and a line is ended behind it. -/
theorem headerText_spec (l : Layout) :
    EndsLine l.headerText.toList ∧ Text.lines l.headerText.toList = Text.lines l.header.toList := by
  unfold headerText
  split
  · next h => exact ⟨endsLine_iff.mp h, rfl⟩
  · next h =>
    have hends := mt endsLine_iff.mpr h
    have hne : l.header.toList ≠ [] := by
      intro hnil
      exact hends (by rw [hnil]; simp [EndsLine])
    rw [String.toList_append]
    refine ⟨?_, lines_append_end hne hends⟩
    intro c hc
    simpa [eq_comm] using hc

/-- Joined lines end where a line ends. -/
theorem endsLine_joinLines (texts : List String) : endsLine (joinLines texts) = true := by
  rw [endsLine_iff, EndsLine, toList_joinLines]
  intro c hc
  rcases List.eq_nil_or_concat texts with rfl | ⟨before, text, rfl⟩
  · cases hc
  · simpa [eq_comm] using hc

/-- A header that ends where a line ends is left alone. -/
theorem headerText_of_standard (h : l.header = "" ∨ l.header = standard.header) :
    l.headerText = l.header := by
  have hends : endsLine l.header = true := by
    rcases h with h | h <;> rw [h]
    · rfl
    · exact endsLine_joinLines standardHeaderLines
  exact if_pos hends

/-- What stands behind the header: an empty line, and the lines of the library. -/
def behindHeader (l : Layout) (catalog : Catalog) (definitions : List Definition) : String :=
  "\n" ++ joinLines (l.lines catalog definitions)

/-- A library is its header and what stands behind it. -/
theorem text_eq (l : Layout) (catalog : Catalog) (definitions : List Definition) :
    l.text catalog definitions = l.headerText ++ l.behindHeader catalog definitions :=
  String.append_assoc

/-- Behind the header a library is read as an empty line and the lines that were written. -/
theorem lines_behindHeader (hlines : ∀ line ∈ l.lines catalog definitions, OneLine line) :
    Text.lines (l.behindHeader catalog definitions).toList =
      [] :: (l.lines catalog definitions).map String.toList := by
  have hempty := lines_append_lineFeed (a := []) List.not_mem_nil
    (joinLines (l.lines catalog definitions)).toList
  rw [lines_joinLines hlines] at hempty
  rw [behindHeader, String.toList_append]
  exact hempty

/-- A library is read in the lines it was put together from. -/
theorem lines_text (hlines : ∀ line ∈ l.lines catalog definitions, OneLine line) :
    Text.lines (l.text catalog definitions).toList =
      Text.lines l.header.toList ++ [] :: (l.lines catalog definitions).map String.toList := by
  obtain ⟨hends, hheader⟩ := l.headerText_spec
  rw [text_eq, String.toList_append, lines_append_of_endsLine hends, hheader,
    lines_behindHeader hlines]

end Layout

end LaneConvert
