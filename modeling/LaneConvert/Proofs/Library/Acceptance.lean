import LaneConvert.Proofs.Library.Scan
import LaneConvert.Proofs.Library.Written

/-!
# Written libraries pass inspection

A library that a plan writes is read back definition by definition. The guard of a definition opens
and closes around it, its head is recognised with its own signature, and nothing else in it has a
role, whatever the stem of the intrinsics. If the header, the headers to include and the words in
front of the signatures keep out of the way, the inspection accepts the whole text, sees the
signatures of all conversions in order, and counts them and the guarded ones.
-/

namespace LaneConvert

open Text

/-- A line that neither begins nor ends with a blank is not trimmed. -/
theorem trim_between {first last : Char} (hfirst : isBlank first = false)
    (hlast : isBlank last = false) (middle : List Char) :
    trim (first :: (middle ++ [last])) = first :: (middle ++ [last]) := by
  refine trim_eq_self (leaves_cons hfirst) ?_
  rw [List.reverse_cons, List.reverse_append, List.reverse_singleton]
  exact leaves_cons hlast

/-- A name that is not empty is one word. -/
theorem isOneWord_of_isNameChar {s : String} (hne : s ≠ "")
    (h : ∀ c ∈ s.toList, isNameChar c = true) : Line.IsOneWord s.toList :=
  ⟨by simpa using hne, fun c hc => isWord_of_isNameChar (h c hc)⟩

/-- No vector type has an empty name. -/
theorem vectorName_ne_empty (t : Scalar) (w : Width) : vectorName t w ≠ "" := by
  have hname : t.name ≠ "" := by cases t <;> decide
  simp [vectorName, hname]

/-- A result type is one word. -/
theorem Conversion.isOneWord_targetType (c : Conversion) : Line.IsOneWord c.targetType.toList :=
  isOneWord_of_isNameChar (vectorName_ne_empty _ _) c.isNameChar_targetType

/-- An argument type is one word. -/
theorem Conversion.isOneWord_sourceType (c : Conversion) : Line.IsOneWord c.sourceType.toList :=
  isOneWord_of_isNameChar (vectorName_ne_empty _ _) c.isNameChar_sourceType

namespace Definition

/-- The line that names the function is the head of its function. -/
theorem isHead_signatureLine (d : Definition) :
    Line.IsHead d.conversion.functionName d.conversion.sourceType d.signatureLine.toList := by
  have htarget := d.conversion.isOneWord_targetType
  have hsource := d.conversion.isOneWord_sourceType
  have hname := d.conversion.isNameChar_functionName
  rw [Conversion.functionName_eq, String.toList_append] at hname
  have hbehind := isOneWord_of_isNameChar (by simp [vectorName_ne_empty])
    fun c hc => hname c (List.mem_append_right _ hc)
  refine ⟨_, _, htarget, hbehind, hsource, ?_, ?_⟩
  · rw [Conversion.functionName_eq, String.toList_append]
    rfl
  · simp [signatureLine]

/-- The head of a function has no blanks around it. -/
theorem trim_signatureLine (d : Definition) :
    trim d.signatureLine.toList = d.signatureLine.toList := by
  obtain ⟨first, rest, htype⟩ :=
    List.exists_cons_of_ne_nil d.conversion.isOneWord_targetType.ne_nil
  have hfirst : isBlank first = false := by
    refine isBlank_of_isNameChar (d.conversion.isNameChar_targetType first ?_)
    exact htype ▸ List.mem_cons_self
  have hline : d.signatureLine.toList = first :: ((rest ++ (" " ++ d.conversion.functionName ++
      "(" ++ d.conversion.sourceType ++ " x").toList) ++ [')']) := by
    have htarget : d.conversion.targetType.toList = first :: rest := htype
    simp [signatureLine, htarget]
  rw [hline]
  exact trim_between hfirst (by decide) _

end Definition

/-- No head of a function starts a comment. -/
theorem Line.IsHead.startsComment {name argument : String} {cs : List Char}
    (h : Line.IsHead name argument cs) : Line.startsComment cs = false := by
  obtain ⟨result, goesOn, hresult, -, -, -, rfl⟩ := h
  obtain ⟨first, rest, rfl⟩ := List.exists_cons_of_ne_nil hresult.ne_nil
  have hfirst : '/' ≠ first := by
    rintro rfl
    exact absurd (hresult.chars '/' List.mem_cons_self) (by decide)
  simp [Line.startsComment, List.isPrefixOf, hfirst]

/-- The line that names the function is read as its head, and not as the start of a comment. -/
theorem Definition.role_signatureLine (d : Definition) :
    Line.startsComment (trim d.signatureLine.toList) = false ∧
      Line.ofTrimmed (trim d.signatureLine.toList) =
        .signature d.conversion.functionName d.conversion.sourceType := by
  rw [d.trim_signatureLine]
  exact ⟨d.isHead_signatureLine.startsComment,
    Line.ofTrimmed_eq_signature_iff.mpr d.isHead_signatureLine⟩

/-- A returned expression is no directive and no head, because it ends with a semicolon. -/
theorem role_returnLine (text : String) :
    Line.startsComment (trim ("  return " ++ text ++ ";").toList) = false ∧
      Line.ofTrimmed (trim ("  return " ++ text ++ ";").toList) = .other := by
  have htrim : trim ("  return " ++ text ++ ";").toList =
      'r' :: (("eturn " ++ text).toList ++ [';']) := by
    have hblanks : ("  return " ++ text ++ ";").toList =
        ' ' :: ' ' :: 'r' :: (("eturn " ++ text).toList ++ [';']) := by simp
    rw [hblanks, trim_cons_of_isBlank (by decide), trim_cons_of_isBlank (by decide)]
    exact trim_between (by decide) (by decide) _
  rw [htrim]
  refine ⟨rfl, ?_⟩
  have hdirective : ∀ word,
      ¬ Line.IsDirective word ('r' :: (("eturn " ++ text).toList ++ [';'])) := by
    rintro word ⟨blanks, rest, -, -, hline⟩
    exact absurd (List.cons.inj hline).1 (by decide)
  have hhead : ∀ name argument,
      ¬ Line.IsHead name argument ('r' :: (("eturn " ++ text).toList ++ [';'])) := by
    rintro name argument ⟨result, goesOn, -, -, -, -, hline⟩
    have hlast := congrArg List.getLast? hline
    simp [List.getLast?_cons, List.getLast?_append] at hlast
  rcases Line.ofTrimmed_eq_other_or_brace (fun ⟨word, _, hword⟩ => hdirective word hword)
    (hdirective "endif") hhead with hrole | hrole
  · exact hrole
  · have hbrace := Line.ofTrimmed_eq_brace_iff.mp hrole
    exact absurd (List.cons.inj hbrace).1 (by decide)

namespace Inspection

variable {n : Nat} {i : Inspection} {d : Definition} {decorations : List String}

/-- What is known behind one more function. -/
def withFunction (i : Inspection) (d : Definition) : Inspection where
  openings := i.openings
  seen := d.conversion.signature :: i.seen
  current? := none
  summary := ⟨i.summary.functions + 1, i.summary.guarded + if i.openings.isEmpty then 0 else 1⟩

/-- The lines of a function are its decorations, its head, and lines that keep the function open
until the brace. -/
theorem reads_bodyLines
    (hdecorations : ∀ line ∈ (Definition.decorationLines decorations).map String.toList, Idle line)
    (hbetween : i.current? = none) (hfresh : d.conversion.signature ∉ i.seen) :
    Reads n ((d.bodyLines decorations).map String.toList) i (i.withFunction d) := by
  rw [Definition.bodyLines, List.map_append]
  refine (Reads.of_idle hdecorations hbetween).append ?_
  generalize n + _ = m
  obtain ⟨hreturn, hreturnRole⟩ := role_returnLine d.result.text
  obtain ⟨hcomment, hrole⟩ := d.role_signatureLine
  refine .cons hcomment hrole (.signature hfresh) ?_
  refine .cons (by decide) (by decide) .other ?_
  refine .cons hreturn hreturnRole .other ?_
  exact .cons (by decide) (by decide) .brace (.nil _ _)

/-- What is known behind one more definition that stands outside conditionals. -/
def withDefinition (i : Inspection) (d : Definition) : Inspection where
  openings := i.openings
  seen := d.conversion.signature :: i.seen
  current? := none
  summary := ⟨i.summary.functions + 1, i.summary.guarded + if d.guard?.isSome then 1 else 0⟩

/-- A guard opens and closes around its function, which is counted as guarded because the
conditional is open around all of it. -/
theorem reads_definition
    (hdecorations : ∀ line ∈ (Definition.decorationLines decorations).map String.toList, Idle line)
    (hbetween : i.current? = none) (hopenings : i.openings = [])
    (hfresh : d.conversion.signature ∉ i.seen) :
    Reads n ((d.lines decorations).map String.toList) i (i.withDefinition d) := by
  unfold Definition.lines
  split
  · next hguard =>
    have hsame : i.withFunction d = i.withDefinition d := by
      simp [withFunction, withDefinition, hopenings, hguard]
    rw [← hsame]
    exact reads_bodyLines hdecorations hbetween hfresh
  · next extension hguard =>
    have hopening : Line.ofTrimmed (trim extension.opening.toList) = .opening := by
      cases extension <;> decide
    have hcomment : Line.startsComment (trim extension.opening.toList) = false := by
      cases extension <;> decide
    have hclosed : { ({ i with openings := n :: i.openings } : Inspection).withFunction d with
        openings := i.openings } = i.withDefinition d := by
      simp [withFunction, withDefinition, hguard]
    rw [List.cons_append, List.map_cons, List.map_append, ← hclosed]
    refine .cons hcomment hopening (.opening hbetween) ?_
    refine (reads_bodyLines (i := { i with openings := n :: i.openings })
      hdecorations hbetween hfresh).append ?_
    exact .cons (by decide) (by decide) (.closing rfl rfl) (.nil _ _)

variable {definitions : List Definition}

/-- Definitions with new signatures are read one after another: behind each of them no function and
no conditional of its own is open, and one signature has been added. -/
theorem reads_definitions
    (hdecorations : ∀ line ∈ (Definition.decorationLines decorations).map String.toList, Idle line)
    (hbetween : i.current? = none) (hopenings : i.openings = [])
    (hnodup : (definitions.map fun d => d.conversion.signature).Nodup)
    (hfresh : ∀ d ∈ definitions, d.conversion.signature ∉ i.seen) :
    Reads n ((definitions.flatMap fun d => d.lines decorations).map String.toList) i
      (definitions.foldl withDefinition i) := by
  induction definitions generalizing n i with
  | nil => exact .nil n i
  | cons d rest ih =>
    rw [List.map_cons, List.nodup_cons] at hnodup
    rw [List.forall_mem_cons] at hfresh
    rw [List.flatMap_cons, List.map_append]
    refine (reads_definition hdecorations hbetween hopenings hfresh.1).append ?_
    refine ih rfl hopenings hnodup.2 ?_
    intro e he hseen
    rcases List.mem_cons.mp hseen with hsame | hseen
    · exact hnodup.1 (hsame ▸ List.mem_map_of_mem he)
    · exact hfresh.2 e he hseen

/-- Definitions leave the open conditionals as they are. -/
theorem openings_foldl_withDefinition (definitions : List Definition) (i : Inspection) :
    (definitions.foldl withDefinition i).openings = i.openings := by
  induction definitions generalizing i with
  | nil => rfl
  | cons d rest ih => exact ih (i.withDefinition d)

/-- Definitions add their signatures, the last one in front. -/
theorem seen_foldl_withDefinition (definitions : List Definition) (i : Inspection) :
    (definitions.foldl withDefinition i).seen =
      (definitions.map fun d => d.conversion.signature).reverse ++ i.seen := by
  induction definitions generalizing i with
  | nil => rfl
  | cons d rest ih =>
    rw [List.foldl_cons, ih, List.map_cons, List.reverse_cons, List.append_assoc]
    rfl

/-- Definitions are counted, and among them those with a guard. -/
theorem summary_foldl_withDefinition (definitions : List Definition) (i : Inspection) :
    (definitions.foldl withDefinition i).summary =
      ⟨i.summary.functions + definitions.length,
        i.summary.guarded + definitions.countP fun d => d.guard?.isSome⟩ := by
  induction definitions generalizing i with
  | nil => rfl
  | cons d rest ih =>
    rw [List.foldl_cons, ih, List.length_cons, List.countP_cons]
    simp only [withDefinition, Summary.mk.injEq]
    omega

end Inspection

/-- The surroundings of definitions keep out of the way of an inspection. -/
structure Layout.Unobtrusive (l : Layout) : Prop where
  /-- The header alone is accepted and leaves no conditional open and no function seen. -/
  header : ∃ i, Inspection.start.run (Line.numbered l.header) = .ok i ∧
    i.openings = [] ∧ i.seen = []
  /-- The header leaves no comment open. -/
  header_closed : Line.commentedAfter false (Text.lines l.header.toList) = false
  /-- The headers to include fit on their lines. -/
  includes : ∀ header ∈ l.includes, OneLine header
  /-- The words in front of signatures fit on their line. -/
  decorations : ∀ word ∈ l.decorations, OneLine word
  /-- These words start no comment. -/
  no_comment : Line.startsComment (trim (" ".intercalate l.decorations).toList) = false
  /-- They open no conditional. -/
  no_opening : ¬ Line.IsOpening (trim (" ".intercalate l.decorations).toList)
  /-- They close no conditional. -/
  no_closing : ¬ Line.IsClosing (trim (" ".intercalate l.decorations).toList)
  /-- They are not the head of a function. -/
  no_head : ∀ name argument,
    ¬ Line.IsHead name argument (trim (" ".intercalate l.decorations).toList)

namespace Layout

open Inspection

variable {l : Layout} {n : Nat} {i : Inspection}

/-- An empty line is idle. -/
theorem idle_nil : Idle [] := ⟨rfl, .inl rfl⟩

/-- In unobtrusive surroundings the words in front of signatures make an idle line. -/
theorem Unobtrusive.idle_decorationLines (hl : l.Unobtrusive) :
    ∀ line ∈ (Definition.decorationLines l.decorations).map String.toList, Idle line := by
  unfold Definition.decorationLines
  split
  · simp
  · intro line hline
    obtain rfl : line = (" ".intercalate l.decorations).toList := by simpa using hline
    exact ⟨hl.no_comment, Line.ofTrimmed_eq_other_or_brace hl.no_opening hl.no_closing hl.no_head⟩

/-- A line that includes a header is a directive of another word, whatever the header. -/
theorem idle_includeLine (header : String) : Idle ("#include <" ++ header ++ ">").toList := by
  have htrim : trim ("#include <" ++ header ++ ">").toList =
      '#' :: (("include <" ++ header).toList ++ ['>']) := by
    have hline : ("#include <" ++ header ++ ">").toList =
        '#' :: (("include <" ++ header).toList ++ ['>']) := by simp
    rw [hline]
    exact trim_between (by decide) (by decide) _
  have hkeyword : Line.IsKeyword "include" :=
    ⟨List.all_eq_true.mp (by decide), 'i', _, rfl, by decide⟩
  have hdirective : Line.directive? ('#' :: (("include <" ++ header).toList ++ ['>'])) =
      some "include" := by
    refine (Line.directive?_eq_some_iff hkeyword).mpr
      ⟨[], ' ' :: '<' :: (header.toList ++ ['>']), by simp, leaves_cons (by decide), ?_⟩
    simp
  rw [← htrim] at hdirective
  constructor
  · rw [htrim]
    rfl
  · left
    rw [Line.ofTrimmed, hdirective]
    rfl

/-- The lines that include headers are idle, whatever the headers are called. -/
theorem idle_includeLines : ∀ line ∈ l.includeLines.map String.toList, Idle line := by
  intro line hline
  obtain ⟨text, htext, rfl⟩ := List.mem_map.mp hline
  rcases mem_setOff htext with hgroup | rfl
  · obtain ⟨header, -, rfl⟩ := List.mem_map.mp hgroup
    exact idle_includeLine header
  · exact idle_nil

/-- The conditionals of a prelude pair up. -/
theorem reads_preludeLines (catalog : Catalog) (extension : Extension)
    (hbetween : i.current? = none) :
    Reads n ((preludeLines catalog extension).map String.toList) i i := by
  unfold preludeLines
  split
  · cases extension with
    | fp64 =>
      refine .cons (by decide) (by decide) (.opening hbetween) ?_
      refine .cons (by decide) (by decide) .other ?_
      refine .cons (by decide) (by decide) .other ?_
      refine .cons (by decide) (by decide) (.opening hbetween) ?_
      refine .cons (by decide) (by decide) .other ?_
      refine .cons (by decide) (by decide) (.closing hbetween rfl) ?_
      refine .cons (by decide) (by decide) .other ?_
      refine .cons (by decide) (by decide) (.closing hbetween rfl) ?_
      exact .cons (by decide) (by decide) .other (.nil _ _)
    | int64 =>
      refine .cons (by decide) (by decide) (.opening hbetween) ?_
      refine .cons (by decide) (by decide) .other ?_
      refine .cons (by decide) (by decide) (.closing hbetween rfl) ?_
      exact .cons (by decide) (by decide) .other (.nil _ _)
  · exact .nil n i

/-- A whole library is read as its definitions one after another. Nothing is known behind the
header, so it can be skipped. -/
theorem Unobtrusive.reads_text (hl : l.Unobtrusive) (catalog : Catalog)
    {definitions : List Definition} (hresults : ∀ d ∈ definitions, OneLine d.result.text)
    (hnodup : (definitions.map fun d => d.conversion.signature).Nodup) :
    Reads 1 (Text.lines (l.text catalog definitions).toList) start
      (definitions.foldl withDefinition start) := by
  obtain ⟨i, hrun, hopenings, hseen⟩ := hl.header
  obtain rfl := (consistent_start.of_run hrun).eq_start hopenings hseen
  have hheader : Reads 1 (Text.lines l.header.toList) start start := ⟨hrun, hl.header_closed⟩
  rw [lines_text (oneLine_lines hl.includes hl.decorations hresults)]
  refine hheader.append (.cons_idle idle_nil rfl ?_)
  rw [lines, List.map_append, List.map_append, List.map_append]
  refine .append (j := start) (.append (j := start) (.append (j := start) ?_ ?_) ?_) ?_
  · exact .of_idle idle_includeLines rfl
  · exact reads_preludeLines catalog .fp64 rfl
  · exact reads_preludeLines catalog .int64 rfl
  · exact reads_definitions hl.idle_decorationLines rfl rfl hnodup (by simp [start])

/-- A library in such surroundings passes its inspection, which counts all definitions. -/
theorem Unobtrusive.inspect_text (hl : l.Unobtrusive) (catalog : Catalog)
    {definitions : List Definition} (hresults : ∀ d ∈ definitions, OneLine d.result.text)
    (hnodup : (definitions.map fun d => d.conversion.signature).Nodup) :
    inspect (l.text catalog definitions) =
      .ok ⟨definitions.length, definitions.countP fun d => d.guard?.isSome⟩ := by
  have hrun : start.run (Line.numbered (l.text catalog definitions)) =
      .ok (definitions.foldl withDefinition start) :=
    (hl.reads_text catalog hresults hnodup).run
  have hfinish := finish_of_closed (openings_foldl_withDefinition definitions start)
  have hsummary := summary_foldl_withDefinition definitions start
  simp only [start, Nat.zero_add] at hsummary
  rw [← hsummary, inspect, hrun]
  exact hfinish

/-- The standard header is one comment. Its characters are put together from its lines, since to
take a long text apart is slow. -/
theorem number_standardHeaderLines :
    (∀ line ∈ standardHeaderLines.map String.toList, '\n' ∉ line) ∧
      Line.number 1 false (standardHeaderLines.map String.toList) = [] ∧
      Line.commentedAfter false (standardHeaderLines.map String.toList) = false := by
  unfold standardHeaderLines
  repeat rw [List.map_cons, String.toList_ofList]
  decide +kernel

/-- The standard surroundings keep out of the way. -/
theorem unobtrusive_standard : standard.Unobtrusive := by
  obtain ⟨honeLine, hnumber, hclosed⟩ := number_standardHeaderLines
  have hlines : Text.lines standard.header.toList = standardHeaderLines.map String.toList :=
    lines_joinLines fun line hline => honeLine _ (List.mem_map_of_mem hline)
  refine ⟨⟨start, ?_, rfl, rfl⟩, ?_, by decide, by decide, by decide, ?_, ?_, ?_⟩
  · rw [Line.numbered, hlines, hnumber]
    rfl
  · rw [hlines, hclosed]
  · intro h
    exact absurd (Line.ofTrimmed_eq_opening_iff.mpr h) (by decide)
  · intro h
    exact absurd (Line.ofTrimmed_eq_closing_iff.mpr h) (by decide)
  · intro name argument h
    have hother : Line.other = .signature name argument :=
      Line.ofTrimmed_eq_signature_iff.mpr h
    cases hother

end Layout

/-- Every library that a plan writes passes its own inspection, provided that its surroundings keep
out of the way and the stem of its intrinsics has no line feed. The signatures that the inspection
sees are those of the conversions of the plan, in order, and it counts all conversions and those
that are guarded. -/
theorem render_inspected {p : Plan} {l : Layout} {text : String}
    (hstem : OneLine p.intrinsics.stem) (hl : l.Unobtrusive) (h : p.render l = .ok text) :
    ∃ i, Inspection.start.run (Line.numbered text) = .ok i ∧
      i.seen.reverse = p.conversions.map Conversion.signature ∧
      inspect text = .ok ⟨p.conversions.length,
        p.conversions.countP fun c => (guard? c.source c.target).isSome⟩ := by
  obtain ⟨definitions, hdefinitions, rfl⟩ : ∃ definitions, p.definitions = .ok definitions ∧
      l.text p.catalog definitions = text := by
    unfold Plan.render at h
    cases hdefinitions : p.definitions with
    | error e => simp [hdefinitions, Except.map] at h
    | ok definitions => exact ⟨definitions, rfl, by simpa [hdefinitions, Except.map] using h⟩
  have hmap := Plan.map_conversion_definitions hdefinitions
  have hresults : ∀ d ∈ definitions, OneLine d.result.text := fun d hd =>
    (Plan.lowersTo_of_mem hdefinitions hd).oneLine hstem
  have hrun : Inspection.start.run (Line.numbered (l.text p.catalog definitions)) =
      .ok (definitions.foldl Inspection.withDefinition Inspection.start) :=
    (hl.reads_text p.catalog hresults (Plan.signatures_definitions_nodup hdefinitions)).run
  have hguarded : definitions.countP (fun d => d.guard?.isSome) =
      p.conversions.countP fun c => (guard? c.source c.target).isSome := by
    rw [← hmap, List.countP_map]
    refine List.countP_congr fun d hd => ?_
    rw [Plan.guard_of_mem hdefinitions hd]
    rfl
  refine ⟨_, hrun, ?_, ?_⟩
  · rw [Inspection.seen_foldl_withDefinition, ← hmap, List.map_map]
    simp [Inspection.start]
  · have hclosed := Inspection.openings_foldl_withDefinition definitions Inspection.start
    have hlength : definitions.length = p.conversions.length := by rw [← hmap, List.length_map]
    have hsummary : (definitions.foldl Inspection.withDefinition Inspection.start).summary =
        ⟨p.conversions.length,
          p.conversions.countP fun c => (guard? c.source c.target).isSome⟩ := by
      rw [Inspection.summary_foldl_withDefinition, hguarded, hlength]
      simp [Inspection.start]
    rw [inspect, hrun, ← hsummary]
    exact Inspection.finish_of_closed hclosed

/-- Surroundings that look like structure: a conditional inside a comment, one of its own, a brace
on a line of its own in the header and in front of every signature. The header ends inside a
line. -/
def crowdedLayout : Layout :=
  ⟨"/* #if\n*/ #if\n#if 1 /*\n\x7d\n# endif", ["#endif", "/*"], ["\x7d"]⟩

/-- A plan with guarded conversions and a stem of intrinsics that looks like structure. -/
def crowdedPlan : Plan :=
  ⟨⟨[.char, .long], by decide, by decide⟩,
    ⟨[.scalar, .two], by decide, by decide, by decide⟩, .of "x; \x7d /* #endif " [.scalar]⟩

/-- The crowded surroundings keep out of the way although they look like structure. -/
theorem unobtrusive_crowdedLayout : crowdedLayout.Unobtrusive where
  header := ⟨.start, by decide, rfl, rfl⟩
  header_closed := by decide
  includes := by decide
  decorations := by decide
  no_comment := by decide
  no_opening h := absurd (Line.ofTrimmed_eq_opening_iff.mpr h) (by decide)
  no_closing h := absurd (Line.ofTrimmed_eq_closing_iff.mpr h) (by decide)
  no_head name argument h := by
    have hbrace : Line.brace = .signature name argument := Line.ofTrimmed_eq_signature_iff.mpr h
    simp at hbrace

/-- In the crowded surroundings the inspection counts sixteen functions, twelve of them guarded. -/
theorem render_inspected_crowded :
    ∃ text, crowdedPlan.render crowdedLayout = .ok text ∧ inspect text = .ok ⟨16, 12⟩ := by
  obtain ⟨definitions, hdefinitions⟩ : ∃ definitions,
      crowdedPlan.definitions = .ok definitions := ⟨_, rfl⟩
  obtain ⟨text, h⟩ : ∃ text, crowdedPlan.render crowdedLayout = .ok text := by
    rw [Plan.render, hdefinitions]
    exact ⟨_, rfl⟩
  obtain ⟨-, -, -, hinspect⟩ := render_inspected (by decide) unobtrusive_crowdedLayout h
  exact ⟨text, h, hinspect⟩

end LaneConvert
