import LaneConvert.Proofs.Library.Grammar
import LaneConvert.Proofs.Library.Acceptance

/-!
# What an accepted library shows

Behind the head of a function an accepted library has lines without a role, and then a brace, the
head of another function or nothing at all. So no conditional opens or closes before the function
has ended. That every function ends is not said: a library may stop inside a function, go on with
the next head, or change to the other branch of a conditional, and is accepted all the same.

The inspection of a written library passes over comments, and the text around the definitions is not
checked. As long as the header leaves no comment open and no line behind it opens one that goes on,
the head of every definition stands outside comments, so an accepted library shows all of its
functions. A header that leaves its comment open hides every one of them, and the library is
accepted with no function at all.
-/

namespace LaneConvert

namespace Line

variable {before after inside : List Line} {name argument : String}

/-- Behind a head and lines that begin or end nothing, the head is the last mark. -/
theorem lastMark?_behind_head (h : ∀ line ∈ inside, line.isMark = false) :
    lastMark? (before ++ signature name argument :: inside) = some (signature name argument) := by
  have hinside : inside.filter isMark = [] := List.filter_eq_nil_iff.mpr (by simpa using h)
  rw [lastMark?, List.filter_append, List.filter_cons_of_pos (by rfl), hinside,
    List.getLast?_concat]

/-- Among orderly lines, the first line with a role behind a head is no directive. -/
theorem Orderly.next_of_head {next : Line}
    (h : Orderly (before ++ signature name argument :: (inside ++ next :: after)))
    (hinside : ∀ line ∈ inside, line = other) (hnext : next ≠ other) :
    next = brace ∨ ∃ name argument, next = signature name argument := by
  have hunmarked : ∀ line ∈ inside, line.isMark = false := by
    intro line hline
    rw [hinside line hline]
    rfl
  have hapart : next.isDirective = true → signature name argument = brace := by
    intro hdirective
    exact h.apart (before ++ signature name argument :: inside) next after (by simp) hdirective _
      (lastMark?_behind_head hunmarked)
  cases next with
  | opening => cases hapart rfl
  | closing => cases hapart rfl
  | signature name argument => exact .inr ⟨name, argument, rfl⟩
  | brace => exact .inl rfl
  | other => exact absurd rfl hnext

end Line

open Line Text

/-- Whatever is accepted, behind the head of a function there are only lines without a role, until a
brace, the next head or the end of the library. No conditional opens or closes in between. -/
theorem only_others_behind_head {text : String} {summary : Summary}
    {before after : List (Nat × Line)} {n : Nat} {name argument : String}
    (h : inspect text = .ok summary)
    (hread : Reading 1 (Text.lines text.toList)
      (before ++ (n, .signature name argument) :: after)) :
    ∃ inside rest, after = inside ++ rest ∧ (∀ line ∈ inside, line.2 = .other) ∧
      ∀ next ∈ rest.head?, next.2 = .brace ∨
        ∃ name argument, next.2 = .signature name argument := by
  have horderly := ((inspect_iff hread).mp h).1.toOrderly
  have hsplit := List.takeWhile_append_dropWhile (p := fun line => decide (line.2 = .other))
    (l := after)
  have hinside : ∀ line ∈ after.takeWhile (fun line => decide (line.2 = .other)),
      line.2 = .other := by
    intro line hline
    simpa using List.mem_takeWhile_imp hline
  refine ⟨_, _, hsplit.symm, hinside, ?_⟩
  intro next hnext
  have hrole : next.2 ≠ .other := by
    have hleaves := List.head?_dropWhile_not (fun line => decide (line.2 = .other)) after
    rw [Option.mem_def.mp hnext] at hleaves
    simpa using hleaves
  obtain ⟨rest, hrest⟩ := List.head?_eq_some_iff.mp (Option.mem_def.mp hnext)
  rw [← hsplit, hrest, List.map_append, List.map_cons, List.map_append, List.map_cons] at horderly
  refine horderly.next_of_head ?_ hrole
  intro line hline
  obtain ⟨numbered, hnumbered, rfl⟩ := List.mem_map.mp hline
  exact hinside numbered hnumbered

/-- A library with two functions, one of them inside a conditional and with a comment behind its
head. -/
def orderlyLibrary : String :=
  "#ifdef A\nint convert_int(float x)\n/* #endif */\n\x7b\n\x7d\n#endif\n" ++
    "int convert_int(int x)\n\x7b\n\x7d\n"

/-- In a library in order, a line without a role and then a brace follow the head of the guarded
function, before the conditional closes. -/
theorem only_others_behind_head_orderly :
    let after : List (Nat × Line) := [(4, .other), (5, .brace), (6, .closing),
      (7, .signature "convert_int" "int"), (8, .other), (9, .brace)]
    inspect orderlyLibrary = .ok ⟨2, 1⟩ ∧
      Reading 1 (Text.lines orderlyLibrary.toList)
        ([(1, .opening)] ++ (2, .signature "convert_int" "float") :: after) ∧
      ∃ inside rest, after = inside ++ rest ∧ (∀ line ∈ inside, line.2 = .other) ∧
        ∀ next ∈ rest.head?, next.2 = .brace ∨
          ∃ name argument, next.2 = .signature name argument := by
  intro after
  have haccepted : inspect orderlyLibrary = .ok ⟨2, 1⟩ := rfl
  have hread : Reading 1 (Text.lines orderlyLibrary.toList)
      ([(1, .opening)] ++ (2, .signature "convert_int" "float") :: after) := reading_iff.mpr rfl
  exact ⟨haccepted, hread, only_others_behind_head haccepted hread⟩

/-- A library that stops inside a function. -/
def truncatedLibrary : String := "int convert_int(float x)\n\x7b\n"

/-- A library in which a function begins inside another one. -/
def overlappingLibrary : String :=
  "int convert_int(float x)\n\x7b\nint convert_int(char x)\n\x7b\n\x7d\n"

/-- A library in which a function begins in one branch of a conditional and ends in the other. -/
def branchingLibrary : String := "#ifdef A\nint convert_int(float x)\n\x7b\n#else\n\x7d\n#endif\n"

/-- Libraries with functions that do not end, or that a conditional cuts through, are accepted. -/
theorem unfinished_functions_accepted :
    (inspect truncatedLibrary = .ok ⟨1, 0⟩ ∧
      Line.numbered truncatedLibrary = [(1, .signature "convert_int" "float"), (2, .other)]) ∧
    (inspect overlappingLibrary = .ok ⟨2, 0⟩ ∧
      Line.numbered overlappingLibrary = [(1, .signature "convert_int" "float"), (2, .other),
        (3, .signature "convert_int" "char"), (4, .other), (5, .brace)]) ∧
    (inspect branchingLibrary = .ok ⟨1, 1⟩ ∧
      Line.numbered branchingLibrary = [(1, .opening), (2, .signature "convert_int" "float"),
        (3, .other), (4, .other), (5, .brace), (6, .closing)] ∧
      (Text.lines branchingLibrary.toList)[3]? = some "#else".toList ∧
      Line.IsDirective "else" "#else".toList) := by
  refine ⟨⟨rfl, rfl⟩, ⟨rfl, rfl⟩, rfl, rfl, rfl, ?_⟩
  exact ⟨[], [], by simp, Text.leaves_nil _, by simp⟩

namespace Line

/-- Every comment that starts in one of the lines ends in the same line. -/
def EndComments (lines : List (List Char)) : Prop :=
  ∀ line ∈ lines, startsComment (trim line) = true → endsComment (trim line) = true

/-- Among lines that end their comments, whatever starts no comment has its role. -/
theorem mem_number_of_endComments {n : Nat} {lines : List (List Char)} {line : List Char}
    (h : EndComments lines) (hline : line ∈ lines) (houtside : startsComment (trim line) = false) :
    ∃ k, (k, ofTrimmed (trim line)) ∈ number n false lines := by
  induction lines generalizing n with
  | nil => simp at hline
  | cons first rest ih =>
    obtain ⟨hfirst, hrest⟩ := List.forall_mem_cons.mp h
    have hgoesOn : number n false (first :: rest) =
        (if startsComment (trim first) then [] else [(n, ofTrimmed (trim first))]) ++
          number (n + 1) false rest := by
      cases hstarts : startsComment (trim first) with
      | true => simp [number, hstarts, hfirst hstarts]
      | false => simp [number, hstarts]
    rw [hgoesOn]
    rcases List.mem_cons.mp hline with rfl | hline
    · exact ⟨n, by simp [houtside]⟩
    · obtain ⟨k, hk⟩ := ih hrest hline
      exact ⟨k, List.mem_append_right _ hk⟩

end Line

/-- The head of a definition is one of its lines. -/
theorem Definition.signatureLine_mem_lines (d : Definition) (decorations : List String) :
    d.signatureLine ∈ d.lines decorations := by
  have hbody : d.signatureLine ∈ d.bodyLines decorations := by simp [bodyLines]
  unfold lines
  split
  · exact hbody
  · exact List.mem_append_left _ (List.mem_cons_of_mem _ hbody)

namespace Layout

variable {l : Layout} {catalog : Catalog} {definitions : List Definition}

/-- The head of every definition is a line behind the header, whatever stands around it. -/
theorem signatureLine_mem_behindHeader {d : Definition} (hd : d ∈ definitions) :
    d.signatureLine.toList ∈ Text.lines (l.behindHeader catalog definitions).toList := by
  have hmem : d.signatureLine ∈ "" :: l.lines catalog definitions := by
    refine List.mem_cons_of_mem _ (List.mem_append_right _ ?_)
    exact List.mem_flatMap.mpr ⟨d, hd, d.signatureLine_mem_lines _⟩
  have hbehind : l.behindHeader catalog definitions =
      joinLines ("" :: l.lines catalog definitions) := by
    simp [behindHeader, joinLines]
  rw [hbehind]
  exact mem_lines_joinLines hmem d.oneLine_signatureLine

/-- The lines behind the header are read on their own if the header leaves no comment open. -/
theorem numbered_text (hheader : Line.commentedAfter false (Text.lines l.header.toList) = false) :
    Line.numbered (l.text catalog definitions) =
      Line.numbered l.header ++ Line.number (1 + (Text.lines l.header.toList).length) false
        (Text.lines (l.behindHeader catalog definitions).toList) := by
  obtain ⟨hends, hlines⟩ := l.headerText_spec
  rw [text_eq, Line.numbered_append hends, Line.numbered, hlines, hheader]
  rfl

end Layout

/-- An accepted library was read to its end. -/
theorem exists_run_of_inspect {text : String} {summary : Summary} (h : inspect text = .ok summary) :
    ∃ i, Inspection.start.run (Line.numbered text) = .ok i ∧ summary = i.summary := by
  unfold inspect at h
  cases hrun : Inspection.start.run (Line.numbered text) with
  | error e =>
    rw [hrun] at h
    cases h
  | ok i =>
    rw [hrun] at h
    exact ⟨i, rfl, (Inspection.finish_eq_ok_iff.mp h).2⟩

/-- A signature that is read is kept in mind. -/
theorem Inspection.mem_seen {read : List (Nat × Line)} {i : Inspection} {k : Nat}
    {name argument : String} (hrun : start.run read = .ok i)
    (hread : (k, .signature name argument) ∈ read) : name ++ "(" ++ argument ++ ")" ∈ i.seen := by
  have hhead : (name, argument) ∈ Line.heads (read.map Prod.snd) := by
    refine List.mem_filterMap.mpr ⟨.signature name argument, ?_, rfl⟩
    exact List.mem_map.mpr ⟨_, hread, rfl⟩
  rw [(follows_of_run hrun).seen, List.mem_reverse]
  exact List.mem_map.mpr ⟨_, hhead, rfl⟩

/-- An accepted library shows all of its functions, provided that its header leaves no comment open
and every comment that starts behind the header ends in its line. Signatures are distinct, so the
inspection keeps as many in mind as there are conversions. -/
theorem definitions_seen {p : Plan} {l : Layout} {text : String} {summary : Summary}
    (hrender : p.render l = .ok text) (hinspect : inspect text = .ok summary)
    (hheader : Line.commentedAfter false (Text.lines l.header.toList) = false)
    (hbehind : ∀ definitions, p.definitions = .ok definitions →
      Line.EndComments (Text.lines (l.behindHeader p.catalog definitions).toList)) :
    ∃ i, Inspection.start.run (Line.numbered text) = .ok i ∧
      (∀ c ∈ p.conversions, c.signature ∈ i.seen) ∧
      p.conversions.length ≤ summary.functions := by
  obtain ⟨definitions, hdefinitions, rfl⟩ := Plan.render_eq_ok_iff.mp hrender
  obtain ⟨i, hrun, hsummary⟩ := exists_run_of_inspect hinspect
  have hseen : ∀ c ∈ p.conversions, c.signature ∈ i.seen := by
    intro c hc
    obtain ⟨d, hd, rfl⟩ := Plan.exists_definition_of_mem hdefinitions hc
    obtain ⟨houtside, hrole⟩ := d.role_signatureLine
    obtain ⟨k, hk⟩ := Line.mem_number_of_endComments (hbehind definitions hdefinitions)
      (Layout.signatureLine_mem_behindHeader hd) houtside
    rw [hrole] at hk
    refine Inspection.mem_seen (k := k) hrun ?_
    rw [Layout.numbered_text hheader]
    exact List.mem_append_right _ hk
  refine ⟨i, hrun, hseen, ?_⟩
  have hsubset : p.conversions.map Conversion.signature ⊆ i.seen := by
    intro signature hsignature
    obtain ⟨c, hc, rfl⟩ := List.mem_map.mp hsignature
    exact hseen c hc
  have hlength := ((signatures_nodup p.catalog p.table).subperm hsubset).length_le
  rw [List.length_map] at hlength
  rw [hsummary, (Inspection.consistent_start.of_run hrun).functions]
  exact hlength

/-- A plan for a library of two functions. -/
def smallPlan : Plan :=
  ⟨⟨[.int], by decide, by decide⟩, ⟨[.scalar], by decide, by decide, by decide⟩, .standard⟩

/-- Surroundings with comments that end: over two lines in the header, and in front of every
signature. -/
def commentedLayout : Layout :=
  ⟨"/* Conversions of one type. #if\n   #endif */ int convert_int(int x)", ["/*"], ["/* inline */"]⟩

/-- A header and decorations that hold whole comments hide none of the two functions. -/
theorem definitions_seen_commented :
    ∃ text i, smallPlan.render commentedLayout = .ok text ∧ inspect text = .ok ⟨2, 0⟩ ∧
      Inspection.start.run (Line.numbered text) = .ok i ∧
      (∀ c ∈ smallPlan.conversions, c.signature ∈ i.seen) ∧ smallPlan.conversions.length ≤ 2 := by
  obtain ⟨definitions, hdefinitions, hinspect, hbehind⟩ : ∃ definitions,
      smallPlan.definitions = .ok definitions ∧
      inspect (commentedLayout.text smallPlan.catalog definitions) = .ok ⟨2, 0⟩ ∧
      Line.EndComments
        (Text.lines (commentedLayout.behindHeader smallPlan.catalog definitions).toList) := by
    refine ⟨_, rfl, ?_, ?_⟩
    · decide +kernel
    · unfold Line.EndComments
      decide +kernel
  have hrender : smallPlan.render commentedLayout =
      .ok (commentedLayout.text smallPlan.catalog definitions) :=
    Plan.render_eq_ok_iff.mpr ⟨definitions, hdefinitions, rfl⟩
  obtain ⟨i, hrun, hseen, hcount⟩ := definitions_seen hrender hinspect (by decide) (by
    intro definitions' hdefinitions'
    obtain rfl := Except.ok.inj (hdefinitions.symm.trans hdefinitions')
    exact hbehind)
  exact ⟨_, i, hrender, hinspect, hrun, hseen, hcount⟩

/-- A header that leaves its comment open hides whatever does not end it. -/
theorem Layout.inspect_text_of_open_header {l : Layout} {catalog : Catalog}
    {definitions : List Definition}
    (hheader : Line.commentedAfter false (Text.lines l.header.toList) = true)
    (hbehind : ∀ line ∈ Text.lines (l.behindHeader catalog definitions).toList,
      Line.endsComment (trim line) = false) :
    inspect (l.text catalog definitions) = inspect l.header := by
  obtain ⟨hends, hlines⟩ := l.headerText_spec
  have hhidden : ∀ n, Line.number n true
      (Text.lines (l.behindHeader catalog definitions).toList ++ []) = [] :=
    fun n => Line.number_inside hbehind
  have hnumbered : Line.numbered (l.text catalog definitions) = Line.numbered l.header := by
    rw [text_eq, Line.numbered_append hends, Line.numbered, hlines, hheader,
      ← List.append_nil (Text.lines (behindHeader _ _ _).toList), hhidden, List.append_nil]
    rfl
  rw [inspect, hnumbered, inspect]

/-- Surroundings with a header that forgets to end its comment. -/
def openLayout : Layout := ⟨"/* Conversions of one type.\n", ["clc/clc.h"], ["inline"]⟩

/-- A library of two functions is accepted although the inspection counts none of them. -/
theorem hidden_definitions_accepted :
    ∃ text, smallPlan.render openLayout = .ok text ∧ inspect text = .ok ⟨0, 0⟩ ∧
      smallPlan.conversions.length = 2 := by
  obtain ⟨definitions, hdefinitions, hbehind⟩ : ∃ definitions,
      smallPlan.definitions = .ok definitions ∧
      ∀ line ∈ Text.lines (openLayout.behindHeader smallPlan.catalog definitions).toList,
        Line.endsComment (trim line) = false := by
    refine ⟨_, rfl, ?_⟩
    decide +kernel
  refine ⟨_, Plan.render_eq_ok_iff.mpr ⟨definitions, hdefinitions, rfl⟩, ?_, rfl⟩
  rw [Layout.inspect_text_of_open_header (by decide) hbehind]
  rfl

end LaneConvert
