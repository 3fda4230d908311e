import LaneConvert.Proofs.Library.Grammar

/-!
# Libraries put together

An inspection keeps the numbers of lines for its reports and never looks at them. So lines under
other numbers are judged alike, and a report names a line by its other number. Behind an accepted
library that leaves neither a comment nor a function open, a second library is judged as if it stood
alone, as long as it brings no signature of the first: the counts add up, and a defect is reported
with its line counted from the beginning of the first.

A block comment on lines of its own says nothing about the library around it, whatever it holds. An
inspection passes over such a comment wherever it stands between two lines outside comments, also
inside a function. It is misled by one kind of comment only: one that goes on in further lines while
its first line already seems to end it, because the star that begins the comment is followed by a
slash. The lines below the first are then read as if they stood outside the comment.
-/

namespace LaneConvert

open Text

/-- A defect found under other line numbers. -/
def LibraryError.renumber (f : Nat → Nat) : LibraryError → LibraryError
  | unbalanced line fault => unbalanced (f line) fault
  | straddling signature line => straddling signature (f line)
  | noLowering c => noLowering c
  | missingWidth c width => missingWidth c width
  | repeatedSignature signature => repeatedSignature signature
  | wrongParts signature expected found => wrongParts signature expected found

namespace Inspection

/-- What is known about a library under other line numbers. -/
def renumber (f : Nat → Nat) (i : Inspection) : Inspection where
  openings := i.openings.map f
  seen := i.seen
  current? := i.current?.map (Prod.map id f)
  summary := i.summary

variable (f : Nat → Nat) (i : Inspection)

/-- Before the first line there is no number to change. -/
theorem renumber_start : start.renumber f = start := rfl

/-- A line under another number does the same. -/
theorem step_renumber (line : Nat × Line) :
    (i.renumber f).step (line.map f id) =
      ((i.step line).map (renumber f)).mapError (LibraryError.renumber f) := by
  obtain ⟨n, role⟩ := line
  cases role with
  | opening =>
    cases hcurrent : i.current? <;>
      simp [step, directive, renumber, hcurrent, Except.map, Except.mapError, LibraryError.renumber]
  | closing =>
    cases hcurrent : i.current? <;> cases hopenings : i.openings <;>
      simp [step, directive, renumber, hcurrent, hopenings, Except.map, Except.mapError,
        LibraryError.renumber]
  | signature name argument =>
    by_cases hseen : name ++ "(" ++ argument ++ ")" ∈ i.seen <;>
      simp [step, renumber, hseen, Except.map, Except.mapError, LibraryError.renumber]
  | brace => rfl
  | other => rfl

/-- A run over lines with other numbers ends as the run over the lines does, with the numbers
changed in its end. -/
theorem run_renumber (read : List (Nat × Line)) :
    (i.renumber f).run (read.map (Prod.map f id)) =
      ((i.run read).map (renumber f)).mapError (LibraryError.renumber f) := by
  induction read generalizing i with
  | nil => rfl
  | cons line rest ih =>
    rw [List.map_cons, run_cons, run_cons, step_renumber]
    cases i.step line with
    | error e => rfl
    | ok j => exact ih j

/-- A conditional that is left open is reported at the other number of its line. -/
theorem finish_renumber :
    (i.renumber f).finish = i.finish.mapError (LibraryError.renumber f) := by
  unfold finish renumber
  cases i.openings <;> rfl

end Inspection

open Inspection

/-- Texts whose lines differ in their numbers only are judged alike. -/
theorem inspect_of_renumbered {text text' : String} (f : Nat → Nat)
    (h : Line.numbered text' = (Line.numbered text).map (Prod.map f id)) :
    inspect text' = (inspect text).mapError (LibraryError.renumber f) := by
  rw [inspect, inspect, h, ← renumber_start f, run_renumber, renumber_start]
  cases start.run (Line.numbered text) with
  | error e => rfl
  | ok i => exact finish_renumber f i

/-- Counts are added one by one. -/
instance : Add Summary := ⟨fun a b => ⟨a.functions + b.functions, a.guarded + b.guarded⟩⟩

/-- One more function is counted alike in a part and in the whole. -/
theorem Summary.add_function (a b : Summary) (guarded : Nat) :
    a + ⟨b.functions + 1, b.guarded + guarded⟩ =
      ⟨(a + b).functions + 1, (a + b).guarded + guarded⟩ := by
  obtain ⟨functions, guards⟩ := a
  exact congrArg₂ Summary.mk (Nat.add_assoc _ _ _).symm (Nat.add_assoc _ _ _).symm

namespace Inspection

/-- What is known of a library when another library stands in front of it. -/
def behind (first i : Inspection) : Inspection where
  openings := i.openings
  seen := i.seen ++ first.seen
  current? := i.current?
  summary := first.summary + i.summary

/-- The signatures that a run has seen where it ends or stops at a defect. -/
def recorded (i : Inspection) : List (Nat × Line) → List String
  | [] => i.seen
  | line :: rest =>
    match i.step line with
    | .ok j => j.recorded rest
    | .error _ => i.seen

variable {first i j : Inspection} {line : Nat × Line} {read : List (Nat × Line)}

/-- The signatures that a run will have recorded are the same one line further on. -/
theorem recorded_cons_of_step (h : i.step line = .ok j) :
    i.recorded (line :: read) = j.recorded read := by
  rw [recorded, h]

/-- Signatures that have been seen are not forgotten. -/
theorem seen_subset_recorded : i.seen ⊆ i.recorded read := by
  induction read generalizing i with
  | nil => exact fun _ h => h
  | cons line rest ih =>
    cases hstep : i.step line with
    | error e =>
      rw [recorded, hstep]
      exact fun _ h => h
    | ok j =>
      obtain ⟨-, hseen, -⟩ := (step_eq_ok_iff.mp hstep).adds
      rw [recorded_cons_of_step hstep]
      refine fun signature h => ih ?_
      rw [hseen]
      exact List.mem_append_right _ h

/-- A library in front that brings none of the signatures changes nothing but the counts. What the
second library has brought already is refused behind both alike, and a new signature is kept in mind
afterwards, so the first library does not have it. -/
theorem step_behind (h : ∀ j, i.step line = .ok j → ∀ s ∈ j.seen, s ∉ first.seen) :
    (behind first i).step line = (i.step line).map (behind first) := by
  obtain ⟨n, role⟩ := line
  cases role with
  | opening => cases hcurrent : i.current? <;> simp [step, directive, behind, hcurrent, Except.map]
  | closing =>
    cases hcurrent : i.current? <;> cases hopenings : i.openings <;>
      simp [step, directive, behind, hcurrent, hopenings, Except.map]
  | signature name argument =>
    by_cases hseen : name ++ "(" ++ argument ++ ")" ∈ i.seen
    · simp [step, behind, hseen, Except.map]
    · have hnew : name ++ "(" ++ argument ++ ")" ∉ first.seen :=
        h _ (by simp only [step, if_neg hseen]; rfl) _ List.mem_cons_self
      simp [step, behind, hseen, hnew, Except.map, Summary.add_function]
  | brace => rfl
  | other => rfl

/-- Behind a first library a run ends as it does alone, as long as it brings no signature of the
first. -/
theorem run_behind (h : ∀ s ∈ i.recorded read, s ∉ first.seen) :
    (behind first i).run read = (i.run read).map (behind first) := by
  induction read generalizing i with
  | nil => rfl
  | cons line rest ih =>
    have hstep : ∀ j, i.step line = .ok j → ∀ s ∈ j.seen, s ∉ first.seen := by
      intro j hj s hs
      refine h s ?_
      rw [recorded_cons_of_step hj]
      exact seen_subset_recorded hs
    rw [run_cons, run_cons, step_behind hstep]
    cases hj : i.step line with
    | error e => rfl
    | ok j => exact ih fun s hs => h s (recorded_cons_of_step hj ▸ hs)

/-- The counts of the first library are added at the end. -/
theorem finish_behind (first i : Inspection) :
    (behind first i).finish = i.finish.map (first.summary + ·) := by
  unfold finish behind
  cases i.openings <;> rfl

/-- Outside conditionals and functions a run starts anew, but for the signatures and the counts. -/
theorem behind_start (hopenings : first.openings = []) (hbetween : first.current? = none) :
    behind first start = first := by
  obtain ⟨openings, seen, current?, summary⟩ := first
  subst hopenings hbetween
  rfl

/-- Outside conditionals and functions nothing is known of the numbers of lines. -/
theorem renumber_eq_self (f : Nat → Nat) (hopenings : i.openings = [])
    (hbetween : i.current? = none) : i.renumber f = i := by
  obtain ⟨openings, seen, current?, summary⟩ := i
  subst hopenings hbetween
  rfl

/-- Behind lines that left no conditional and no function open, other lines that bring none of the
signatures are read as they are on their own, further down. -/
theorem run_further_down (n : Nat) (hopenings : first.openings = [])
    (hbetween : first.current? = none) (hnew : ∀ s ∈ start.recorded read, s ∉ first.seen) :
    first.run (read.map (Prod.map (· + n) id)) =
      (((start.run read).map (behind first)).map (renumber (· + n))).mapError
        (LibraryError.renumber (· + n)) := by
  have hrenumbered := run_renumber (· + n) first read
  rw [renumber_eq_self _ hopenings hbetween] at hrenumbered
  rw [hrenumbered, ← run_behind hnew, behind_start hopenings hbetween]

end Inspection

/-- A library goes on behind an accepted one that ends outside comments and functions. If it brings
none of the signatures of the first, the counts add up, and its defect is reported with the line
counted from the beginning of the whole text. -/
theorem inspect_append {a b : String} {summary : Summary} {i : Inspection}
    (hends : EndsLine a.toList) (haccepted : inspect a = .ok summary)
    (houtside : Line.commentedAfter false (lines a.toList) = false)
    (hrun : start.run (Line.numbered a) = .ok i) (hbetween : i.current? = none)
    (hnew : ∀ signature ∈ start.recorded (Line.numbered b), signature ∉ i.seen) :
    (∀ counts, inspect b = .ok counts → inspect (a ++ b) = .ok (summary + counts)) ∧
      ∀ e, inspect b = .error e →
        inspect (a ++ b) = .error (e.renumber (· + (lines a.toList).length)) := by
  have hfinish : i.finish = .ok summary := by
    rw [inspect, hrun] at haccepted
    exact haccepted
  obtain ⟨hopenings, rfl⟩ := finish_eq_ok_iff.mp hfinish
  have hnumbered : Line.numbered (a ++ b) = Line.numbered a ++
      (Line.numbered b).map (Prod.map (· + (lines a.toList).length) id) := by
    rw [Line.numbered_append hends, houtside, Line.number_add]
    rfl
  have hwhole : inspect (a ++ b) = ((inspect b).map (i.summary + ·)).mapError
      (LibraryError.renumber (· + (lines a.toList).length)) := by
    have hbind : start.run (Line.numbered (a ++ b)) =
        i.run ((Line.numbered b).map (Prod.map (· + (lines a.toList).length) id)) := by
      rw [hnumbered, run_append, hrun]
      rfl
    rw [inspect, inspect, hbind, run_further_down _ hopenings hbetween hnew]
    cases start.run (Line.numbered b) with
    | error e => rfl
    | ok j =>
      refine (finish_renumber _ (behind i j)).trans ?_
      rw [finish_behind]
      rfl
  refine ⟨fun counts hb => ?_, fun e hb => ?_⟩
  · rw [hwhole, hb]
    rfl
  · rw [hwhole, hb]
    rfl

/-- A library with a function inside a conditional and a comment over two lines at its end. -/
def firstPart : String :=
  "#ifdef A\r\nint convert_int(float x)\r\n\x7b\r\n\x7d\r\n#endif\r\n/* #if\r\n#endif */\r\n"

/-- A library with two functions, one of them inside a conditional. -/
def secondPart : String :=
  "int convert_int(int x)\n\x7b\n\x7d\n#if A\nint convert_int(char x)\n\x7b\n\x7d\n#endif\n"

/-- A library with a directive inside its second function. -/
def faultyPart : String :=
  "int convert_int(int x)\n\x7b\n\x7d\n/* */\nint convert_int(char x)\n\x7b\n#if A\n"

/-- Two libraries with a function between conditionals are accepted one behind the other, and a
faulty second one is reported seven lines further down. -/
theorem inspect_append_parts :
    inspect firstPart = .ok ⟨1, 1⟩ ∧
      inspect secondPart = .ok ⟨2, 1⟩ ∧ inspect (firstPart ++ secondPart) = .ok ⟨3, 2⟩ ∧
      inspect faultyPart = .error (.straddling "convert_int(char)" 5) ∧
      inspect (firstPart ++ faultyPart) = .error (.straddling "convert_int(char)" 12) := by
  have hfirst : inspect firstPart = .ok ⟨1, 1⟩ := rfl
  have hsecond : inspect secondPart = .ok ⟨2, 1⟩ := rfl
  have hfaulty : inspect faultyPart = .error (.straddling "convert_int(char)" 5) := rfl
  have hends : EndsLine firstPart.toList := by
    intro c hc
    exact (Option.some.inj hc).symm
  have hboth := inspect_append (b := secondPart) hends hfirst rfl rfl rfl (by decide)
  have hfault := inspect_append (b := faultyPart) hends hfirst rfl rfl rfl (by decide)
  exact ⟨hfirst, hsecond, hboth.1 _ hsecond, hfaulty, hfault.2 _ hfaulty⟩

/-- A block comment that takes whole lines. -/
structure BlockComment where
  /-- What stands in front of the comment in its first line. -/
  indent : List Char
  /-- What the comment holds between the two characters at either end. -/
  inside : List Char
  /-- What stands behind the comment in its last line. -/
  trail : List Char
  /-- Whether a line feed ends the last line. The last line of a text needs none. -/
  terminated : Bool
  /-- There are only blanks in front of the comment. -/
  blank_indent : ∀ x ∈ indent, isBlank x = true ∧ x ≠ '\n'
  /-- There are only blanks behind the comment. -/
  blank_trail : ∀ x ∈ trail, isBlank x = true ∧ x ≠ '\n'
  /-- The end of the comment is the first one behind its beginning. -/
  first_end : ¬ ['*', '/'] <:+: inside ++ ['*']

namespace BlockComment

variable (c : BlockComment)

/-- A comment up to the two characters that end it. -/
def body : List Char := (c.indent ++ ['/']) ++ '*' :: c.inside

/-- The text of a comment, from the beginning of its first line to the end of its last line. -/
def text : String :=
  String.ofList (c.body ++ '*' :: '/' :: c.trail ++ if c.terminated then ['\n'] else [])

/-- The star that begins the comment and a slash behind it look like an end, and the comment goes on
in further lines. -/
def Misleads : Prop := c.inside.head? = some '/' ∧ '\n' ∈ c.inside

/-- Whether a comment misleads is decided by its inside. -/
instance : Decidable c.Misleads := inferInstanceAs (Decidable (_ ∧ _))

/-- The indentation of a comment holds blanks only. -/
theorem not_mem_indent {x : Char} (h : isBlank x = false) : x ∉ c.indent := by
  intro hx
  rw [(c.blank_indent x hx).1] at h
  cases h

/-- An end of a comment that begins behind some characters is found without them. -/
theorem infix_of_infix_append {x : Char} {part a b : List Char} (ha : x ∉ a)
    (h : x :: part <:+: a ++ b) : x :: part <:+: b := by
  induction a with
  | nil => exact h
  | cons y a ih =>
    rw [List.mem_cons, not_or] at ha
    rw [List.cons_append, List.infix_cons_iff] at h
    rcases h with hfirst | hlater
    · exact absurd (List.cons_prefix_cons.mp hfirst).1 ha.1
    · exact ih ha.2 hlater

/-- Nothing in front of its end looks like an end unless a slash follows the first star. -/
theorem not_infix_body (h : c.inside.head? ≠ some '/') : ¬ ['*', '/'] <:+: c.body := by
  intro hinfix
  have hindent : '*' ∉ c.indent ++ ['/'] := by
    rw [List.mem_append, not_or]
    exact ⟨c.not_mem_indent (by decide), by decide⟩
  rcases List.infix_cons_iff.mp (infix_of_infix_append hindent hinfix) with hfirst | hlater
  · obtain ⟨rest, hrest⟩ := (List.cons_prefix_cons.mp hfirst).2
    exact h (by rw [← hrest]; rfl)
  · exact c.first_end (hlater.trans (List.prefix_append _ _).isInfix)

/-- A line feed in the body of a comment is one inside the comment. -/
theorem mem_inside_of_mem_body (h : '\n' ∈ c.body) : '\n' ∈ c.inside := by
  have hindent : '\n' ∉ c.indent := fun hx => (c.blank_indent _ hx).2 rfl
  simpa [body, hindent] using h

/-- The last line of a comment holds its end, and what stands above it belongs to the body. -/
theorem exists_lines : ∃ above last, c.body = above ++ last ∧ EndsLine above ∧
    Text.lines c.text.toList = Text.lines above ++ [last ++ '*' :: '/' :: c.trail] := by
  obtain ⟨above, last, hbody, hends, hlast⟩ := exists_lastLine c.body
  refine ⟨above, last, hbody, hends, ?_⟩
  have htrail : '\n' ∉ c.trail := fun hx => (c.blank_trail _ hx).2 rfl
  have hline : '\n' ∉ last ++ '*' :: '/' :: c.trail := by simp [hlast, htrail]
  rw [text, String.toList_ofList, hbody, List.append_assoc, List.append_assoc,
    lines_append_of_endsLine hends, ← List.append_assoc]
  congr 1
  cases c.terminated with
  | false => simpa using lines_of_oneLine (by simp) hline
  | true => exact lines_append_lineFeed hline []

/-- The lines of a comment begin with a comment. -/
theorem startWithComment : Line.StartWithComment (Text.lines c.text.toList) := by
  have hne : c.indent ++ ['/', '*'] ≠ [] := by simp
  have hindent : '\n' ∉ c.indent ++ ['/', '*'] := by
    rw [List.mem_append, not_or]
    exact ⟨fun hx => (c.blank_indent _ hx).2 rfl, by decide⟩
  obtain ⟨rest, htext⟩ : ∃ rest, c.text.toList = (c.indent ++ ['/', '*']) ++ rest :=
    ⟨c.inside ++ '*' :: '/' :: c.trail ++ if c.terminated then ['\n'] else [],
      by simp [text, body]⟩
  refine ⟨_, _, by rw [htext, lines_append_of_oneLine hne hindent], ?_⟩
  have hblank : trimStart c.indent = [] := by
    simpa [trimStart] using fun x hx => (c.blank_indent x hx).1
  have hfirst : Leaves isBlank ['/', '*'] := leaves_cons (by decide)
  have hlast : Leaves isBlank ['/', '*'].reverse := leaves_cons (by decide)
  rw [List.append_assoc, trim_around _ _ (by simp) hfirst hlast, hblank]
  rfl

/-- A comment that does not mislead is passed over with all of its lines. Where there is a line
above its last one the comment takes several, so its first line does not seem to end it. -/
theorem number_lines (h : ¬ c.Misleads) (n : Nat) (below : List (List Char)) :
    Line.number n false (Text.lines c.text.toList ++ below) =
      Line.number (n + (Text.lines c.text.toList).length) false below := by
  obtain ⟨above, last, hbody, hends, hlines⟩ := c.exists_lines
  have hlasts : ∀ line ∈ Text.lines above, Line.endsComment (trim line) = false := by
    intro line hline
    rw [← Bool.not_eq_true, Line.endsComment, contains_iff]
    intro hend
    have habove : ['*', '/'] <:+: above :=
      (hend.trans (infix_of_trim line)).trans (infix_of_mem_lines hline)
    have hseveral : '\n' ∈ c.inside := by
      refine c.mem_inside_of_mem_body ?_
      rw [hbody]
      cases habove' : above.getLast? with
      | none =>
        rw [List.getLast?_eq_none_iff.mp habove'] at hline
        cases hline
      | some x => exact List.mem_append_left _ (hends x habove' ▸ List.mem_of_getLast? habove')
    refine c.not_infix_body (fun hslash => h ⟨hslash, hseveral⟩) ?_
    exact hbody ▸ habove.trans (List.prefix_append above last).isInfix
  have hlast : Line.endsComment (trim (last ++ '*' :: '/' :: c.trail)) = true := by
    rw [Line.endsComment, contains_iff]
    have hfirst : Leaves isBlank ['*', '/'] := leaves_cons (by decide)
    have hlast : Leaves isBlank ['*', '/'].reverse := leaves_cons (by decide)
    have htrim := trim_around last c.trail (by simp) hfirst hlast
    exact ⟨trimStart last, (trimStart c.trail.reverse).reverse, by simpa using htrim.symm⟩
  have hstarts := c.startWithComment
  rw [hlines] at hstarts ⊢
  rw [List.append_assoc, List.singleton_append, Line.number_comment hstarts hlasts hlast,
    List.length_append, List.length_singleton]

/-- A comment that ends its line keeps its lines to itself. -/
theorem lines_text_append {b : String} (h : c.terminated = true ∨ b = "") :
    Text.lines (c.text ++ b).toList = Text.lines c.text.toList ++ Text.lines b.toList := by
  rcases h with hterminated | rfl
  · rw [String.toList_append]
    refine lines_append_of_endsLine ?_ _
    intro x hx
    rw [text, String.toList_ofList, hterminated, if_pos rfl, List.getLast?_concat] at hx
    exact (Option.some.inj hx).symm
  · simp [Text.lines]

/-- Lines that are put behind the first `above` lines of a text move those below them. -/
def moved (above count n : Nat) : Nat := if n ≤ above then n else n + count

variable {above count : Nat} {read : List (Nat × Line)}

/-- Lines above the place where something is put in keep their numbers. -/
theorem map_moved_above (h : ∀ line ∈ read, line.1 ≤ above) :
    read.map (Prod.map (moved above count) id) = read := by
  have hsame : ∀ line ∈ read, Prod.map (moved above count) id line = id line := by
    intro line hline
    simp [moved, Prod.map, h line hline]
  rw [List.map_congr_left hsame, List.map_id]

/-- Lines below the place where something is put in move down by as many lines. -/
theorem map_moved_below (h : ∀ line ∈ read, above < line.1) :
    read.map (Prod.map (moved above count) id) = read.map (Prod.map (· + count) id) := by
  refine List.map_congr_left fun line hline => ?_
  simp [moved, Prod.map, Nat.not_le.mpr (h line hline)]

/-- A comment between two lines moves the lines below it and changes nothing else. -/
theorem numbered_insert {a b : String} {c : BlockComment} (hends : EndsLine a.toList)
    (houtside : Line.commentedAfter false (lines a.toList) = false)
    (hwhole : c.terminated = true ∨ b = "") (hclear : ¬ c.Misleads) :
    Line.numbered (a ++ (c.text ++ b)) = (Line.numbered (a ++ b)).map
      (Prod.map (moved (lines a.toList).length (lines c.text.toList).length) id) := by
  have habove : ∀ line ∈ Line.numbered a, line.1 ≤ (lines a.toList).length := by
    rintro ⟨n, role⟩ hline
    obtain ⟨hn, text, htext, -⟩ := Line.mem_number hline
    have hlt := (List.getElem?_eq_some_iff.mp htext).1
    omega
  have hbelow : ∀ line ∈ Line.number (1 + (lines a.toList).length) false (lines b.toList),
      (lines a.toList).length < line.1 := by
    rintro ⟨n, role⟩ hline
    have hn := (Line.mem_number hline).1
    omega
  rw [Line.numbered_append hends, Line.numbered_append hends, houtside, c.lines_text_append hwhole,
    c.number_lines hclear, Line.number_add, List.map_append, map_moved_above habove,
    map_moved_below hbelow]

end BlockComment

open BlockComment

/-- A comment that does not mislead may be put between any two lines outside comments. An accepted
library is then accepted with the same counts, whatever the comment holds, and the defect of another
one is reported as before, with the lines behind the comment counted further down. -/
theorem inspect_insert_comment {a b : String} {c : BlockComment} (hends : EndsLine a.toList)
    (houtside : Line.commentedAfter false (lines a.toList) = false)
    (hwhole : c.terminated = true ∨ b = "") (hclear : ¬ c.Misleads) :
    (∀ summary, inspect (a ++ b) = .ok summary → inspect (a ++ (c.text ++ b)) = .ok summary) ∧
      ∀ e, inspect (a ++ b) = .error e → inspect (a ++ (c.text ++ b)) =
        .error (e.renumber (moved (lines a.toList).length (lines c.text.toList).length)) := by
  have hrenumbered := inspect_of_renumbered _ (numbered_insert hends houtside hwhole hclear)
  refine ⟨fun summary h => ?_, fun e h => ?_⟩
  · rw [hrenumbered, h]
    rfl
  · rw [hrenumbered, h]
    rfl

/-- A comment over several lines with a directive, a brace and the head of a function in it. -/
def crowdedComment : BlockComment where
  indent := [' ', '\t']
  inside := "* #endif\n\x7d\nint convert_int(float x)\n/* #if ".toList
  trail := [' ', '\r']
  terminated := true
  blank_indent := by simp [isBlank]
  blank_trail := by simp [isBlank]
  first_end := by decide

/-- The beginning of a library up to the head of a function. -/
def headPart : String := "#ifdef A\nint convert_int(float x)\n"

/-- A comment of several lines that is full of structure changes no count, and moves a defect down
by its lines. -/
theorem inspect_insert_crowdedComment :
    crowdedComment.text =
        " \t/** #endif\n\x7d\nint convert_int(float x)\n/* #if */ \r\n" ∧
      inspect (headPart ++ "\x7b\n\x7d\n#endif\n") = .ok ⟨1, 1⟩ ∧
      inspect (headPart ++ (crowdedComment.text ++ "\x7b\n\x7d\n#endif\n")) = .ok ⟨1, 1⟩ ∧
      inspect (headPart ++ "\x7d\n#endif\n#endif\n") = .error (.unbalanced 5 .strayClosing) ∧
      inspect (headPart ++ (crowdedComment.text ++ "\x7d\n#endif\n#endif\n")) =
        .error (.unbalanced 9 .strayClosing) := by
  have hends : EndsLine headPart.toList := by
    intro x hx
    exact (Option.some.inj hx).symm
  have haccepted : inspect (headPart ++ "\x7b\n\x7d\n#endif\n") = .ok ⟨1, 1⟩ := rfl
  have hrefused : inspect (headPart ++ "\x7d\n#endif\n#endif\n") =
      .error (.unbalanced 5 .strayClosing) := rfl
  have hclear : ¬ crowdedComment.Misleads := by decide
  refine ⟨rfl, haccepted, ?_, hrefused, ?_⟩
  · exact (inspect_insert_comment hends rfl (.inl rfl) hclear).1 _ haccepted
  · exact (inspect_insert_comment hends rfl (.inl rfl) hclear).2 _ hrefused

/-- A comment whose first line seems to end it. -/
def misleadingComment : BlockComment where
  indent := []
  inside := "/\n#endif\n".toList
  trail := []
  terminated := true
  blank_indent := by simp
  blank_trail := by simp
  first_end := by decide

/-- A library of one function. -/
def plainLibrary : String := "int convert_int(float x)\n\x7b\n\x7d\n"

/-- What a comment holds is read as a directive, and a library that is in order is refused. -/
theorem misleading_comment_read :
    misleadingComment.text = "/*/\n#endif\n*/\n" ∧ inspect plainLibrary = .ok ⟨1, 0⟩ ∧
      inspect ("" ++ (misleadingComment.text ++ plainLibrary)) =
        .error (.unbalanced 2 .strayClosing) :=
  ⟨rfl, rfl, rfl⟩

end LaneConvert
