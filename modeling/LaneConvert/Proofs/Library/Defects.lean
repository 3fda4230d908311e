import LaneConvert.Proofs.Library.Grammar

/-!
# The defect that is reported

An inspection that refuses a library names one defect and one place. What it names is said here of
the lines alone: the first line that may not go on behind the lines above it, or, if every line may,
the last conditional that nothing closes. Of the conditionals that are open an inspection keeps the
line numbers only; what these say about the lines is an invariant of its moves: between two openings
that are kept, and behind the last one, conditionals balance.
-/

namespace LaneConvert

open Text

namespace Line

/-- Up to some line more conditionals are closed than opened, so that one of those above is closed,
if there is any. -/
def Closes (roles : List Line) : Prop :=
  ∃ before, before <+: roles ∧ before.count opening < before.count closing

/-- Every conditional that opens is closed, and no other. -/
structure Balanced (roles : List Line) : Prop where
  /-- No conditional from above is closed. -/
  nested : ¬ Closes roles
  /-- As many are closed as are opened. -/
  even : roles.count closing = roles.count opening

variable {a b roles : List Line} {line : Line}

/-- Two stretches of roles close more than they open at some point exactly if the first does, or if
the second does on top of all of the first. -/
theorem closes_append :
    Closes (a ++ b) ↔ Closes a ∨ ∃ before, before <+: b ∧
      a.count opening + before.count opening < a.count closing + before.count closing := by
  constructor
  · rintro ⟨before, hprefix, hcount⟩
    rcases List.prefix_or_prefix_of_prefix hprefix (List.prefix_append a b) with hshort | hlong
    · exact .inl ⟨before, hshort, hcount⟩
    · obtain ⟨more, rfl⟩ := hlong
      rw [List.count_append, List.count_append] at hcount
      exact .inr ⟨more, (List.prefix_append_right_inj a).mp hprefix, hcount⟩
  · rintro (⟨before, hprefix, hcount⟩ | ⟨before, hprefix, hcount⟩)
    · exact ⟨before, hprefix.trans (List.prefix_append a b), hcount⟩
    · refine ⟨a ++ before, (List.prefix_append_right_inj a).mpr hprefix, ?_⟩
      rwa [List.count_append, List.count_append]

/-- A stretch that closes more conditionals than it opens does so at its end. -/
theorem closes_of_count (h : roles.count opening < roles.count closing) : Closes roles :=
  ⟨roles, List.prefix_refl roles, h⟩

/-- Where there is no role nothing is closed. -/
theorem not_closes_nil : ¬ Closes [] := by
  rintro ⟨before, hprefix, hcount⟩
  rw [List.prefix_nil.mp hprefix] at hcount
  simp at hcount

/-- One role alone closes a conditional only if it says so. -/
theorem closes_singleton_iff : Closes [line] ↔ line = closing := by
  constructor
  · rintro ⟨before, hprefix, hcount⟩
    rcases List.prefix_cons_iff.mp hprefix with rfl | ⟨rest, rfl, hrest⟩
    · simp at hcount
    · rw [List.prefix_nil.mp hrest] at hcount
      cases line <;> simp at hcount ⊢
  · rintro rfl
    exact closes_of_count (by decide)

/-- No roles at all are balanced. -/
theorem balanced_nil : Balanced [] := ⟨not_closes_nil, rfl⟩

/-- A role that is no directive is balanced. -/
theorem balanced_singleton (h : line.isDirective = false) : Balanced [line] := by
  cases line with
  | opening => cases h
  | closing => cases h
  | signature name argument => exact ⟨by simp [closes_singleton_iff], by simp⟩
  | brace => exact ⟨by simp [closes_singleton_iff], by simp⟩
  | other => exact ⟨by simp [closes_singleton_iff], by simp⟩

/-- Balanced stretches are balanced one after another. -/
theorem Balanced.append (ha : Balanced a) (hb : Balanced b) : Balanced (a ++ b) := by
  refine ⟨?_, by rw [List.count_append, List.count_append, ha.even, hb.even]⟩
  rw [closes_append]
  rintro (hcloses | ⟨before, hprefix, hcount⟩)
  · exact ha.nested hcloses
  · have heven := ha.even
    exact hb.nested ⟨before, hprefix, by omega⟩

/-- A conditional around lines that balance balances. -/
theorem Balanced.around (h : Balanced roles) : Balanced (opening :: roles ++ [closing]) := by
  have heven := h.even
  constructor
  · rw [List.cons_append, ← List.singleton_append, closes_append]
    rintro (hopening | ⟨before, hprefix, hcount⟩)
    · exact absurd (closes_singleton_iff.mp hopening) (by decide)
    · rcases List.prefix_concat_iff.mp hprefix with rfl | hinside
      · simp at hcount
        omega
      · refine h.nested ⟨before, hinside, ?_⟩
        simp at hcount
        omega
  · simp
    omega

/-- In lines that balance, every conditional is closed below the line that opens it. -/
theorem Balanced.closes_below (h : Balanced (a ++ opening :: b)) : Closes b := by
  have hnested : a.count closing ≤ a.count opening := by
    by_contra hcount
    exact h.nested (closes_append.mpr (.inl (closes_of_count (by omega))))
  have heven := h.even
  simp at heven
  exact closes_of_count (by omega)

/-- A line that may not go on behind others, and the defect that it makes. -/
inductive Breaks (before : List (Nat × Line)) : Nat × Line → LibraryError → Prop where
  /-- A function begins that has the name and the argument type of one above it. -/
  | repeated {n : Nat} {name argument : String}
      (again : (name, argument) ∈ heads (before.map Prod.snd)) :
      Breaks before (n, .signature name argument) (.repeatedSignature (headText (name, argument)))
  /-- A directive stands below the head of a function, with neither another head nor a brace in
  between. -/
  | straddling {above inside : List (Nat × Line)} {n m : Nat} {name argument : String}
      {directive : Line} (cuts : directive.isDirective = true)
      (split : before = above ++ (n, .signature name argument) :: inside)
      (unended : ∀ line ∈ inside, line.2.isMark = false) :
      Breaks before (m, directive) (.straddling (headText (name, argument)) n)
  /-- Between functions a conditional closes where as many have been closed as opened. -/
  | stray {n : Nat}
      (between : ∀ mark, lastMark? (before.map Prod.snd) = some mark → mark = brace)
      (even : (before.map Prod.snd).count closing = (before.map Prod.snd).count opening) :
      Breaks before (n, closing) (.unbalanced n .strayClosing)

/-- The first defect of lines, each with its number. -/
inductive FirstDefect (read : List (Nat × Line)) : LibraryError → Prop where
  /-- All lines above may go on behind each other, and this one may not. -/
  | line {before after : List (Nat × Line)} {line : Nat × Line} {e : LibraryError}
      (split : read = before ++ line :: after) (orderly : Orderly (before.map Prod.snd))
      (breaks : Breaks before line e) : FirstDefect read e
  /-- All lines may go on behind each other. A conditional opens that no line below closes, and it
  is the last one: below it conditionals balance. -/
  | unclosed {before after : List (Nat × Line)} {n : Nat}
      (split : read = before ++ (n, opening) :: after) (orderly : Orderly (read.map Prod.snd))
      (unmatched : ¬ Closes (after.map Prod.snd))
      (last : ∀ inside m below, after = inside ++ (m, opening) :: below →
        Closes (below.map Prod.snd))
      (even : (after.map Prod.snd).count closing = (after.map Prod.snd).count opening) :
      FirstDefect read (.unbalanced n .neverClosed)

end Line

namespace Inspection

open Line

variable {i j : Inspection} {line : Nat × Line} {read more : List (Nat × Line)}
  {openings : List Nat} {e : LibraryError}

/-- A line that an inspection does not accept, and the defect that is reported. -/
inductive Stops (i : Inspection) : Nat × Line → LibraryError → Prop where
  /-- A directive cuts through a function. -/
  | straddling {n m : Nat} {directive : Line} {signature : String}
      (cuts : directive.isDirective = true) (unended : i.current? = some (signature, m)) :
      i.Stops (n, directive) (.straddling signature m)
  /-- There is no conditional to close. -/
  | stray {n : Nat} (between : i.current? = none) (unmatched : i.openings = []) :
      i.Stops (n, closing) (.unbalanced n .strayClosing)
  /-- The signature is known. -/
  | repeated {n : Nat} {name argument : String} (again : headText (name, argument) ∈ i.seen) :
      i.Stops (n, .signature name argument) (.repeatedSignature (headText (name, argument)))

/-- A directive is refused exactly if a function has not ended, or for a reason of its own between
functions. -/
theorem directive_eq_error_iff {next : Except LibraryError Inspection} :
    i.directive next = .error e ↔
      (∃ signature n, i.current? = some (signature, n) ∧ e = .straddling signature n) ∨
        i.current? = none ∧ next = .error e := by
  unfold directive
  cases hcurrent : i.current? with
  | none => simp
  | some function =>
    obtain ⟨signature, n⟩ := function
    simp [eq_comm]

/-- A line is refused exactly for the reasons that stop an inspection. -/
theorem step_eq_error_iff : i.step line = .error e ↔ i.Stops line e := by
  constructor
  · intro h
    obtain ⟨n, role⟩ := line
    cases role with
    | opening =>
      rcases directive_eq_error_iff.mp h with ⟨signature, m, hunended, rfl⟩ | ⟨-, hnext⟩
      · exact .straddling rfl hunended
      · cases hnext
    | closing =>
      rcases directive_eq_error_iff.mp h with ⟨signature, m, hunended, rfl⟩ | ⟨hbetween, hnext⟩
      · exact .straddling rfl hunended
      · split at hnext
        · next hopenings =>
          obtain rfl := Except.error.inj hnext
          exact .stray hbetween hopenings
        · cases hnext
    | signature name argument =>
      simp only [step] at h
      split at h
      · next hseen =>
        obtain rfl := Except.error.inj h
        exact .repeated hseen
      · cases h
    | brace => cases h
    | other => cases h
  · intro h
    cases h with
    | @straddling n m role signature cuts unended =>
      have hcurrent : ∀ next, i.directive next = .error (.straddling signature m) := fun next =>
        directive_eq_error_iff.mpr (.inl ⟨signature, m, unended, rfl⟩)
      cases role with
      | opening => exact hcurrent _
      | closing => exact hcurrent _
      | signature name argument => cases cuts
      | brace => cases cuts
      | other => cases cuts
    | stray between unmatched =>
      exact directive_eq_error_iff.mpr (.inr ⟨between, by rw [unmatched]⟩)
    | repeated again => exact if_pos again

/-- A run stops at the first line that is not accepted. -/
theorem run_eq_error_iff : i.run read = .error e ↔ ∃ before line after j,
    read = before ++ line :: after ∧ i.run before = .ok j ∧ j.Stops line e := by
  constructor
  · intro h
    induction read generalizing i with
    | nil => cases h
    | cons line rest ih =>
      rw [run_cons] at h
      cases hstep : i.step line with
      | error e' =>
        rw [hstep] at h
        obtain rfl := Except.error.inj h
        exact ⟨[], line, rest, i, rfl, rfl, step_eq_error_iff.mp hstep⟩
      | ok j =>
        rw [hstep] at h
        obtain ⟨before, stop, after, k, rfl, hrun, hstops⟩ := ih h
        refine ⟨line :: before, stop, after, k, rfl, ?_, hstops⟩
        rw [run_cons, hstep]
        exact hrun
  · rintro ⟨before, line, after, j, rfl, hrun, hstops⟩
    rw [run_append, hrun]
    exact congrArg (· >>= fun k => k.run after) (step_eq_error_iff.mpr hstops)

/-- No conditional is open exactly if as many were closed as opened. -/
theorem Follows.openings_eq_nil_iff (h : i.Follows read) : i.openings = [] ↔
    (read.map Prod.snd).count closing = (read.map Prod.snd).count opening := by
  have hopenings := h.openings
  rw [← List.length_eq_zero_iff]
  omega

/-- The function that has not ended is the last one that has begun. -/
theorem Follows.current_eq_some_iff (h : i.Follows read) {signature : String} {n : Nat} :
    i.current? = some (signature, n) ↔ ∃ before name argument inside,
      read = before ++ (n, .signature name argument) :: inside ∧
        signature = headText (name, argument) ∧ ∀ line ∈ inside, line.2.isMark = false := by
  rw [h.current, List.getLast?_filter, Option.bind_eq_some_iff]
  constructor
  · rintro ⟨⟨m, role⟩, hmark, hfunction⟩
    obtain ⟨-, later, earlier, hreverse, hlater⟩ := List.find?_eq_some_iff_append.mp hmark
    obtain ⟨head, hhead, htext⟩ := Option.map_eq_some_iff.mp hfunction
    obtain ⟨rfl, rfl⟩ := Prod.mk.inj htext
    have hrole : role = .signature head.1 head.2 := head?_eq_some_iff.mp hhead
    subst hrole
    refine ⟨earlier.reverse, head.1, head.2, later.reverse, ?_, rfl, ?_⟩
    · rw [← List.reverse_inj, hreverse]
      simp
    · intro line hline
      simpa using hlater line (List.mem_reverse.mp hline)
  · rintro ⟨before, name, argument, inside, rfl, rfl, hinside⟩
    refine ⟨(n, .signature name argument), List.find?_eq_some_iff_append.mpr ?_, rfl⟩
    refine ⟨rfl, inside.reverse, before.reverse, by simp, ?_⟩
    intro line hline
    rw [hinside line (List.mem_reverse.mp hline)]
    rfl

/-- The conditionals that are open, the innermost first: between two of them, and behind the
innermost, conditionals balance. -/
inductive Opened : List Nat → List (Nat × Line) → Prop where
  /-- No conditional is open. -/
  | none {read : List (Nat × Line)} (balanced : Balanced (read.map Prod.snd)) : Opened [] read
  /-- A conditional opens behind lines that leave others open. -/
  | some {openings : List Nat} {before after : List (Nat × Line)} {n : Nat}
      (outer : Opened openings before) (balanced : Balanced (after.map Prod.snd)) :
      Opened (n :: openings) (before ++ (n, opening) :: after)

/-- Balanced lines leave the same conditionals open. -/
theorem Opened.append (h : Opened openings read) (hmore : Balanced (more.map Prod.snd)) :
    Opened openings (read ++ more) := by
  cases h with
  | none balanced =>
    refine .none ?_
    rw [List.map_append]
    exact balanced.append hmore
  | some outer balanced =>
    rw [List.append_assoc, List.cons_append]
    refine .some outer ?_
    rw [List.map_append]
    exact balanced.append hmore

/-- One more line opens a conditional, closes the innermost one or leaves all of them as they are.
-/
theorem Opened.of_moves (h : Opened i.openings read) (hmoves : i.Moves line j) :
    Opened j.openings (read ++ [line]) := by
  cases hmoves with
  | opening between => exact .some h balanced_nil
  | closing between matched =>
    rw [matched] at h
    cases h with
    | some outer balanced =>
      rw [List.append_assoc]
      refine outer.append ?_
      simpa using balanced.around
  | signature fresh => exact h.append (balanced_singleton rfl)
  | brace => exact h.append (balanced_singleton rfl)
  | other => exact h.append (balanced_singleton rfl)

/-- A run keeps the conditionals in mind that are open, with their lines. -/
theorem opened_of_run (h : start.run read = .ok i) : Opened i.openings read := by
  induction read using List.reverseRecOn generalizing i with
  | nil =>
    obtain rfl := Except.ok.inj h
    exact .none balanced_nil
  | append_singleton read line ih =>
    obtain ⟨j, hread, hmoves⟩ := run_concat_eq_ok_iff.mp h
    exact (ih hread).of_moves hmoves

/-- The conditional that nothing closes is found in one place only. -/
theorem eq_of_unmatched {before before' after after' : List (Nat × Line)} {n n' : Nat}
    (h : before ++ (n, opening) :: after = before' ++ (n', opening) :: after')
    (hunmatched : ¬ Closes (after.map Prod.snd))
    (hlast : ∀ inside m below, after = inside ++ (m, opening) :: below →
      Closes (below.map Prod.snd))
    (hbalanced : Balanced (after'.map Prod.snd)) : n = n' := by
  rcases List.append_eq_append_iff.mp h with ⟨between, -, hsplit⟩ | ⟨between, -, hsplit⟩
  · rcases List.cons_eq_append_iff.mp hsplit with ⟨-, hsame⟩ | ⟨inside, -, hbelow⟩
    · exact (Prod.mk.inj (List.cons.inj hsame).1).1.symm
    · exact absurd (hlast _ _ _ hbelow) hbalanced.nested
  · rcases List.cons_eq_append_iff.mp hsplit with ⟨-, hsame⟩ | ⟨inside, -, hbelow⟩
    · exact (Prod.mk.inj (List.cons.inj hsame).1).1
    · rw [hbelow, List.map_append, List.map_cons] at hbalanced
      exact absurd hbalanced.closes_below hunmatched

/-- At the end of lines that may all go on, a conditional is reported exactly if it is the last one
that nothing closes. -/
theorem exists_openings_iff (h : start.run read = .ok i) {n : Nat} :
    (∃ rest, i.openings = n :: rest) ↔ ∃ before after, read = before ++ (n, opening) :: after ∧
      ¬ Closes (after.map Prod.snd) ∧
      (∀ inside m below, after = inside ++ (m, opening) :: below → Closes (below.map Prod.snd)) ∧
      (after.map Prod.snd).count closing = (after.map Prod.snd).count opening := by
  have hopened := opened_of_run h
  constructor
  · rintro ⟨rest, hopenings⟩
    rw [hopenings] at hopened
    cases hopened with
    | @some _ before after _ outer balanced =>
      refine ⟨before, after, rfl, balanced.nested, ?_, balanced.even⟩
      rintro inside m below rfl
      rw [List.map_append, List.map_cons] at balanced
      exact balanced.closes_below
  · rintro ⟨before, after, rfl, hunmatched, hlast, -⟩
    generalize hread : before ++ (n, opening) :: after = read at hopened
    cases hopened' : i.openings with
    | nil =>
      rw [hopened'] at hopened
      cases hopened with
      | none balanced =>
        rw [← hread, List.map_append, List.map_cons] at balanced
        exact absurd balanced.closes_below hunmatched
    | cons m rest =>
      rw [hopened'] at hopened
      cases hopened with
      | some outer balanced =>
        exact ⟨rest, by rw [eq_of_unmatched hread hunmatched hlast balanced]⟩

/-- An inspection stops at exactly the lines that may not go on behind those it has read. -/
theorem Follows.stops_iff (h : i.Follows read) (hread : ∀ line ∈ read, line.2.Legible)
    (hline : line.2.Legible) : i.Stops line e ↔ Breaks read line e := by
  constructor
  · intro hstops
    cases hstops with
    | straddling cuts unended =>
      obtain ⟨above, name, argument, inside, hsplit, rfl, hinside⟩ :=
        h.current_eq_some_iff.mp unended
      exact .straddling cuts hsplit hinside
    | stray between unmatched =>
      exact .stray (h.current_eq_none_iff.mp between) (h.openings_eq_nil_iff.mp unmatched)
    | repeated again => exact .repeated ((h.seen_iff hread hline rfl).mp again)
  · intro hbreaks
    cases hbreaks with
    | straddling cuts split unended =>
      exact .straddling cuts (h.current_eq_some_iff.mpr ⟨_, _, _, _, split, rfl, unended⟩)
    | stray between even =>
      exact .stray (h.current_eq_none_iff.mpr between) (h.openings_eq_nil_iff.mpr even)
    | repeated again => exact .repeated ((h.seen_iff hread hline rfl).mpr again)

/-- A run from the start stops at the first line that may not go on behind those above it. -/
theorem run_start_eq_error_iff (hread : ∀ line ∈ read, line.2.Legible) :
    start.run read = .error e ↔ ∃ before line after, read = before ++ line :: after ∧
      Orderly (before.map Prod.snd) ∧ Breaks before line e := by
  rw [run_eq_error_iff]
  constructor
  · rintro ⟨before, line, after, j, rfl, hrun, hstops⟩
    have hbefore := fun l hl => hread l (List.mem_append_left _ hl)
    have hline := hread line (List.mem_append_right _ List.mem_cons_self)
    exact ⟨before, line, after, rfl, (exists_run_iff hbefore).mp ⟨j, hrun⟩,
      ((follows_of_run hrun).stops_iff hbefore hline).mp hstops⟩
  · rintro ⟨before, line, after, rfl, horderly, hbreaks⟩
    have hbefore := fun l hl => hread l (List.mem_append_left _ hl)
    have hline := hread line (List.mem_append_right _ List.mem_cons_self)
    obtain ⟨j, hrun⟩ := (exists_run_iff hbefore).mpr horderly
    exact ⟨before, line, after, j, rfl, hrun,
      ((follows_of_run hrun).stops_iff hbefore hline).mpr hbreaks⟩

end Inspection

open Line Inspection

/-- At the end the innermost conditional that is open is reported. -/
theorem Inspection.finish_eq_error_iff {i : Inspection} {e : LibraryError} :
    i.finish = .error e ↔
      ∃ n, (∃ rest, i.openings = n :: rest) ∧ e = .unbalanced n .neverClosed := by
  unfold finish
  cases i.openings <;> simp [eq_comm]

/-- A library is refused because the run over its lines stops, or because a conditional is open at
its end. -/
theorem inspect_eq_error_iff_run {text : String} {e : LibraryError} :
    inspect text = .error e ↔ start.run (Line.numbered text) = .error e ∨
      ∃ i, start.run (Line.numbered text) = .ok i ∧ i.finish = .error e := by
  rw [inspect]
  cases start.run (Line.numbered text) with
  | error e' => simp [bind, Except.bind]
  | ok i => simp [bind, Except.bind]

/-- An inspection reports the first defect of the roles outside comments and nothing else. -/
theorem inspect_eq_error_iff {text : String} {e : LibraryError} :
    inspect text = .error e ↔ FirstDefect (Line.numbered text) e := by
  have hlegible := (reading_number 1 (Text.lines text.toList)).legible
  rw [inspect_eq_error_iff_run]
  constructor
  · rintro (hrun | ⟨i, hrun, hfinish⟩)
    · obtain ⟨before, line, after, hsplit, horderly, hbreaks⟩ :=
        (run_start_eq_error_iff hlegible).mp hrun
      exact .line hsplit horderly hbreaks
    · obtain ⟨n, hopenings, rfl⟩ := finish_eq_error_iff.mp hfinish
      obtain ⟨before, after, hsplit, hunmatched, hlast, heven⟩ :=
        (exists_openings_iff hrun).mp hopenings
      exact .unclosed hsplit ((exists_run_iff hlegible).mp ⟨i, hrun⟩) hunmatched hlast heven
  · intro hdefect
    cases hdefect with
    | line split orderly breaks =>
      exact .inl ((run_start_eq_error_iff hlegible).mpr ⟨_, _, _, split, orderly, breaks⟩)
    | unclosed split orderly unmatched last even =>
      obtain ⟨i, hrun⟩ := (exists_run_iff hlegible).mpr orderly
      have hopenings := (exists_openings_iff hrun).mpr ⟨_, _, split, unmatched, last, even⟩
      exact .inr ⟨i, hrun, finish_eq_error_iff.mpr ⟨_, hopenings, rfl⟩⟩

/-- A defect that is found in a line is found whatever follows. -/
theorem inspect_append_of_error {a b : String} {e : LibraryError} (hends : EndsLine a.toList)
    (h : inspect a = .error e) (hkind : ∀ n, e ≠ .unbalanced n .neverClosed) :
    inspect (a ++ b) = .error e := by
  rcases inspect_eq_error_iff_run.mp h with hrun | ⟨i, -, hfinish⟩
  · refine inspect_eq_error_iff_run.mpr (.inl ?_)
    rw [numbered_append hends, run_append, hrun]
    rfl
  · obtain ⟨n, -, rfl⟩ := finish_eq_error_iff.mp hfinish
    exact absurd rfl (hkind n)

/-- An inspection reports the first defect of the lines outside comments, each of them with its
number in the text and with the role whose pattern it matches. That is the first line that may not
go on behind those above it, and then it is reported whatever follows the text. If there is no such
line, it is the last conditional that nothing closes. -/
theorem first_defect_reported (text : String) :
    ∃ read, Reading 1 (lines text.toList) read ∧
      (∀ roles, Reading 1 (lines text.toList) roles → roles = read) ∧
      (read.Pairwise fun line line' => line.1 < line'.1) ∧
      (∀ n role, (n, role) ∈ read → 1 ≤ n ∧
        ∃ line, (lines text.toList)[n - 1]? = some line ∧ role.Matches (trim line)) ∧
      (∀ e, inspect text = .error e ↔ FirstDefect read e) ∧
      (EndsLine text.toList → ∀ e, inspect text = .error e →
        (∀ n, e ≠ .unbalanced n .neverClosed) → ∀ more, inspect (text ++ more) = .error e) := by
  have hread := reading_number 1 (lines text.toList)
  refine ⟨_, hread, ?_, number_sorted _ _ _, ?_, fun e => inspect_eq_error_iff, ?_⟩
  · intro roles hroles
    exact (reading_iff.mp hroles).symm
  · intro n role hmem
    obtain ⟨hn, line, hline, -, hrole⟩ := mem_number hmem
    exact ⟨hn, line, hline, ofTrimmed_eq_iff.mp hrole⟩
  · exact fun hends e he hkind more => inspect_append_of_error hends he hkind

/-- A library in which one of two conditionals is not closed, with a directive in a comment. -/
def unclosedLibrary : String :=
  "/* #endif\n*/\n#ifdef A\n#ifdef B\nint convert_int(float x)\n\x7b\n\x7d\n#endif\n"

/-- A library that closes a conditional too many, behind a comment and a function. -/
def strayLibrary : String :=
  "#ifdef A\n/* #if\n*/\nint convert_int(float x)\n\x7b\n\x7d\n#endif\n#endif\n"

/-- Of two open conditionals the inner one is reported at the end, and a closing directive too many
is reported whatever follows it. -/
theorem first_defect_reported_unclosed :
    inspect unclosedLibrary = .error (.unbalanced 3 .neverClosed) ∧
      (∃ read, Reading 1 (lines unclosedLibrary.toList) read ∧
        FirstDefect read (.unbalanced 3 .neverClosed)) ∧
      inspect strayLibrary = .error (.unbalanced 8 .strayClosing) ∧
      ∀ more, inspect (strayLibrary ++ more) = .error (.unbalanced 8 .strayClosing) := by
  have hunclosed : inspect unclosedLibrary = .error (.unbalanced 3 .neverClosed) := rfl
  have hstray : inspect strayLibrary = .error (.unbalanced 8 .strayClosing) := rfl
  have hends : EndsLine strayLibrary.toList := by
    intro c hc
    exact (Option.some.inj hc).symm
  obtain ⟨read, hread, -, -, -, hdefect, -⟩ := first_defect_reported unclosedLibrary
  obtain ⟨-, -, -, -, -, -, hkept⟩ := first_defect_reported strayLibrary
  exact ⟨hunclosed, ⟨read, hread, (hdefect _).mp hunclosed⟩, hstray,
    hkept hends _ hstray (by simp)⟩

end LaneConvert
