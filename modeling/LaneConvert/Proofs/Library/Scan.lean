import LaneConvert.Library.Inspection
import LaneConvert.Proofs.Library.Pattern

/-!
# Reading a library line by line

What one line does to an inspection is one of five moves. A stretch of lines that leaves no comment
open is read in the same way wherever it stands, so texts can be read piece by piece. Every state
that a run from the start reaches counts the signatures it has seen.

A reading of lines says which of them stand outside comments and what role each of those has. It is
given by rules that do not go from line to line: a comment is taken as a whole, from the line it
starts in to the first line that ends it, and a line has the role whose pattern it matches. The
numbered roles that an inspection works on are the only reading there is.
-/

namespace LaneConvert

open Text

namespace Line

/-- Whether a comment is open behind some lines. -/
def commentedAfter (commented : Bool) : List (List Char) → Bool
  | [] => commented
  | line :: rest =>
    if commented || startsComment (trim line) then commentedAfter (!endsComment (trim line)) rest
    else commentedAfter false rest

/-- The roles of lines behind other lines depend on the number of those lines and on whether they
leave a comment open. -/
theorem number_append (n : Nat) (commented : Bool) (a b : List (List Char)) :
    number n commented (a ++ b) =
      number n commented a ++ number (n + a.length) (commentedAfter commented a) b := by
  induction a generalizing n commented with
  | nil => rfl
  | cons line rest ih =>
    have hn : n + 1 + rest.length = n + (line :: rest).length := by
      rw [List.length_cons]
      omega
    simp only [List.cons_append, number, commentedAfter]
    split
    · rw [ih, hn]
    · rw [ih, hn, List.cons_append]

/-- Whether a comment is open behind two stretches of lines is found out one after the other. -/
theorem commentedAfter_append (commented : Bool) (a b : List (List Char)) :
    commentedAfter commented (a ++ b) = commentedAfter (commentedAfter commented a) b := by
  induction a generalizing commented with
  | nil => rfl
  | cons line rest ih =>
    simp only [List.cons_append, commentedAfter]
    split <;> exact ih _

/-- The lines behind a text whose last line is ended are read after it. -/
theorem numbered_append {a b : String} (h : EndsLine a.toList) :
    numbered (a ++ b) = numbered a ++ number (1 + (lines a.toList).length)
      (commentedAfter false (lines a.toList)) (lines b.toList) := by
  rw [numbered, numbered, String.toList_append, lines_append_of_endsLine h, number_append]

/-- Lines further down have the same roles. -/
theorem number_add (n k : Nat) (commented : Bool) (lines : List (List Char)) :
    number (n + k) commented lines = (number n commented lines).map (Prod.map (· + k) id) := by
  induction lines generalizing n commented with
  | nil => rfl
  | cons line rest ih =>
    have hn : n + k + 1 = n + 1 + k := by omega
    simp only [number, hn]
    split
    · exact ih _ _
    · rw [ih, List.map_cons]
      rfl

/-- A number belongs to the line that it counts. -/
theorem mem_number {n k : Nat} {commented : Bool} {lines : List (List Char)} {role : Line}
    (h : (k, role) ∈ number n commented lines) :
    n ≤ k ∧ ∃ line, lines[k - n]? = some line ∧ startsComment (trim line) = false ∧
      ofTrimmed (trim line) = role := by
  induction lines generalizing n commented with
  | nil => simp [number] at h
  | cons first rest ih =>
    have hlater : ∀ commented', (k, role) ∈ number (n + 1) commented' rest →
        n ≤ k ∧ ∃ line, (first :: rest)[k - n]? = some line ∧
          startsComment (trim line) = false ∧ ofTrimmed (trim line) = role := by
      intro commented' hmem
      obtain ⟨hle, line, hline, hspec⟩ := ih hmem
      obtain ⟨d, rfl⟩ := Nat.exists_eq_add_of_le hle
      have hd : n + 1 + d - n = d + 1 := by omega
      rw [Nat.add_sub_cancel_left] at hline
      exact ⟨by omega, line, by rw [hd, List.getElem?_cons_succ, hline], hspec⟩
    simp only [number] at h
    split at h
    · exact hlater _ h
    · next houtside =>
      rcases List.mem_cons.mp h with hhead | hmem
      · obtain ⟨rfl, rfl⟩ := Prod.mk.inj hhead
        rw [Bool.not_eq_true, Bool.or_eq_false_iff] at houtside
        exact ⟨Nat.le_refl _, first, by rw [Nat.sub_self]; rfl, houtside.2, rfl⟩
      · exact hlater _ hmem

/-- The numbers of the lines outside comments ascend. -/
theorem number_sorted (n : Nat) (commented : Bool) (lines : List (List Char)) :
    (number n commented lines).Pairwise fun line line' => line.1 < line'.1 := by
  induction lines generalizing n commented with
  | nil => exact .nil
  | cons line rest ih =>
    simp only [number]
    split
    · exact ih _ _
    · refine List.pairwise_cons.mpr ⟨fun later hlater => ?_, ih _ _⟩
      exact (mem_number hlater).1

end Line

namespace Inspection

/-- What a line does to an inspection that accepts it. -/
inductive Moves (i : Inspection) : Nat × Line → Inspection → Prop where
  /-- Between functions a conditional may open. -/
  | opening {n : Nat} (between : i.current? = none) :
      i.Moves (n, .opening) { i with openings := n :: i.openings }
  /-- Between functions the innermost conditional may close. -/
  | closing {n m : Nat} {rest : List Nat} (between : i.current? = none)
      (matched : i.openings = m :: rest) : i.Moves (n, .closing) { i with openings := rest }
  /-- A function with a new signature may begin. -/
  | signature {n : Nat} {name argument : String}
      (fresh : name ++ "(" ++ argument ++ ")" ∉ i.seen) :
      i.Moves (n, .signature name argument) {
        openings := i.openings
        seen := (name ++ "(" ++ argument ++ ")") :: i.seen
        current? := some (name ++ "(" ++ argument ++ ")", n)
        summary := ⟨i.summary.functions + 1,
          i.summary.guarded + if i.openings.isEmpty then 0 else 1⟩ }
  /-- A function ends. -/
  | brace {n : Nat} : i.Moves (n, .brace) { i with current? := none }
  /-- Any other line changes nothing. -/
  | other {n : Nat} : i.Moves (n, .other) i

/-- A directive is accepted exactly between functions, and then does what it does. -/
theorem directive_eq_ok_iff {i j : Inspection} {next : Except LibraryError Inspection} :
    i.directive next = .ok j ↔ i.current? = none ∧ next = .ok j := by
  unfold directive
  split <;> simp_all

/-- A line is accepted exactly if an inspection has a move for it. -/
theorem step_eq_ok_iff {i j : Inspection} {line : Nat × Line} :
    i.step line = .ok j ↔ i.Moves line j := by
  constructor
  · intro h
    obtain ⟨n, role⟩ := line
    cases role with
    | opening =>
      obtain ⟨hbetween, h⟩ := directive_eq_ok_iff.mp h
      obtain rfl := Except.ok.inj h
      exact .opening hbetween
    | closing =>
      obtain ⟨hbetween, h⟩ := directive_eq_ok_iff.mp h
      split at h
      · simp at h
      · next hopenings =>
        obtain rfl := Except.ok.inj h
        exact .closing hbetween hopenings
    | signature name argument =>
      simp only [step] at h
      split at h
      · simp at h
      · next hfresh =>
        obtain rfl := Except.ok.inj h
        exact .signature hfresh
    | brace =>
      obtain rfl := Except.ok.inj h
      exact .brace
    | other =>
      obtain rfl := Except.ok.inj h
      exact .other
  · intro h
    cases h with
    | opening between => simp [step, directive, between]
    | closing between matched => simp [step, directive, between, matched]
    | signature fresh => simp [step, fresh]
    | brace => rfl
    | other => rfl

/-- Lines are read one after another. -/
theorem run_cons (i : Inspection) (line : Nat × Line) (rest : List (Nat × Line)) :
    i.run (line :: rest) = i.step line >>= fun j => j.run rest := rfl

/-- A run goes on from where the move of the first line leads. -/
theorem run_cons_of_moves {i j : Inspection} {line : Nat × Line} (h : i.Moves line j)
    (rest : List (Nat × Line)) : i.run (line :: rest) = j.run rest := by
  rw [run_cons, step_eq_ok_iff.mpr h]
  rfl

/-- A run over lines is a move over the first one and a run over the others. -/
theorem run_cons_eq_ok_iff {i k : Inspection} {line : Nat × Line} {rest : List (Nat × Line)} :
    i.run (line :: rest) = .ok k ↔ ∃ j, i.Moves line j ∧ j.run rest = .ok k := by
  rw [run_cons]
  cases hstep : i.step line with
  | error e =>
    constructor
    · intro h
      simp [bind, Except.bind] at h
    · rintro ⟨j, hmoves, -⟩
      rw [step_eq_ok_iff.mpr hmoves] at hstep
      simp at hstep
  | ok j =>
    constructor
    · intro h
      exact ⟨j, step_eq_ok_iff.mp hstep, h⟩
    · rintro ⟨j', hmoves, h⟩
      obtain rfl := Except.ok.inj ((step_eq_ok_iff.mpr hmoves).symm.trans hstep)
      exact h

/-- Where no conditional is open the counts are given. -/
theorem finish_of_closed {i : Inspection} (h : i.openings = []) : i.finish = .ok i.summary := by
  simp [finish, h]

/-- What every move keeps, a run keeps. -/
theorem run_keeps {P : Inspection → Prop} (hmoves : ∀ i line j, P i → i.Moves line j → P j)
    {i j : Inspection} {lines : List (Nat × Line)} (hi : P i) (h : i.run lines = .ok j) : P j := by
  induction lines generalizing i with
  | nil =>
    obtain rfl := Except.ok.inj h
    exact hi
  | cons line rest ih =>
    obtain ⟨k, hmove, hrest⟩ := run_cons_eq_ok_iff.mp h
    exact ih (hmoves i line k hi hmove) hrest

/-- The counts and the open function of an inspection belong to the signatures it has seen. -/
structure Consistent (i : Inspection) : Prop where
  /-- Every signature is counted. -/
  functions : i.summary.functions = i.seen.length
  /-- Only functions are counted as guarded. -/
  guarded : i.summary.guarded ≤ i.summary.functions
  /-- The function that has not ended has been seen. -/
  current : ∀ signature n, i.current? = some (signature, n) → signature ∈ i.seen

/-- Before the first line the counts agree with the signatures seen. -/
theorem consistent_start : start.Consistent := ⟨rfl, Nat.le_refl _, by simp [start]⟩

/-- A move keeps the counts in agreement with the signatures seen. -/
theorem Consistent.of_moves {i j : Inspection} {line : Nat × Line} (hi : i.Consistent)
    (h : i.Moves line j) : j.Consistent := by
  cases h with
  | opening between => exact ⟨hi.functions, hi.guarded, hi.current⟩
  | closing between matched => exact ⟨hi.functions, hi.guarded, hi.current⟩
  | signature fresh =>
    refine ⟨?_, ?_, ?_⟩
    · simp [hi.functions]
    · have hguarded := hi.guarded
      dsimp only
      split <;> omega
    · rintro signature n hcurrent
      simp_all
  | brace => exact ⟨hi.functions, hi.guarded, by simp⟩
  | other => exact hi

/-- A run keeps the counts in agreement with the signatures seen. -/
theorem Consistent.of_run {i j : Inspection} {lines : List (Nat × Line)} (hi : i.Consistent)
    (h : i.run lines = .ok j) : j.Consistent :=
  run_keeps (fun _ _ _ hi hmove => hi.of_moves hmove) hi h

/-- A consistent inspection that has seen nothing and is in no conditional is at the start. -/
theorem Consistent.eq_start {i : Inspection} (hi : i.Consistent) (hopenings : i.openings = [])
    (hseen : i.seen = []) : i = start := by
  have hfunctions := hi.functions
  have hguarded := hi.guarded
  have hcurrent := hi.current
  obtain ⟨openings, seen, current?, functions, guarded⟩ := i
  subst hopenings hseen
  simp only [List.length_nil] at hfunctions
  subst hfunctions
  have hnone : current? = none := by
    cases current? with
    | none => rfl
    | some definition => exact absurd (hcurrent _ _ rfl) List.not_mem_nil
  subst hnone
  obtain rfl : guarded = 0 := Nat.le_zero.mp hguarded
  rfl

/-- Lines that start with a given number take an inspection to another and leave no comment open. -/
structure Reads (n : Nat) (lines : List (List Char)) (i j : Inspection) : Prop where
  /-- The lines are accepted. -/
  run : i.run (Line.number n false lines) = .ok j
  /-- No comment is open behind the lines. -/
  closed : Line.commentedAfter false lines = false

variable {n : Nat} {i j k : Inspection} {line : List Char} {a b : List (List Char)}

/-- No lines at all change nothing. -/
theorem Reads.nil (n : Nat) (i : Inspection) : Reads n [] i i := ⟨rfl, rfl⟩

/-- Stretches of lines are read one after another. -/
theorem Reads.append (ha : Reads n a i j) (hb : Reads (n + a.length) b j k) :
    Reads n (a ++ b) i k := by
  constructor
  · rw [Line.number_append, ha.closed, run_append, ha.run]
    exact hb.run
  · rw [Line.commentedAfter_append, ha.closed, hb.closed]

/-- A line that starts no comment makes the move of its role. -/
theorem Reads.cons {role : Line} (hcomment : Line.startsComment (trim line) = false)
    (hrole : Line.ofTrimmed (trim line) = role) (hmove : i.Moves (n, role) j)
    (hrest : Reads (n + 1) a j k) : Reads n (line :: a) i k := by
  constructor
  · simp only [Line.number, hcomment, hrole, Bool.or_self, Bool.false_eq_true, if_false]
    rw [run_cons_of_moves hmove, hrest.run]
  · simp only [Line.commentedAfter, hcomment, Bool.or_self, Bool.false_eq_true, if_false]
    exact hrest.closed

/-- A line outside comments that changes nothing between functions. -/
structure Idle (line : List Char) : Prop where
  /-- The line starts no comment. -/
  no_comment : Line.startsComment (trim line) = false
  /-- The line is no directive and names no function. -/
  role : Line.ofTrimmed (trim line) = .other ∨ Line.ofTrimmed (trim line) = .brace

/-- An idle line between functions can be put in front of a stretch. -/
theorem Reads.cons_idle (hline : Idle line) (hbetween : i.current? = none)
    (hrest : Reads (n + 1) a i k) : Reads n (line :: a) i k := by
  have hsame : { i with current? := none } = i := by
    cases i
    subst hbetween
    rfl
  rcases hline.role with hrole | hrole
  · exact .cons hline.no_comment hrole .other hrest
  · have hmove : i.Moves (n, .brace) { i with current? := none } := .brace
    rw [hsame] at hmove
    exact .cons hline.no_comment hrole hmove hrest

/-- Idle lines between functions change nothing. -/
theorem Reads.of_idle (hlines : ∀ line ∈ a, Idle line) (hbetween : i.current? = none) :
    Reads n a i i := by
  induction a generalizing n with
  | nil => exact .nil n i
  | cons line rest ih =>
    rw [List.forall_mem_cons] at hlines
    exact .cons_idle hlines.1 hbetween (ih hlines.2)

end Inspection

namespace Line

/-- A line has a role if it matches the pattern of the role. The last role is left to lines that
match no pattern. -/
def Matches : Line → List Char → Prop
  | opening, cs => IsOpening cs
  | closing, cs => IsClosing cs
  | signature name argument, cs => IsHead name argument cs
  | brace, cs => cs = ['}']
  | other, cs => ¬ IsOpening cs ∧ ¬ IsClosing cs ∧ (∀ name argument, ¬ IsHead name argument cs) ∧
      cs ≠ ['}']

/-- A line has a role exactly if it matches the pattern of the role. -/
theorem ofTrimmed_eq_iff {role : Line} {cs : List Char} :
    ofTrimmed cs = role ↔ role.Matches cs := by
  cases role with
  | opening => exact ofTrimmed_eq_opening_iff
  | closing => exact ofTrimmed_eq_closing_iff
  | signature name argument => exact ofTrimmed_eq_signature_iff
  | brace => exact ofTrimmed_eq_brace_iff
  | other =>
    simp only [Matches, ← ofTrimmed_eq_opening_iff, ← ofTrimmed_eq_closing_iff,
      ← ofTrimmed_eq_signature_iff, ne_eq, ← ofTrimmed_eq_brace_iff]
    cases ofTrimmed cs <;> simp

/-- The name and the argument type of a function are words. -/
def Legible (role : Line) : Prop :=
  ∀ name argument, role = signature name argument →
    (∀ c ∈ name.toList, isWord c = true) ∧ ∀ c ∈ argument.toList, isWord c = true

/-- A role that matches a line can be read back from its text. -/
theorem Matches.legible {role : Line} {cs : List Char} (h : role.Matches cs) : role.Legible := by
  rintro name argument rfl
  obtain ⟨result, goesOn, -, hgoesOn, hargument, hname, -⟩ := h
  refine ⟨?_, hargument.chars⟩
  rw [hname]
  intro c hc
  rcases List.mem_append.mp hc with hc | hc
  · exact isWord_of_mem_stem c hc
  · exact hgoesOn.chars c hc

/-- A comment starts in the first of the lines. -/
def StartWithComment (lines : List (List Char)) : Prop :=
  ∃ first rest, lines = first :: rest ∧ startsComment (trim first) = true

/-- The roles of lines outside comments, with the numbers of the lines, from a given number on. -/
inductive Reading : Nat → List (List Char) → List (Nat × Line) → Prop where
  /-- There is no line. -/
  | nil {n : Nat} : Reading n [] []
  /-- A line that starts no comment has the role whose pattern it matches. -/
  | line {n : Nat} {line : List Char} {role : Line} {rest : List (List Char)}
      {roles : List (Nat × Line)} (outside : startsComment (trim line) = false)
      (has : role.Matches (trim line)) (goesOn : Reading (n + 1) rest roles) :
      Reading n (line :: rest) ((n, role) :: roles)
  /-- A comment ends with the first line that holds its end, be it the one the comment starts in. -/
  | comment {n : Nat} {inside : List (List Char)} {last : List Char} {rest : List (List Char)}
      {roles : List (Nat × Line)} (starts : StartWithComment (inside ++ [last]))
      (lasts : ∀ line ∈ inside, endsComment (trim line) = false)
      (ends : endsComment (trim last) = true)
      (goesOn : Reading (n + (inside.length + 1)) rest roles) :
      Reading n (inside ++ last :: rest) roles
  /-- A comment without an end takes all lines that are left. -/
  | unended {n : Nat} {inside : List (List Char)} (starts : StartWithComment inside)
      (lasts : ∀ line ∈ inside, endsComment (trim line) = false) : Reading n inside []

variable {n : Nat} {last : List Char} {inside rest lines : List (List Char)}
  {roles : List (Nat × Line)}

/-- Lines that begin with a comment still do with more lines behind them. -/
theorem StartWithComment.append (h : StartWithComment lines) (rest : List (List Char)) :
    StartWithComment (lines ++ rest) := by
  obtain ⟨first, more, rfl, hfirst⟩ := h
  exact ⟨first, more ++ rest, rfl, hfirst⟩

/-- Lines that begin with a comment are numbered alike inside one. -/
theorem number_of_startWithComment (h : StartWithComment lines) :
    number n false lines = number n true lines := by
  obtain ⟨first, rest, rfl, hfirst⟩ := h
  simp [number, hfirst]

/-- Lines inside a comment have no role. -/
theorem number_inside (h : ∀ line ∈ inside, endsComment (trim line) = false) :
    number n true (inside ++ rest) = number (n + inside.length) true rest := by
  induction inside generalizing n with
  | nil => rfl
  | cons line inside ih =>
    rw [List.forall_mem_cons] at h
    have hn : n + 1 + inside.length = n + (line :: inside).length := by
      rw [List.length_cons]
      omega
    rw [List.cons_append, number]
    simp only [Bool.true_or, if_true, h.1, Bool.not_false]
    rw [ih h.2, hn]

/-- A comment that ends is passed over with all of its lines. -/
theorem number_comment (hstarts : StartWithComment (inside ++ [last]))
    (hlasts : ∀ line ∈ inside, endsComment (trim line) = false)
    (hends : endsComment (trim last) = true) :
    number n false (inside ++ last :: rest) = number (n + (inside.length + 1)) false rest := by
  have hstarts := hstarts.append rest
  rw [List.append_assoc, List.singleton_append] at hstarts
  have hlast : number (n + inside.length) true (last :: rest) =
      number (n + (inside.length + 1)) false rest := by
    simp [number, hends, Nat.add_assoc]
  rw [number_of_startWithComment hstarts, number_inside hlasts, hlast]

/-- A comment that does not end takes all of the lines. -/
theorem number_unended (hstarts : StartWithComment inside)
    (hlasts : ∀ line ∈ inside, endsComment (trim line) = false) : number n false inside = [] := by
  have hinside : number n true (inside ++ []) = [] := number_inside hlasts
  rw [List.append_nil] at hinside
  rw [number_of_startWithComment hstarts, hinside]

/-- A comment that is open reaches to the first line with an end, or through all lines. -/
theorem exists_last (lines : List (List Char)) :
    (∀ line ∈ lines, endsComment (trim line) = false) ∨
      ∃ inside last rest, lines = inside ++ last :: rest ∧
        (∀ line ∈ inside, endsComment (trim line) = false) ∧ endsComment (trim last) = true := by
  induction lines with
  | nil => exact .inl (by simp)
  | cons line lines ih =>
    cases hends : endsComment (trim line) with
    | true => exact .inr ⟨[], line, lines, rfl, by simp, hends⟩
    | false =>
      rcases ih with hnone | ⟨inside, last, rest, rfl, hlasts, hlast⟩
      · exact .inl (List.forall_mem_cons.mpr ⟨hends, hnone⟩)
      · exact .inr ⟨line :: inside, last, rest, rfl,
          List.forall_mem_cons.mpr ⟨hends, hlasts⟩, hlast⟩

/-- The numbered roles are a reading of the lines. Where a comment starts, the rules go on behind
its end and not in the next line, so the induction is on the number of lines. -/
theorem reading_number (n : Nat) (lines : List (List Char)) :
    Reading n lines (number n false lines) := by
  induction hlength : lines.length using Nat.strong_induction_on generalizing n lines with
  | _ length ih =>
    subst hlength
    cases lines with
    | nil => exact .nil
    | cons first rest =>
      cases hfirst : startsComment (trim first) with
      | false =>
        have hnumber : number n false (first :: rest) =
            (n, ofTrimmed (trim first)) :: number (n + 1) false rest := by
          simp [number, hfirst]
        rw [hnumber]
        exact .line hfirst (ofTrimmed_eq_iff.mp rfl) (ih _ (Nat.lt_succ_self _) _ _ rfl)
      | true =>
        have hstarts : StartWithComment (first :: rest) := ⟨first, rest, rfl, hfirst⟩
        rcases exists_last (first :: rest) with
          hlasts | ⟨inside, last, after, hlines, hlasts, hends⟩
        · rw [number_unended hstarts hlasts]
          exact .unended hstarts hlasts
        · have hstarts' : StartWithComment (inside ++ [last]) := by
            cases inside with
            | nil => exact ⟨last, [], rfl, (List.cons.inj hlines).1 ▸ hfirst⟩
            | cons line inside =>
              exact ⟨line, inside ++ [last], rfl, (List.cons.inj hlines).1 ▸ hfirst⟩
          have hshorter : after.length < (first :: rest).length := by
            rw [hlines, List.length_append, List.length_cons]
            omega
          rw [hlines, number_comment hstarts' hlasts hends]
          exact .comment hstarts' hlasts hends (ih _ hshorter _ _ rfl)

/-- Lines have one reading, and it is the one that an inspection works on. -/
theorem reading_iff : Reading n lines roles ↔ number n false lines = roles := by
  constructor
  · intro h
    induction h with
    | nil => rfl
    | line outside has _ ih =>
      simp only [number, outside, ofTrimmed_eq_iff.mpr has, ih, Bool.or_self, Bool.false_eq_true,
        if_false]
    | comment starts lasts ends _ ih => rw [number_comment starts lasts ends, ih]
    | unended starts lasts => exact number_unended starts lasts
  · rintro rfl
    exact reading_number n lines

/-- Every role of a reading can be read back from its text. -/
theorem Reading.legible (h : Reading n lines roles) : ∀ line ∈ roles, line.2.Legible := by
  induction h with
  | nil => simp
  | line _ has _ ih => exact List.forall_mem_cons.mpr ⟨has.legible, ih⟩
  | comment _ _ _ _ ih => exact ih
  | unended => simp

end Line

end LaneConvert
