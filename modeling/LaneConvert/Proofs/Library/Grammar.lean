import LaneConvert.Proofs.Library.Scan

/-!
# The grammar of accepted libraries

An inspection reads a library once and keeps five things in mind. What it accepts can be said
without any of them: the conditionals balance, no two functions have the same name and argument
type, and every directive comes after the end of the last function that has begun. Each of these
conditions looks at the roles of the lines alone. Lines are taken from the end here, because what an
inspection allows next depends on all that it has read.
-/

namespace LaneConvert

open Text

namespace Line

/-- The name and the argument type in the head of a function. -/
def head? : Line → Option (String × String)
  | signature name argument => some (name, argument)
  | _ => none

/-- Whether a line opens or closes a conditional. -/
def isDirective : Line → Bool
  | opening | closing => true
  | _ => false

/-- Whether a line begins or ends a function. -/
def isMark : Line → Bool
  | signature _ _ | brace => true
  | _ => false

/-- The heads of functions among the roles of lines. -/
def heads (roles : List Line) : List (String × String) := roles.filterMap head?

/-- The last line that begins or ends a function. -/
def lastMark? (roles : List Line) : Option Line := (roles.filter isMark).getLast?

/-- The number of functions that begin behind more openings than closings. -/
def guardedHeads (roles : List Line) : Nat :=
  (List.range roles.length).countP fun k =>
    (roles[k]?.bind head?).isSome &&
      decide ((roles.take k).count closing < (roles.take k).count opening)

/-- Lines that may stand at the beginning of an accepted library. -/
structure Orderly (roles : List Line) : Prop where
  /-- Nowhere have more conditionals been closed than opened. -/
  nested : ∀ before, before <+: roles → before.count closing ≤ before.count opening
  /-- No two functions have the same name and argument type. -/
  distinct : (heads roles).Nodup
  /-- If a function has begun before a directive, the last one has ended. -/
  apart : ∀ before line after, roles = before ++ line :: after → line.isDirective = true →
    ∀ mark, lastMark? before = some mark → mark = brace

/-- Lines that an accepted library consists of. -/
structure WellFormed (roles : List Line) : Prop extends Orderly roles where
  /-- Every conditional is closed. -/
  balanced : roles.count closing = roles.count opening

/-- A line goes on behind orderly lines. -/
structure Continues (roles : List Line) (line : Line) : Prop where
  /-- A closing line has a conditional to close. -/
  nested : line = closing → roles.count closing < roles.count opening
  /-- A function is new. -/
  distinct : ∀ head, line.head? = some head → head ∉ heads roles
  /-- A directive comes after the end of a function. -/
  apart : line.isDirective = true → ∀ mark, lastMark? roles = some mark → mark = brace

variable {roles : List Line} {line : Line}

/-- No roles at all are in order. -/
theorem orderly_nil : Orderly [] where
  nested before h := by
    rw [List.prefix_nil.mp h]
    exact Nat.le_refl _
  distinct := List.nodup_nil
  apart before line after h := by simp at h

/-- One more role adds its head to the heads. -/
theorem heads_concat (roles : List Line) (line : Line) :
    heads (roles ++ [line]) = heads roles ++ line.head?.toList := by
  cases line <;> simp [heads, head?]

/-- One more head counts as guarded if a conditional is open in front of it. -/
theorem guardedHeads_concat (roles : List Line) (line : Line) :
    guardedHeads (roles ++ [line]) = guardedHeads roles +
      if line.head?.isSome && decide (roles.count closing < roles.count opening) then 1 else 0 := by
  have hbefore : ∀ k ∈ List.range roles.length,
      (roles ++ [line])[k]? = roles[k]? ∧ (roles ++ [line]).take k = roles.take k := by
    intro k hk
    rw [List.mem_range] at hk
    exact ⟨List.getElem?_append_left hk, List.take_append_of_le_length hk.le⟩
  rw [guardedHeads, List.length_append, List.length_singleton, List.range_succ, List.countP_append,
    List.countP_singleton]
  congr 1
  · refine List.countP_congr fun k hk => ?_
    rw [(hbefore k hk).1, (hbefore k hk).2]
  · simp

/-- Orderly lines stay orderly exactly with a line that may go on behind them. -/
theorem orderly_concat : Orderly (roles ++ [line]) ↔ Orderly roles ∧ Continues roles line := by
  constructor
  · intro h
    refine ⟨⟨?_, ?_, ?_⟩, ⟨?_, ?_, ?_⟩⟩
    · exact fun before hbefore => h.nested before (hbefore.trans (List.prefix_append _ _))
    · have hdistinct := h.distinct
      rw [heads_concat] at hdistinct
      exact (List.nodup_append.mp hdistinct).1
    · rintro before d after rfl hd
      exact h.apart before d (after ++ [line]) (by simp) hd
    · rintro rfl
      have hcount := h.nested _ (List.prefix_refl _)
      simp at hcount
      omega
    · intro head hhead hmem
      have hdistinct := h.distinct
      rw [heads_concat, hhead] at hdistinct
      exact (List.nodup_append.mp hdistinct).2.2 head hmem head (by simp) rfl
    · exact fun hd => h.apart roles line [] rfl hd
  · rintro ⟨h, hline⟩
    refine ⟨?_, ?_, ?_⟩
    · intro before hbefore
      rcases List.prefix_concat_iff.mp hbefore with rfl | hbefore
      · have hcount := h.nested roles (List.prefix_refl _)
        have hclosing := hline.nested
        cases line <;> simp at hclosing ⊢ <;> omega
      · exact h.nested before hbefore
    · rw [heads_concat, List.nodup_append]
      refine ⟨h.distinct, by cases line.head? <;> simp, ?_⟩
      rintro head hhead other hother rfl
      exact hline.distinct head (by simpa using hother) hhead
    · intro before d after hsplit hd
      rcases List.eq_nil_or_concat after with rfl | ⟨after, last, rfl⟩
      · obtain ⟨rfl, hlast⟩ := List.append_inj' hsplit rfl
        obtain rfl := List.singleton_inj.mp hlast
        exact hline.apart hd
      · have hsplit' : roles ++ [line] = (before ++ d :: after) ++ [last] := by
          rw [hsplit]
          simp
        obtain ⟨rfl, -⟩ := List.append_inj' hsplit' rfl
        exact h.apart before d after rfl hd

/-- What identifies a function: its name with its argument type in parentheses. -/
def headText (head : String × String) : String := head.1 ++ "(" ++ head.2 ++ ")"

/-- A role has a head exactly if it is that of a function. -/
theorem head?_eq_some_iff {head : String × String} :
    line.head? = some head ↔ line = signature head.1 head.2 := by
  cases line <;> simp [head?, Prod.ext_iff]

/-- The words of a head are found in its text, because no parenthesis is part of a word. -/
theorem headText_inj {line' : Line} {head head' : String × String} (hline : line.Legible)
    (hline' : line'.Legible) (hhead : line.head? = some head) (hhead' : line'.head? = some head')
    (h : headText head = headText head') : head = head' := by
  obtain ⟨hname, -⟩ := hline _ _ (head?_eq_some_iff.mp hhead)
  obtain ⟨hname', -⟩ := hline' _ _ (head?_eq_some_iff.mp hhead')
  have hparenthesis : isWord '(' = false := by decide
  have hlists : head.1.toList ++ '(' :: (head.2.toList ++ [')']) =
      head'.1.toList ++ '(' :: (head'.2.toList ++ [')']) := by
    simpa [headText] using congrArg String.toList h
  obtain ⟨hnames, hrest⟩ :=
    append_inj_of_leaves hname hname' (leaves_cons hparenthesis) (leaves_cons hparenthesis) hlists
  have harguments := List.append_cancel_right (List.cons.inj hrest).2
  exact Prod.ext (String.toList_injective hnames) (String.toList_injective harguments)

end Line

namespace Inspection

open Line

/-- The function that a line begins, with the number of the line. -/
def functionAt? : Nat × Line → Option (String × Nat)
  | (n, line) => line.head?.map fun head => (headText head, n)

/-- What is known about lines is what the grammar says about them. -/
structure Follows (i : Inspection) (read : List (Nat × Line)) : Prop where
  /-- There is an opening for each conditional that is not closed. -/
  openings : i.openings.length + (read.map Prod.snd).count closing =
    (read.map Prod.snd).count opening
  /-- The signatures are those of the heads, the last one first. -/
  seen : i.seen = ((heads (read.map Prod.snd)).map headText).reverse
  /-- A function has not ended if no line behind its head begins or ends a function. -/
  current : i.current? = (read.filter fun line => line.2.isMark).getLast?.bind functionAt?
  /-- The functions are counted. -/
  functions : i.summary.functions = (heads (read.map Prod.snd)).length
  /-- The functions inside conditionals are counted. -/
  guarded : i.summary.guarded = guardedHeads (read.map Prod.snd)

/-- Before the first line nothing is kept in mind. -/
theorem follows_start : start.Follows [] := ⟨rfl, rfl, rfl, rfl, rfl⟩

variable {i j : Inspection} {read : List (Nat × Line)} {line : Nat × Line}

/-- What a line adds to each part of an inspection. -/
theorem Moves.adds (h : i.Moves line j) :
    j.openings.length + [line.2].count Line.closing =
        i.openings.length + [line.2].count Line.opening ∧
      j.seen = (line.2.head?.toList.map headText).reverse ++ i.seen ∧
      j.current? = (if line.2.isMark then functionAt? line else i.current?) ∧
      j.summary.functions = i.summary.functions + line.2.head?.toList.length ∧
      j.summary.guarded =
        i.summary.guarded + if line.2.head?.isSome && !i.openings.isEmpty then 1 else 0 := by
  cases h with
  | opening between => simp [head?, isMark]
  | closing between matched => simp [head?, isMark, matched]
  | signature fresh => cases hopenings : i.openings <;> simp [head?, isMark, functionAt?, headText]
  | brace => simp [head?, isMark, functionAt?]
  | other => simp [head?, isMark]

/-- A conditional is open exactly if fewer have been closed than opened. -/
theorem Follows.isEmpty_openings (h : i.Follows read) :
    (!i.openings.isEmpty) =
      decide ((read.map Prod.snd).count closing < (read.map Prod.snd).count opening) := by
  have hopenings := h.openings
  cases hempty : i.openings with
  | nil =>
    rw [hempty, List.length_nil] at hopenings
    simp only [List.isEmpty_nil, Bool.not_true]
    rw [eq_comm, decide_eq_false_iff_not]
    omega
  | cons n rest =>
    rw [hempty, List.length_cons] at hopenings
    simp only [List.isEmpty_cons, Bool.not_false]
    rw [eq_comm, decide_eq_true_eq]
    omega

/-- What an inspection keeps in mind goes on to follow the lines with every move. -/
theorem Follows.of_moves (h : i.Follows read) (hmoves : i.Moves line j) :
    j.Follows (read ++ [line]) := by
  obtain ⟨hopenings, hseen, hcurrent, hfunctions, hguarded⟩ := hmoves.adds
  have hroles : (read ++ [line]).map Prod.snd = read.map Prod.snd ++ [line.2] := by simp
  constructor
  · have hread := h.openings
    rw [hroles, List.count_append, List.count_append]
    omega
  · rw [hseen, h.seen, hroles, heads_concat, List.map_append, List.reverse_append]
  · rw [hcurrent, h.current, List.filter_append]
    cases hmark : line.2.isMark <;> simp [hmark]
  · rw [hfunctions, h.functions, hroles, heads_concat, List.length_append]
  · rw [hguarded, h.guarded, hroles, guardedHeads_concat, h.isEmpty_openings]

/-- Lines are read to the last one by reading those before it. -/
theorem run_concat_eq_ok_iff {k : Inspection} :
    i.run (read ++ [line]) = .ok k ↔ ∃ j, i.run read = .ok j ∧ j.Moves line k := by
  rw [run_append]
  cases hread : i.run read with
  | error e => simp [bind, Except.bind]
  | ok j =>
    have hlast : j.run [line] = .ok k ↔ j.Moves line k := by
      rw [run_cons_eq_ok_iff]
      constructor
      · rintro ⟨_, hmoves, hrun⟩
        obtain rfl := Except.ok.inj hrun
        exact hmoves
      · exact fun hmoves => ⟨k, hmoves, rfl⟩
    simpa [bind, Except.bind] using hlast

/-- An inspection that has read lines follows them. -/
theorem follows_of_run (h : start.run read = .ok i) : i.Follows read := by
  induction read using List.reverseRecOn generalizing i with
  | nil =>
    obtain rfl := Except.ok.inj h
    exact follows_start
  | append_singleton read line ih =>
    obtain ⟨j, hread, hmoves⟩ := run_concat_eq_ok_iff.mp h
    exact (ih hread).of_moves hmoves

/-- A function is open exactly if the last line that begins or ends one is not a brace. -/
theorem Follows.current_eq_none_iff (h : i.Follows read) :
    i.current? = none ↔ ∀ mark, lastMark? (read.map Prod.snd) = some mark → mark = .brace := by
  have hmarks : lastMark? (read.map Prod.snd) =
      (read.filter fun line => line.2.isMark).getLast?.map Prod.snd := by
    rw [lastMark?, List.filter_map, List.getLast?_map]
    rfl
  rw [h.current, hmarks]
  cases hlast : (read.filter fun line => line.2.isMark).getLast? with
  | none => simp
  | some line =>
    have hmark := (List.mem_filter.mp (List.mem_of_getLast? hlast)).2
    obtain ⟨n, role⟩ := line
    cases role <;> simp [functionAt?, head?, isMark] at hmark ⊢

/-- The signature of a legible head was seen exactly if the head was read. -/
theorem Follows.seen_iff (h : i.Follows read) (hread : ∀ line ∈ read, line.2.Legible)
    {role : Line} (hrole : role.Legible) {head : String × String} (hhead : role.head? = some head) :
    headText head ∈ i.seen ↔ head ∈ heads (read.map Prod.snd) := by
  rw [h.seen, List.mem_reverse, List.mem_map]
  constructor
  · rintro ⟨other, hother, htext⟩
    obtain ⟨role', hrole', hhead'⟩ := List.mem_filterMap.mp hother
    obtain ⟨line, hline, rfl⟩ := List.mem_map.mp hrole'
    rwa [headText_inj hrole (hread line hline) hhead hhead' htext.symm]
  · exact fun hmem => ⟨head, hmem, rfl⟩

/-- An inspection accepts exactly the lines that the grammar lets go on. -/
theorem Follows.exists_moves_iff (h : i.Follows read) (hread : ∀ line ∈ read, line.2.Legible)
    (hline : line.2.Legible) :
    (∃ j, i.Moves line j) ↔ Continues (read.map Prod.snd) line.2 := by
  have hbetween := h.current_eq_none_iff
  have hopenings := h.openings
  obtain ⟨n, role⟩ := line
  constructor
  · rintro ⟨j, hmoves⟩
    cases hmoves with
    | opening between =>
      exact ⟨by simp, by simp [head?], fun _ => hbetween.mp between⟩
    | closing between matched =>
      refine ⟨fun _ => ?_, by simp [head?], fun _ => hbetween.mp between⟩
      rw [matched, List.length_cons] at hopenings
      omega
    | signature fresh =>
      refine ⟨by simp, ?_, by simp [isDirective]⟩
      intro head hhead hmem
      obtain rfl := Option.some.inj hhead
      exact fresh ((h.seen_iff hread hline rfl).mpr hmem)
    | brace => exact ⟨by simp, by simp [head?], by simp [isDirective]⟩
    | other => exact ⟨by simp, by simp [head?], by simp [isDirective]⟩
  · intro hcontinues
    cases role with
    | opening => exact ⟨_, .opening (hbetween.mpr (hcontinues.apart rfl))⟩
    | closing =>
      have hcount := hcontinues.nested rfl
      obtain ⟨m, rest, hmatched⟩ : ∃ m rest, i.openings = m :: rest := by
        refine List.exists_cons_of_ne_nil ?_
        intro hnil
        rw [hnil, List.length_nil] at hopenings
        omega
      exact ⟨_, .closing (hbetween.mpr (hcontinues.apart rfl)) hmatched⟩
    | signature name argument =>
      refine ⟨_, .signature fun hseen => ?_⟩
      exact hcontinues.distinct _ rfl ((h.seen_iff hread hline rfl).mp hseen)
    | brace => exact ⟨_, .brace⟩
    | other => exact ⟨_, .other⟩

/-- A run from the start goes through exactly if the lines are orderly. -/
theorem exists_run_iff (hread : ∀ line ∈ read, line.2.Legible) :
    (∃ i, start.run read = .ok i) ↔ Orderly (read.map Prod.snd) := by
  induction read using List.reverseRecOn with
  | nil => exact ⟨fun _ => orderly_nil, fun _ => ⟨start, rfl⟩⟩
  | append_singleton read line ih =>
    have hbefore : ∀ line ∈ read, line.2.Legible := fun l hl => hread l (List.mem_append_left _ hl)
    have hline : line.2.Legible := hread line (by simp)
    rw [List.map_append, List.map_singleton, orderly_concat, ← ih hbefore]
    constructor
    · rintro ⟨k, hrun⟩
      obtain ⟨i, hi, hmoves⟩ := run_concat_eq_ok_iff.mp hrun
      exact ⟨⟨i, hi⟩, ((follows_of_run hi).exists_moves_iff hbefore hline).mp ⟨k, hmoves⟩⟩
    · rintro ⟨⟨i, hi⟩, hcontinues⟩
      obtain ⟨k, hmoves⟩ := ((follows_of_run hi).exists_moves_iff hbefore hline).mpr hcontinues
      exact ⟨k, run_concat_eq_ok_iff.mpr ⟨i, hi, hmoves⟩⟩

/-- At the end the counts are given exactly if no conditional is open. -/
theorem finish_eq_ok_iff {summary : Summary} :
    i.finish = .ok summary ↔ i.openings = [] ∧ summary = i.summary := by
  unfold finish
  split
  · next h => simp [h, eq_comm]
  · next h => simp [h]

end Inspection

open Line Inspection

/-- What an inspection accepts, said of the lines it has read. -/
theorem inspect_iff {text : String} {read : List (Nat × Line)}
    (h : Reading 1 (Text.lines text.toList) read) {summary : Summary} :
    inspect text = .ok summary ↔ WellFormed (read.map Prod.snd) ∧
      summary = ⟨(heads (read.map Prod.snd)).length, guardedHeads (read.map Prod.snd)⟩ := by
  have hnumbered : Line.numbered text = read := reading_iff.mp h
  have horderly := exists_run_iff h.legible
  rw [inspect, hnumbered]
  cases hrun : start.run read with
  | error e =>
    have hnone : ¬ WellFormed (read.map Prod.snd) := by
      intro hformed
      obtain ⟨i, hi⟩ := horderly.mpr hformed.toOrderly
      cases hrun.symm.trans hi
    simp [bind, Except.bind, hnone]
  | ok i =>
    have hfollows := follows_of_run hrun
    have hopenings := hfollows.openings
    have hsummary : i.summary =
        ⟨(heads (read.map Prod.snd)).length, guardedHeads (read.map Prod.snd)⟩ := by
      rw [← hfollows.functions, ← hfollows.guarded]
    have hfinish : (Except.ok i >>= Inspection.finish) = .ok summary ↔
        i.openings = [] ∧ summary = i.summary := finish_eq_ok_iff
    rw [hfinish, hsummary]
    refine and_congr_left' ⟨?_, ?_⟩
    · intro hempty
      rw [hempty, List.length_nil, Nat.zero_add] at hopenings
      exact ⟨horderly.mp ⟨i, hrun⟩, hopenings⟩
    · intro hformed
      have hbalanced := hformed.balanced
      exact List.eq_nil_of_length_eq_zero (by omega)

/-- A library is accepted exactly if the lines outside comments, each with the role whose pattern it
matches, are well formed: conditionals balance, functions differ in name or argument type, and no
directive stands behind the head of a function that has not ended. Then all functions are counted,
and those that begin inside a conditional. -/
theorem inspect_eq_ok_iff (text : String) :
    ∃ read, Reading 1 (Text.lines text.toList) read ∧
      (∀ roles, Reading 1 (Text.lines text.toList) roles → roles = read) ∧
      ∀ summary, inspect text = .ok summary ↔ WellFormed (read.map Prod.snd) ∧
        summary = ⟨(heads (read.map Prod.snd)).length, guardedHeads (read.map Prod.snd)⟩ := by
  have hread := reading_number 1 (Text.lines text.toList)
  refine ⟨_, hread, ?_, fun summary => inspect_iff hread⟩
  intro roles hroles
  exact (reading_iff.mp hroles).symm

end LaneConvert
