import Mathlib
import LaneConvert.Proofs.Text.Lines

/-!
# Preprocessing

A compiler that reads a library first decides which of its lines count. This is the part of that
which libraries rely on: conditionals on whether macros are defined, and the directive that stops
the compiler. All other directives are left out and have no effect. Lines inside a conditional that
does not hold are left out as well, and their directives only count to find its end.
-/

namespace LaneConvert.Preprocessing

open Text

/-- Which macros are defined. -/
abbrev Macros := String → Bool

/-- A piece of a condition. -/
inductive Token where
  | word (name : String)
  | not
  | and
  | or
  | opening
  | closing
  /-- A character that no condition has. -/
  | stray (c : Char)
  deriving DecidableEq, Repr

/-- The piece that a word makes, if it has any characters. -/
def wordToken (word : List Char) : List Token :=
  if word.isEmpty then [] else [.word (String.ofList word)]

/-- The piece that a character outside words makes. Blanks only separate. -/
def symbolToken (c : Char) : List Token :=
  if isBlank c then []
  else if c = '!' then [.not]
  else if c = '(' then [.opening]
  else if c = ')' then [.closing]
  else [.stray c]

/-- The pieces of a text behind the beginning of a word. -/
def tokens (word : List Char) : List Char → List Token
  | [] => wordToken word
  | '&' :: '&' :: rest => wordToken word ++ .and :: tokens [] rest
  | '|' :: '|' :: rest => wordToken word ++ .or :: tokens [] rest
  | c :: rest =>
    if isWord c then tokens (word ++ [c]) rest
    else wordToken word ++ symbolToken c ++ tokens [] rest

/-- Whether an operand holds: a macro is defined, or some operand does not hold. -/
def operand? (macros : Macros) : List Token → Option Bool
  | .not :: rest => (operand? macros rest).map (!·)
  | [.word "defined", .word name] => some (macros name)
  | [.word "defined", .opening, .word name, .closing] => some (macros name)
  | _ => none

/-- Whether all operands of a conjunction hold. -/
def conjunction? (macros : Macros) (ts : List Token) : Option Bool :=
  ((ts.splitOn .and).mapM (operand? macros)).map fun operands => operands.all id

/-- Whether some alternative of a condition holds, where a conjunction binds its operands more
tightly. -/
def condition? (macros : Macros) (ts : List Token) : Option Bool :=
  ((ts.splitOn .or).mapM (conjunction? macros)).map fun alternatives => alternatives.any id

/-- Whether the one macro that is named is defined. -/
def named? (macros : Macros) : List Token → Option Bool
  | [.word name] => some (macros name)
  | _ => none

/-- Why there is nothing left to compile. -/
inductive Fault where
  /-- The directive that stops the compiler was reached. -/
  | stopped
  /-- A condition cannot be read. -/
  | unreadable
  /-- The conditionals do not pair up. -/
  | unbalanced
  deriving DecidableEq, Repr

/-- The word and the rest of a directive, if the line begins with a number sign. -/
def directive? (line : List Char) : Option (String × List Char) :=
  match trimStart line with
  | '#' :: rest =>
    some (String.ofList (splitWord (trimStart rest)).1, (splitWord (trimStart rest)).2)
  | _ => none

/-- Whether lines count that stand in conditionals, where each of these holds or not. -/
def isActive (levels : List Bool) : Bool := levels.all id

/-- A conditional begins. Its condition is looked at only where lines count. -/
def opened (levels : List Bool) (holds? : Option Bool) : Except Fault (List Bool) :=
  if isActive levels then
    match holds? with
    | some holds => .ok (holds :: levels)
    | none => .error .unreadable
  else .ok (false :: levels)

/-- The innermost conditional ends. -/
def closed : List Bool → Except Fault (List Bool)
  | [] => .error .unbalanced
  | _ :: rest => .ok rest

/-- The conditionals behind a directive. -/
def behind (macros : Macros) (levels : List Bool) (word : String) (argument : List Char) :
    Except Fault (List Bool) :=
  if word = "ifdef" then opened levels (named? macros (tokens [] argument))
  else if word = "if" then opened levels (condition? macros (tokens [] argument))
  else if word = "endif" then closed levels
  else if word = "error" && isActive levels then .error .stopped
  else .ok levels

/-- The conditionals behind some lines, and the lines that count. -/
def run (macros : Macros) (levels : List Bool) :
    List (List Char) → Except Fault (List Bool × List (List Char))
  | [] => .ok (levels, [])
  | line :: rest =>
    match directive? line with
    | some (word, argument) =>
      match behind macros levels word argument with
      | .ok after => run macros after rest
      | .error fault => .error fault
    | none =>
      (run macros levels rest).map fun r => (r.1, if isActive levels then line :: r.2 else r.2)

/-- The lines of a text that are compiled. -/
def preprocess (macros : Macros) (text : String) : Except Fault (List (List Char)) :=
  match run macros [] (lines text.toList) with
  | .ok ([], kept) => .ok kept
  | .ok (_ :: _, _) => .error .unbalanced
  | .error fault => .error fault

variable {macros : Macros} {levels after : List Bool} {line argument : List Char} {word : String}
  {a b kept more : List (List Char)}

/-- A line whose first character is neither a blank nor a number sign is no directive. -/
theorem directive?_cons_of_ne {c : Char} (hblank : isBlank c = false) (hc : c ≠ '#')
    (cs : List Char) : directive? (c :: cs) = none := by
  have htrim : trimStart (c :: cs) = c :: cs := dropWhile_of_leaves (leaves_cons hblank)
  rw [directive?, htrim]
  split
  · next hline => exact absurd (List.cons.inj hline).1 hc
  · rfl

/-- A line that does not begin with a number sign, blanks aside, is no directive. -/
theorem directive?_of_head?_trim {cs : List Char} (h : (trim cs).head? ≠ some '#') :
    directive? cs = none := by
  rw [head?_trim] at h
  rw [directive?]
  split
  · next hline => exact absurd (by rw [hline]; rfl) h
  · rfl

/-- A line that is no directive counts where its conditionals hold. -/
theorem run_plain (h : directive? line = none) (rest : List (List Char)) :
    run macros levels (line :: rest) =
      (run macros levels rest).map fun r =>
        (r.1, if isActive levels then line :: r.2 else r.2) := by
  rw [run, h]

/-- A directive changes the conditionals of the lines behind it and does not count itself. -/
theorem run_directive (h : directive? line = some (word, argument))
    (hbehind : behind macros levels word argument = .ok after) (rest : List (List Char)) :
    run macros levels (line :: rest) = run macros after rest := by
  rw [run, h]
  dsimp only
  rw [hbehind]

/-- Lines that leave the conditionals as they are, and those of them that count. -/
def Passes (macros : Macros) (levels : List Bool) (a kept : List (List Char)) : Prop :=
  ∀ rest, run macros levels (a ++ rest) =
    (run macros levels rest).map fun r => (r.1, kept ++ r.2)

/-- Lines at which the compiler is stopped. -/
def Stops (macros : Macros) (levels : List Bool) (a : List (List Char)) : Prop :=
  ∀ rest, run macros levels (a ++ rest) = .error .stopped

namespace Passes

/-- No lines at all pass. -/
theorem nil (macros : Macros) (levels : List Bool) : Passes macros levels [] [] := by
  intro rest
  rw [List.nil_append]
  cases run macros levels rest <;> rfl

/-- Stretches of lines count one after another. -/
theorem append (ha : Passes macros levels a kept) (hb : Passes macros levels b more) :
    Passes macros levels (a ++ b) (kept ++ more) := by
  intro rest
  rw [List.append_assoc, ha, hb]
  cases run macros levels rest <;> simp [Except.map]

/-- Behind lines that pass, the compiler may still be stopped. -/
theorem stops (ha : Passes macros levels a kept) (hb : Stops macros levels b) :
    Stops macros levels (a ++ b) := by
  intro rest
  rw [List.append_assoc, ha, hb]
  rfl

/-- A line that is no directive counts where its conditionals hold. -/
theorem cons_plain (h : directive? line = none) (ha : Passes macros levels a kept) :
    Passes macros levels (line :: a) (if isActive levels then line :: kept else kept) := by
  intro rest
  rw [List.cons_append, run_plain h, ha]
  cases run macros levels rest <;> cases isActive levels <;> rfl

/-- A directive that changes nothing is left out. -/
theorem cons_directive (h : directive? line = some (word, argument))
    (hbehind : behind macros levels word argument = .ok levels)
    (ha : Passes macros levels a kept) : Passes macros levels (line :: a) kept := by
  intro rest
  rw [List.cons_append, run_directive h hbehind, ha]

/-- A conditional counts as the lines inside it do. -/
theorem conditional {holds : Bool} {closing argument' : List Char}
    (h : directive? line = some (word, argument))
    (hbehind : behind macros levels word argument = .ok (holds :: levels))
    (ha : Passes macros (holds :: levels) a kept)
    (hclosing : directive? closing = some ("endif", argument')) :
    Passes macros levels (line :: a ++ [closing]) kept := by
  intro rest
  rw [List.cons_append, List.cons_append, List.append_assoc, run_directive h hbehind, ha,
    List.singleton_append, run_directive hclosing rfl]

/-- Lines without directives count together. -/
theorem of_plain (h : ∀ line ∈ a, directive? line = none) :
    Passes macros levels a (if isActive levels then a else []) := by
  induction a with
  | nil => simpa using nil macros levels
  | cons line rest ih =>
    rw [List.forall_mem_cons] at h
    have hline := cons_plain h.1 (ih h.2)
    cases hactive : isActive levels <;> simpa [hactive] using hline

/-- A text all of whose lines pass is compiled as the lines that count. -/
theorem preprocess {text : String} (h : Passes macros [] (lines text.toList) kept) :
    preprocess macros text = .ok kept := by
  have hrun := h []
  rw [List.append_nil] at hrun
  rw [Preprocessing.preprocess, hrun]
  simp [run, Except.map]

end Passes

/-- Lines of which only empty ones count. -/
def Vanishes (macros : Macros) (levels : List Bool) (a : List (List Char)) : Prop :=
  ∃ kept, Passes macros levels a kept ∧ ∀ line ∈ kept, line = []

namespace Vanishes

/-- No lines at all vanish. -/
theorem nil (macros : Macros) (levels : List Bool) : Vanishes macros levels [] :=
  ⟨[], .nil macros levels, by simp⟩

/-- Stretches of lines vanish one after another. -/
theorem append (ha : Vanishes macros levels a) (hb : Vanishes macros levels b) :
    Vanishes macros levels (a ++ b) := by
  obtain ⟨kept, hkept, hempty⟩ := ha
  obtain ⟨more, hmore, hempty'⟩ := hb
  refine ⟨kept ++ more, hkept.append hmore, ?_⟩
  intro line hline
  exact (List.mem_append.mp hline).elim (hempty line) (hempty' line)

/-- An empty line can be put in front of lines that vanish. -/
theorem cons_empty (ha : Vanishes macros levels a) : Vanishes macros levels ([] :: a) := by
  obtain ⟨kept, hkept, hempty⟩ := ha
  refine ⟨_, .cons_plain rfl hkept, ?_⟩
  split
  · exact List.forall_mem_cons.mpr ⟨rfl, hempty⟩
  · exact hempty

/-- A directive that changes nothing can be put in front of lines that vanish. -/
theorem cons_directive (h : directive? line = some (word, argument))
    (hbehind : behind macros levels word argument = .ok levels)
    (ha : Vanishes macros levels a) : Vanishes macros levels (line :: a) := by
  obtain ⟨kept, hkept, hempty⟩ := ha
  exact ⟨kept, .cons_directive h hbehind hkept, hempty⟩

/-- A conditional vanishes if the lines inside it do. -/
theorem conditional {holds : Bool} {closing argument' : List Char}
    (h : directive? line = some (word, argument))
    (hbehind : behind macros levels word argument = .ok (holds :: levels))
    (ha : Vanishes macros (holds :: levels) a)
    (hclosing : directive? closing = some ("endif", argument')) :
    Vanishes macros levels (line :: a ++ [closing]) := by
  obtain ⟨kept, hkept, hempty⟩ := ha
  exact ⟨kept, .conditional h hbehind hkept hclosing, hempty⟩

end Vanishes

namespace Stops

/-- Nothing behind the line matters at which the compiler is stopped. -/
theorem append (ha : Stops macros levels a) (b : List (List Char)) :
    Stops macros levels (a ++ b) := by
  intro rest
  rw [List.append_assoc, ha]

/-- The compiler is stopped where the directive that does so counts. -/
theorem cons_error (h : directive? line = some ("error", argument))
    (hactive : isActive levels = true) (a : List (List Char)) :
    Stops macros levels (line :: a) := by
  have hbehind : behind macros levels "error" argument = .error .stopped := by
    simp [behind, hactive]
  intro rest
  rw [List.cons_append, run, h]
  dsimp only
  rw [hbehind]

/-- A line that is no directive can be put in front of lines at which the compiler is stopped. -/
theorem cons_plain (h : directive? line = none) (ha : Stops macros levels a) :
    Stops macros levels (line :: a) := by
  intro rest
  rw [List.cons_append, run_plain h, ha]
  rfl

/-- A directive that is accepted can be put in front of lines at which the compiler is stopped. -/
theorem cons_directive (h : directive? line = some (word, argument))
    (hbehind : behind macros levels word argument = .ok after) (ha : Stops macros after a) :
    Stops macros levels (line :: a) := by
  intro rest
  rw [List.cons_append, run_directive h hbehind, ha]

/-- A text at whose lines the compiler is stopped is not compiled. -/
theorem preprocess {text : String} (h : Stops macros [] (lines text.toList)) :
    preprocess macros text = .error .stopped := by
  have hrun := h []
  rw [List.append_nil] at hrun
  rw [Preprocessing.preprocess, hrun]

end Stops

end LaneConvert.Preprocessing
