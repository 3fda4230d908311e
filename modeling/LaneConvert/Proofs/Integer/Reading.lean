import LaneConvert.Proofs.Integer.Evaluation

/-!
# Reading written expressions

An expression is written out before anybody evaluates it, so its value is taken from the text here:
the text falls into words and marks, and these are read as the target language reads them, a cast
before what it is applied to, a call with its arguments, a name by itself. What is left unread or
badly typed has no value. A cast and a clamp that are written out are read as they are evaluated.
-/

namespace LaneConvert

open Text

/-- A piece of a written expression. -/
inductive Piece where
  /-- Letters, digits and underscores in a row. -/
  | word (letters : List Char)
  /-- Any other character that is not blank. -/
  | mark (c : Char)
  deriving DecidableEq

/-- The pieces of a text. Blanks only set words apart. -/
def cutUp (cs : List Char) : List Piece :=
  match cs with
  | [] => []
  | c :: rest =>
    if isWord c then .word (c :: (splitWord rest).1) :: cutUp (splitWord rest).2
    else if isBlank c then cutUp rest
    else .mark c :: cutUp rest
termination_by cs.length
decreasing_by
  · exact Nat.lt_succ_of_le (List.dropWhile_suffix _).length_le
  · exact Nat.lt_succ_self _
  · exact Nat.lt_succ_self _

/-- The empty text has no pieces. -/
@[simp] theorem cutUp_nil : cutUp [] = [] := by rw [cutUp]

/-- Word characters in a row are one piece if the text goes on outside words. -/
theorem cutUp_word {w rest : List Char} (hne : w ≠ []) (hw : ∀ c ∈ w, isWord c = true)
    (hrest : Leaves isWord rest) : cutUp (w ++ rest) = .word w :: cutUp rest := by
  obtain ⟨c, w, rfl⟩ := List.exists_cons_of_ne_nil hne
  obtain ⟨hc, hw⟩ := List.forall_mem_cons.mp hw
  rw [List.cons_append, cutUp, if_pos hc, splitWord_append_of_leaves hw hrest]

/-- A character that is neither blank nor part of a word is a piece. -/
theorem cutUp_mark {c : Char} (hword : isWord c = false) (hblank : isBlank c = false)
    (rest : List Char) : cutUp (c :: rest) = .mark c :: cutUp rest := by
  simp [cutUp, hword, hblank]

/-- A blank in front of a text makes no piece. -/
theorem cutUp_blank {c : Char} (hword : isWord c = false) (hblank : isBlank c = true)
    (rest : List Char) : cutUp (c :: rest) = cutUp rest := by
  rw [cutUp]
  simp [hword, hblank]

/-- A number that was read. A limit has no type until it is cast. -/
structure Quantity where
  /-- The type of the number, if it has one. -/
  type? : Option Scalar
  /-- The number itself. -/
  value : Int
  deriving DecidableEq

namespace Quantity

/-- The number that a name stands for, where the argument has a type and a value. -/
def ofName? (source : Scalar) (x : Int) (name : String) : Option Quantity :=
  if name = "x" then some ⟨some source, x⟩ else (limit? name).map fun n => ⟨none, n⟩

/-- A number cast to a type. -/
def cast (t : Scalar) (q : Quantity) : Quantity := ⟨some t, t.wrap q.value⟩

/-- The result of a function of the target language. The arguments have one type, which is that of
the result, and the bounds of a clamp are in order. -/
def ofCall? (function : String) (arguments : List Quantity) : Option Quantity :=
  match arguments with
  | [a, b] =>
    if a.type?.isSome ∧ b.type? = a.type? then
      if function = "min" then some ⟨a.type?, min a.value b.value⟩
      else if function = "max" then some ⟨a.type?, max a.value b.value⟩
      else none
    else none
  | [a, low, high] =>
    if a.type?.isSome ∧ low.type? = a.type? ∧ high.type? = a.type? then
      if function = "clamp" ∧ low.value ≤ high.value then
        some ⟨a.type?, max low.value (min a.value high.value)⟩
      else none
    else none
  | _ => none

end Quantity

/-- The type that the pieces behind an opening parenthesis cast to, with what is cast. -/
def castTarget? : List Piece → Option (Scalar × List Piece)
  | .word w :: .mark ')' :: rest => (Scalar.ofName? (String.ofList w)).map (·, rest)
  | _ => none

mutual

/-- Read one number off the front, with what is left. The steps are bounded by a number: a call goes
past two pieces before its first argument, and past a comma before each other one, so no text needs
more steps than it has pieces. -/
def readNumber (source : Scalar) (x : Int) : Nat → List Piece → Option (Quantity × List Piece)
  | n + 1, .mark '(' :: rest =>
    match castTarget? rest with
    | some (t, rest) => (readNumber source x n rest).map fun (q, rest) => (q.cast t, rest)
    | none =>
      match readNumber source x n rest with
      | some (q, .mark ')' :: rest) => some (q, rest)
      | _ => none
  | n + 1, .word f :: .mark '(' :: rest =>
    match readArguments source x n rest with
    | some (arguments, rest) => (Quantity.ofCall? (String.ofList f) arguments).map (·, rest)
    | none => none
  | _ + 1, .word w :: rest => (Quantity.ofName? source x (String.ofList w)).map (·, rest)
  | _, _ => none

/-- Read numbers with commas between them up to a closing parenthesis. -/
def readArguments (source : Scalar) (x : Int) :
    Nat → List Piece → Option (List Quantity × List Piece)
  | n + 1, rest =>
    match readNumber source x n rest with
    | some (q, .mark ',' :: rest) =>
      (readArguments source x n rest).map fun (arguments, rest) => (q :: arguments, rest)
    | some (q, .mark ')' :: rest) => some ([q], rest)
    | _ => none
  | _, _ => none

end

/-- The type and the value of a written expression, where the argument has a type and a value. -/
def readText? (source : Scalar) (x : Int) (text : String) : Option (Scalar × Int) :=
  match readNumber source x (cutUp text.toList).length (cutUp text.toList) with
  | some (⟨some t, y⟩, []) => some (t, y)
  | _ => none

/-- The pieces of a type in parentheses. -/
def castPieces (t : Scalar) : List Piece := [.mark '(', .word t.name.toList, .mark ')']

/-- The pieces of a bound. -/
def boundPieces (source : Scalar) (limit : String) : List Piece :=
  castPieces source ++ [.word limit.toList]

/-- The pieces of a call on the argument and on bounds. -/
def callPieces (function : String) (bounds : List Piece) : List Piece :=
  .word function.toList :: .mark '(' :: .word "x".toList :: .mark ',' :: (bounds ++ [.mark ')'])

/-- The pieces of an argument brought within bounds. -/
def clampPieces (source : Scalar) : Option String → Option String → List Piece
  | some min, some max =>
    callPieces "clamp" (boundPieces source min ++ .mark ',' :: boundPieces source max)
  | none, some max => callPieces "min" (boundPieces source max)
  | some min, none => callPieces "max" (boundPieces source min)
  | none, none => [.word "x".toList]

/-- The bounds of a clamp are words for limits. -/
def AreLimits (min? max? : Option String) : Prop :=
  (∀ limit ∈ min?, ∃ k, limit? limit = some k) ∧ ∀ limit ∈ max?, ∃ k, limit? limit = some k

variable {source t : Scalar} {x : Int} {limit : String} {k : Int}

/-- An opening parenthesis is a piece. -/
theorem cutUp_opening (rest : List Char) : cutUp ('(' :: rest) = .mark '(' :: cutUp rest :=
  cutUp_mark (by decide) (by decide) rest

/-- A closing parenthesis is a piece. -/
theorem cutUp_closing (rest : List Char) : cutUp (')' :: rest) = .mark ')' :: cutUp rest :=
  cutUp_mark (by decide) (by decide) rest

/-- A comma with a space behind it is one piece. -/
theorem cutUp_comma (rest : List Char) :
    cutUp (',' :: ' ' :: rest) = .mark ',' :: cutUp rest := by
  rw [cutUp_mark (by decide) (by decide), cutUp_blank (by decide) (by decide)]

/-- A closing parenthesis ends a word. -/
theorem leaves_closing (rest : List Char) : Leaves isWord (')' :: rest) := leaves_cons (by decide)

/-- The name of a scalar type is one word. -/
theorem cutUp_typeName (t : Scalar) {rest : List Char} (hrest : Leaves isWord rest) :
    cutUp (t.name.toList ++ rest) = .word t.name.toList :: cutUp rest := by
  have hne : t.name.toList ≠ [] := by cases t <;> decide
  have hword : ∀ c ∈ t.name.toList, isWord c = true := fun c hc =>
    isWord_of_isNameChar (by simp [isNameChar, t.isLower_name c hc])
  exact cutUp_word hne hword hrest

/-- The argument is one word. -/
theorem cutUp_argument {rest : List Char} (hrest : Leaves isWord rest) :
    cutUp ('x' :: rest) = .word "x".toList :: cutUp rest := by
  have hword : ∀ c ∈ "x".toList, isWord c = true := List.all_eq_true.mp (by decide)
  exact cutUp_word (by decide) hword hrest

/-- The word for a limit is one word. -/
theorem cutUp_limit (h : limit? limit = some k) {rest : List Char} (hrest : Leaves isWord rest) :
    cutUp (limit.toList ++ rest) = .word limit.toList :: cutUp rest := by
  have hword : limit.toList ≠ [] ∧ ∀ c ∈ limit.toList, isWord c = true := by
    unfold limit? at h
    split at h
    all_goals first | exact ⟨by decide, List.all_eq_true.mp (by decide)⟩ | cases h
  exact cutUp_word hword.1 hword.2 hrest

/-- The pieces of a written cast are those of the type in parentheses and of the operand in
parentheses. -/
theorem cutUp_castText (t : Scalar) (operand : String) :
    cutUp (Expression.castText t.name operand).toList =
      castPieces t ++ .mark '(' :: cutUp (operand.toList ++ [')']) := by
  have htext : (Expression.castText t.name operand).toList =
      '(' :: (t.name.toList ++ ')' :: '(' :: (operand.toList ++ [')'])) := by
    simp [Expression.castText]
  rw [htext, cutUp_opening, cutUp_typeName t (leaves_closing _), cutUp_closing, cutUp_opening]
  rfl

/-- The pieces of a written bound are those of the type and of the limit. -/
theorem cutUp_boundText (source : Scalar) (h : limit? limit = some k) {rest : List Char}
    (hrest : Leaves isWord rest) :
    cutUp ((Expression.boundText source limit).toList ++ rest) =
      boundPieces source limit ++ cutUp rest := by
  have htext : (Expression.boundText source limit).toList ++ rest =
      '(' :: (source.name.toList ++ ')' :: (limit.toList ++ rest)) := by
    simp [Expression.boundText]
  rw [htext, cutUp_opening, cutUp_typeName source (leaves_closing _), cutUp_closing,
    cutUp_limit h hrest]
  rfl

/-- A function name stands apart from its arguments, and so do the arguments. -/
theorem cutUp_call {function : String} (hne : function.toList ≠ [])
    (hword : function.toList.all isWord = true) (behind : List Char) :
    cutUp (function.toList ++ '(' :: 'x' :: ',' :: ' ' :: behind) =
      .word function.toList :: .mark '(' :: .word "x".toList :: .mark ',' :: cutUp behind := by
  rw [cutUp_word hne (List.all_eq_true.mp hword) (leaves_cons (by decide)), cutUp_opening,
    cutUp_argument (leaves_cons (by decide)), cutUp_comma]

/-- The pieces of a written clamp are those of the function, the argument and the bounds it has. -/
theorem cutUp_clampText {min? max? : Option String} (h : AreLimits min? max?) (rest : List Char) :
    cutUp ((Expression.clampText source min? max?).toList ++ ')' :: rest) =
      clampPieces source min? max? ++ .mark ')' :: cutUp rest := by
  obtain ⟨hmin, hmax⟩ := h
  cases min? with
  | none =>
    cases max? with
    | none =>
      have htext : (Expression.clampText source none none).toList ++ ')' :: rest =
          'x' :: ')' :: rest := by
        simp [Expression.clampText]
      rw [htext, cutUp_argument (leaves_closing rest), cutUp_closing]
      rfl
    | some max =>
      obtain ⟨k, hk⟩ := hmax max rfl
      have htext : (Expression.clampText source none (some max)).toList ++ ')' :: rest =
          "min".toList ++ '(' :: 'x' :: ',' :: ' ' ::
            ((Expression.boundText source max).toList ++ ')' :: ')' :: rest) := by
        simp [Expression.clampText]
      rw [htext, cutUp_call (by decide) (by decide), cutUp_boundText source hk (leaves_closing _),
        cutUp_closing, cutUp_closing]
      simp [clampPieces, callPieces]
  | some min =>
    obtain ⟨j, hj⟩ := hmin min rfl
    cases max? with
    | none =>
      have htext : (Expression.clampText source (some min) none).toList ++ ')' :: rest =
          "max".toList ++ '(' :: 'x' :: ',' :: ' ' ::
            ((Expression.boundText source min).toList ++ ')' :: ')' :: rest) := by
        simp [Expression.clampText]
      rw [htext, cutUp_call (by decide) (by decide), cutUp_boundText source hj (leaves_closing _),
        cutUp_closing, cutUp_closing]
      simp [clampPieces, callPieces]
    | some max =>
      obtain ⟨k, hk⟩ := hmax max rfl
      have htext : (Expression.clampText source (some min) (some max)).toList ++ ')' :: rest =
          "clamp".toList ++ '(' :: 'x' :: ',' :: ' ' ::
            ((Expression.boundText source min).toList ++ ',' :: ' ' ::
              ((Expression.boundText source max).toList ++ ')' :: ')' :: rest)) := by
        simp [Expression.clampText]
      rw [htext, cutUp_call (by decide) (by decide),
        cutUp_boundText source hj (leaves_cons (by decide)), cutUp_comma,
        cutUp_boundText source hk (leaves_closing _), cutUp_closing, cutUp_closing]
      simp [clampPieces, callPieces]

section Steps

variable {n : Nat} {pieces rest : List Piece} {q : Quantity} {arguments : List Quantity}

/-- A cast in front of a number is read as the number, cast to the type. -/
theorem readNumber_cast (t : Scalar) (n : Nat) (pieces : List Piece) :
    readNumber source x (n + 1) (castPieces t ++ pieces) =
      (readNumber source x n pieces).map fun (q, rest) => (q.cast t, rest) := by
  have htarget : castTarget? (.word t.name.toList :: .mark ')' :: pieces) = some (t, pieces) := by
    simp [castTarget?, Scalar.ofName?_name]
  simp [castPieces, readNumber, htarget]

/-- Parentheses around a number that are no cast are left out. -/
theorem readNumber_group (hcast : castTarget? pieces = none)
    (h : readNumber source x n pieces = some (q, .mark ')' :: rest)) :
    readNumber source x (n + 1) (.mark '(' :: pieces) = some (q, rest) := by
  simp [readNumber, hcast, h]

/-- A word in front of a parenthesis is read as a call with the arguments that follow. -/
theorem readNumber_call (h : readArguments source x n pieces = some (arguments, rest))
    (function : String) :
    readNumber source x (n + 1) (.word function.toList :: .mark '(' :: pieces) =
      (Quantity.ofCall? function arguments).map (·, rest) := by
  simp [readNumber, h]

/-- A name is read by itself unless it is called. -/
theorem readNumber_name {name : String} (h : Quantity.ofName? source x name = some q)
    (hrest : rest.head? ≠ some (.mark '(')) :
    readNumber source x (n + 1) (.word name.toList :: rest) = some (q, rest) := by
  cases rest with
  | nil => simp [readNumber, h]
  | cons piece rest =>
    have hpiece : piece ≠ .mark '(' := by simpa using hrest
    simp [readNumber, h, hpiece]

/-- Behind a comma further arguments are read. -/
theorem readArguments_comma {behind : List Piece}
    (h : readNumber source x n pieces = some (q, .mark ',' :: rest))
    (hrest : readArguments source x n rest = some (arguments, behind)) :
    readArguments source x (n + 1) pieces = some (q :: arguments, behind) := by
  simp [readArguments, h, hrest]

/-- A closing parenthesis ends the arguments. -/
theorem readArguments_closing (h : readNumber source x n pieces = some (q, .mark ')' :: rest)) :
    readArguments source x (n + 1) pieces = some ([q], rest) := by
  simp [readArguments, h]

end Steps

/-- The argument is read as a number of the source type with its value. -/
theorem readNumber_argument (source : Scalar) (x : Int) (n : Nat) (rest : List Piece)
    (hrest : rest.head? ≠ some (.mark '(')) :
    readNumber source x (n + 1) (.word "x".toList :: rest) = some (⟨some source, x⟩, rest) :=
  readNumber_name (if_pos rfl) hrest

/-- A bound is read as it is evaluated. -/
theorem readNumber_boundPieces (source : Scalar) (x : Int) (h : limit? limit = some k) (n : Nat)
    (rest : List Piece) (hrest : rest.head? ≠ some (.mark '(')) :
    readNumber source x (n + 2) (boundPieces source limit ++ rest) =
      some (⟨some source, source.wrap k⟩, rest) := by
  have hargument : limit ≠ "x" := by
    rintro rfl
    cases h
  have hname : Quantity.ofName? source x limit = some ⟨none, k⟩ := by
    rw [Quantity.ofName?, if_neg hargument, h, Option.map_some]
  rw [boundPieces, List.append_assoc, readNumber_cast, List.singleton_append,
    readNumber_name hname hrest]
  rfl

/-- The argument and one bound make up a call in the same way, whichever bound it is. -/
theorem readNumber_oneBound (source : Scalar) (x : Int) (h : limit? limit = some k) (n : Nat)
    (function : String) (rest : List Piece) :
    readNumber source x (n + 5) (callPieces function (boundPieces source limit) ++ rest) =
      (Quantity.ofCall? function [⟨some source, x⟩, ⟨some source, source.wrap k⟩]).map
        (·, rest) := by
  have hbound := readNumber_boundPieces source x h n (.mark ')' :: rest) (by simp)
  have hargument := readNumber_argument source x (n + 2)
    (.mark ',' :: (boundPieces source limit ++ .mark ')' :: rest)) (by simp)
  have hcall := readNumber_call (readArguments_comma hargument (readArguments_closing hbound))
    function
  simpa [callPieces] using hcall

/-- The argument and both bounds make up a clamp. -/
theorem readNumber_twoBounds (source : Scalar) (x : Int) {min max : String} {j k : Int}
    (hmin : limit? min = some j) (hmax : limit? max = some k) (n : Nat) (rest : List Piece) :
    readNumber source x (n + 6)
        (callPieces "clamp" (boundPieces source min ++ .mark ',' :: boundPieces source max) ++
          rest) =
      (Quantity.ofCall? "clamp" [⟨some source, x⟩, ⟨some source, source.wrap j⟩,
        ⟨some source, source.wrap k⟩]).map (·, rest) := by
  have hhigh := readNumber_boundPieces source x hmax n (.mark ')' :: rest) (by simp)
  have hlow := readNumber_boundPieces source x hmin (n + 1)
    (.mark ',' :: (boundPieces source max ++ .mark ')' :: rest)) (by simp)
  have hargument := readNumber_argument source x (n + 3)
    (.mark ',' :: (boundPieces source min ++ .mark ',' ::
      (boundPieces source max ++ .mark ')' :: rest))) (by simp)
  have hcall := readNumber_call (readArguments_comma hargument
    (readArguments_comma hlow (readArguments_closing hhigh))) "clamp"
  simpa [callPieces] using hcall

/-- An argument brought within bounds is read as it is evaluated, in no more steps than it has
pieces. -/
theorem readNumber_clampPieces (source : Scalar) (x : Int) {min? max? : Option String}
    (h : AreLimits min? max?) {n : Nat} (hn : (clampPieces source min? max?).length ≤ n)
    (rest : List Piece) :
    readNumber source x n (clampPieces source min? max? ++ .mark ')' :: rest) =
      (bounded? source x min? max?).map fun y => (⟨some source, y⟩, .mark ')' :: rest) := by
  obtain ⟨hmin, hmax⟩ := h
  have hcalled : ∀ function bounds, (callPieces function bounds).length = bounds.length + 5 :=
    fun _ _ => by simp [callPieces]
  cases min? with
  | none =>
    cases max? with
    | none =>
      obtain ⟨n, rfl⟩ := Nat.exists_eq_add_of_le' hn
      exact readNumber_argument source x n (.mark ')' :: rest) (by simp)
    | some max =>
      obtain ⟨k, hk⟩ := hmax max rfl
      rw [clampPieces, hcalled] at hn
      obtain ⟨n, rfl⟩ := Nat.exists_eq_add_of_le' (Nat.le_trans (Nat.le_add_left 5 _) hn)
      have hcall := readNumber_oneBound source x hk n "min" (.mark ')' :: rest)
      simpa [clampPieces, bounded?, bound?, hk, Quantity.ofCall?] using hcall
  | some min =>
    obtain ⟨j, hj⟩ := hmin min rfl
    cases max? with
    | none =>
      rw [clampPieces, hcalled] at hn
      obtain ⟨n, rfl⟩ := Nat.exists_eq_add_of_le' (Nat.le_trans (Nat.le_add_left 5 _) hn)
      have hcall := readNumber_oneBound source x hj n "max" (.mark ')' :: rest)
      simpa [clampPieces, bounded?, bound?, hj, Quantity.ofCall?] using hcall
    | some max =>
      obtain ⟨k, hk⟩ := hmax max rfl
      have henough : 6 ≤ n := by
        simp only [clampPieces, hcalled, List.length_append, List.length_cons] at hn
        omega
      obtain ⟨n, rfl⟩ := Nat.exists_eq_add_of_le' henough
      have hcall := readNumber_twoBounds source x hj hk n (.mark ')' :: rest)
      simpa [clampPieces, bounded?, bound?, hj, hk, Quantity.ofCall?] using hcall

/-- Only the name of a type that stands in parentheses by itself is cast to. -/
theorem castTarget?_clampPieces (source : Scalar) (min? max? : Option String) (rest : List Piece) :
    castTarget? (clampPieces source min? max? ++ .mark ')' :: rest) = none := by
  have hargument : Scalar.ofName? "x" = none := by decide
  cases min? with
  | none => cases max? <;> simp [clampPieces, callPieces, castTarget?, hargument]
  | some min => cases max? <;> simp [clampPieces, callPieces, castTarget?]

/-- A bound that is written out has the value that it has as a bound. -/
theorem readText?_boundText (h : limit? limit = some k) :
    readText? source x (Expression.boundText source limit) = some (source, source.wrap k) := by
  have hpieces : cutUp (Expression.boundText source limit).toList = boundPieces source limit := by
    simpa using cutUp_boundText source h (leaves_nil isWord)
  have hread := readNumber_boundPieces source x h 2 [] (by simp)
  rw [List.append_nil] at hread
  rw [readText?, hpieces, show (boundPieces source limit).length = 2 + 2 from rfl, hread]

/-- A cast of an argument within bounds that is written out has the value that the expression has,
on every argument: the text is read to its end, and what is cast is the argument within bounds. -/
theorem readText?_castText {min? max? : Option String} (h : AreLimits min? max?) (t : Scalar) :
    readText? source x (Expression.castText t.name (Expression.clampText source min? max?)) =
      (bounded? source x min? max?).map fun y => (t, t.wrap y) := by
  have hpieces : cutUp (Expression.castText t.name
      (Expression.clampText source min? max?)).toList =
        castPieces t ++ .mark '(' :: (clampPieces source min? max? ++ [.mark ')']) := by
    rw [cutUp_castText, cutUp_clampText h, cutUp_nil]
  have hlength : (castPieces t ++ Piece.mark '(' :: (clampPieces source min? max? ++
      [Piece.mark ')'])).length = (clampPieces source min? max?).length + 3 + 1 + 1 := by
    simp [castPieces]
  have hread := readNumber_clampPieces source x h (Nat.le_add_right _ 3) []
  rw [readText?, hpieces, hlength, readNumber_cast]
  cases hbounded : bounded? source x min? max? with
  | none =>
    rw [hbounded, Option.map_none] at hread
    simp [readNumber, castTarget?_clampPieces, hread]
  | some y =>
    rw [hbounded, Option.map_some] at hread
    rw [readNumber_group (castTarget?_clampPieces source min? max? []) hread]
    rfl

example : readText? .int 300 "(uchar)(clamp(x, (int)0, (int)UCHAR_MAX))" = some (.uchar, 255) := by
  decide +kernel

end LaneConvert
