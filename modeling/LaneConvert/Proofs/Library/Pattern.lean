import LaneConvert.Library.Inspection
import LaneConvert.Proofs.Text.Lines

/-!
# The patterns of lines

Three patterns decide what a trimmed line means: a directive that opens a conditional, one that
closes it, and the head of a conversion function. Each is written out here as the text it matches,
and the readers of lines are shown to recognise exactly these texts. Where a word has to end, the
line must not go on with a word character.
-/

namespace LaneConvert.Line

open Text

/-- A line is a directive of the given word: a number sign, blanks and the word, and the word ends
there. -/
def IsDirective (word : String) (cs : List Char) : Prop :=
  ∃ blanks rest, (∀ c ∈ blanks, isBlank c = true) ∧ Leaves isWord rest ∧
    cs = '#' :: (blanks ++ (word.toList ++ rest))

/-- A line opens a conditional: `#if`, `#ifdef` or `#ifndef`, with blanks behind the number sign. -/
def IsOpening (cs : List Char) : Prop := ∃ word ∈ openingWords, IsDirective word cs

/-- A line closes a conditional: `#endif`, with blanks behind the number sign. -/
def IsClosing (cs : List Char) : Prop := IsDirective "endif" cs

/-- A text is one word. -/
structure IsOneWord (cs : List Char) : Prop where
  /-- There is a character. -/
  ne_nil : cs ≠ []
  /-- All characters are word characters. -/
  chars : ∀ c ∈ cs, isWord c = true

/-- A line is the head of a conversion function of a given name and argument type: a word, a space,
the name, which goes on behind `convert_`, and the argument type with ` x` in parentheses. -/
def IsHead (name argument : String) (cs : List Char) : Prop :=
  ∃ result goesOn, IsOneWord result ∧ IsOneWord goesOn ∧ IsOneWord argument.toList ∧
    name.toList = stem ++ goesOn ∧
    cs = result ++ ' ' :: (name.toList ++ '(' :: (argument.toList ++ [' ', 'x', ')']))

/-- The common beginning of function names is made of word characters. -/
theorem isWord_of_mem_stem : ∀ c ∈ stem, isWord c = true :=
  List.all_eq_true.mp (by decide)

/-- A word that a directive may be made of. -/
structure IsKeyword (word : String) : Prop where
  /-- All characters are word characters. -/
  chars : ∀ c ∈ word.toList, isWord c = true
  /-- The first character is not a blank, and there is one. -/
  first : ∃ c rest, word.toList = c :: rest ∧ isBlank c = false

/-- The words that open a conditional are keywords. -/
theorem isKeyword_of_mem {word : String} (h : word ∈ openingWords) : IsKeyword word := by
  simp only [openingWords, List.mem_cons, List.not_mem_nil, or_false] at h
  rcases h with rfl | rfl | rfl
  · exact ⟨List.all_eq_true.mp (by decide), 'i', _, rfl, by decide⟩
  · exact ⟨List.all_eq_true.mp (by decide), 'i', _, rfl, by decide⟩
  · exact ⟨List.all_eq_true.mp (by decide), 'i', _, rfl, by decide⟩

/-- The word that closes a conditional is a keyword. -/
theorem isKeyword_endif : IsKeyword "endif" :=
  ⟨List.all_eq_true.mp (by decide), 'e', _, rfl, by decide⟩

/-- A line is read as a directive with a keyword exactly if it has that form. -/
theorem directive?_eq_some_iff {word : String} (hword : IsKeyword word) {cs : List Char} :
    directive? cs = some word ↔ IsDirective word cs := by
  constructor
  · intro h
    unfold directive? at h
    split at h
    · next rest =>
      obtain rfl := Option.some.inj h
      refine ⟨rest.takeWhile isBlank, (splitWord (trimStart rest)).2,
        fun c hc => List.mem_takeWhile_imp hc, leaves_splitWord _, ?_⟩
      rw [String.toList_ofList, splitWord_append, trimStart, List.takeWhile_append_dropWhile]
    · simp at h
  · rintro ⟨blanks, rest, hblanks, hrest, rfl⟩
    obtain ⟨c, more, hfirst, hc⟩ := hword.first
    have htrim : trimStart (blanks ++ (word.toList ++ rest)) = word.toList ++ rest := by
      refine dropWhile_append_of_leaves hblanks ?_
      rw [hfirst]
      exact leaves_cons hc
    simp only [directive?, htrim, splitWord_append_of_leaves hword.chars hrest,
      String.ofList_toList]

/-- No head of a function is a directive. -/
theorem not_directive_of_isHead {name argument : String} {cs : List Char}
    (h : IsHead name argument cs) : directive? cs = none := by
  obtain ⟨result, goesOn, hresult, -, -, -, rfl⟩ := h
  obtain ⟨c, rest, rfl⟩ := List.exists_cons_of_ne_nil hresult.ne_nil
  have hc := hresult.chars c List.mem_cons_self
  have hne : c ≠ '#' := by
    rintro rfl
    exact absurd hc (by decide)
  unfold directive?
  split
  · next h => exact absurd (List.cons.inj h).1 hne
  · rfl

/-- A word names a conversion function exactly if it goes on behind the common beginning. -/
theorem namesConversion_iff {word : List Char} :
    namesConversion word = true ↔ ∃ goesOn, goesOn ≠ [] ∧ word = stem ++ goesOn := by
  rw [namesConversion, Bool.and_eq_true, List.isPrefixOf_iff_prefix, decide_eq_true_eq]
  constructor
  · rintro ⟨⟨goesOn, rfl⟩, hlength⟩
    refine ⟨goesOn, ?_, rfl⟩
    rintro rfl
    simp at hlength
  · rintro ⟨goesOn, hne, rfl⟩
    have hpos := List.length_pos_iff.mpr hne
    exact ⟨⟨goesOn, rfl⟩, by rw [List.length_append]; omega⟩

/-- A name and an argument type are read from a line exactly if it is the head of that function. The
name ends at the parenthesis and both types end at a space, so each word is found whole. -/
theorem signature?_eq_some_iff {cs : List Char} {name argument : String} :
    signature? cs = some (name, argument) ↔ IsHead name argument cs := by
  constructor
  · intro h
    unfold signature? at h
    split at h
    · next result afterResult hresult =>
      split at h
      · next word afterName hname =>
        split at h
        · next type hargument =>
          split at h
          · next hparts =>
            obtain ⟨rfl, rfl⟩ := Prod.mk.inj (Option.some.inj h)
            simp only [Bool.and_eq_true, Bool.not_eq_true', List.isEmpty_eq_false_iff] at hparts
            obtain ⟨⟨hresultNe, hnames⟩, htypeNe⟩ := hparts
            obtain ⟨goesOn, hgoesOn, rfl⟩ := namesConversion_iff.mp hnames
            obtain ⟨rfl, hresultWord, -⟩ := splitWord_eq_iff.mp hresult
            obtain ⟨rfl, hnameWord, -⟩ := splitWord_eq_iff.mp hname
            obtain ⟨rfl, htypeWord, -⟩ := splitWord_eq_iff.mp hargument
            have hgoesOnWord : ∀ c ∈ goesOn, isWord c = true := fun c hc =>
              hnameWord c (List.mem_append_right _ hc)
            refine ⟨result, goesOn, ⟨hresultNe, hresultWord⟩, ⟨hgoesOn, hgoesOnWord⟩, ?_, ?_, ?_⟩
            · rw [String.toList_ofList]
              exact ⟨htypeNe, htypeWord⟩
            · rw [String.toList_ofList]
            · rw [String.toList_ofList, String.toList_ofList]
          · simp at h
        · simp at h
      · simp at h
    · simp at h
  · rintro ⟨result, goesOn, hresult, hgoesOn, hargument, hname, rfl⟩
    have hnameWord : ∀ c ∈ name.toList, isWord c = true := by
      rw [hname]
      intro c hc
      rcases List.mem_append.mp hc with hc | hc
      · exact isWord_of_mem_stem c hc
      · exact hgoesOn.chars c hc
    have hnames : namesConversion name.toList = true :=
      namesConversion_iff.mpr ⟨goesOn, hgoesOn.ne_nil, hname⟩
    have hspace : isWord ' ' = false := by decide
    have hparenthesis : isWord '(' = false := by decide
    unfold signature?
    rw [splitWord_append_of_leaves hresult.chars (leaves_cons hspace)]
    simp only [splitWord_append_of_leaves hnameWord (leaves_cons hparenthesis),
      splitWord_append_of_leaves hargument.chars (leaves_cons hspace)]
    simp [hnames, hresult.ne_nil, hargument.ne_nil]

variable {cs : List Char}

/-- A line has the role of a head exactly if it is one. -/
theorem ofTrimmed_eq_signature_iff {name argument : String} :
    ofTrimmed cs = .signature name argument ↔ IsHead name argument cs := by
  constructor
  · intro h
    unfold ofTrimmed at h
    split at h
    · split at h
      · simp at h
      · split at h <;> simp at h
    · split at h
      · next hsignature =>
        obtain ⟨rfl, rfl⟩ := Line.signature.inj h
        exact signature?_eq_some_iff.mp hsignature
      · split at h <;> simp at h
  · intro h
    simp [ofTrimmed, not_directive_of_isHead h, signature?_eq_some_iff.mpr h]

/-- A line has the role of an opening directive exactly if it is one. -/
theorem ofTrimmed_eq_opening_iff : ofTrimmed cs = .opening ↔ IsOpening cs := by
  constructor
  · intro h
    unfold ofTrimmed at h
    split at h
    · next word hdirective =>
      split at h
      · next hword =>
        exact ⟨word, hword, (directive?_eq_some_iff (isKeyword_of_mem hword)).mp hdirective⟩
      · split at h <;> simp at h
    · split at h
      · simp at h
      · split at h <;> simp at h
  · rintro ⟨word, hword, hdirective⟩
    simp [ofTrimmed, (directive?_eq_some_iff (isKeyword_of_mem hword)).mpr hdirective, hword]

/-- A line has the role of a closing directive exactly if it is one. -/
theorem ofTrimmed_eq_closing_iff : ofTrimmed cs = .closing ↔ IsClosing cs := by
  constructor
  · intro h
    unfold ofTrimmed at h
    split at h
    · next word hdirective =>
      split at h
      · simp at h
      · split at h
        · next hword =>
          subst hword
          exact (directive?_eq_some_iff isKeyword_endif).mp hdirective
        · simp at h
    · split at h
      · simp at h
      · split at h <;> simp at h
  · intro hdirective
    have hword : "endif" ∉ openingWords := by decide
    simp [ofTrimmed, (directive?_eq_some_iff isKeyword_endif).mpr hdirective, hword]

/-- A line ends a function exactly if it is a closing brace and nothing else. -/
theorem ofTrimmed_eq_brace_iff : ofTrimmed cs = .brace ↔ cs = ['}'] := by
  constructor
  · intro h
    unfold ofTrimmed at h
    split at h
    · split at h
      · simp at h
      · split at h <;> simp at h
    · split at h
      · simp at h
      · split at h
        · assumption
        · simp at h
  · rintro rfl
    decide

/-- A line that matches no pattern means nothing to conditionals and names no function. -/
theorem ofTrimmed_eq_other_or_brace (hopening : ¬ IsOpening cs) (hclosing : ¬ IsClosing cs)
    (hhead : ∀ name argument, ¬ IsHead name argument cs) :
    ofTrimmed cs = .other ∨ ofTrimmed cs = .brace := by
  cases hrole : ofTrimmed cs with
  | opening => exact absurd (ofTrimmed_eq_opening_iff.mp hrole) hopening
  | closing => exact absurd (ofTrimmed_eq_closing_iff.mp hrole) hclosing
  | signature name argument => exact absurd (ofTrimmed_eq_signature_iff.mp hrole) (hhead _ _)
  | brace => exact .inr rfl
  | other => exact .inl rfl

end LaneConvert.Line
