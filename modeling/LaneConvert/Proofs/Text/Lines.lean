import Mathlib
import LaneConvert.Text.Word
import LaneConvert.Definition

/-!
# Cutting texts apart

A text that begins with characters of one class and goes on with a character outside it falls apart
in one way only. Trimming leaves a text alone whose ends are not blank. A text whose last line is
ended can be cut into lines apart from whatever follows it, and lines written out one after another
are found again.
-/

namespace LaneConvert.Text

/-- A text does not go on with a character of the class. -/
def Leaves (p : Char → Bool) (cs : List Char) : Prop := ∀ c, cs.head? = some c → p c = false

/-- The empty text begins with no character of any class. -/
theorem leaves_nil (p : Char → Bool) : Leaves p [] := by
  intro c h
  simp at h

/-- A text leaves a class by its first character. -/
theorem leaves_cons {p : Char → Bool} {c : Char} {cs : List Char} (h : p c = false) :
    Leaves p (c :: cs) := by
  intro d hd
  obtain rfl : c = d := by simpa using hd
  exact h

/-- Nothing is taken from a text that begins outside the class. -/
theorem takeWhile_of_leaves {p : Char → Bool} {cs : List Char} (h : Leaves p cs) :
    cs.takeWhile p = [] := by
  cases cs with
  | nil => rfl
  | cons c rest => simp [h c rfl]

/-- Nothing is dropped from a text that begins outside the class. -/
theorem dropWhile_of_leaves {p : Char → Bool} {cs : List Char} (h : Leaves p cs) :
    cs.dropWhile p = cs := by
  cases cs with
  | nil => rfl
  | cons c rest => simp [h c rfl]

/-- Of two texts the first is taken if it is of the class and the second begins outside it. -/
theorem takeWhile_append_of_leaves {p : Char → Bool} {a b : List Char}
    (ha : ∀ c ∈ a, p c = true) (hb : Leaves p b) : (a ++ b).takeWhile p = a := by
  rw [List.takeWhile_append_of_pos ha, takeWhile_of_leaves hb, List.append_nil]

/-- Of two texts the second is left if the first is of the class and the second begins outside it.
-/
theorem dropWhile_append_of_leaves {p : Char → Bool} {a b : List Char}
    (ha : ∀ c ∈ a, p c = true) (hb : Leaves p b) : (a ++ b).dropWhile p = b := by
  rw [List.dropWhile_append_of_pos ha, dropWhile_of_leaves hb]

/-- The border between the leading characters of a class and the rest is in the text itself. -/
theorem append_inj_of_leaves {p : Char → Bool} {a a' b b' : List Char}
    (ha : ∀ c ∈ a, p c = true) (ha' : ∀ c ∈ a', p c = true)
    (hb : Leaves p b) (hb' : Leaves p b') (h : a ++ b = a' ++ b') : a = a' ∧ b = b' := by
  constructor
  · rw [← takeWhile_append_of_leaves ha hb, h, takeWhile_append_of_leaves ha' hb']
  · rw [← dropWhile_append_of_leaves ha hb, h, dropWhile_append_of_leaves ha' hb']

/-- A word is split off whole if the text does not go on with a word character. -/
theorem splitWord_append_of_leaves {a b : List Char} (ha : ∀ c ∈ a, isWord c = true)
    (hb : Leaves isWord b) : splitWord (a ++ b) = (a, b) := by
  rw [splitWord, takeWhile_append_of_leaves ha hb, dropWhile_append_of_leaves ha hb]

/-- A leading word is made of word characters. -/
theorem mem_splitWord {cs : List Char} {c : Char} (h : c ∈ (splitWord cs).1) :
    isWord c = true :=
  List.mem_takeWhile_imp h

/-- What follows the leading word begins outside words. -/
theorem leaves_splitWord (cs : List Char) : Leaves isWord (splitWord cs).2 := by
  intro c h
  have hd := List.head?_dropWhile_not isWord cs
  simp only [splitWord] at h
  rw [h] at hd
  simpa using hd

/-- A word and the rest are split off exactly if they make up the text, the word has word characters
only, and the rest does not go on with one. -/
theorem splitWord_eq_iff {cs a b : List Char} :
    splitWord cs = (a, b) ↔ cs = a ++ b ∧ (∀ c ∈ a, isWord c = true) ∧ Leaves isWord b := by
  constructor
  · intro h
    have happend := splitWord_append cs
    have hleaves := leaves_splitWord cs
    have hword : ∀ c ∈ (splitWord cs).1, isWord c = true := fun c hc => mem_splitWord hc
    rw [h] at happend hleaves hword
    exact ⟨happend.symm, hword, hleaves⟩
  · rintro ⟨rfl, ha, hb⟩
    exact splitWord_append_of_leaves ha hb

/-- A blank in front of a text is trimmed away. -/
theorem trim_cons_of_isBlank {c : Char} (h : isBlank c = true) (cs : List Char) :
    trim (c :: cs) = trim cs := by
  simp [trim, trimStart, h]

/-- A text without a blank at either end is left alone. -/
theorem trim_eq_self {cs : List Char} (hfirst : Leaves isBlank cs)
    (hlast : Leaves isBlank cs.reverse) : trim cs = cs := by
  rw [trim, trimStart, trimStart, dropWhile_of_leaves hfirst, dropWhile_of_leaves hlast,
    List.reverse_reverse]

/-- Trimming the end of a text leaves its first character. -/
theorem head?_trim (cs : List Char) : (trim cs).head? = (trimStart cs).head? := by
  cases htrim : trimStart cs with
  | nil =>
    rw [trim, htrim]
    rfl
  | cons c rest =>
    have hblank : isBlank c = false := by
      have hhead := List.head?_dropWhile_not isBlank cs
      rw [trimStart] at htrim
      rw [htrim] at hhead
      simpa using hhead
    have hend : trimStart (c :: rest).reverse = trimStart rest.reverse ++ [c] := by
      rw [List.reverse_cons, trimStart, List.dropWhile_append]
      split
      · next hnil => simp [trimStart, hblank, List.isEmpty_iff.mp hnil]
      · rfl
    rw [trim, htrim, hend, List.reverse_append]
    rfl

/-- Blanks in front of a text are looked for in its first part, if the second begins with none. -/
theorem trimStart_append_of_leaves {a b : List Char} (h : Leaves isBlank b) :
    trimStart (a ++ b) = trimStart a ++ b := by
  rw [trimStart, trimStart, List.dropWhile_append]
  split
  · next hblank => rw [dropWhile_of_leaves h, List.isEmpty_iff.mp hblank, List.nil_append]
  · rfl

/-- A part without a blank at either end stays where it is. -/
theorem trim_around {part : List Char} (a b : List Char) (hne : part ≠ [])
    (hfirst : Leaves isBlank part) (hlast : Leaves isBlank part.reverse) :
    trim (a ++ (part ++ b)) = trimStart a ++ (part ++ (trimStart b.reverse).reverse) := by
  have hstart : trimStart (a ++ (part ++ b)) = trimStart a ++ (part ++ b) := by
    refine trimStart_append_of_leaves ?_
    cases part with
    | nil => exact absurd rfl hne
    | cons c rest => exact leaves_cons (hfirst c rfl)
  have hreverse : (trimStart a ++ (part ++ b)).reverse =
      b.reverse ++ (part.reverse ++ (trimStart a).reverse) := by simp
  have hend : trimStart (b.reverse ++ (part.reverse ++ (trimStart a).reverse)) =
      trimStart b.reverse ++ (part.reverse ++ (trimStart a).reverse) := by
    refine trimStart_append_of_leaves ?_
    cases hpart : part.reverse with
    | nil => exact absurd (List.reverse_eq_nil_iff.mp hpart) hne
    | cons c rest =>
      rw [hpart] at hlast
      exact leaves_cons (hlast c rfl)
  rw [trim, hstart, hreverse, hend]
  simp

/-- A trimmed text stands in the text in one piece. -/
theorem infix_of_trim (cs : List Char) : trim cs <:+: cs := by
  have hend : (trimStart (trimStart cs).reverse).reverse <+: trimStart cs := by
    rw [← List.reverse_suffix, List.reverse_reverse]
    exact List.dropWhile_suffix _
  exact hend.isInfix.trans (List.dropWhile_suffix _).isInfix

/-- What stands in front of the first line feed is the first line. -/
theorem lines_append_lineFeed {a : List Char} (h : '\n' ∉ a) (b : List Char) :
    lines (a ++ '\n' :: b) = a :: lines b := by
  induction a with
  | nil => simp [lines, consLine]
  | cons c rest ih =>
    rw [List.mem_cons, not_or] at h
    have hrest := ih h.2
    simp only [lines] at hrest
    simp only [lines, List.cons_append, List.foldr_cons, hrest]
    simp [consLine, Ne.symm h.1]

/-- A text ends where a line ends. The empty text does. -/
def EndsLine (cs : List Char) : Prop := ∀ c, cs.getLast? = some c → c = '\n'

/-- A text that is not empty has a line. -/
theorem lines_ne_nil {c : Char} (cs : List Char) : lines (c :: cs) ≠ [] := by
  simp only [lines, List.foldr_cons, consLine]
  split
  · simp
  · split <;> simp

/-- Text behind an ended line has lines of its own. -/
theorem lines_append_of_endsLine {a : List Char} (h : EndsLine a) (b : List Char) :
    lines (a ++ b) = lines a ++ lines b := by
  induction a with
  | nil => rfl
  | cons c rest ih =>
    cases rest with
    | nil =>
      obtain rfl : c = '\n' := h c rfl
      simp [lines, consLine]
    | cons d rest =>
      have hrest : lines (d :: rest ++ b) = lines (d :: rest) ++ lines b :=
        ih fun x hx => h x (by simpa using hx)
      obtain ⟨line, more, hlines⟩ := List.exists_cons_of_ne_nil (lines_ne_nil (c := d) rest)
      have hcons : ∀ cs, lines (c :: cs) = consLine c (lines cs) := fun _ => rfl
      rw [List.cons_append, hcons, hcons, hrest, hlines]
      simp only [consLine, List.cons_append]
      split <;> rfl

/-- Ending the last line of a text that does not end it leaves the lines as they are. -/
theorem lines_append_end {a : List Char} (hne : a ≠ []) (h : ¬ EndsLine a) :
    lines (a ++ ['\n']) = lines a := by
  induction a with
  | nil => exact absurd rfl hne
  | cons c rest ih =>
    cases rest with
    | nil =>
      have hc : c ≠ '\n' := fun hc => h fun x hx => by
        obtain rfl : c = x := by simpa using hx
        exact hc
      simp [lines, consLine, hc]
    | cons d rest =>
      have hrest : lines (d :: rest ++ ['\n']) = lines (d :: rest) :=
        ih (by simp) fun hend => h fun x hx => hend x (by simpa using hx)
      simp only [lines, List.cons_append, List.foldr_cons] at hrest ⊢
      rw [hrest]

/-- A line feed at the beginning ends an empty line. -/
theorem lines_lineFeed (cs : List Char) : lines ('\n' :: cs) = [] :: lines cs := rfl

/-- A character other than the line feed goes to the front of the first line. -/
theorem lines_cons_of_ne {c : Char} (h : c ≠ '\n') (cs : List Char) :
    lines (c :: cs) = (c :: (lines cs).headD []) :: (lines cs).tail := by
  have hcons : lines (c :: cs) = consLine c (lines cs) := rfl
  rw [hcons]
  cases lines cs <;> simp [consLine, h]

/-- A text without line feeds is one line, if it is not empty. -/
theorem lines_of_oneLine {cs : List Char} (hne : cs ≠ []) (h : '\n' ∉ cs) : lines cs = [cs] := by
  have hends : ¬ EndsLine cs := by
    intro hends
    exact h (hends _ (List.getLast?_eq_some_getLast hne) ▸ List.getLast_mem hne)
  rw [← lines_append_end hne hends, lines_append_lineFeed h]
  rfl

/-- What stands in front of the first line feed begins the first line. -/
theorem lines_append_of_oneLine {a : List Char} (hne : a ≠ []) (h : '\n' ∉ a) (b : List Char) :
    lines (a ++ b) = (a ++ (lines b).headD []) :: (lines b).tail := by
  induction a with
  | nil => exact absurd rfl hne
  | cons c a ih =>
    rw [List.mem_cons, not_or] at h
    rw [List.cons_append, lines_cons_of_ne (Ne.symm h.1)]
    cases a with
    | nil => rfl
    | cons d a =>
      rw [ih (by simp) h.2]
      rfl

/-- A text begins with its first line. -/
theorem headD_lines_prefix (cs : List Char) : (lines cs).headD [] <+: cs := by
  induction cs with
  | nil => exact List.nil_prefix
  | cons c cs ih =>
    by_cases hc : c = '\n'
    · subst hc
      exact List.nil_prefix
    · rw [lines_cons_of_ne hc]
      exact List.cons_prefix_cons.mpr ⟨rfl, ih⟩

/-- A line stands in the text as it is. -/
theorem infix_of_mem_lines {cs line : List Char} (h : line ∈ lines cs) : line <:+: cs := by
  induction cs with
  | nil => simp [lines] at h
  | cons c cs ih =>
    have hlater : line ∈ lines cs → line <:+: c :: cs := fun hmem =>
      (ih hmem).trans (List.suffix_cons c cs).isInfix
    by_cases hc : c = '\n'
    · subst hc
      rw [lines_lineFeed] at h
      rcases List.mem_cons.mp h with rfl | hmem
      · exact List.nil_infix
      · exact hlater hmem
    · have hfirst := headD_lines_prefix (c :: cs)
      rw [lines_cons_of_ne hc] at h hfirst
      rcases List.mem_cons.mp h with rfl | hmem
      · exact hfirst.isInfix
      · exact hlater (List.mem_of_mem_tail hmem)

/-- A text falls apart into ended lines and a rest without a line feed. -/
theorem exists_lastLine (cs : List Char) :
    ∃ above last, cs = above ++ last ∧ EndsLine above ∧ '\n' ∉ last := by
  induction cs using List.reverseRecOn with
  | nil => exact ⟨[], [], rfl, by simp [EndsLine], by simp⟩
  | append_singleton cs c ih =>
    by_cases hc : c = '\n'
    · refine ⟨cs ++ [c], [], by simp, ?_, by simp⟩
      intro d hd
      rw [List.getLast?_concat] at hd
      rw [← Option.some.inj hd, hc]
    · obtain ⟨above, last, rfl, hends, hlast⟩ := ih
      refine ⟨above, last ++ [c], by simp, hends, ?_⟩
      rw [List.mem_append, List.mem_singleton, not_or]
      exact ⟨hlast, Ne.symm hc⟩

/-- A text fits on one line. -/
def OneLine (text : String) : Prop := '\n' ∉ text.toList

/-- Whether a text fits on a line is decided by its characters. -/
instance (text : String) : Decidable (OneLine text) :=
  inferInstanceAs (Decidable ('\n' ∉ text.toList))

/-- Two texts together fit on a line exactly if both do. -/
@[simp] theorem oneLine_append {a b : String} : OneLine (a ++ b) ↔ OneLine a ∧ OneLine b := by
  simp [OneLine, not_or]

/-- Joined lines are the lines one after another, with a line feed behind each. -/
theorem toList_joinLines (texts : List String) :
    (joinLines texts).toList = texts.flatMap fun text => text.toList ++ ['\n'] := by
  simp [joinLines, String.toList_join, List.flatMap_map]

/-- Lines can be joined in two parts. -/
theorem joinLines_append (a b : List String) : joinLines (a ++ b) = joinLines a ++ joinLines b := by
  apply String.toList_inj.mp
  rw [String.toList_append, toList_joinLines, toList_joinLines, toList_joinLines,
    List.flatMap_append]

/-- A line among texts of any number of lines is read back. -/
theorem mem_lines_joinLines {texts : List String} {text : String} (htext : text ∈ texts)
    (hline : OneLine text) : text.toList ∈ lines (joinLines texts).toList := by
  rw [toList_joinLines]
  induction texts with
  | nil => simp at htext
  | cons first rest ih =>
    have hends : EndsLine (first.toList ++ ['\n']) := by
      intro c hc
      simpa [eq_comm] using hc
    rw [List.flatMap_cons, lines_append_of_endsLine hends, List.mem_append]
    rcases List.mem_cons.mp htext with rfl | hrest
    · left
      rw [lines_append_lineFeed hline]
      exact List.mem_cons_self
    · exact .inr (ih hrest)

/-- Lines that are written out are read back. -/
theorem lines_joinLines {texts : List String} (h : ∀ text ∈ texts, OneLine text) :
    lines (joinLines texts).toList = texts.map String.toList := by
  rw [toList_joinLines]
  induction texts with
  | nil => rfl
  | cons text rest ih =>
    rw [List.forall_mem_cons] at h
    rw [List.flatMap_cons, List.append_assoc, List.singleton_append, lines_append_lineFeed h.1,
      ih h.2, List.map_cons]

end LaneConvert.Text
