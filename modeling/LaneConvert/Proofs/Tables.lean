import Mathlib
import LaneConvert.Tables
import LaneConvert.Proofs.Expressibility

/-!
# Tables from selections

A selection without repetitions stands for the set of its elements: a table takes them over in its
own order, and whatever else is found wrong with them is looked for in that order. So neither the
table that a selection gives nor the defect that it is refused for depends on how it is ordered.

A selection of widths gives a table exactly if it lists no width twice, is not empty and has the
parts of each of its widths. What is refused is refused for one reason: the first repetition counts
before everything else, and among widths that lack a part the narrowest counts, wherever it is
listed. A table asks for the parts of its widths only, and from this it has whatever its widths come
down to.
-/

namespace LaneConvert

namespace Selection

variable {α : Type} [DecidableEq α]

/-- No repetition is found exactly if the list has none and holds nothing that was seen before. -/
theorem firstRepeatAfter?_eq_none_iff {seen selection : List α} :
    firstRepeatAfter? seen selection = none ↔
      selection.Nodup ∧ ∀ a ∈ selection, a ∉ seen := by
  induction selection generalizing seen with
  | nil => simp [firstRepeatAfter?]
  | cons a rest ih =>
    rw [firstRepeatAfter?, List.nodup_cons, List.forall_mem_cons]
    by_cases ha : a ∈ seen
    · simp [ha]
    · rw [if_neg ha, ih]
      simp only [List.mem_cons, not_or, ha, not_false_eq_true, true_and]
      constructor
      · rintro ⟨hnodup, hrest⟩
        exact ⟨⟨fun h => (hrest a h).1 rfl, hnodup⟩, fun b hb => (hrest b hb).2⟩
      · rintro ⟨⟨hfirst, hnodup⟩, hrest⟩
        exact ⟨hnodup, fun b hb => ⟨fun h => hfirst (h ▸ hb), hrest b hb⟩⟩

/-- No repetition is found exactly where there is none. -/
theorem firstRepeat?_eq_none_iff {selection : List α} :
    firstRepeat? selection = none ↔ selection.Nodup := by
  simp [firstRepeat?, firstRepeatAfter?_eq_none_iff]

/-- The repetition that is found is the first element that already occurred. What precedes it has
no repetition, so no earlier element is one. -/
theorem firstRepeatAfter?_eq_some {seen selection : List α} {a : α}
    (h : firstRepeatAfter? seen selection = some a) :
    ∃ before after, selection = before ++ a :: after ∧ before.Nodup ∧
      (∀ b ∈ before, b ∉ seen) ∧ (a ∈ seen ∨ a ∈ before) := by
  induction selection generalizing seen with
  | nil => cases h
  | cons b rest ih =>
    rw [firstRepeatAfter?] at h
    split at h
    · next hb =>
      obtain rfl := Option.some.inj h
      exact ⟨[], rest, rfl, List.nodup_nil, by simp, .inl hb⟩
    · next hb =>
      obtain ⟨before, after, rfl, hnodup, hfresh, ha⟩ := ih h
      have hapart : b ∉ before := fun hmem => hfresh b hmem List.mem_cons_self
      refine ⟨b :: before, after, rfl, List.nodup_cons.mpr ⟨hapart, hnodup⟩, ?_, ?_⟩
      · exact List.forall_mem_cons.mpr ⟨hb, fun c hc hseen =>
          hfresh c hc (List.mem_cons_of_mem b hseen)⟩
      · rcases ha with hseen | hbefore
        · exact (List.mem_cons.mp hseen).elim (fun he => .inr (he ▸ List.mem_cons_self)) .inl
        · exact .inr (List.mem_cons_of_mem b hbefore)

/-- The repetition that is found is the first: the elements in front of it differ, and it is one of
them. -/
theorem firstRepeat?_eq_some {selection : List α} {a : α} (h : firstRepeat? selection = some a) :
    ∃ before after, selection = before ++ a :: after ∧ before.Nodup ∧ a ∈ before := by
  obtain ⟨before, after, hsplit, hnodup, -, ha⟩ := firstRepeatAfter?_eq_some h
  exact ⟨before, after, hsplit, hnodup, ha.resolve_left List.not_mem_nil⟩

/-- A table takes over a set of elements, however they are listed. -/
theorem arrange_congr (table : List α) {selection other : List α}
    (h : ∀ a, a ∈ selection ↔ a ∈ other) : arrange table selection = arrange table other := by
  simp only [arrange, h]

end Selection

open Selection

/-- Selections without repetitions that differ in order only give the same catalog. -/
theorem Catalog.ofList_of_perm {selection other : List Scalar} (hnodup : selection.Nodup)
    (h : selection.Perm other) : ofList selection = ofList other := by
  have hsame := arrange_congr Scalar.all fun a => h.mem_iff (a := a)
  have hother := h.nodup_iff.mp hnodup
  simp only [ofList, firstRepeat?_eq_none_iff.mpr hnodup, firstRepeat?_eq_none_iff.mpr hother,
    hsame]

/-- The full catalog is that of all types. -/
theorem Catalog.ofList_all : ofList Scalar.all = .ok .full := rfl

/-- Selections without repetitions that differ in order only give the same table or are refused for
the same reason. A table carries proofs about the arranged list, so the whole table is exchanged and
not the list in it. -/
theorem WidthTable.ofList_of_perm {selection other : List Width} (hnodup : selection.Nodup)
    (h : selection.Perm other) : ofList selection = ofList other := by
  have hsame := arrange_congr Width.all fun a => h.mem_iff (a := a)
  have hother := h.nodup_iff.mp hnodup
  unfold ofList
  rw [firstRepeat?_eq_none_iff.mpr hnodup, firstRepeat?_eq_none_iff.mpr hother]
  generalize arrange_sorted Width.all_sorted selection = hsorted
  generalize arrange_sorted Width.all_sorted other = hsorted'
  revert hsorted
  rw [hsame]
  exact fun _ => rfl

/-- The full table is that of all widths. -/
theorem WidthTable.ofList_all : ofList Width.all = .ok .full := rfl

/-- The parts of a width are the two sides of its split. -/
theorem Width.mem_parts_iff {width part : Width} : part ∈ width.parts ↔
    ∃ split, width.split? = some split ∧ (part = split.low ∨ part = split.high) := by
  cases hsplit : width.split? with
  | none => simp [Width.parts, hsplit]
  | some split => simp [Width.parts_eq hsplit]

namespace WidthTable

variable {selection selected : List Width} {width part : Width}

/-- A selected width lacks one of its parts. -/
def HasGap (selection : List Width) (width : Width) : Prop :=
  width ∈ selection ∧ ∃ part ∈ width.parts, part ∉ selection

/-- A width is the narrowest of a selection that lacks a part, and this is the first part it
lacks. -/
structure FirstGap (selection : List Width) (width part : Width) : Prop where
  /-- The width is selected. -/
  selected : width ∈ selection
  /-- The part is not selected. It is the low part unless that one is selected. -/
  lacking : ∃ split, width.split? = some split ∧ part ∉ selection ∧
    (part = split.low ∨ split.low ∈ selection ∧ part = split.high)
  /-- No narrower width lacks a part. -/
  narrowest : ∀ other, HasGap selection other → width.lanes ≤ other.lanes

/-- The first part that is missing is the low one, if this one is missing at all. -/
theorem find?_parts_eq_some (h : width.parts.find? (· ∉ selected) = some part) :
    ∃ split, width.split? = some split ∧ part ∉ selected ∧
      (part = split.low ∨ split.low ∈ selected ∧ part = split.high) := by
  have hmissing : part ∉ selected := by simpa using List.find?_some h
  obtain ⟨split, hsplit, hpart⟩ := Width.mem_parts_iff.mp (List.mem_of_find?_eq_some h)
  refine ⟨split, hsplit, hmissing, ?_⟩
  rw [Width.parts_eq hsplit, List.find?_cons] at h
  split at h
  · exact .inl (Option.some.inj h).symm
  · next hlow =>
    have hlow : split.low ∈ selected := by simpa using hlow
    refine .inr ⟨hlow, hpart.resolve_left ?_⟩
    rintro rfl
    exact hmissing hlow

/-- In a list that ascends, the first width that lacks a part is the narrowest that does. -/
theorem missingPart?_eq_some {widths : List Width} (hsorted : widths.Pairwise (· < ·))
    (h : missingPart? selected widths = some (width, part)) :
    width ∈ widths ∧ width.parts.find? (· ∉ selected) = some part ∧
      ∀ other ∈ widths, (∃ p ∈ other.parts, p ∉ selected) → width.lanes ≤ other.lanes := by
  induction widths with
  | nil => cases h
  | cons first rest ih =>
    obtain ⟨hfirst, hrest⟩ := List.pairwise_cons.mp hsorted
    unfold missingPart? at h
    split at h
    · next found hfound =>
      obtain ⟨rfl, rfl⟩ := Prod.mk.inj (Option.some.inj h)
      refine ⟨List.mem_cons_self, hfound, ?_⟩
      intro other hother _
      rcases List.mem_cons.mp hother with rfl | hother
      · exact le_rfl
      · exact Nat.le_of_lt (hfirst other hother)
    · next hnone =>
      obtain ⟨hmem, hfound, hleast⟩ := ih hrest h
      refine ⟨List.mem_cons_of_mem first hmem, hfound, ?_⟩
      intro other hother hgap
      rcases List.mem_cons.mp hother with rfl | hother
      · obtain ⟨p, hp, hmissing⟩ := hgap
        exact absurd hmissing (by simpa using List.find?_eq_none.mp hnone p hp)
      · exact hleast other hother hgap

/-- The first gap is a gap. -/
theorem FirstGap.hasGap (h : FirstGap selection width part) : HasGap selection width := by
  obtain ⟨split, hsplit, hmissing, hpart⟩ := h.lacking
  have hmem : part ∈ width.parts :=
    Width.mem_parts_iff.mpr ⟨split, hsplit, hpart.imp id And.right⟩
  exact ⟨h.selected, part, hmem, hmissing⟩

/-- A width is arranged exactly if it is selected. -/
theorem mem_arrange_all : width ∈ arrange Width.all selection ↔ width ∈ selection :=
  mem_arrange width.mem_all

/-- Something is arranged if anything is selected. -/
theorem arrange_all_ne_nil (hne : selection ≠ []) : arrange Width.all selection ≠ [] := by
  obtain ⟨width, hwidth⟩ := List.exists_mem_of_ne_nil selection hne
  exact List.ne_nil_of_mem (mem_arrange_all.mpr hwidth)

/-- The gap of a selection that is found once it is arranged, if there is one. -/
def gap? (selection : List Width) : Option (Width × Width) :=
  missingPart? (arrange Width.all selection) (arrange Width.all selection)

/-- The gap that is found is the first one, however the selection is listed. -/
theorem gap?_eq_some (h : gap? selection = some (width, part)) :
    FirstGap selection width part := by
  obtain ⟨hmem, hfound, hleast⟩ :=
    missingPart?_eq_some (arrange_sorted Width.all_sorted selection) h
  have hlacking := find?_parts_eq_some hfound
  simp only [mem_arrange_all] at hmem hlacking hleast
  exact ⟨hmem, hlacking, fun other hgap => hleast other hgap.1 hgap.2⟩

/-- No gap is found exactly if no selected width lacks a part. -/
theorem gap?_eq_none_iff : gap? selection = none ↔ ¬ ∃ width, HasGap selection width := by
  constructor
  · rintro h ⟨width, hwidth, part, hpart, hmissing⟩
    have hselected := missingPart?_eq_none h width (mem_arrange_all.mpr hwidth) part hpart
    exact hmissing (mem_arrange_all.mp hselected)
  · intro hclosed
    cases hfound : gap? selection with
    | none => rfl
    | some gap => exact absurd ⟨gap.1, (gap?_eq_some hfound).hasGap⟩ hclosed

/-- A selection with a repetition is refused for the first one. -/
theorem ofList_of_repeat (h : firstRepeat? selection = some width) :
    ofList selection = .error (.repeatedWidth width) := by
  unfold ofList
  simp only [h]

/-- A selection without repetitions that has a gap is refused for the first one. -/
theorem ofList_of_gap (hnodup : selection.Nodup) (hne : selection ≠ [])
    (h : gap? selection = some (width, part)) :
    ofList selection = .error (.missingPart width part) := by
  unfold ofList
  simp only [firstRepeat?_eq_none_iff.mpr hnodup]
  rw [dif_neg (arrange_all_ne_nil hne)]
  split
  · next hmissing =>
    obtain ⟨rfl, rfl⟩ := Prod.mk.inj (Option.some.inj (hmissing.symm.trans h))
    rfl
  · next hnone => cases hnone.symm.trans h

/-- A selection with neither repetitions nor gaps gives a table of the selected widths. -/
theorem exists_ofList (hnodup : selection.Nodup) (hne : selection ≠ [])
    (h : gap? selection = none) :
    ∃ table, ofList selection = .ok table ∧ table.widths = arrange Width.all selection := by
  unfold ofList
  simp only [firstRepeat?_eq_none_iff.mpr hnodup]
  rw [dif_neg (arrange_all_ne_nil hne)]
  split
  · next hmissing => cases hmissing.symm.trans h
  · exact ⟨_, rfl, rfl⟩

/-- A table has whatever its widths come down to, though it asks for their parts only. -/
theorem mem_of_reachable (table : WidthTable) {start finish : Width} (hstart : start ∈ table.widths)
    (h : Relation.ReflTransGen (fun width part => part ∈ width.parts) start finish) :
    finish ∈ table.widths := by
  induction h with
  | refl => exact hstart
  | tail _ hpart ih => exact table.closed _ ih _ hpart

end WidthTable

open WidthTable

/-- What becomes of a selection of widths of any length and in any order. If a width is listed
again, the first one that already occurred is reported, where nothing before it is a repetition.
Otherwise an empty selection is reported as such. Otherwise, if a listed width has a part that is
not listed, the narrowest such width is reported with its first missing part. Otherwise there is a
table: it ascends, has the listed widths and no others, has the scalar width, and has every width
that is reached from one of its widths by going to parts again and again. -/
theorem table_of_selection (selection : List Width) :
    (¬ selection.Nodup → ∃ before width after, selection = before ++ width :: after ∧
      before.Nodup ∧ width ∈ before ∧ ofList selection = .error (.repeatedWidth width)) ∧
    (selection = [] → ofList selection = .error .noWidths) ∧
    (selection.Nodup → (∃ width, HasGap selection width) → ∃ width part,
      FirstGap selection width part ∧ ofList selection = .error (.missingPart width part)) ∧
    (selection.Nodup → selection ≠ [] → (¬ ∃ width, HasGap selection width) →
      ∃ table, ofList selection = .ok table ∧ table.widths.Pairwise (· < ·) ∧
        (∀ width, width ∈ table.widths ↔ width ∈ selection) ∧ .scalar ∈ table.widths ∧
        ∀ start ∈ table.widths, ∀ finish,
          Relation.ReflTransGen (fun width part => part ∈ width.parts) start finish →
            finish ∈ table.widths) := by
  refine ⟨?_, ?_, ?_, ?_⟩
  · intro hrepeats
    obtain ⟨width, hfound⟩ :=
      Option.ne_none_iff_exists'.mp (mt firstRepeat?_eq_none_iff.mp hrepeats)
    obtain ⟨before, after, hsplit, hnodup, hmem⟩ := firstRepeat?_eq_some hfound
    exact ⟨before, width, after, hsplit, hnodup, hmem, ofList_of_repeat hfound⟩
  · rintro rfl
    rfl
  · rintro hnodup ⟨width, hgap⟩
    obtain ⟨⟨narrowest, part⟩, hfound⟩ :=
      Option.ne_none_iff_exists'.mp fun hnone => gap?_eq_none_iff.mp hnone ⟨width, hgap⟩
    exact ⟨narrowest, part, gap?_eq_some hfound,
      ofList_of_gap hnodup (List.ne_nil_of_mem hgap.1) hfound⟩
  · intro hnodup hne hclosed
    obtain ⟨table, htable, hwidths⟩ := exists_ofList hnodup hne (gap?_eq_none_iff.mpr hclosed)
    refine ⟨table, htable, table.sorted, fun width => ?_, table.scalar_mem,
      fun _ hstart _ => table.mem_of_reachable hstart⟩
    rw [hwidths, mem_arrange_all]

/-- A repetition that comes before a gap, the narrower of two gaps listed last, and a table. -/
theorem table_of_selection_each :
    (∃ before width after, [.eight, .scalar, .scalar, .eight] = before ++ width :: after ∧
      before.Nodup ∧ width ∈ before ∧
      ofList [.eight, .scalar, .scalar, .eight] = .error (.repeatedWidth width)) ∧
    FirstGap [.sixteen, .scalar, .three] .three .two ∧
      ofList [.sixteen, .scalar, .three] = .error (.missingPart .three .two) ∧
    ∃ table, ofList [.three, .scalar, .two] = .ok table ∧ table.widths.Pairwise (· < ·) ∧
      .scalar ∈ table.widths := by
  obtain ⟨hrepeats, -⟩ := table_of_selection [.eight, .scalar, .scalar, .eight]
  obtain ⟨-, -, hgap, -⟩ := table_of_selection [.sixteen, .scalar, .three]
  obtain ⟨-, -, -, haccepts⟩ := table_of_selection [.three, .scalar, .two]
  obtain ⟨width, part, hfirst, herror⟩ :=
    hgap (by decide) ⟨.three, by decide, .two, by decide, by decide⟩
  obtain ⟨rfl, rfl⟩ : width = .three ∧ part = .two := by
    have hreported : ofList [.sixteen, .scalar, .three] = .error (.missingPart .three .two) := rfl
    simpa [hreported, eq_comm] using herror
  have hclosed : ¬ ∃ width, HasGap [.three, .scalar, .two] width := by
    rintro ⟨width, hwidth, part, hpart, hmissing⟩
    revert hwidth hpart hmissing
    cases width <;> cases part <;> decide
  obtain ⟨table, htable, hsorted, -, hscalar, -⟩ := haccepts (by decide) (by decide) hclosed
  exact ⟨hrepeats (by decide), hfirst, herror, table, htable, hsorted, hscalar⟩

end LaneConvert
