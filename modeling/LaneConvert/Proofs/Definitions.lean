import LaneConvert.Proofs.Lanes
import LaneConvert.Proofs.Lowering

/-!
# The definitions of a plan

A call is resolved by the name of the function and the type of the slice it is applied to. In a list
of definitions that a plan succeeds with, every call finds one definition, which has fewer lanes and
is otherwise the same conversion. Calls therefore never come back to where they started, and no
intrinsic is mistaken for a function.

A plan treats each of its conversions on its own. What the tables contribute is the choice and the
order of the conversions, and that the parts of a listed width are listed. So a plan that lists
fewer types and widths with the same intrinsics has the same definitions, less those that it does
not list.
-/

namespace LaneConvert

/-- The width with a given number of lanes, if there is one. -/
def Width.ofLanes? (n : Nat) : Option Width := Width.all.find? fun w => w.lanes = n

/-- A width is found by its number of lanes. -/
theorem Width.ofLanes?_lanes (w : Width) : Width.ofLanes? w.lanes = some w := by
  cases w <;> decide

/-- The type of a slice of a vector: as many lanes of the same scalar type as the slice names. -/
def sliceType? (source : Scalar) (w : Width) (slice : String) : Option String :=
  (slice? slice (List.replicate w.lanes ())).bind fun lanes =>
    (Width.ofLanes? lanes.length).map (vectorName source)

/-- The calls of generated functions in an expression: the name and the slice of the argument. -/
def Expression.callSites : Expression → List (String × String)
  | .concat _ low lowSlice high highSlice =>
    [(low.functionName, lowSlice), (high.functionName, highSlice)]
  | _ => []

/-- The signature that a call in a definition asks for. -/
def Definition.requested? (d : Definition) (site : String × String) : Option String :=
  (sliceType? d.conversion.source d.conversion.width site.2).map fun type =>
    site.1 ++ "(" ++ type ++ ")"

/-- One definition of a list calls another one. -/
def Calls (definitions : List Definition) (d callee : Definition) : Prop :=
  d ∈ definitions ∧ callee ∈ definitions ∧
    ∃ site ∈ d.result.callSites, d.requested? site = some callee.conversion.signature

/-- A callee carries out the conversion of its caller on fewer lanes, under the same guard. -/
structure Narrows (d callee : Definition) : Prop where
  /-- The conversion is the same at another width. -/
  conversion : callee.conversion = d.conversion.atWidth callee.conversion.width
  /-- The guard is the same. -/
  guard : callee.guard? = d.guard?
  /-- The width is smaller. -/
  lanes : callee.conversion.width.lanes < d.conversion.width.lanes

/-- The slices of a split have the types of its parts. -/
theorem sliceType?_of_split (source : Scalar) {w : Width} {split : Width.Split}
    (hs : w.split? = some split) :
    sliceType? source w split.lowSlice = some (vectorName source split.low) ∧
      sliceType? source w split.highSlice = some (vectorName source split.high) := by
  have hlanes : (List.replicate w.lanes ()).length = w.lanes := List.length_replicate
  obtain ⟨low, high, hcut⟩ := exists_cutBy hs hlanes
  constructor
  · simp [sliceType?, hcut.low_slice, hcut.low_length, Width.ofLanes?_lanes]
  · simp [sliceType?, hcut.high_slice, hcut.high_length, Width.ofLanes?_lanes]

/-- A list without repeated keys has one element of a key it contains. -/
theorem filter_eq_singleton {α β : Type} [DecidableEq β] {key : α → β} {l : List α} {a : α}
    (hkeys : (l.map key).Nodup) (ha : a ∈ l) : l.filter (fun b => key b = key a) = [a] := by
  induction l with
  | nil => simp at ha
  | cons b rest ih =>
    rw [List.map_cons, List.nodup_cons] at hkeys
    rcases List.mem_cons.mp ha with rfl | ha
    · have hrest : rest.filter (fun b => key b = key a) = [] := by
        rw [List.filter_eq_nil_iff]
        intro b hb hkey
        exact hkeys.1 (List.mem_map.mpr ⟨b, hb, by simpa using hkey⟩)
      simp [hrest]
    · have hne : key b ≠ key a := fun h => hkeys.1 (h ▸ List.mem_map_of_mem ha)
      simp [hne, ih hkeys.2 ha]

namespace Plan

variable {p : Plan} {definitions : List Definition}

/-- A plan defines every part of a conversion that it defines. -/
theorem exists_definition_atWidth (h : p.definitions = .ok definitions) {d : Definition}
    (hd : d ∈ definitions) {w : Width} (hw : w ∈ p.table.widths) :
    ∃ callee ∈ definitions, callee.conversion = d.conversion.atWidth w := by
  obtain ⟨hsource, htarget, -⟩ := mem_conversions.mp (conversion_mem h hd)
  exact exists_definition_of_mem h (mem_conversions.mpr ⟨hsource, htarget, hw⟩)

/-- Every call finds one definition, and that definition narrows the caller. -/
theorem callee_of_callSite (h : p.definitions = .ok definitions) {d : Definition}
    (hd : d ∈ definitions) {site : String × String} (hsite : site ∈ d.result.callSites) :
    ∃ callee ∈ definitions, d.requested? site = some callee.conversion.signature ∧
      Narrows d callee := by
  have hlowers := lowersTo_of_mem h hd
  generalize hresult : d.result = result at hlowers hsite
  cases hlowers with
  | passThrough => simp [Expression.callSites] at hsite
  | intrinsic => simp [Expression.callSites] at hsite
  | scalar _ _ expressed =>
    have hplain := (Conversion.hasScalarForm_of_eq_ok expressed).calls_nothing.1
    cases result <;> simp [Expression.callSites, Expression.isConcat] at hsite hplain
  | parts split unresolved splits low high =>
    have hnarrows : ∀ w, w.lanes < d.conversion.width.lanes → w ∈ p.table.widths →
        ∃ callee ∈ definitions, callee.conversion = d.conversion.atWidth w ∧ Narrows d callee := by
      intro w hw hmem
      obtain ⟨callee, hcallee, hconversion⟩ := exists_definition_atWidth h hd hmem
      refine ⟨callee, hcallee, hconversion, ?_, ?_, ?_⟩
      · rw [hconversion]
        rfl
      · rw [guard_of_mem h hcallee, guard_of_mem h hd, hconversion]
        rfl
      · rw [hconversion]
        exact hw
    obtain ⟨hlowType, hhighType⟩ := sliceType?_of_split d.conversion.source splits
    simp only [Conversion.joined, Expression.callSites, List.mem_cons, List.not_mem_nil,
      or_false] at hsite
    rcases hsite with rfl | rfl
    · obtain ⟨callee, hcallee, hconversion, hd⟩ := hnarrows _ (Width.lanes_low_lt splits) low
      refine ⟨callee, hcallee, ?_, hd⟩
      rw [hconversion]
      simp [Definition.requested?, hlowType, Conversion.signature, Conversion.sourceType,
        Conversion.atWidth, vectorName]
    · obtain ⟨callee, hcallee, hconversion, hd⟩ := hnarrows _ (Width.lanes_high_lt splits) high
      refine ⟨callee, hcallee, ?_, hd⟩
      rw [hconversion]
      simp [Definition.requested?, hhighType, Conversion.signature, Conversion.sourceType,
        Conversion.atWidth, vectorName]

/-- A call goes to a definition of fewer lanes. -/
theorem lanes_of_calls (h : p.definitions = .ok definitions) {d callee : Definition}
    (hcalls : Calls definitions d callee) :
    callee.conversion.width.lanes < d.conversion.width.lanes := by
  obtain ⟨hd, -, site, hsite, hrequested⟩ := hcalls
  obtain ⟨found, -, hfound, hnarrows⟩ := callee_of_callSite h hd hsite
  have hsame := Conversion.signature_inj (Option.some.inj (hrequested.symm.trans hfound))
  rw [hsame]
  exact hnarrows.lanes

/-- A chain of calls goes down in lanes all the way. -/
theorem lanes_of_transGen (h : p.definitions = .ok definitions) {d callee : Definition}
    (hchain : Relation.TransGen (Calls definitions) d callee) :
    callee.conversion.width.lanes < d.conversion.width.lanes := by
  induction hchain with
  | single hcalls => exact lanes_of_calls h hcalls
  | tail _ hcalls ih => exact (lanes_of_calls h hcalls).trans ih

/-- An intrinsic that a definition calls has the name of no function, whatever its stem is. -/
theorem intrinsic_ne_functionName (h : p.definitions = .ok definitions) {d : Definition}
    (hd : d ∈ definitions) {callee : String} (hcall : d.result = .call callee) (c : Conversion) :
    callee ≠ c.functionName := by
  have hlowers := lowersTo_of_mem h hd
  rw [hcall] at hlowers
  cases hlowers with
  | intrinsic op => exact IntrinsicSet.intrinsicName_ne_functionName _ op _ c
  | scalar _ _ expressed =>
    have hcalls := (Conversion.hasScalarForm_of_eq_ok expressed).calls_nothing.2
    simp [Expression.isCall] at hcalls

end Plan

/-- A generated library is closed under its own calls. Every call asks for the signature of exactly
one definition of the list; that definition has the types, qualifiers and guard of its caller and
fewer lanes. No chain of calls comes back to its start, and no intrinsic has the name of a
function. -/
theorem definitions_closed {p : Plan} {definitions : List Definition}
    (h : p.definitions = .ok definitions) :
    (∀ d ∈ definitions, ∀ site ∈ d.result.callSites, ∃ signature callee,
      d.requested? site = some signature ∧
      definitions.filter (fun e => e.conversion.signature = signature) = [callee] ∧
      callee.conversion.source = d.conversion.source ∧
      callee.conversion.target = d.conversion.target ∧
      callee.conversion.saturation = d.conversion.saturation ∧
      callee.conversion.rounding = d.conversion.rounding ∧
      callee.guard? = d.guard? ∧
      callee.conversion.width.lanes < d.conversion.width.lanes) ∧
    (∀ d, ¬ Relation.TransGen (Calls definitions) d d) ∧
    ∀ d ∈ definitions, ∀ callee, d.result = .call callee →
      ∀ c : Conversion, callee ≠ c.functionName := by
  refine ⟨?_, ?_, ?_⟩
  · intro d hd site hsite
    obtain ⟨callee, hcallee, hrequested, hnarrows⟩ := Plan.callee_of_callSite h hd hsite
    refine ⟨_, callee, hrequested,
      filter_eq_singleton (Plan.signatures_definitions_nodup h) hcallee, ?_⟩
    rw [hnarrows.conversion]
    exact ⟨rfl, rfl, rfl, rfl, hnarrows.guard, hnarrows.lanes⟩
  · intro d hchain
    exact Nat.lt_irrefl _ (Plan.lanes_of_transGen h hchain)
  · intro d hd callee hcall c
    exact Plan.intrinsic_ne_functionName h hd hcall c

/-- A table of three widths, intrinsics at two lanes only, and a stem that functions begin with
too. Three lanes are put together from two and one, and the call for two lanes finds a definition
that calls an intrinsic. -/
theorem definitions_closed_three :
    let plan : Plan := ⟨⟨[.char, .int], by decide, by decide⟩,
      ⟨[.scalar, .two, .three], by decide, by decide, by decide⟩, .of "convert_" [.two]⟩
    ∃ definitions, ∃ d ∈ definitions, ∃ callee,
      plan.definitions = .ok definitions ∧ definitions.length = 24 ∧
      (∀ d ∈ definitions, ∀ site ∈ d.result.callSites, ∃ signature callee,
        d.requested? site = some signature ∧
        definitions.filter (fun e => e.conversion.signature = signature) = [callee]) ∧
      d.conversion.signature = "convert_int3(char3)" ∧
      d.result.callSites = [("convert_int2", "s01"), ("convert_int", "s2")] ∧
      d.requested? ("convert_int2", "s01") = some "convert_int2(char2)" ∧
      definitions.filter (fun e => e.conversion.signature = "convert_int2(char2)") = [callee] ∧
      callee.conversion.width.lanes < d.conversion.width.lanes ∧
      callee.result = .call "convert_SConvert_Rint2" ∧
      (∀ c : Conversion, "convert_SConvert_Rint2" ≠ c.functionName) ∧
      ∀ d, ¬ Relation.TransGen (Calls definitions) d d := by
  intro plan
  obtain ⟨definitions, h, hlength⟩ : ∃ definitions,
      plan.definitions = .ok definitions ∧ definitions.length = 24 := ⟨_, rfl, rfl⟩
  obtain ⟨hcalls, hchains, hintrinsics⟩ := definitions_closed h
  let caller : Definition := ⟨.plain .char .int .three, none,
    (Conversion.plain .char .int .three).joined ⟨.two, "s01", .scalar, "s2"⟩⟩
  let part : Definition := ⟨.plain .char .int .two, none, .call "convert_SConvert_Rint2"⟩
  have hcaller : caller ∈ definitions :=
    Plan.mem_of_define h (mem_conversions.mpr (by decide)) (by cbv)
  have hpart : part ∈ definitions :=
    Plan.mem_of_define h (mem_conversions.mpr (by decide)) (by cbv)
  obtain ⟨signature, callee, hrequested, hfound, -, -, -, -, -, hlanes⟩ :=
    hcalls caller hcaller ("convert_int2", "s01") (by decide)
  obtain rfl : "convert_int2(char2)" = signature := Option.some.inj hrequested
  obtain rfl : part = callee := by
    have hmem : part ∈ definitions.filter
        (fun e => e.conversion.signature = "convert_int2(char2)") :=
      List.mem_filter.mpr ⟨hpart, by decide⟩
    rw [hfound] at hmem
    exact List.mem_singleton.mp hmem
  refine ⟨definitions, caller, hcaller, part, h, hlength, ?_, by decide, by decide, hrequested,
    hfound, hlanes, rfl, hintrinsics part hpart _ rfl, hchains⟩
  intro d hd site hsite
  obtain ⟨signature, callee, hrequested, hfound, -⟩ := hcalls d hd site hsite
  exact ⟨signature, callee, hrequested, hfound⟩

/-- No type comes before itself. -/
instance : Std.Irrefl fun s t : Scalar => s < t := ⟨fun s => Nat.lt_irrefl s.rank⟩

/-- No two types come before each other. -/
instance : Std.Antisymm fun s t : Scalar => s < t := ⟨fun _ _ h h' => absurd h' (Nat.lt_asymm h)⟩

/-- No width is narrower than itself. -/
instance : Std.Irrefl fun v w : Width => v < w := ⟨fun w => Nat.lt_irrefl w.lanes⟩

/-- No two widths are narrower than each other. -/
instance : Std.Antisymm fun v w : Width => v < w := ⟨fun _ _ h h' => absurd h' (Nat.lt_asymm h)⟩

/-- A selection from an ascending list is the filter of that list. -/
theorem eq_filter_of_subset {α : Type} [DecidableEq α] {r : α → α → Prop} [Std.Irrefl r]
    [Std.Antisymm r] {l selected : List α} (hl : l.Pairwise r) (hselected : selected.Pairwise r)
    (h : selected ⊆ l) : l.filter (· ∈ selected) = selected := by
  refine (hl.filter _).eq_of_mem_iff hselected fun a => ?_
  rw [List.mem_filter, decide_eq_true_iff]
  exact and_iff_right_of_imp (@h a)

variable {catalog smaller : Catalog} {table narrower : WidthTable}

/-- A smaller catalog is what is left of the larger one. -/
theorem Catalog.filter_types (h : smaller.types ⊆ catalog.types) :
    catalog.types.filter (· ∈ smaller.types) = smaller.types :=
  eq_filter_of_subset catalog.sorted smaller.sorted h

/-- A narrower table is what is left of the wider one. -/
theorem WidthTable.filter_widths (h : narrower.widths ⊆ table.widths) :
    table.widths.filter (· ∈ narrower.widths) = narrower.widths :=
  eq_filter_of_subset table.sorted narrower.sorted h

/-- Where it depends on the key of a group and on the rest of an element whether the element is
kept, the keys can be filtered first. -/
theorem filter_flatMap_keys {α β : Type} {keys : List α} {group : α → List β} {keep : β → Bool}
    (listed : α → Bool) (rest : β → Bool)
    (h : ∀ a, ∀ x ∈ group a, keep x = (listed a && rest x)) :
    (keys.flatMap group).filter keep =
      (keys.filter listed).flatMap fun a => (group a).filter rest := by
  induction keys with
  | nil => rfl
  | cons a others ih =>
    rw [List.flatMap_cons, List.filter_append, ih, List.filter_congr (h a)]
    cases ha : listed a with
    | true => simp [ha]
    | false => simp [ha]

/-- A smaller catalog and a narrower table list those conversions that are between their types and
at their widths, in the same order. Each level of the enumeration contributes the part of this
condition that is about its own key. -/
theorem conversions_restrict (htypes : smaller.types ⊆ catalog.types)
    (hwidths : narrower.widths ⊆ table.widths) :
    (conversions catalog table).filter (fun c => c.source ∈ smaller.types ∧
      c.target ∈ smaller.types ∧ c.width ∈ narrower.widths) = conversions smaller narrower := by
  unfold conversions
  rw [filter_flatMap_keys (· ∈ smaller.types)
    (fun c => c.target ∈ smaller.types ∧ c.width ∈ narrower.widths), Catalog.filter_types htypes]
  · refine List.flatMap_congr fun source _ => ?_
    rw [filter_flatMap_keys (· ∈ smaller.types) (fun c => c.width ∈ narrower.widths),
      Catalog.filter_types htypes]
    · refine List.flatMap_congr fun target _ => ?_
      rw [filter_flatMap_keys (· ∈ narrower.widths) (fun _ => true),
        WidthTable.filter_widths hwidths]
      · simp only [List.filter_true]
      · simp +contextual [Conversion.mem_variants]
    · simp +contextual [Conversion.mem_variants]
  · simp only [List.mem_flatMap, Conversion.mem_variants]
    rintro source c ⟨_, _, _, _, rfl, -, -⟩
    simp

/-- A list that is treated one by one can be filtered before as well as after. -/
theorem mapM_filter_eq_ok {α β ε : Type} {f g : α → Except ε β} {keep : α → Bool} {kept : β → Bool}
    {l : List α} {r : List β} (h : l.mapM f = .ok r)
    (hkept : ∀ a b, f a = .ok b → kept b = keep a)
    (hsame : ∀ a ∈ l, keep a = true → g a = f a) :
    (l.filter keep).mapM g = .ok (r.filter kept) := by
  have hall := mapM_eq_ok_iff.mp h
  clear h
  rw [mapM_eq_ok_iff]
  induction hall with
  | nil => exact .nil
  | @cons a b _ _ hfirst _ ih =>
    rw [List.forall_mem_cons] at hsame
    have hrest := ih hsame.2
    have hkeep := hkept a b hfirst
    cases ha : keep a with
    | true =>
      rw [List.filter_cons_of_pos ha, List.filter_cons_of_pos (hkeep.trans ha)]
      exact .cons ((hsame.1 ha).trans hfirst) hrest
    | false =>
      rw [List.filter_cons_of_neg (by simp [ha]), List.filter_cons_of_neg (by simp [hkeep, ha])]
      exact hrest

namespace Plan

variable {p q : Plan} {c : Conversion}

/-- Of the tables, only the parts of the width of a conversion matter to its expression, and at a
listed width they are there. -/
theorem lower_eq_of_mem (hintrinsics : q.intrinsics = p.intrinsics)
    (hp : c.width ∈ p.table.widths) (hq : c.width ∈ q.table.widths) : q.lower c = p.lower c := by
  have hassemble : ∀ split, c.width.split? = some split →
      q.assemble c split = p.assemble c split := by
    intro split hsplit
    obtain ⟨hlow, hhigh⟩ := WidthTable.parts_mem hp hsplit
    obtain ⟨hlow', hhigh'⟩ := WidthTable.parts_mem hq hsplit
    exact (assemble_eq_ok_iff.mpr ⟨hlow', hhigh', rfl⟩).trans
      (assemble_eq_ok_iff.mpr ⟨hlow, hhigh, rfl⟩).symm
  unfold lower
  rw [hintrinsics]
  split
  · rfl
  · rfl
  · split
    · rfl
    · next split hsplit => exact hassemble split hsplit

/-- Plans with the same intrinsics define a conversion alike at a width that both list. -/
theorem define_eq_of_mem (hintrinsics : q.intrinsics = p.intrinsics)
    (hp : c.width ∈ p.table.widths) (hq : c.width ∈ q.table.widths) : q.define c = p.define c := by
  rw [define, lower_eq_of_mem hintrinsics hp hq]
  rfl

end Plan

/-- A plan of fewer types and widths with the same intrinsics succeeds where the larger one does.
Its definitions are those of the larger plan between its own types at its own widths, in the same
order and with the same guards and expressions. -/
theorem definitions_restrict {intrinsics : IntrinsicSet} {definitions : List Definition}
    (htypes : smaller.types ⊆ catalog.types) (hwidths : narrower.widths ⊆ table.widths)
    (h : (⟨catalog, table, intrinsics⟩ : Plan).definitions = .ok definitions) :
    (⟨smaller, narrower, intrinsics⟩ : Plan).definitions =
      .ok (definitions.filter fun d => d.conversion.source ∈ smaller.types ∧
        d.conversion.target ∈ smaller.types ∧ d.conversion.width ∈ narrower.widths) := by
  change (conversions smaller narrower).mapM _ = _
  rw [← conversions_restrict htypes hwidths]
  refine mapM_filter_eq_ok h ?_ ?_
  · intro c d hdefine
    rw [(Plan.define_eq_ok_iff.mp hdefine).1]
  · intro c hc hkeep
    have hwidth : c.width ∈ narrower.widths := (of_decide_eq_true hkeep).2.2
    exact Plan.define_eq_of_mem rfl (hwidths hwidth) hwidth

/-- Of the conversions between three types at three widths, those between two types at two widths
are left. A guarded definition that is put together from parts is kept as it is, and so is one
without a guard; a definition of the third type and one of the third width are removed. -/
theorem definitions_restrict_long :
    let plan : Plan := ⟨⟨[.char, .int, .long], by decide, by decide⟩,
      ⟨[.scalar, .two, .three], by decide, by decide, by decide⟩, .of "" [.scalar]⟩
    let smaller : Plan := ⟨⟨[.char, .long], by decide, by decide⟩,
      ⟨[.scalar, .two], by decide, by decide, by decide⟩, .of "" [.scalar]⟩
    let long : Conversion := .plain .char .long .two
    let char : Conversion := .plain .char .char .scalar
    let int : Conversion := .plain .char .int .scalar
    let wide : Conversion := .plain .char .long .three
    ∃ definitions kept, plan.definitions = .ok definitions ∧ definitions.length = 54 ∧
      smaller.definitions = .ok kept ∧
      kept = definitions.filter (fun d => d.conversion.source ∈ [Scalar.char, .long] ∧
        d.conversion.target ∈ [Scalar.char, .long] ∧ d.conversion.width ∈ [Width.scalar, .two]) ∧
      ⟨long, some .int64, long.joined (.halves .scalar)⟩ ∈ kept ∧
      ⟨char, none, .passThrough "char"⟩ ∈ kept ∧
      ∀ c ∈ [int, wide], ∃ d ∈ definitions, d.conversion = c ∧ d ∉ kept := by
  intro plan smaller long char int wide
  obtain ⟨definitions, h, hlength⟩ : ∃ definitions,
      plan.definitions = .ok definitions ∧ definitions.length = 54 := ⟨_, rfl, rfl⟩
  have hkept : smaller.definitions = .ok (definitions.filter fun d =>
      d.conversion.source ∈ smaller.catalog.types ∧
        d.conversion.target ∈ smaller.catalog.types ∧
          d.conversion.width ∈ smaller.table.widths) :=
    definitions_restrict (by decide) (by decide) h
  refine ⟨definitions, _, h, hlength, hkept, rfl, ?_, ?_, ?_⟩
  · exact List.mem_filter.mpr
      ⟨Plan.mem_of_define h (mem_conversions.mpr (by decide)) (by cbv), by decide⟩
  · exact List.mem_filter.mpr
      ⟨Plan.mem_of_define h (mem_conversions.mpr (by decide)) (by cbv), by decide⟩
  · have hremoved : ∀ c ∈ [int, wide],
        (c.source ∈ plan.catalog.types ∧ c.target ∈ plan.catalog.types ∧
          c.width ∈ plan.table.widths) ∧
        ¬ (c.source ∈ smaller.catalog.types ∧ c.target ∈ smaller.catalog.types ∧
          c.width ∈ smaller.table.widths) := by decide
    intro c hc
    obtain ⟨hlisted, hleft⟩ := hremoved c hc
    obtain ⟨d, hd, rfl⟩ := Plan.exists_definition_of_mem h (mem_conversions.mpr hlisted)
    exact ⟨d, hd, rfl, fun hmem => hleft (of_decide_eq_true (List.mem_filter.mp hmem).2)⟩

end LaneConvert
