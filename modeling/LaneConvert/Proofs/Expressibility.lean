import LaneConvert.Library.Layout
import LaneConvert.Proofs.Lowering

/-!
# Which plans succeed

The only conversions that may lack an expression are those between integers and floating point that
saturate or name a rounding mode: no cast expresses them, so they need an intrinsic for single
values in the end. A plan therefore succeeds as a whole if it has these intrinsics or if its catalog
keeps to one category. Where it fails, it fails at the least conversion that needs an intrinsic, and
this one is read off the catalog.
-/

namespace LaneConvert

/-- A conversion that only an intrinsic expresses. -/
structure Conversion.NeedsIntrinsic (c : Conversion) : Prop where
  /-- The conversion goes between integers and floating point. -/
  mixed : c.source.isFloat ≠ c.target.isFloat
  /-- The conversion carries a qualifier. -/
  qualified : c.saturation = .on ∨ c.rounding ≠ .implied

/-- A catalog with integers and floating-point types. -/
structure Catalog.Mixed (catalog : Catalog) : Prop where
  /-- There is an integer type. -/
  integer : ∃ t ∈ catalog.types, t.isInteger = true
  /-- There is a floating-point type. -/
  float : ∃ t ∈ catalog.types, t.isFloat = true

namespace Conversion

variable {c : Conversion}

/-- The width plays no part in what expresses a conversion. -/
theorem needsIntrinsic_atWidth {w : Width} : (c.atWidth w).NeedsIntrinsic ↔ c.NeedsIntrinsic :=
  ⟨fun h => ⟨h.mixed, h.qualified⟩, fun h => ⟨h.mixed, h.qualified⟩⟩

/-- A conversion at its own width is itself. -/
theorem atWidth_self {w : Width} (h : c.width = w) : c.atWidth w = c := by
  subst h
  rfl

/-- A conversion is between integers and floating point exactly if one of its types is floating. -/
theorem kind_mixed_iff :
    c.kind = .floatToInt ∨ c.kind = .intToFloat ↔ c.source.isFloat ≠ c.target.isFloat := by
  unfold kind Kind.between
  cases c.source.isFloat <;> cases c.target.isFloat <;> simp
  split <;> simp

/-- A conversion has no scalar expression exactly if it needs an intrinsic, and then it is itself
reported. -/
theorem scalarExpression_eq_error_iff {e : LibraryError} :
    c.scalarExpression = .error e ↔ c.NeedsIntrinsic ∧ e = .noLowering c := by
  constructor
  · intro h
    unfold scalarExpression at h
    split at h
    · split at h
      · simp at h
      · split at h <;> simp at h
    · simp at h
    · simp at h
    all_goals
      next hkind =>
        split at h
        · next hqualified =>
          obtain rfl := Except.error.inj h
          rw [Bool.or_eq_true, Saturation.isOn_iff] at hqualified
          refine ⟨⟨kind_mixed_iff.mp (by simp [hkind]), ?_⟩, rfl⟩
          simpa [Rounding.isExplicit] using hqualified
        · simp at h
  · rintro ⟨hneeds, rfl⟩
    have hqualified : (c.saturation.isOn || c.rounding.isExplicit) = true := by
      simpa [Saturation.isOn, Rounding.isExplicit] using hneeds.qualified
    unfold scalarExpression
    rcases kind_mixed_iff.mpr hneeds.mixed with hkind | hkind <;> simp [hkind, hqualified]

/-- The platform has an operation for whatever no cast expresses. -/
theorem NeedsIntrinsic.exists_operation (h : c.NeedsIntrinsic) : ∃ op, c.operation? = some op := by
  unfold operation?
  rcases kind_mixed_iff.mpr h.mixed with hkind | hkind <;> rw [hkind] <;> dsimp only <;> split <;>
    exact ⟨_, rfl⟩

end Conversion

/-- A kind that refuses saturation has no conversion that saturates. -/
theorem Conversion.saturation_of_refused {c : Conversion}
    (h : c.kind.acceptsSaturation = false) : c.saturation = .off := by
  have hlegal := (Kind.accepts_iff.mp c.legal).1
  rw [← Conversion.kind, h] at hlegal
  exact Saturation.not_isOn_iff.mp (by simpa using hlegal)

/-- A kind that refuses rounding modes has no conversion that names one. -/
theorem Conversion.rounding_of_refused {c : Conversion}
    (h : c.kind.acceptsRounding = false) : c.rounding = .implied := by
  have hlegal := (Kind.accepts_iff.mp c.legal).2
  rw [← Conversion.kind, h] at hlegal
  exact Rounding.not_isExplicit_iff.mp (by simpa using hlegal)

/-- No conversion to floating point saturates. -/
theorem Conversion.saturation_of_isFloat {c : Conversion} (h : c.target.isFloat = true) :
    c.saturation = .off := by
  apply saturation_of_refused
  rw [Conversion.kind, Kind.between, h]
  cases c.source.isFloat with
  | false => rfl
  | true =>
    dsimp only
    split <;> rfl

/-- A conversion that needs an intrinsic lacks one exactly at the widths without intrinsics. -/
theorem IntrinsicSet.resolve?_eq_none_of_needsIntrinsic {set : IntrinsicSet} {c : Conversion}
    (h : c.NeedsIntrinsic) : set.resolve? c = none ↔ c.width ∉ set.widths := by
  obtain ⟨op, hop⟩ := h.exists_operation
  have hwork : (c.isIdentity && !c.rounding.isExplicit) = false := by
    rw [Bool.and_eq_false_iff]
    left
    simpa [Conversion.isIdentity] using fun hsame => h.mixed (congrArg Scalar.isFloat hsame)
  simp [resolve?, hwork, hop, covers_iff]

namespace Plan

variable {p : Plan} {c : Conversion} {e : LibraryError}

/-- At a width of the table, what fails in one step is a single value that needs an intrinsic. -/
theorem lower_eq_error_iff (hw : c.width ∈ p.table.widths) :
    p.lower c = .error e ↔
      c.width = .scalar ∧ .scalar ∉ p.intrinsics.widths ∧ c.NeedsIntrinsic ∧
        e = .noLowering c := by
  constructor
  · intro h
    rcases lower_of_mem hw with ⟨result, hlower⟩ | ⟨hsingle, hresolve, hlower⟩
    · rw [hlower] at h
      cases h
    · rw [hlower] at h
      obtain ⟨hneeds, rfl⟩ := Conversion.scalarExpression_eq_error_iff.mp h
      have huncovered := (IntrinsicSet.resolve?_eq_none_of_needsIntrinsic hneeds).mp hresolve
      exact ⟨hsingle, hsingle ▸ huncovered, hneeds, rfl⟩
  · rintro ⟨hsingle, huncovered, hneeds, rfl⟩
    have hresolve : p.intrinsics.resolve? c = none :=
      (IntrinsicSet.resolve?_eq_none_of_needsIntrinsic hneeds).mpr (hsingle ▸ huncovered)
    have hsplit := Width.split?_eq_none_iff.mpr hsingle
    simp only [lower, hresolve, hsplit]
    exact Conversion.scalarExpression_eq_error_iff.mpr ⟨hneeds, rfl⟩

/-- At a width of the table, what fails on the way down is the single value that the conversion
comes down to: both parts of such a width are in the table, so the recursion stays inside it. -/
theorem of_explain_eq_error (hw : c.width ∈ p.table.widths) (h : p.explain c = .error e) :
    .scalar ∉ p.intrinsics.widths ∧ c.NeedsIntrinsic ∧ e = .noLowering (c.atWidth .scalar) := by
  fun_induction Plan.explain p c generalizing e with
  | case1 c e' hlower =>
    obtain rfl := Except.error.inj h
    obtain ⟨hsingle, huncovered, hneeds, rfl⟩ := (lower_eq_error_iff hw).mp hlower
    exact ⟨huncovered, hneeds, by rw [Conversion.atWidth_self hsingle]⟩
  | case2 c type low lowSlice high highSlice hlower e' hlow ih =>
    obtain rfl := Except.error.inj h
    obtain ⟨split, hsplit, rfl, -⟩ := lower_concat hlower
    obtain ⟨huncovered, hneeds, herror⟩ := ih (WidthTable.parts_mem hw hsplit).1 hlow
    exact ⟨huncovered, Conversion.needsIntrinsic_atWidth.mp hneeds, herror⟩
  | case3 c type low lowSlice high highSlice hlower lowPart hlow e' hhigh ihlow ih =>
    obtain rfl := Except.error.inj h
    obtain ⟨split, hsplit, -, rfl, -⟩ := lower_concat hlower
    obtain ⟨huncovered, hneeds, herror⟩ := ih (WidthTable.parts_mem hw hsplit).2 hhigh
    exact ⟨huncovered, Conversion.needsIntrinsic_atWidth.mp hneeds, herror⟩
  | case4 => cases h
  | case5 => cases h

/-- A conversion has no definition exactly for the reason that it has no expression. -/
theorem define_eq_error_iff : p.define c = .error e ↔ p.lower c = .error e := by
  unfold define
  cases p.lower c <;> simp [Except.map]

end Plan

/-- An ascending list is refused for the least of its elements that are refused. -/
theorem mapM_eq_error_of_least {α β ε : Type} {f : α → Except ε β} {l : List α}
    {r : α → α → Prop} {a : α} {e : ε} (hsorted : l.Pairwise r) (ha : a ∈ l)
    (hfails : f a = .error e) (hleast : ∀ b ∈ l, ∀ e', f b = .error e' → ¬ r b a) :
    l.mapM f = .error e := by
  induction l with
  | nil => simp at ha
  | cons first rest ih =>
    rw [List.pairwise_cons] at hsorted
    rw [List.forall_mem_cons] at hleast
    rw [List.mapM_cons]
    rcases List.mem_cons.mp ha with rfl | ha
    · rw [hfails]
      rfl
    · cases hfirst : f first with
      | error e' => exact absurd (hsorted.1 a ha) (hleast.1 e' hfirst)
      | ok b =>
        rw [ih hsorted.2 ha hleast.2]
        rfl

/-- The first element of a kind stands before all others of the kind. -/
theorem idxOf_le_of_find? {α : Type} [DecidableEq α] {l : List α} {q : α → Bool} {a b : α}
    (ha : l.find? q = some a) (hb : b ∈ l) (hq : q b = true) : l.idxOf a ≤ l.idxOf b := by
  obtain ⟨-, before, after, rfl, hbefore⟩ := List.find?_eq_some_iff_append.mp ha
  have hnot : b ∉ before := fun hmem => by simpa [hq] using hbefore b hmem
  have hnot' : a ∉ before := fun hmem => by
    simpa [List.find?_some ha] using hbefore a hmem
  rw [List.idxOf_append_of_notMem hnot, List.idxOf_append_of_notMem hnot', List.idxOf_cons_self]
  exact Nat.add_le_add_left (Nat.zero_le _) _

/-- Integers come before floating-point types. -/
theorem Scalar.lt_of_isInteger_of_isFloat {s t : Scalar} (hs : s.isInteger = true)
    (ht : t.isFloat = true) : s < t := by
  have hs' : s.rank < 8 := by revert hs; cases s <;> decide
  have ht' : 8 ≤ t.rank := by revert ht; cases t <;> decide
  exact Nat.lt_of_lt_of_le hs' ht'

/-- A catalog lists its types in their order. -/
theorem Catalog.idxOf_lt_of_lt {catalog : Catalog} {s t : Scalar} (hs : s ∈ catalog.types)
    (ht : t ∈ catalog.types) (h : s < t) : catalog.types.idxOf s < catalog.types.idxOf t := by
  have hs' := List.idxOf_lt_length_of_mem hs
  have ht' := List.idxOf_lt_length_of_mem ht
  by_contra hnot
  rcases Nat.lt_or_eq_of_le (Nat.le_of_not_lt hnot) with hlt | heq
  · have hback := List.pairwise_iff_getElem.mp catalog.sorted _ _ ht' hs' hlt
    rw [List.getElem_idxOf, List.getElem_idxOf] at hback
    exact Nat.lt_asymm (show s.rank < t.rank from h) hback
  · have hsame : t = s := (List.idxOf_inj ht).mp heq
    subst hsame
    exact Nat.lt_irrefl _ (show t.rank < t.rank from h)

/-- A table has the width that every other width comes down to. -/
theorem WidthTable.scalar_mem (table : WidthTable) : .scalar ∈ table.widths := by
  have hdown : ∀ n, ∀ w ∈ table.widths, w.lanes = n → .scalar ∈ table.widths := by
    intro n
    induction n using Nat.strong_induction_on with
    | _ n ih =>
      intro w hw hlanes
      cases hsplit : w.split? with
      | none => exact Width.split?_eq_none_iff.mp hsplit ▸ hw
      | some split =>
        have hlt : split.low.lanes < n := hlanes ▸ Width.lanes_low_lt hsplit
        exact ih _ hlt split.low (parts_mem hw hsplit).1 rfl
  obtain ⟨w, rest, hwidths⟩ := List.exists_cons_of_ne_nil table.nonempty
  exact hdown _ w (hwidths ▸ List.mem_cons_self) rfl

namespace Plan

variable {p : Plan} {c first : Conversion} {integral floating : Scalar}

/-- No conversion that needs an intrinsic is listed before the one from the first integer to the
first floating-point type that rounds toward zero. -/
theorem not_places_lt_of_needsIntrinsic
    (hinteger : p.catalog.types.find? Scalar.isInteger = some integral)
    (hfloat : p.catalog.types.find? Scalar.isFloat = some floating)
    (hfirst : Conversion.of integral floating .scalar .off .towardZero = .ok first)
    (hc : c ∈ p.conversions) (hsingle : c.width = .scalar) (hneeds : c.NeedsIntrinsic) :
    ¬ c.places p.catalog p.table < first.places p.catalog p.table := by
  obtain ⟨rfl, rfl, hwidth, hsaturation, hrounding⟩ := Conversion.of_eq_ok_iff.mp hfirst
  obtain ⟨hsource, htarget, -⟩ := mem_conversions.mp hc
  have hintegerMem := List.mem_of_find?_eq_some hinteger
  have hmixed := hneeds.mixed
  simp only [Conversion.places, List.cons_lt_cons_iff, hwidth, hsingle, hsaturation, hrounding]
  cases hsourceFloat : c.source.isFloat with
  | true =>
    have hlt := Catalog.idxOf_lt_of_lt hintegerMem hsource
      (Scalar.lt_of_isInteger_of_isFloat (List.find?_some hinteger) hsourceFloat)
    omega
  | false =>
    have hsourceLe := idxOf_le_of_find? hinteger hsource (by simp [Scalar.isInteger, hsourceFloat])
    have htargetFloat : c.target.isFloat = true := by
      rw [hsourceFloat] at hmixed
      simpa using hmixed.symm
    have htargetLe := idxOf_le_of_find? hfloat htarget htargetFloat
    have hoff := Conversion.saturation_of_isFloat htargetFloat
    have hexplicit : c.rounding ≠ .implied := by simpa [hoff] using hneeds.qualified
    have hroundingLe : Rounding.all.idxOf .towardZero ≤ Rounding.all.idxOf c.rounding := by
      revert hexplicit
      cases c.rounding <;> decide
    rw [hoff]
    simp only [Nat.lt_irrefl, false_or, true_and, List.lt_irrefl, and_false, or_false]
    omega

/-- Where conversions lack their intrinsics, the first of them is known from the catalog. The
enumeration ascends, so whatever failed before this conversion would be less than it. -/
theorem definitions_eq_error (hscalar : .scalar ∉ p.intrinsics.widths) (hmixed : p.catalog.Mixed) :
    ∃ integral floating c,
      p.catalog.types.find? Scalar.isInteger = some integral ∧
      p.catalog.types.find? Scalar.isFloat = some floating ∧
      Conversion.of integral floating .scalar .off .towardZero = .ok c ∧
      p.definitions = .error (.noLowering c) := by
  obtain ⟨integral, hinteger⟩ := Option.isSome_iff_exists.mp (List.find?_isSome.mpr hmixed.integer)
  obtain ⟨floating, hfloat⟩ := Option.isSome_iff_exists.mp (List.find?_isSome.mpr hmixed.float)
  have hintegerFloat : integral.isFloat = false := by
    simpa [Scalar.isInteger] using List.find?_some hinteger
  obtain ⟨c, hc⟩ : ∃ c, Conversion.of integral floating .scalar .off .towardZero = .ok c := by
    refine ⟨⟨integral, floating, .scalar, .off, .towardZero, ?_⟩, Conversion.of_eq_ok_iff.mpr ?_⟩
    · rw [Kind.between, hintegerFloat, List.find?_some hfloat]
      rfl
    · exact ⟨rfl, rfl, rfl, rfl, rfl⟩
  refine ⟨integral, floating, c, hinteger, hfloat, hc, ?_⟩
  obtain ⟨hsource, htarget, hwidth, hsaturation, hrounding⟩ := Conversion.of_eq_ok_iff.mp hc
  have hlisted : c ∈ p.conversions := by
    refine mem_conversions.mpr ⟨?_, ?_, ?_⟩
    · exact hsource ▸ List.mem_of_find?_eq_some hinteger
    · exact htarget ▸ List.mem_of_find?_eq_some hfloat
    · exact hwidth ▸ p.table.scalar_mem
  have hneeds : c.NeedsIntrinsic := by
    refine ⟨?_, .inr ?_⟩
    · rw [hsource, htarget, hintegerFloat, List.find?_some hfloat]
      decide
    · rw [hrounding]
      decide
  have hfails : p.define c = .error (.noLowering c) :=
    define_eq_error_iff.mpr ((lower_eq_error_iff (mem_conversions.mp hlisted).2.2).mpr
      ⟨hwidth, hscalar, hneeds, rfl⟩)
  refine mapM_eq_error_of_least (conversions_sorted p.catalog p.table) hlisted hfails ?_
  intro d hd e hdefine
  obtain ⟨hsingle, -, hneeds, -⟩ :=
    (lower_eq_error_iff (mem_conversions.mp hd).2.2).mp (define_eq_error_iff.mp hdefine)
  exact not_places_lt_of_needsIntrinsic hinteger hfloat hc hd hsingle hneeds

/-- A plan with a conversion that needs an intrinsic has integers and floating-point types. -/
theorem mixed_of_needsIntrinsic (hneeds : c.NeedsIntrinsic)
    (hc : c ∈ p.conversions) : p.catalog.Mixed := by
  obtain ⟨hsource, htarget, -⟩ := mem_conversions.mp hc
  have hmixed := hneeds.mixed
  cases hsourceFloat : c.source.isFloat with
  | false =>
    have htargetFloat : c.target.isFloat = true := by simpa [hsourceFloat] using hmixed.symm
    exact ⟨⟨_, hsource, by simp [Scalar.isInteger, hsourceFloat]⟩, ⟨_, htarget, htargetFloat⟩⟩
  | true =>
    have htargetFloat : c.target.isFloat = false := by simpa [hsourceFloat] using hmixed.symm
    exact ⟨⟨_, htarget, by simp [Scalar.isInteger, htargetFloat]⟩, ⟨_, hsource, hsourceFloat⟩⟩

/-- Definitions are missing exactly if a catalog of both categories lacks the intrinsics for single
values. -/
theorem no_definitions_iff :
    (¬ ∃ definitions, p.definitions = .ok definitions) ↔
      .scalar ∉ p.intrinsics.widths ∧ p.catalog.Mixed := by
  constructor
  · intro h
    rw [exists_definitions_iff] at h
    push Not at h
    obtain ⟨c, hc, hnone⟩ := h
    cases hlower : p.lower c with
    | ok e => exact absurd hlower (hnone e)
    | error e =>
      obtain ⟨-, hscalar, hneeds, -⟩ := (lower_eq_error_iff (mem_conversions.mp hc).2.2).mp hlower
      exact ⟨hscalar, mixed_of_needsIntrinsic hneeds hc⟩
  · rintro ⟨hscalar, hmixed⟩ ⟨definitions, hdefinitions⟩
    obtain ⟨_, _, _, _, _, _, herror⟩ := definitions_eq_error hscalar hmixed
    cases hdefinitions.symm.trans herror

/-- A plan defines its conversions exactly if it has the intrinsics for single values or nothing to
do between integers and floating point. -/
theorem exists_definitions_iff_covers :
    (∃ definitions, p.definitions = .ok definitions) ↔
      p.intrinsics.covers .scalar = true ∨ ¬ p.catalog.Mixed := by
  rw [IntrinsicSet.covers_iff, ← not_iff_not, no_definitions_iff, not_or, not_not]

/-- Where a lowering is given, so is the expression at its root. -/
theorem exists_lower_of_explain {tree : Lowering} (h : p.explain c = .ok tree) :
    ∃ e, p.lower c = .ok e := by
  cases explain_eq_ok_iff.mp h with
  | leaf lowers => exact ⟨_, lower_eq_ok_iff.mpr lowers⟩
  | node lowers => exact ⟨_, lower_eq_ok_iff.mpr lowers⟩

/-- A plan that defines its conversions explains each of them down to single values. -/
theorem exists_explain_of_definitions (h : ∃ definitions, p.definitions = .ok definitions)
    (hc : c ∈ p.conversions) : ∃ tree, p.explain c = .ok tree := by
  cases hexplain : p.explain c with
  | ok tree => exact ⟨tree, rfl⟩
  | error e =>
    obtain ⟨hscalar, hneeds, -⟩ := of_explain_eq_error (mem_conversions.mp hc).2.2 hexplain
    exact absurd h (no_definitions_iff.mpr ⟨hscalar, mixed_of_needsIntrinsic hneeds hc⟩)

/-- The only problem that definitions report is a conversion without an expression. -/
theorem eq_noLowering_of_definitions (h : p.definitions = .error e) : ∃ c, e = .noLowering c := by
  obtain ⟨hscalar, hmixed⟩ := no_definitions_iff (p := p).mp (by simp [h])
  obtain ⟨_, _, c, _, _, _, herror⟩ := definitions_eq_error hscalar hmixed
  exact ⟨c, Except.error.inj (h.symm.trans herror)⟩

/-- Whether a plan defines all of its conversions, and whether it explains them, comes down to the
intrinsics for single values: without them a catalog of integers and floating-point types cannot be
served. What such a plan reports is the conversion from the first integer to the first
floating-point type of its catalog that rounds toward zero. No width is ever missing. -/
theorem generation_succeeds_iff (p : Plan) :
    [∃ definitions, p.definitions = .ok definitions,
      ∀ c ∈ p.conversions, ∃ tree, p.explain c = .ok tree,
      p.intrinsics.covers .scalar = true ∨ ¬ p.catalog.Mixed].TFAE ∧
    ((¬ ∃ definitions, p.definitions = .ok definitions) →
      ∃ integral floating c,
        p.catalog.types.find? Scalar.isInteger = some integral ∧
        p.catalog.types.find? Scalar.isFloat = some floating ∧
        Conversion.of integral floating .scalar .off .towardZero = .ok c ∧
        p.definitions = .error (.noLowering c) ∧
        ∀ l, p.render l = .error (.noLowering c)) ∧
    ∀ c width, p.definitions ≠ .error (.missingWidth c width) ∧
      ∀ d ∈ p.conversions, p.explain d ≠ .error (.missingWidth c width) := by
  refine ⟨?_, ?_, ?_⟩
  · tfae_have 1 → 2 := fun hdefinitions c hc => exists_explain_of_definitions hdefinitions hc
    tfae_have 2 → 1 := by
      intro hexplain
      refine exists_definitions_iff.mpr fun c hc => ?_
      obtain ⟨tree, htree⟩ := hexplain c hc
      exact exists_lower_of_explain htree
    tfae_have 1 ↔ 3 := exists_definitions_iff_covers
    tfae_finish
  · intro hnone
    obtain ⟨hscalar, hmixed⟩ := no_definitions_iff.mp hnone
    obtain ⟨integral, floating, c, hinteger, hfloat, hc, herror⟩ :=
      definitions_eq_error hscalar hmixed
    refine ⟨integral, floating, c, hinteger, hfloat, hc, herror, fun l => ?_⟩
    rw [render, herror]
    rfl
  · intro c width
    constructor
    · intro hdefinitions
      obtain ⟨d, hd⟩ := eq_noLowering_of_definitions hdefinitions
      cases hd
    · intro d hd hexplain
      obtain ⟨-, -, he⟩ := of_explain_eq_error (mem_conversions.mp hd).2.2 hexplain
      cases he

/-- Intrinsics for pairs do not serve a catalog of integers and floating-point types. -/
example :
    (⟨⟨[.uint, .long, .float, .double], by decide, by decide⟩,
      ⟨[.scalar, .two], by decide, by decide, by decide⟩, .of "" [.two]⟩ : Plan).definitions =
      .error (.noLowering ⟨.uint, .float, .scalar, .off, .towardZero, by decide⟩) := by
  rfl

end Plan

end LaneConvert
