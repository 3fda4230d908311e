import LaneConvert.Lowering
import LaneConvert.Proofs.Enumeration

/-!
# How a plan carries out conversions

A plan has four ways to give a conversion an expression, and exactly one of them applies where the
plan succeeds. The ways are named here as the rules of a relation, and the lowering of a conversion
as the trees that the relation spans. The definitions of a plan are the definitions of its
conversions one by one. A width of the table never lacks a part, so whatever is not
expressed in one step and is not a single value is put together from two narrower conversions.
-/

namespace LaneConvert

/-- The expression of a conversion that is put together from the two parts of a split. -/
def Conversion.joined (c : Conversion) (split : Width.Split) : Expression :=
  .concat c.targetType (c.atWidth split.low) split.lowSlice (c.atWidth split.high) split.highSlice

/-- The ways in which a plan gives a conversion its expression. -/
inductive Plan.LowersTo (p : Plan) (c : Conversion) : Expression → Prop where
  /-- The argument already is the result. -/
  | passThrough (same : c.source = c.target) (implied : c.rounding = .implied) :
      p.LowersTo c (.passThrough c.targetType)
  /-- The platform has an intrinsic. -/
  | intrinsic (op : Operation) (carries : c.operation? = some op)
      (covered : c.width ∈ p.intrinsics.widths)
      (work : ¬(c.source = c.target ∧ c.rounding = .implied)) :
      p.LowersTo c (.call (p.intrinsics.intrinsicName op c))
  /-- A single value has a scalar expression. -/
  | scalar {e : Expression} (unresolved : p.intrinsics.resolve? c = none)
      (single : c.width = .scalar) (expressed : c.scalarExpression = .ok e) : p.LowersTo c e
  /-- A vector is put together from its parts. -/
  | parts (split : Width.Split) (unresolved : p.intrinsics.resolve? c = none)
      (splits : c.width.split? = some split) (low : split.low ∈ p.table.widths)
      (high : split.high ∈ p.table.widths) : p.LowersTo c (c.joined split)

/-- Only the scalar width does not split. -/
theorem Width.split?_eq_none_iff {w : Width} : w.split? = none ↔ w = .scalar := by
  cases w <;> simp [Width.split?]

/-- The parts of a width are those of its split, the low part first. -/
theorem Width.parts_eq {w : Width} {split : Width.Split} (h : w.split? = some split) :
    w.parts = [split.low, split.high] := by
  simp [Width.parts, h, Width.Split.parts]

/-- The parts of a width of the table are in the table. -/
theorem WidthTable.parts_mem {table : WidthTable} {w : Width} {split : Width.Split}
    (hw : w ∈ table.widths) (hs : w.split? = some split) :
    split.low ∈ table.widths ∧ split.high ∈ table.widths := by
  have hclosed := table.closed w hw
  simp only [Width.parts_eq hs, List.mem_cons, List.not_mem_nil, or_false, forall_eq_or_imp,
    forall_eq] at hclosed
  exact hclosed

/-- A choice of saturation is on exactly if it is that one. -/
theorem Saturation.isOn_iff {s : Saturation} : s.isOn = true ↔ s = .on := by cases s <;> decide

/-- A choice of saturation that is not on is off. -/
theorem Saturation.not_isOn_iff {s : Saturation} : ¬ s.isOn = true ↔ s = .off := by
  cases s <;> decide

/-- A mode that no function names is the implied one. -/
theorem Rounding.not_isExplicit_iff {r : Rounding} : ¬ r.isExplicit = true ↔ r = .implied := by
  cases r <;> decide

/-- The operations that carry out conversions. Between integers an operation saturates or changes
the width, and between floating-point types it leaves the rounding to the platform. -/
inductive Conversion.CarriedBy (c : Conversion) : Operation → Prop where
  | satUnsignedToSigned (integers : c.kind = .intToInt) (on : c.saturation = .on)
      (source : c.source.isSigned = false) (target : c.target.isSigned = true) :
      c.CarriedBy .satUnsignedToSigned
  | satSignedToUnsigned (integers : c.kind = .intToInt) (on : c.saturation = .on)
      (source : c.source.isSigned = true) (target : c.target.isSigned = false) :
      c.CarriedBy .satSignedToUnsigned
  | fromSigned (integers : c.kind = .intToInt) (off : c.saturation = .off)
      (differ : c.source.bits ≠ c.target.bits) (source : c.source.isSigned = true) :
      c.CarriedBy .fromSigned
  | fromUnsigned (integers : c.kind = .intToInt) (off : c.saturation = .off)
      (differ : c.source.bits ≠ c.target.bits) (source : c.source.isSigned = false) :
      c.CarriedBy .fromUnsigned
  | floatToSigned (mixed : c.kind = .floatToInt) (target : c.target.isSigned = true) :
      c.CarriedBy .floatToSigned
  | floatToUnsigned (mixed : c.kind = .floatToInt) (target : c.target.isSigned = false) :
      c.CarriedBy .floatToUnsigned
  | signedToFloat (mixed : c.kind = .intToFloat) (source : c.source.isSigned = true) :
      c.CarriedBy .signedToFloat
  | unsignedToFloat (mixed : c.kind = .intToFloat) (source : c.source.isSigned = false) :
      c.CarriedBy .unsignedToFloat
  | floatToFloat (floats : c.kind = .floatNarrowing ∨ c.kind = .floatToFloat)
      (implied : c.rounding = .implied) : c.CarriedBy .floatToFloat

/-- The operation of a conversion is one that carries it out. -/
theorem Conversion.carriedBy_of_operation? {c : Conversion} {op : Operation}
    (h : c.operation? = some op) : c.CarriedBy op := by
  unfold operation? at h
  split at h
  · next hkind =>
    split at h
    · next hon =>
      have hsaturation := Saturation.isOn_iff.mp hon
      split at h
      · next hsource htarget =>
        obtain rfl := Option.some.inj h
        exact .satUnsignedToSigned hkind hsaturation hsource htarget
      · next hsource htarget =>
        obtain rfl := Option.some.inj h
        exact .satSignedToUnsigned hkind hsaturation hsource htarget
      · cases h
    · next hoff =>
      have hsaturation := Saturation.not_isOn_iff.mp hoff
      split at h
      · cases h
      · next hbits =>
        split at h
        · next hsource =>
          obtain rfl := Option.some.inj h
          exact .fromSigned hkind hsaturation hbits hsource
        · next hsource =>
          obtain rfl := Option.some.inj h
          exact .fromUnsigned hkind hsaturation hbits (Bool.eq_false_of_not_eq_true hsource)
  · next hkind =>
    split at h
    · next htarget =>
      obtain rfl := Option.some.inj h
      exact .floatToSigned hkind htarget
    · next htarget =>
      obtain rfl := Option.some.inj h
      exact .floatToUnsigned hkind (Bool.eq_false_of_not_eq_true htarget)
  · next hkind =>
    split at h
    · next hsource =>
      obtain rfl := Option.some.inj h
      exact .signedToFloat hkind hsource
    · next hsource =>
      obtain rfl := Option.some.inj h
      exact .unsignedToFloat hkind (Bool.eq_false_of_not_eq_true hsource)
  all_goals
    next hkind =>
      split at h
      · cases h
      · next himplied =>
        obtain rfl := Option.some.inj h
        exact .floatToFloat (by simp [hkind]) (Rounding.not_isExplicit_iff.mp himplied)

namespace IntrinsicSet

variable {set : IntrinsicSet} {c : Conversion}

/-- A conversion that is no work at all. -/
theorem isIdentity_and_implied_iff :
    (c.isIdentity && !c.rounding.isExplicit) = true ↔
      c.source = c.target ∧ c.rounding = .implied := by
  simp [Conversion.isIdentity, Rounding.isExplicit]

/-- The argument is passed through exactly if the type stays the same and no rounding mode is asked
for. -/
theorem resolve?_eq_passThrough_iff :
    set.resolve? c = some .passThrough ↔ c.source = c.target ∧ c.rounding = .implied := by
  rw [← isIdentity_and_implied_iff]
  unfold resolve?
  split
  · simp [*]
  · split <;> simp [*]

/-- An intrinsic carries out a conversion exactly if there is something to do, the platform has an
operation for it, and intrinsics exist at its width. -/
theorem resolve?_eq_intrinsic_iff {callee : String} :
    set.resolve? c = some (.intrinsic callee) ↔
      ¬(c.source = c.target ∧ c.rounding = .implied) ∧ c.width ∈ set.widths ∧
        ∃ op, c.operation? = some op ∧ callee = set.intrinsicName op c := by
  rw [← isIdentity_and_implied_iff]
  unfold resolve?
  split
  · simp [*]
  · next hwork =>
    split
    · next hcovers =>
      have hcovered : c.width ∈ set.widths := covers_iff.mp hcovers
      cases hop : c.operation? with
      | none => simp
      | some op => simp [hwork, hcovered, eq_comm]
    · next hcovers =>
      have hcovered : c.width ∉ set.widths := mt covers_iff.mpr hcovers
      simp [hcovered]

end IntrinsicSet

namespace Plan

variable {p : Plan} {c : Conversion}

/-- A conversion is put together from two parts exactly if both widths are in the table. -/
theorem assemble_eq_ok_iff {split : Width.Split} {e : Expression} :
    p.assemble c split = .ok e ↔
      split.low ∈ p.table.widths ∧ split.high ∈ p.table.widths ∧ e = c.joined split := by
  unfold assemble
  split
  · next width hfind =>
    have hmissing := List.find?_some hfind
    have hpart := List.mem_of_find?_eq_some hfind
    simp only [WidthTable.contains, Bool.not_eq_true', decide_eq_false_iff_not] at hmissing
    simp only [Width.Split.parts, List.mem_cons, List.not_mem_nil, or_false] at hpart
    constructor
    · intro h
      simp at h
    · rintro ⟨hlow, hhigh, -⟩
      rcases hpart with rfl | rfl
      · exact absurd hlow hmissing
      · exact absurd hhigh hmissing
  · next hfind =>
    simp only [List.find?_eq_none, Width.Split.parts, WidthTable.contains, List.mem_cons,
      List.not_mem_nil, or_false, Bool.not_eq_true', decide_eq_false_iff_not, Decidable.not_not,
      forall_eq_or_imp, forall_eq] at hfind
    simp only [Except.ok.injEq, hfind.1, hfind.2, true_and, Conversion.joined]
    exact eq_comm

/-- A plan succeeds on a conversion in one of the four ways and in no other. -/
theorem lower_eq_ok_iff {e : Expression} : p.lower c = .ok e ↔ p.LowersTo c e := by
  constructor
  · intro h
    unfold lower at h
    split at h
    · next callee hresolve =>
      obtain ⟨hwork, hcovered, op, hop, rfl⟩ := IntrinsicSet.resolve?_eq_intrinsic_iff.mp hresolve
      obtain rfl := Except.ok.inj h
      exact .intrinsic op hop hcovered hwork
    · next hresolve =>
      obtain ⟨hsame, himplied⟩ := IntrinsicSet.resolve?_eq_passThrough_iff.mp hresolve
      obtain rfl := Except.ok.inj h
      exact .passThrough hsame himplied
    · next hresolve =>
      split at h
      · next hsplit => exact .scalar hresolve (Width.split?_eq_none_iff.mp hsplit) h
      · next split hsplit =>
        obtain ⟨hlow, hhigh, rfl⟩ := assemble_eq_ok_iff.mp h
        exact .parts split hresolve hsplit hlow hhigh
  · intro h
    cases h with
    | passThrough same implied =>
      simp [lower, IntrinsicSet.resolve?_eq_passThrough_iff.mpr ⟨same, implied⟩]
    | intrinsic op carries covered work =>
      simp [lower, IntrinsicSet.resolve?_eq_intrinsic_iff.mpr ⟨work, covered, op, carries, rfl⟩]
    | scalar unresolved single expressed =>
      simp [lower, unresolved, Width.split?_eq_none_iff.mpr single, expressed]
    | parts split unresolved splits low high =>
      simp [lower, unresolved, splits, assemble_eq_ok_iff.mpr ⟨low, high, rfl⟩]

/-- At a width of the table only a scalar expression can be missing. -/
theorem lower_of_mem (hw : c.width ∈ p.table.widths) :
    (∃ e, p.lower c = .ok e) ∨
      c.width = .scalar ∧ p.intrinsics.resolve? c = none ∧ p.lower c = c.scalarExpression := by
  cases hresolve : p.intrinsics.resolve? c with
  | some r => cases r <;> simp [lower, hresolve]
  | none =>
    cases hsplit : c.width.split? with
    | none =>
      exact .inr ⟨Width.split?_eq_none_iff.mp hsplit, rfl, by simp [lower, hresolve, hsplit]⟩
    | some split =>
      obtain ⟨hlow, hhigh⟩ := WidthTable.parts_mem hw hsplit
      exact .inl ⟨_, lower_eq_ok_iff.mpr (.parts split hresolve hsplit hlow hhigh)⟩

end Plan

/-- Where no operation of a platform carries out a conversion, there is a scalar expression. -/
theorem Conversion.exists_scalarExpression {c : Conversion} (h : c.operation? = none) :
    ∃ e, c.scalarExpression = .ok e := by
  unfold operation? at h
  unfold scalarExpression
  cases hkind : c.kind with
  | intToInt =>
    dsimp only
    split
    · exact ⟨_, rfl⟩
    · split <;> exact ⟨_, rfl⟩
  | floatToInt =>
    rw [hkind] at h
    dsimp only at h
    split at h <;> cases h
  | intToFloat =>
    rw [hkind] at h
    dsimp only at h
    split at h <;> cases h
  | floatNarrowing => exact ⟨_, rfl⟩
  | floatToFloat => exact ⟨_, rfl⟩

/-- With intrinsics for single values, no expression is missing. -/
theorem Plan.exists_lower {p : Plan} {c : Conversion} (hscalar : .scalar ∈ p.intrinsics.widths)
    (hw : c.width ∈ p.table.widths) : ∃ e, p.lower c = .ok e := by
  rcases lower_of_mem hw with hlower | ⟨hsingle, hresolve, hlower⟩
  · exact hlower
  · have hcovers : p.intrinsics.covers c.width = true := by
      rw [hsingle, IntrinsicSet.covers_iff]
      exact hscalar
    have hoperation : c.operation? = none := by
      rw [IntrinsicSet.resolve?, hcovers] at hresolve
      split at hresolve
      · cases hresolve
      · exact Option.map_eq_none_iff.mp hresolve
    rw [hlower]
    exact Conversion.exists_scalarExpression hoperation

/-- The scalar expressions of conversions. Saturation and rounding modes are expressed only where
a cast does not lose them. -/
inductive Conversion.HasScalarForm (c : Conversion) : Expression → Prop where
  /-- Bounds that can be exceeded are clamped. -/
  | saturating (integers : c.kind = .intToInt) (on : c.saturation = .on) :
      c.HasScalarForm (.saturating c.source c.target)
  /-- The bits stay as they are. -/
  | reinterpret (integers : c.kind = .intToInt) (off : c.saturation = .off)
      (same : c.source.bits = c.target.bits) : c.HasScalarForm (.reinterpret c.target)
  /-- Integers of another width are cast. -/
  | castInteger (integers : c.kind = .intToInt) (off : c.saturation = .off)
      (differ : c.source.bits ≠ c.target.bits) : c.HasScalarForm (.cast c.target)
  /-- Between integers and floating point only a conversion without qualifiers is cast. -/
  | castMixed (mixed : c.kind = .floatToInt ∨ c.kind = .intToFloat) (off : c.saturation = .off)
      (implied : c.rounding = .implied) : c.HasScalarForm (.cast c.target)
  /-- Floating-point numbers are cast. -/
  | castFloat (floats : c.kind = .floatNarrowing ∨ c.kind = .floatToFloat) :
      c.HasScalarForm (.cast c.target)

/-- The scalar expression of a conversion has one of the four scalar forms. -/
theorem Conversion.hasScalarForm_of_eq_ok {c : Conversion} {e : Expression}
    (h : c.scalarExpression = .ok e) : c.HasScalarForm e := by
  unfold Conversion.scalarExpression at h
  split at h
  · next hkind =>
    split at h
    · next hon =>
      obtain rfl := Except.ok.inj h
      exact .saturating hkind (Saturation.isOn_iff.mp hon)
    · next hoff =>
      have hsaturation := Saturation.not_isOn_iff.mp hoff
      split at h
      · next hbits =>
        obtain rfl := Except.ok.inj h
        exact .reinterpret hkind hsaturation hbits
      · next hbits =>
        obtain rfl := Except.ok.inj h
        exact .castInteger hkind hsaturation hbits
  · next hkind =>
    obtain rfl := Except.ok.inj h
    exact .castFloat (.inl hkind)
  · next hkind =>
    obtain rfl := Except.ok.inj h
    exact .castFloat (.inr hkind)
  all_goals
    next hkind =>
      split at h
      · simp at h
      · next hplain =>
        obtain rfl := Except.ok.inj h
        rw [Bool.or_eq_true, not_or, Saturation.not_isOn_iff, Rounding.not_isExplicit_iff] at hplain
        exact .castMixed (by simp [hkind]) hplain.1 hplain.2

/-- A scalar expression calls nothing, neither functions nor intrinsics. -/
theorem Conversion.HasScalarForm.calls_nothing {c : Conversion} {e : Expression}
    (h : c.HasScalarForm e) : e.isConcat = false ∧ e.isCall = false := by
  cases h with
  | saturating =>
    simp only [Expression.saturating]
    split <;> exact ⟨rfl, rfl⟩
  | _ => exact ⟨rfl, rfl⟩

/-- The trees that the expressions of a plan span. -/
inductive Plan.Spans (p : Plan) : Conversion → Lowering → Prop where
  /-- An expression without calls of functions. -/
  | leaf {c : Conversion} {e : Expression} (lowers : p.LowersTo c e)
      (ends : e.isConcat = false) : p.Spans c (.leaf c e)
  /-- An expression that calls the parts. -/
  | node {c : Conversion} {split : Width.Split} {low high : Lowering}
      (lowers : p.LowersTo c (c.joined split)) (splits : c.width.split? = some split)
      (low_spans : p.Spans (c.atWidth split.low) low)
      (high_spans : p.Spans (c.atWidth split.high) high) :
      p.Spans c (.node c (c.joined split) low high)

/-- A lowering is given exactly if the expressions span it. From left to right this follows the
recursion, which asks for fewer lanes, and from right to left the tree. -/
theorem Plan.explain_eq_ok_iff {p : Plan} {c : Conversion} {tree : Lowering} :
    p.explain c = .ok tree ↔ p.Spans c tree := by
  constructor
  · intro h
    fun_induction Plan.explain p c generalizing tree with
    | case1 => simp at h
    | case2 => simp at h
    | case3 => simp at h
    | case4 c type low lowSlice high highSlice hlower lowPart hlow highPart hhigh ihlow ihhigh =>
      obtain ⟨split, hsplit, rfl, rfl, rfl, rfl, rfl⟩ := Plan.lower_concat hlower
      obtain rfl := Except.ok.inj h
      exact .node (Plan.lower_eq_ok_iff.mp hlower) hsplit (ihlow hlow) (ihhigh hhigh)
    | case5 c e hconcat hlower =>
      obtain rfl := Except.ok.inj h
      refine .leaf (Plan.lower_eq_ok_iff.mp hlower) ?_
      cases e <;> first | rfl | exact absurd rfl (hconcat _ _ _ _ _)
  · intro h
    induction h with
    | leaf lowers ends =>
      have hlower := Plan.lower_eq_ok_iff.mpr lowers
      rw [Plan.explain]
      split
      · next h => simp [hlower] at h
      · next h =>
        obtain rfl := Except.ok.inj (hlower.symm.trans h)
        simp [Expression.isConcat] at ends
      · next h =>
        obtain rfl := Except.ok.inj (hlower.symm.trans h)
        rfl
    | node lowers splits low_spans high_spans ihlow ihhigh =>
      have hlower := Plan.lower_eq_ok_iff.mpr lowers
      rw [Plan.explain]
      split
      · next h => simp [hlower] at h
      · next h =>
        have hjoined := Except.ok.inj (hlower.symm.trans h)
        obtain ⟨rfl, rfl, rfl, rfl, rfl⟩ := Expression.concat.inj hjoined
        simp only [ihlow, ihhigh]
        rfl
      · next hconcat h => exact absurd (Except.ok.inj (h.symm.trans hlower)) (hconcat _ _ _ _ _)

/-- A list is treated one by one, or not at all. -/
theorem mapM_eq_ok_iff {α β ε : Type} {f : α → Except ε β} {l : List α} {r : List β} :
    l.mapM f = .ok r ↔ List.Forall₂ (fun a b => f a = .ok b) l r := by
  induction l generalizing r with
  | nil => simp [pure, Except.pure, eq_comm]
  | cons a rest ih =>
    rw [List.mapM_cons, List.forall₂_cons_left_iff]
    cases hfirst : f a with
    | error e => simp [bind, Except.bind]
    | ok b =>
      cases hrest : rest.mapM f with
      | error e => simp [bind, Except.bind, ← ih, hrest]
      | ok bs => simp [bind, Except.bind, pure, Except.pure, ← ih, hrest, eq_comm]

/-- A list is treated as a whole if each of its elements can be treated. -/
theorem exists_mapM_eq_ok {α β ε : Type} {f : α → Except ε β} {l : List α}
    (h : ∀ a ∈ l, ∃ b, f a = .ok b) : ∃ r, l.mapM f = .ok r := by
  induction l with
  | nil => exact ⟨[], rfl⟩
  | cons a rest ih =>
    rw [List.forall_mem_cons] at h
    obtain ⟨b, hfirst⟩ := h.1
    obtain ⟨bs, hrest⟩ := ih h.2
    exact ⟨b :: bs, mapM_eq_ok_iff.mpr (.cons hfirst (mapM_eq_ok_iff.mp hrest))⟩

namespace Plan

variable {p : Plan} {c : Conversion} {d : Definition} {definitions : List Definition}

/-- A definition of a plan holds the conversion, the guard of its two types, and the expression that
the plan lowers it to. -/
theorem define_eq_ok_iff :
    p.define c = .ok d ↔
      d.conversion = c ∧ d.guard? = LaneConvert.guard? c.source c.target ∧
        p.LowersTo c d.result := by
  rw [← lower_eq_ok_iff]
  unfold define
  cases hlower : p.lower c with
  | error e => simp [Except.map]
  | ok e =>
    obtain ⟨conversion, guard?, result⟩ := d
    simp [Except.map, eq_comm]

/-- The definitions of a plan are those of its conversions, in the same order. -/
theorem map_conversion_definitions (h : p.definitions = .ok definitions) :
    definitions.map Definition.conversion = p.conversions := by
  have hall := mapM_eq_ok_iff.mp h
  clear h
  generalize p.conversions = listed at hall ⊢
  induction hall with
  | nil => rfl
  | cons hfirst _ ih => rw [List.map_cons, ih, (define_eq_ok_iff.mp hfirst).1]

/-- A plan has as many definitions as conversions. -/
theorem length_definitions (h : p.definitions = .ok definitions) :
    definitions.length = p.conversions.length := by
  rw [← map_conversion_definitions h, List.length_map]

/-- A definition of a plan is that of one of its conversions. -/
theorem conversion_mem (h : p.definitions = .ok definitions) (hd : d ∈ definitions) :
    d.conversion ∈ p.conversions := by
  rw [← map_conversion_definitions h]
  exact List.mem_map_of_mem hd

/-- A definition of a plan is the one that the plan gives its conversion. -/
theorem define_of_mem (h : p.definitions = .ok definitions) (hd : d ∈ definitions) :
    p.define d.conversion = .ok d := by
  have hall := mapM_eq_ok_iff.mp h
  clear h
  generalize p.conversions = listed at hall
  induction hall with
  | nil => simp at hd
  | cons hfirst _ ih =>
    rcases List.mem_cons.mp hd with rfl | hd
    · rw [(define_eq_ok_iff.mp hfirst).1, hfirst]
    · exact ih hd

/-- Every conversion of a plan has a definition in its list. -/
theorem exists_definition_of_mem (h : p.definitions = .ok definitions) (hc : c ∈ p.conversions) :
    ∃ d ∈ definitions, d.conversion = c := by
  rw [← map_conversion_definitions h] at hc
  exact List.mem_map.mp hc

/-- What a plan gives one of its conversions is in its list of definitions. -/
theorem mem_of_define (h : p.definitions = .ok definitions) (hc : d.conversion ∈ p.conversions)
    (hdefine : p.define d.conversion = .ok d) : d ∈ definitions := by
  obtain ⟨found, hfound, hsame⟩ := exists_definition_of_mem h hc
  have hfoundDefine := define_of_mem h hfound
  rw [hsame, hdefine] at hfoundDefine
  exact Except.ok.inj hfoundDefine ▸ hfound

/-- A definition of a plan has the guard of its two types. -/
theorem guard_of_mem (h : p.definitions = .ok definitions) (hd : d ∈ definitions) :
    d.guard? = LaneConvert.guard? d.conversion.source d.conversion.target :=
  (define_eq_ok_iff.mp (define_of_mem h hd)).2.1

/-- A definition of a plan returns what the plan lowers its conversion to. -/
theorem lowersTo_of_mem (h : p.definitions = .ok definitions) (hd : d ∈ definitions) :
    p.LowersTo d.conversion d.result :=
  (define_eq_ok_iff.mp (define_of_mem h hd)).2.2

/-- No two definitions of a plan share a signature. -/
theorem signatures_definitions_nodup (h : p.definitions = .ok definitions) :
    (definitions.map fun d => d.conversion.signature).Nodup := by
  have hmap : (definitions.map fun d => d.conversion.signature) =
      p.conversions.map Conversion.signature := by
    rw [← map_conversion_definitions h, List.map_map]
    rfl
  rw [hmap]
  exact signatures_nodup p.catalog p.table

/-- A plan defines all of its conversions exactly if it has an expression for each of them. -/
theorem exists_definitions_iff :
    (∃ definitions, p.definitions = .ok definitions) ↔
      ∀ c ∈ p.conversions, ∃ e, p.lower c = .ok e := by
  constructor
  · rintro ⟨definitions, h⟩ c hc
    obtain ⟨d, hd, rfl⟩ := exists_definition_of_mem h hc
    exact ⟨_, lower_eq_ok_iff.mpr (lowersTo_of_mem h hd)⟩
  · intro h
    refine exists_mapM_eq_ok fun c hc => ?_
    obtain ⟨e, hlower⟩ := h c hc
    have hdefine : p.define c = .ok ⟨c, LaneConvert.guard? c.source c.target, e⟩ := by
      rw [define, hlower]
      rfl
    exact ⟨_, hdefine⟩

/-- A plan with intrinsics for single values defines all of its conversions. -/
theorem exists_definitions (hscalar : .scalar ∈ p.intrinsics.widths) :
    ∃ definitions, p.definitions = .ok definitions :=
  exists_definitions_iff.mpr fun _ hc => exists_lower hscalar (mem_conversions.mp hc).2.2

end Plan

end LaneConvert
