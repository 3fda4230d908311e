import LaneConvert.Conversion
import LaneConvert.Definition

/-!
# Plans and lowerings

A plan is what a library is generated from: a catalog, a table of widths and the intrinsics of the
platform. It picks for each conversion the expression its function returns: an intrinsic where one
exists, a scalar expression for single values, and otherwise two narrower conversions. Generation
stops at the first conversion without an expression, so there is no partial library.

The lowering of a conversion follows its expression down to expressions that call no generated
function. Each step goes to fewer lanes, so the lowering is a finite tree with two branches at
every conversion that is put together from parts.
-/

namespace LaneConvert

/-- What a library is generated from. -/
structure Plan where
  /-- The scalar types to convert between. -/
  catalog : Catalog
  /-- The widths to generate. -/
  table : WidthTable
  /-- The intrinsics to use. -/
  intrinsics : IntrinsicSet
  deriving DecidableEq

/-- The expression of a scalar conversion without an intrinsic. Between integers and floating point
a cast expresses neither saturation nor a rounding mode. -/
def Conversion.scalarExpression (c : Conversion) : Except LibraryError Expression :=
  match c.kind with
  | .intToInt =>
    if c.saturation.isOn then .ok (.saturating c.source c.target)
    else if c.source.bits = c.target.bits then .ok (.reinterpret c.target)
    else .ok (.cast c.target)
  | .floatNarrowing | .floatToFloat => .ok (.cast c.target)
  | .floatToInt | .intToFloat =>
    if c.saturation.isOn || c.rounding.isExplicit then .error (.noLowering c)
    else .ok (.cast c.target)

namespace Plan

/-- The plan for all types and widths with the standard intrinsics. -/
def standard : Plan := ⟨.full, .full, .standard⟩

/-- Every conversion of the plan, in the order of generation. -/
def conversions (p : Plan) : List Conversion := LaneConvert.conversions p.catalog p.table

/-- A conversion put together from the two parts of a split, if both widths are generated. -/
def assemble (p : Plan) (c : Conversion) (split : Width.Split) : Except LibraryError Expression :=
  match split.parts.find? fun width => !p.table.contains width with
  | some width => .error (.missingWidth c width)
  | none =>
    .ok (.concat c.targetType (c.atWidth split.low) split.lowSlice (c.atWidth split.high)
      split.highSlice)

/-- The expression that the function of a conversion returns. -/
def lower (p : Plan) (c : Conversion) : Except LibraryError Expression :=
  match p.intrinsics.resolve? c with
  | some (.intrinsic callee) => .ok (.call callee)
  | some .passThrough => .ok (.passThrough c.targetType)
  | none =>
    match c.width.split? with
    | none => c.scalarExpression
    | some split => p.assemble c split

/-- The definition of a conversion. -/
def define (p : Plan) (c : Conversion) : Except LibraryError Definition :=
  (p.lower c).map fun result => ⟨c, LaneConvert.guard? c.source c.target, result⟩

/-- The definitions of all conversions of the plan, or the first defect. -/
def definitions (p : Plan) : Except LibraryError (List Definition) := p.conversions.mapM p.define

/-- A plan puts a conversion together only along the split of its width: the parts are the same
conversion at the two narrower widths, on the slices that the split names. -/
theorem lower_concat {p : Plan} {c low high : Conversion} {type lowSlice highSlice : String}
    (h : p.lower c = .ok (.concat type low lowSlice high highSlice)) :
    ∃ split, c.width.split? = some split ∧ low = c.atWidth split.low ∧
      high = c.atWidth split.high ∧ lowSlice = split.lowSlice ∧ highSlice = split.highSlice ∧
      type = c.targetType := by
  unfold lower at h
  split at h
  · simp at h
  · simp at h
  · split at h
    · unfold Conversion.scalarExpression at h
      split at h
      · split at h
        · simp only [Expression.saturating] at h
          split at h <;> simp at h
        · split at h <;> simp at h
      · simp at h
      · simp at h
      · split at h <;> simp at h
      · split at h <;> simp at h
    · next split hs =>
      unfold assemble at h
      split at h
      · simp at h
      · simp only [Except.ok.injEq, Expression.concat.injEq] at h
        exact ⟨split, hs, h.2.1.symm, h.2.2.2.1.symm, h.2.2.1.symm, h.2.2.2.2.symm, h.1.symm⟩

end Plan

/-- How a conversion comes down to intrinsics and casts. -/
inductive Lowering where
  /-- A conversion whose expression calls no generated function. -/
  | leaf (conversion : Conversion) (result : Expression)
  /-- A conversion that is put together from two others. -/
  | node (conversion : Conversion) (result : Expression) (low high : Lowering)
  deriving DecidableEq

namespace Lowering

/-- The conversion at the root. -/
def conversion : Lowering → Conversion
  | leaf c _ => c
  | node c _ _ _ => c

/-- The expression at the root. -/
def result : Lowering → Expression
  | leaf _ e => e
  | node _ e _ _ => e

/-- The lowerings of the conversions that the root calls. -/
def parts : Lowering → List Lowering
  | leaf _ _ => []
  | node _ _ low high => [low, high]

/-- The number of expressions that call no generated function. -/
def leaves : Lowering → Nat
  | leaf _ _ => 1
  | node _ _ low high => low.leaves + high.leaves

/-- One conversion with its expression, indented by its depth. -/
def line (depth : Nat) (c : Conversion) (e : Expression) : String :=
  "".pushn ' ' (2 * depth) ++ c.signature ++ " = " ++ e.text

/-- The lines of a lowering at a given depth, each conversion before its parts. -/
def lines (depth : Nat) : Lowering → List String
  | leaf c e => [line depth c e]
  | node c e low high => line depth c e :: (low.lines (depth + 1) ++ high.lines (depth + 1))

/-- A lowering written out. -/
def text (t : Lowering) : String := joinLines (t.lines 0)

end Lowering

/-- The lowering of a conversion, or the first defect on the way down. -/
def Plan.explain (p : Plan) (c : Conversion) : Except LibraryError Lowering :=
  match _h : p.lower c with
  | .error e => .error e
  | .ok (.concat type low lowSlice high highSlice) =>
    match p.explain low with
    | .error e => .error e
    | .ok lowPart =>
      match p.explain high with
      | .error e => .error e
      | .ok highPart =>
        .ok (.node c (.concat type low lowSlice high highSlice) lowPart highPart)
  | .ok result => .ok (.leaf c result)
termination_by c.width.lanes
decreasing_by
  all_goals
    obtain ⟨split, hs, hlow, hhigh, -⟩ := Plan.lower_concat ‹_›
    subst hlow hhigh
    simp only [Conversion.atWidth]
    first
      | exact Width.lanes_low_lt hs
      | exact Width.lanes_high_lt hs

end LaneConvert
