import LaneConvert.Proofs.Integer.Range
import LaneConvert.Proofs.Lanes

/-!
# Evaluating integer conversions

The functions of a plan are run on vectors of integers. An expression has a value only where it is
well typed: single values are cast, reinterpreted and clamped, a vector is put together from slices
whose functions take and return the right types, and a clamp needs bounds in order. What the
platform's intrinsics compute is assumed for integers only, and any platform of that kind will do.
Whichever mixture of intrinsics, scalar expressions and narrower functions a plan arrives at, an
integer conversion clamps every lane if it saturates and wraps it otherwise.
-/

namespace LaneConvert

/-- Whether an operation between integers takes one type and returns another. -/
def Operation.suits (op : Operation) (source target : Scalar) : Bool :=
  match op with
  | .satUnsignedToSigned => source.isUnsigned && target.isSigned
  | .satSignedToUnsigned => source.isSigned && target.isUnsigned
  | .fromSigned => source.isSigned && target.isInteger
  | .fromUnsigned => source.isUnsigned && target.isInteger
  | _ => false

/-- What an operation between integers does to one lane. -/
def Operation.onLane (op : Operation) (target : Scalar) (x : Int) : Int :=
  match op with
  | .satUnsignedToSigned | .satSignedToUnsigned => target.clamp x
  | _ => target.wrap x

/-- A platform with the intrinsics of a set, which are overloaded by the type of the argument. -/
structure Platform (set : IntrinsicSet) where
  /-- The result of an intrinsic on a vector of a scalar type. -/
  call (name : String) (source : Scalar) (v : List Int) : Option (List Int)
  /-- An intrinsic between integers that the set has carries out its operation on every lane. -/
  carries_out {op : Operation} {source target : Scalar} {w : Width} {v : List Int}
    (suits : op.suits source target = true) (covered : w ∈ set.widths)
    (fits : v.length = w.lanes) (inRange : ∀ x ∈ v, source.InRange x) :
    call (set.stem ++ op.name ++ "_R" ++ vectorName target w) source v =
      some (v.map (op.onLane target))

/-- The name of an intrinsic between integers says nothing about qualifiers. -/
theorem Operation.intrinsicName_of_suits {op : Operation} {source target : Scalar}
    (h : op.suits source target = true) (set : IntrinsicSet) (c : Conversion) :
    set.intrinsicName op c = set.stem ++ op.name ++ "_R" ++ c.targetType := by
  cases op with
  | satUnsignedToSigned | satSignedToUnsigned | fromSigned | fromUnsigned =>
    simp [IntrinsicSet.intrinsicName, namesSaturation, namesRounding]
  | _ => simp [suits] at h

/-- The operations between integers. -/
def Operation.betweenIntegers : List Operation :=
  [.satUnsignedToSigned, .satSignedToUnsigned, .fromSigned, .fromUnsigned]

/-- The operation between integers, the result type and the width that the name of an intrinsic
stands for on arguments of a type. -/
def IntrinsicSet.decode? (set : IntrinsicSet) (name : String) (source : Scalar) :
    Option (Operation × Scalar × Width) :=
  (Operation.betweenIntegers.product (Scalar.all.product set.widths)).find? fun (op, target, w) =>
    op.suits source target && set.stem ++ op.name ++ "_R" ++ vectorName target w = name

/-- The name of an intrinsic and its argument type give back the operation, the target and the
width. -/
theorem IntrinsicSet.decode?_name {set : IntrinsicSet} {op : Operation} {source target : Scalar}
    {w : Width} (suits : op.suits source target = true) (covered : w ∈ set.widths) :
    set.decode? (set.stem ++ op.name ++ "_R" ++ vectorName target w) source =
      some (op, target, w) := by
  have hop : op ∈ Operation.betweenIntegers := by
    cases op <;> first | decide | simp [Operation.suits] at suits
  have hlisted : (op, target, w) ∈
      Operation.betweenIntegers.product (Scalar.all.product set.widths) :=
    List.pair_mem_product.mpr ⟨hop, List.pair_mem_product.mpr ⟨target.mem_all, covered⟩⟩
  cases hfind : set.decode? (set.stem ++ op.name ++ "_R" ++ vectorName target w) source with
  | none =>
    have hmissing := List.find?_eq_none.mp hfind _ hlisted
    simp [suits] at hmissing
  | some found =>
    obtain ⟨op', target', w'⟩ := found
    have hfound := List.find?_some hfind
    simp only [Bool.and_eq_true, decide_eq_true_eq] at hfound
    obtain ⟨suits', hname⟩ := hfound
    have hintrinsic : set.intrinsicName op' (.plain target' target' w') =
        set.intrinsicName op (.plain target target w) := by
      rw [Operation.intrinsicName_of_suits suits, Operation.intrinsicName_of_suits suits']
      exact hname
    obtain ⟨rfl, rfl, rfl, -⟩ := intrinsicName_inj hintrinsic
    rfl

/-- A platform that looks at nothing but the names of intrinsics and the types of arguments. -/
def Platform.reference (set : IntrinsicSet) : Platform set where
  call name source v :=
    (set.decode? name source).map fun (op, target, _) => v.map (op.onLane target)
  carries_out suits covered _ _ := by
    rw [IntrinsicSet.decode?_name suits covered, Option.map_some]

/-- The vector type of a given name. -/
def vectorType? (name : String) : Option (Scalar × Width) :=
  (Scalar.all.product Width.all).find? fun type => vectorName type.1 type.2 = name

/-- The name of a vector type stands for that type. -/
theorem vectorType?_vectorName (t : Scalar) (w : Width) :
    vectorType? (vectorName t w) = some (t, w) := by
  have hlisted : (t, w) ∈ Scalar.all.product Width.all :=
    List.pair_mem_product.mpr ⟨t.mem_all, w.mem_all⟩
  cases hfind : vectorType? (vectorName t w) with
  | none =>
    have hmissing := List.find?_eq_none.mp hfind _ hlisted
    simp at hmissing
  | some found =>
    have hname := List.find?_some hfind
    obtain ⟨ht, hw⟩ := vectorName_injective (of_decide_eq_true hname)
    rw [← ht, ← hw]

/-- The number that a limit stands for in a type that it is cast to. -/
def bound? (source : Scalar) (limit : String) : Option Int := (limit? limit).map source.wrap

/-- A number brought within bounds in its own type. A clamp between bounds out of order has no
value. -/
def bounded? (source : Scalar) (x : Int) : Option String → Option String → Option Int
  | some minLimit, some maxLimit => do
    let low ← bound? source minLimit
    let high ← bound? source maxLimit
    if low ≤ high then some (max low (min x high)) else none
  | none, some maxLimit => (bound? source maxLimit).map (min x)
  | some minLimit, none => (bound? source minLimit).map (max x)
  | none, none => some x

/-- The value of an expression on a vector of a scalar type, with the intrinsics and the functions
that it may call. -/
def Expression.evaluate (call : String → Scalar → List Int → Option (List Int))
    (convert : Conversion → List Int → Option (List Int)) (source : Scalar) :
    Expression → List Int → Option (List Int)
  | .call callee, v => call callee source v
  | .passThrough type, v => do
    let (t, w) ← vectorType? type
    if t = source ∧ w.lanes = v.length then some (v.map t.wrap) else none
  | .cast t, [x] => some [t.wrap x]
  | .reinterpret t, [x] => if t.bits = source.bits then some [t.wrap x] else none
  | .clamp t own min? max?, [x] =>
    if own = source then (bounded? source x min? max?).map fun y => [t.wrap y] else none
  | .concat type low lowSlice high highSlice, v => do
    let (t, w) ← vectorType? type
    let first ← slice? lowSlice v
    let last ← slice? highSlice v
    let a ← convert low first
    let b ← convert high last
    if low.target = t ∧ high.target = t ∧ a.length + b.length = w.lanes then some (a ++ b) else none
  | _, _ => none

/-- The result of the function of a conversion on a vector. A call finds a function of the plan if
the type of the slice is that of its argument; its own expression is evaluated in turn. Fewer lanes
are asked for only to let the recursion end; no plan calls anything else. -/
def Plan.evaluate (p : Plan) (platform : Platform p.intrinsics) (c : Conversion) (v : List Int) :
    Option (List Int) :=
  match p.lower c with
  | .error _ => none
  | .ok e =>
    e.evaluate platform.call
      (fun d slice =>
        if _h : d ∈ p.conversions ∧ d.source = c.source ∧ d.width.lanes = slice.length ∧
            d.width.lanes < c.width.lanes then
          p.evaluate platform d slice
        else none)
      c.source v
termination_by c.width.lanes
decreasing_by omega

section SingleValues

variable {call : String → Scalar → List Int → Option (List Int)}
  {convert : Conversion → List Int → Option (List Int)} {source target : Scalar} {x : Int}

/-- The name of the smallest value is a bound with that value, if the source has it. -/
theorem bound?_minName (htarget : target.isInteger = true) (h : source.InRange target.low) :
    bound? source target.minName = some target.low := by
  rw [bound?, limit?_minName htarget, Option.map_some, Scalar.wrap_of_inRange h]

/-- The name of the largest value is a bound with that value, if the source has it. -/
theorem bound?_maxName (htarget : target.isInteger = true) (h : source.InRange target.high) :
    bound? source target.maxName = some target.high := by
  rw [bound?, limit?_maxName htarget, Option.map_some, Scalar.wrap_of_inRange h]

/-- Clamping only the bounds that can be exceeded clamps: a bound that is left out is one that no
value of the source type exceeds. -/
theorem bounded?_saturating (hsource : source.isInteger = true) (htarget : target.isInteger = true)
    (hx : source.InRange x) :
    bounded? source x
      (if Expression.exceedsMin source target then some target.minName else none)
      (if Expression.exceedsMax source target then some target.maxName else none) =
      some (target.clamp x) := by
  obtain ⟨hlow, hhigh⟩ := hx
  have horder := target.low_le_high
  by_cases hmin : Expression.exceedsMin source target = true
  · have hlowBound := bound?_minName htarget
      (Expression.inRange_low_of_exceedsMin hsource htarget hmin)
    by_cases hmax : Expression.exceedsMax source target = true
    · have hhighBound := bound?_maxName htarget
        (Expression.inRange_high_of_exceedsMax hsource htarget hmax)
      simp [hmin, hmax, bounded?, hlowBound, hhighBound, horder, Scalar.clamp]
    · have hle := Expression.high_le_of_not_exceedsMax hsource htarget hmax
      have hclamp : target.clamp x = max x target.low := by
        rw [Scalar.clamp]
        omega
      simp [hmin, hmax, bounded?, hlowBound, hclamp]
  · have hle := Expression.low_le_of_not_exceedsMin hsource htarget hmin
    by_cases hmax : Expression.exceedsMax source target = true
    · have hhighBound := bound?_maxName htarget
        (Expression.inRange_high_of_exceedsMax hsource htarget hmax)
      have hclamp : target.clamp x = min x target.high := by
        rw [Scalar.clamp]
        omega
      simp [hmin, hmax, bounded?, hhighBound, hclamp]
    · have hhighLe := Expression.high_le_of_not_exceedsMax hsource htarget hmax
      simp [hmin, hmax, bounded?, Scalar.clamp_of_inRange ⟨hle.trans hlow, hhigh.trans hhighLe⟩]

/-- A saturating expression clamps every value of its source to its target. -/
theorem evaluate_saturating (hsource : source.isInteger = true) (htarget : target.isInteger = true)
    (hx : source.InRange x) :
    (Expression.saturating source target).evaluate call convert source [x] =
      some [target.clamp x] := by
  have hbounded := bounded?_saturating hsource htarget hx
  have hwrap := Scalar.wrap_of_inRange (target.inRange_clamp x)
  unfold Expression.saturating
  split
  · simp [Expression.evaluate, hbounded, hwrap]
  · next hinside =>
    rw [Bool.or_eq_true, not_or] at hinside
    obtain ⟨hmax, hmin⟩ := hinside
    have hsame : target.clamp x = x := by simpa [hmin, hmax, bounded?, eq_comm] using hbounded
    rw [hsame] at hwrap ⊢
    simp [Expression.evaluate, hwrap]

end SingleValues

/-- What an integer conversion does to one lane. -/
def Conversion.onLane (c : Conversion) (x : Int) : Int :=
  if c.saturation.isOn then c.target.clamp x else c.target.wrap x

/-- A lane that is in range already is left alone. -/
theorem Conversion.onLane_of_inRange {c : Conversion} {x : Int} (h : c.target.InRange x) :
    c.onLane x = x := by
  rw [onLane, Scalar.clamp_of_inRange h, Scalar.wrap_of_inRange h, ite_self]

/-- A converted lane is in range. -/
theorem Conversion.inRange_onLane (c : Conversion) (x : Int) : c.target.InRange (c.onLane x) := by
  rw [onLane]
  split
  · exact c.target.inRange_clamp x
  · exact c.target.inRange_wrap x

/-- A conversion between integer types. -/
structure Conversion.OnIntegers (c : Conversion) : Prop where
  /-- The argument is an integer. -/
  source : c.source.isInteger = true
  /-- The result is an integer. -/
  target : c.target.isInteger = true

namespace Conversion.OnIntegers

variable {c : Conversion} {op : Operation}

/-- A conversion on integers is of the kind from integers to integers. -/
theorem kind_eq (h : c.OnIntegers) : c.kind = .intToInt := by
  have hsource : c.source.isFloat = false := by simpa [Scalar.isInteger] using h.source
  have htarget : c.target.isFloat = false := by simpa [Scalar.isInteger] using h.target
  simp [Conversion.kind, Kind.between, hsource, htarget]

/-- The operation of an integer conversion is for its types and does to a lane what it does. -/
theorem operation (h : c.OnIntegers) (hop : c.operation? = some op) :
    op.suits c.source c.target = true ∧ op.onLane c.target = c.onLane := by
  have hunsigned : ∀ t : Scalar, t.isInteger = true → t.isSigned = false → t.isUnsigned = true := by
    intro t
    cases t <;> decide
  have hsource := hunsigned c.source h.source
  have htarget := hunsigned c.target h.target
  have hkind := h.kind_eq
  have honLane : c.onLane = if c.saturation.isOn then c.target.clamp else c.target.wrap := by
    funext x
    rw [Conversion.onLane, apply_ite fun f : Int → Int => f x]
  rw [honLane]
  cases Conversion.carriedBy_of_operation? hop with
  | satUnsignedToSigned _ on hs ht =>
    exact ⟨by simp [Operation.suits, hsource hs, ht], (if_pos (Saturation.isOn_iff.mpr on)).symm⟩
  | satSignedToUnsigned _ on hs ht =>
    exact ⟨by simp [Operation.suits, hs, htarget ht], (if_pos (Saturation.isOn_iff.mpr on)).symm⟩
  | fromSigned _ off _ hs =>
    exact ⟨by simp [Operation.suits, hs, h.target],
      (if_neg (Saturation.not_isOn_iff.mpr off)).symm⟩
  | fromUnsigned _ off _ hs =>
    exact ⟨by simp [Operation.suits, hsource hs, h.target],
      (if_neg (Saturation.not_isOn_iff.mpr off)).symm⟩
  | floatToSigned mixed | floatToUnsigned mixed | signedToFloat mixed | unsignedToFloat mixed =>
    cases hkind.symm.trans mixed
  | floatToFloat floats => simp [hkind] at floats

end Conversion.OnIntegers

/-- The scalar expression of an integer conversion does to its argument what the conversion does to
a lane. -/
theorem Conversion.HasScalarForm.evaluate {c : Conversion} {e : Expression} (h : c.HasScalarForm e)
    (hc : c.OnIntegers) {x : Int} (hx : c.source.InRange x)
    (call : String → Scalar → List Int → Option (List Int))
    (convert : Conversion → List Int → Option (List Int)) :
    e.evaluate call convert c.source [x] = some [c.onLane x] := by
  have hkind := hc.kind_eq
  cases h with
  | saturating _ on =>
    rw [evaluate_saturating hc.source hc.target hx]
    simp [Conversion.onLane, Saturation.isOn_iff.mpr on]
  | reinterpret _ off same =>
    simp [Expression.evaluate, Conversion.onLane, Saturation.not_isOn_iff.mpr off, same]
  | castInteger _ off =>
    simp [Expression.evaluate, Conversion.onLane, Saturation.not_isOn_iff.mpr off]
  | castMixed mixed => simp [hkind] at mixed
  | castFloat floats => simp [hkind] at floats

/-- Two slices whose functions have results make up the result of a split. -/
theorem Expression.evaluate_joined {call : String → Scalar → List Int → Option (List Int)}
    {convert : Conversion → List Int → Option (List Int)} {c : Conversion} {split : Width.Split}
    {v first last a b : List Int} (hcut : CutBy split v first last)
    (hfirst : convert (c.atWidth split.low) first = some a)
    (hlast : convert (c.atWidth split.high) last = some b)
    (hlanes : a.length + b.length = c.width.lanes) :
    (c.joined split).evaluate call convert c.source v = some (a ++ b) := by
  have htype : vectorType? c.targetType = some (c.target, c.width) := vectorType?_vectorName _ _
  have htarget : ∀ w, (c.atWidth w).target = c.target := fun _ => rfl
  simp [Conversion.joined, evaluate, htype, hcut.low_slice, hcut.high_slice, hfirst, hlast, htarget,
    hlanes]

namespace Plan

variable {p : Plan} {platform : Platform p.intrinsics} {c : Conversion}

/-- The functions that the function of a conversion can call. -/
def callees (p : Plan) (platform : Platform p.intrinsics) (c d : Conversion) (slice : List Int) :
    Option (List Int) :=
  if d ∈ p.conversions ∧ d.source = c.source ∧ d.width.lanes = slice.length ∧
      d.width.lanes < c.width.lanes then
    p.evaluate platform d slice
  else none

/-- A conversion has the values of the expression that the plan gives it. -/
theorem evaluate_of_lowersTo {e : Expression} (h : p.LowersTo c e) (v : List Int) :
    p.evaluate platform c v = e.evaluate platform.call (p.callees platform c) c.source v := by
  rw [evaluate, lower_eq_ok_iff.mpr h]
  rfl

/-- The function of a conversion does to every lane of its argument what the conversion does. -/
def CarriesOut (p : Plan) (platform : Platform p.intrinsics) (c : Conversion) : Prop :=
  ∀ v : List Int, v.length = c.width.lanes → (∀ x ∈ v, c.source.InRange x) →
    p.evaluate platform c v = some (v.map c.onLane)

/-- An argument that is passed through is converted. -/
theorem carriesOut_of_passThrough (same : c.source = c.target) (implied : c.rounding = .implied) :
    p.CarriesOut platform c := by
  intro v hv hrange
  have hmap : v.map c.target.wrap = v.map c.onLane := by
    refine List.map_congr_left fun x hx => ?_
    have hx : c.target.InRange x := same ▸ hrange x hx
    rw [Scalar.wrap_of_inRange hx, Conversion.onLane_of_inRange hx]
  have htype : vectorType? c.targetType = some (c.target, c.width) := vectorType?_vectorName _ _
  rw [evaluate_of_lowersTo (.passThrough same implied)]
  simp [Expression.evaluate, htype, same, hv, hmap]

/-- The intrinsics of a platform convert integers. -/
theorem carriesOut_of_intrinsic (hc : c.OnIntegers) {op : Operation}
    (carries : c.operation? = some op) (covered : c.width ∈ p.intrinsics.widths)
    (work : ¬(c.source = c.target ∧ c.rounding = .implied)) : p.CarriesOut platform c := by
  intro v hv hrange
  obtain ⟨hsuits, honLane⟩ := hc.operation carries
  have hcall := platform.carries_out hsuits covered hv hrange
  rw [honLane] at hcall
  rw [evaluate_of_lowersTo (.intrinsic op carries covered work), Expression.evaluate,
    Operation.intrinsicName_of_suits hsuits]
  exact hcall

/-- Scalar expressions convert integers. -/
theorem carriesOut_of_scalar (hc : c.OnIntegers) {e : Expression}
    (unresolved : p.intrinsics.resolve? c = none) (single : c.width = .scalar)
    (expressed : c.scalarExpression = .ok e) : p.CarriesOut platform c := by
  intro v hv hrange
  rw [single] at hv
  obtain ⟨x, rfl⟩ := List.length_eq_one_iff.mp hv
  rw [evaluate_of_lowersTo (.scalar unresolved single expressed)]
  have hform := Conversion.hasScalarForm_of_eq_ok expressed
  exact hform.evaluate hc (hrange x List.mem_cons_self) _ _

/-- A function that calls two others does to every lane what they do. -/
theorem carriesOut_of_parts (hlisted : c ∈ p.conversions) {split : Width.Split}
    (unresolved : p.intrinsics.resolve? c = none) (splits : c.width.split? = some split)
    (hlow : p.CarriesOut platform (c.atWidth split.low))
    (hhigh : p.CarriesOut platform (c.atWidth split.high)) : p.CarriesOut platform c := by
  intro v hv hrange
  obtain ⟨hsource, htarget, hwidth⟩ := mem_conversions.mp hlisted
  obtain ⟨low, high⟩ := WidthTable.parts_mem hwidth splits
  obtain ⟨first, last, hcut⟩ := exists_cutBy splits hv
  have hrangeOf : ∀ x ∈ first ++ last, c.source.InRange x := hcut.append.symm ▸ hrange
  rw [List.forall_mem_append] at hrangeOf
  have hfirst : p.callees platform c (c.atWidth split.low) first = some (first.map c.onLane) := by
    have hpart : c.atWidth split.low ∈ p.conversions := mem_conversions.mpr ⟨hsource, htarget, low⟩
    rw [callees, if_pos ⟨hpart, rfl, hcut.low_length.symm, Width.lanes_low_lt splits⟩]
    exact hlow first hcut.low_length hrangeOf.1
  have hlast : p.callees platform c (c.atWidth split.high) last = some (last.map c.onLane) := by
    have hpart : c.atWidth split.high ∈ p.conversions :=
      mem_conversions.mpr ⟨hsource, htarget, high⟩
    rw [callees, if_pos ⟨hpart, rfl, hcut.high_length.symm, Width.lanes_high_lt splits⟩]
    exact hhigh last hcut.high_length hrangeOf.2
  have hlanes : (first.map c.onLane).length + (last.map c.onLane).length = c.width.lanes := by
    rw [← List.length_append, ← List.map_append, hcut.append, List.length_map, hv]
  rw [evaluate_of_lowersTo (.parts split unresolved splits low high),
    Expression.evaluate_joined hcut hfirst hlast hlanes, ← List.map_append, hcut.append]

/-- A conversion on integers at a listed width has an expression. -/
theorem lowersTo_of_onIntegers (hw : c.width ∈ p.table.widths) (hc : c.OnIntegers) :
    ∃ e, p.LowersTo c e := by
  rcases lower_of_mem hw with ⟨e, he⟩ | ⟨-, -, he⟩
  · exact ⟨e, lower_eq_ok_iff.mp he⟩
  · simp only [Conversion.scalarExpression, hc.kind_eq] at he
    split at he
    · exact ⟨_, lower_eq_ok_iff.mp he⟩
    · split at he
      · exact ⟨_, lower_eq_ok_iff.mp he⟩
      · exact ⟨_, lower_eq_ok_iff.mp he⟩

/-- Every function for integers carries out its conversion. The induction is on the number of lanes,
because a function only calls functions for fewer lanes. -/
theorem carriesOut_of_mem (platform : Platform p.intrinsics) (hlisted : c ∈ p.conversions)
    (hc : c.OnIntegers) : p.CarriesOut platform c := by
  induction hn : c.width.lanes using Nat.strong_induction_on generalizing c with
  | _ n ih =>
    obtain ⟨hsource, htarget, hwidth⟩ := mem_conversions.mp hlisted
    obtain ⟨e, hlowers⟩ := lowersTo_of_onIntegers hwidth hc
    cases hlowers with
    | passThrough same implied => exact carriesOut_of_passThrough same implied
    | intrinsic op carries covered work => exact carriesOut_of_intrinsic hc carries covered work
    | scalar unresolved single expressed =>
      exact carriesOut_of_scalar hc unresolved single expressed
    | parts split unresolved splits low high =>
      have hpart : ∀ w : Width, w.lanes < c.width.lanes → w ∈ p.table.widths →
          p.CarriesOut platform (c.atWidth w) := fun w hlt hw =>
        ih w.lanes (hn ▸ hlt) (mem_conversions.mpr ⟨hsource, htarget, hw⟩)
          ⟨hc.source, hc.target⟩ rfl
      exact carriesOut_of_parts hlisted unresolved splits
        (hpart _ (Width.lanes_low_lt splits) low) (hpart _ (Width.lanes_high_lt splits) high)

end Plan

/-- The functions of a plan for integers compute the right values, on every platform, whatever the
catalog, the widths and the intrinsics are. The function of a conversion between integers has a
result on every vector of its argument type: a vector of its result type that has, lane by lane, the
nearest integer of the result type if the conversion saturates, and the only integer of the result
type with the same residue otherwise. -/
theorem evaluate_integers {p : Plan} (platform : Platform p.intrinsics) {c : Conversion}
    (hc : c ∈ p.conversions) (hsource : c.source.isInteger = true)
    (htarget : c.target.isInteger = true) {v : List Int} (hv : v.length = c.width.lanes)
    (hrange : ∀ x ∈ v, c.source.InRange x) :
    ∃ out, p.evaluate platform c v = some out ∧ out.length = c.width.lanes ∧
      ∀ (i : Nat) (x : Int), v[i]? = some x → ∃ y, out[i]? = some y ∧ c.target.InRange y ∧
        (c.saturation = .on → y = c.target.clamp x) ∧
        (c.saturation = .off → y ≡ x [ZMOD 2 ^ c.target.bits] ∧
          ∀ z, c.target.InRange z → z ≡ x [ZMOD 2 ^ c.target.bits] → z = y) := by
  have hmap := Plan.carriesOut_of_mem platform hc ⟨hsource, htarget⟩ v hv hrange
  refine ⟨v.map c.onLane, hmap, by rw [List.length_map, hv], ?_⟩
  intro i x hx
  refine ⟨c.onLane x, by rw [List.getElem?_map, hx, Option.map_some], c.inRange_onLane x, ?_, ?_⟩
  · intro hon
    rw [Conversion.onLane, if_pos (Saturation.isOn_iff.mpr hon)]
  · intro hoff
    rw [Conversion.onLane, if_neg (Saturation.not_isOn_iff.mpr hoff)]
    refine ⟨c.target.wrap_modEq x, fun z hz hresidue => ?_⟩
    exact Scalar.eq_of_modEq hz (c.target.inRange_wrap x)
      (hresidue.trans (c.target.wrap_modEq x).symm)

/-- Two lanes by an intrinsic and the third by a clamp. -/
theorem evaluate_integers_three :
    ∃ out, (⟨.full, .full, .of "__spirv_" [.two]⟩ : Plan).evaluate (.reference _)
        ⟨.short, .uchar, .three, .on, .implied, by decide⟩ [-5, 77, 300] = some out ∧
      out.length = 3 ∧ out[0]? = some 0 ∧ out[1]? = some 77 ∧ out[2]? = some 255 := by
  have hlisted : (⟨.short, .uchar, .three, .on, .implied, by decide⟩ : Conversion) ∈
      (⟨.full, .full, .of "__spirv_" [.two]⟩ : Plan).conversions :=
    mem_conversions.mpr ⟨by decide, by decide, by decide⟩
  obtain ⟨out, hout, hlength, hlanes⟩ := evaluate_integers (v := [-5, 77, 300])
    (.reference _) hlisted rfl rfl rfl (by decide)
  have hlane : ∀ (i : Nat) (x : Int), [-5, 77, 300][i]? = some x →
      out[i]? = some (Scalar.uchar.clamp x) := by
    intro i x hx
    obtain ⟨y, hy, -, hon, -⟩ := hlanes i x hx
    rw [hy, hon rfl]
  exact ⟨out, hout, hlength, hlane 0 (-5) rfl, hlane 1 77 rfl, hlane 2 300 rfl⟩

end LaneConvert
