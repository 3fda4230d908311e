import LaneConvert.Proofs.Expressibility
import LaneConvert.Proofs.Explanation

/-!
# Names of intrinsics and their qualifiers

The name of an intrinsic leaves out the type of its argument, and it carries only the qualifiers
that its operation does not settle: operations between integers saturate or do not, and none but
those between integers and floating point rounds in a way of its own. What the name leaves out is
fixed by the operation all the same. So an intrinsic name and an argument type, which together pick
one overload, belong to one conversion at most.

No cast saturates or rounds in a given way, so a conversion between integers and floating point that
asks for either comes down to calls of intrinsics and to nothing else. Their names are given here
by one rule: the letters of both categories, the result type, and both qualifiers in full. Where
the intrinsic for single values is missing the conversion fails as a whole; it is never carried out
without its qualifiers.
-/

namespace LaneConvert

/-- The saturation of the conversions that an operation carries out, unless it names it. -/
def Operation.ownSaturation : Operation → Saturation
  | .satUnsignedToSigned | .satSignedToUnsigned => .on
  | _ => .off

namespace Conversion

variable {c d : Conversion} {op : Operation}

/-- An operation that does not name the saturation settles it. -/
theorem CarriedBy.saturation (h : c.CarriedBy op) (hnames : op.namesSaturation = false) :
    c.saturation = op.ownSaturation := by
  cases h with
  | satUnsignedToSigned _ on => exact on
  | satSignedToUnsigned _ on => exact on
  | fromSigned _ off => exact off
  | fromUnsigned _ off => exact off
  | floatToSigned => cases hnames
  | floatToUnsigned => cases hnames
  | signedToFloat mixed => exact saturation_of_refused (by rw [mixed]; rfl)
  | unsignedToFloat mixed => exact saturation_of_refused (by rw [mixed]; rfl)
  | floatToFloat floats =>
    rcases floats with hkind | hkind <;> exact saturation_of_refused (by rw [hkind]; rfl)

/-- An operation that does not name the rounding mode has no mode but the implied one. -/
theorem CarriedBy.rounding (h : c.CarriedBy op) (hnames : op.namesRounding = false) :
    c.rounding = .implied := by
  cases h with
  | satUnsignedToSigned integers => exact rounding_of_refused (by rw [integers]; rfl)
  | satSignedToUnsigned integers => exact rounding_of_refused (by rw [integers]; rfl)
  | fromSigned integers => exact rounding_of_refused (by rw [integers]; rfl)
  | fromUnsigned integers => exact rounding_of_refused (by rw [integers]; rfl)
  | floatToSigned => cases hnames
  | floatToUnsigned => cases hnames
  | signedToFloat => cases hnames
  | unsignedToFloat => cases hnames
  | floatToFloat _ implied => exact implied

/-- Conversions by one operation differ in their qualifiers only where the intrinsic names do. -/
theorem CarriedBy.qualifiers_inj (hc : c.CarriedBy op) (hd : d.CarriedBy op)
    (h : IntrinsicSet.intrinsicSuffix op c = IntrinsicSet.intrinsicSuffix op d) :
    c.saturation = d.saturation ∧ c.rounding = d.rounding := by
  rw [IntrinsicSet.intrinsicSuffix_eq, IntrinsicSet.intrinsicSuffix_eq] at h
  obtain ⟨hsaturation, hrounding⟩ := qualifierSuffix_injective h
  constructor
  · cases hnames : op.namesSaturation with
    | false => rw [hc.saturation hnames, hd.saturation hnames]
    | true => simpa [hnames] using hsaturation
  · cases hnames : op.namesRounding with
    | false => rw [hc.rounding hnames, hd.rounding hnames]
    | true => simpa [hnames] using hrounding

end Conversion

/-- No two conversions share an overload of an intrinsic, whatever the stem of the names and the
widths of the set are: conversions that are carried out by an intrinsic of the same name on
arguments of the same type are the same. -/
theorem eq_of_same_overload {set : IntrinsicSet} {c d : Conversion} {name : String}
    (hc : set.resolve? c = some (.intrinsic name)) (hd : set.resolve? d = some (.intrinsic name))
    (hargument : c.sourceType = d.sourceType) : c = d := by
  obtain ⟨-, -, op, hcarries, hcName⟩ := IntrinsicSet.resolve?_eq_intrinsic_iff.mp hc
  obtain ⟨-, -, op', hdCarries, hdName⟩ := IntrinsicSet.resolve?_eq_intrinsic_iff.mp hd
  obtain ⟨rfl, htarget, hwidth, hsuffix⟩ :=
    IntrinsicSet.intrinsicName_inj (hcName.symm.trans hdName)
  have hsource := (vectorName_injective hargument).1
  obtain ⟨hsaturation, hrounding⟩ := (Conversion.carriedBy_of_operation? hcarries).qualifiers_inj
    (Conversion.carriedBy_of_operation? hdCarries) hsuffix
  exact Conversion.ext_parts hsource htarget hwidth hsaturation hrounding

/-- A conversion with both qualifiers, found again by its intrinsic after a change of width. -/
theorem eq_of_same_overload_qualified :
    let set : IntrinsicSet := .of "__spirv_" [.three, .eight]
    let c : Conversion := ⟨.double, .short, .three, .on, .towardZero, by decide⟩
    set.resolve? c = some (.intrinsic "__spirv_ConvertFToS_Rshort3_sat_rtz") ∧
      set.resolve? ((c.atWidth .eight).atWidth .three) =
        some (.intrinsic "__spirv_ConvertFToS_Rshort3_sat_rtz") ∧
      c = (c.atWidth .eight).atWidth .three := by
  intro set c
  have hc : set.resolve? c = some (.intrinsic "__spirv_ConvertFToS_Rshort3_sat_rtz") := by cbv
  have hd : set.resolve? ((c.atWidth .eight).atWidth .three) =
      some (.intrinsic "__spirv_ConvertFToS_Rshort3_sat_rtz") := by cbv
  exact ⟨hc, hd, eq_of_same_overload hc hd (by decide)⟩

/-- The argument type is needed: the low bits of any wider signed integer are one name. -/
example : IntrinsicSet.standard.resolve? (.plain .int .uchar .two) =
    IntrinsicSet.standard.resolve? (.plain .short .uchar .two) := by
  decide

/-- The letter that stands for a category in the names of operations. -/
def Category.letter : Category → String
  | signed => "S"
  | unsigned => "U"
  | float => "F"

/-- The letter of a category tells floating point, signed and unsigned apart. -/
theorem Scalar.letter_category (t : Scalar) :
    t.category.letter = if t.isFloat then "F" else if t.isSigned then "S" else "U" := by
  unfold isFloat isSigned
  cases t.category <;> rfl

namespace Conversion

variable {c : Conversion}

/-- A conversion of the kind from floating point to integers has such types. -/
theorem isFloat_of_floatToInt (h : c.kind = .floatToInt) :
    c.source.isFloat = true ∧ c.target.isFloat = false := by
  unfold kind Kind.between at h
  split at h
  · cases h
  · next hsource htarget => exact ⟨hsource, htarget⟩
  · cases h
  · split at h <;> cases h

/-- A conversion of the kind from integers to floating point has such types. -/
theorem isFloat_of_intToFloat (h : c.kind = .intToFloat) :
    c.source.isFloat = false ∧ c.target.isFloat = true := by
  unfold kind Kind.between at h
  split at h
  · cases h
  · cases h
  · next hsource htarget => exact ⟨hsource, htarget⟩
  · split at h <;> cases h

/-- The operation between integers and floating point is named by both categories, and it leaves
every qualifier that the conversion may carry to the name of the intrinsic. -/
theorem operation_of_mixed {op : Operation} (hmixed : c.source.isFloat ≠ c.target.isFloat)
    (hop : c.operation? = some op) :
    op.name = "Convert" ++ c.source.category.letter ++ "To" ++ c.target.category.letter ∧
      op.namesRounding = true ∧ (op.namesSaturation = true ∨ c.saturation = .off) := by
  rw [Scalar.letter_category, Scalar.letter_category]
  have hkind := kind_mixed_iff.mpr hmixed
  cases carriedBy_of_operation? hop with
  | floatToSigned mixed signed | floatToUnsigned mixed unsigned =>
    obtain ⟨hsource, htarget⟩ := isFloat_of_floatToInt mixed
    simp [*, Operation.name, Operation.namesRounding, Operation.namesSaturation]
  | signedToFloat mixed signed | unsignedToFloat mixed unsigned =>
    obtain ⟨hsource, htarget⟩ := isFloat_of_intToFloat mixed
    have hoff := saturation_of_isFloat htarget
    simp [*, Operation.name, Operation.namesRounding]
  | satUnsignedToSigned integers | satSignedToUnsigned integers | fromSigned integers
  | fromUnsigned integers => simp [integers] at hkind
  | floatToFloat floats => rcases floats with floats | floats <;> simp [floats] at hkind

/-- The name of the intrinsic that carries out a conversion with everything it asks for. -/
def qualifiedCallee (c : Conversion) (stem : String) : String :=
  stem ++ "Convert" ++ c.source.category.letter ++ "To" ++ c.target.category.letter ++ "_R" ++
    c.targetType ++ c.saturation.suffix ++ c.rounding.suffix

/-- Between integers and floating point the name of the intrinsic says both categories, the result
type and both qualifiers. -/
theorem intrinsicName_of_mixed {set : IntrinsicSet} {op : Operation}
    (hmixed : c.source.isFloat ≠ c.target.isFloat) (hop : c.operation? = some op) :
    set.intrinsicName op c = c.qualifiedCallee set.stem := by
  obtain ⟨hname, hrounding, hsaturation⟩ := operation_of_mixed hmixed hop
  have hsuffix : (if op.namesSaturation then c.saturation.suffix else "") =
      c.saturation.suffix := by
    rcases hsaturation with hnames | hoff
    · rw [if_pos hnames]
    · rw [hoff]
      exact ite_self _
  rw [IntrinsicSet.intrinsicName, hname, if_pos hrounding, hsuffix, qualifiedCallee]
  simp only [String.append_assoc]

end Conversion

namespace Plan

variable {p : Plan} {c : Conversion}

/-- A conversion that needs an intrinsic is a call of it or is put together from parts. -/
theorem LowersTo.of_needsIntrinsic {e : Expression} (h : p.LowersTo c e)
    (hneeds : c.NeedsIntrinsic) :
    e = .call (c.qualifiedCallee p.intrinsics.stem) ∨ e.isConcat = true := by
  cases h with
  | passThrough same => exact absurd (congrArg Scalar.isFloat same) hneeds.mixed
  | intrinsic op carries =>
    left
    rw [Conversion.intrinsicName_of_mixed hneeds.mixed carries]
  | scalar _ _ expressed =>
    have herror := Conversion.scalarExpression_eq_error_iff.mpr ⟨hneeds, rfl⟩
    cases herror.symm.trans expressed
  | parts => exact .inr rfl

/-- What fails for want of an expression in one step is a single value without its intrinsic. A
vector fails in one step only where a width is missing. -/
theorem of_lower_eq_noLowering {d : Conversion} (h : p.lower c = .error (.noLowering d)) :
    c.width = .scalar ∧ .scalar ∉ p.intrinsics.widths ∧ d = c := by
  unfold lower at h
  split at h
  · cases h
  · cases h
  · next hresolve =>
    split at h
    · next hsplit =>
      have hsingle := Width.split?_eq_none_iff.mp hsplit
      obtain ⟨hneeds, herror⟩ := Conversion.scalarExpression_eq_error_iff.mp h
      have huncovered := (IntrinsicSet.resolve?_eq_none_of_needsIntrinsic hneeds).mp hresolve
      exact ⟨hsingle, hsingle ▸ huncovered, LibraryError.noLowering.inj herror⟩
    · unfold assemble at h
      split at h <;> cases h

/-- What fails on the way down fails in one step, at one of the widths below. -/
theorem exists_lower_of_explain_eq_error {e : LibraryError} (h : p.explain c = .error e) :
    ∃ w, p.lower (c.atWidth w) = .error e := by
  fun_induction Plan.explain p c generalizing e with
  | case1 c e' hlower =>
    obtain rfl := Except.error.inj h
    exact ⟨c.width, hlower⟩
  | case2 c type low lowSlice high highSlice hlower e' hlow ih =>
    obtain rfl := Except.error.inj h
    obtain ⟨split, -, rfl, -⟩ := lower_concat hlower
    obtain ⟨w, herror⟩ := ih hlow
    exact ⟨w, herror⟩
  | case3 c type low lowSlice high highSlice hlower lowPart hlow e' hhigh ihlow ih =>
    obtain rfl := Except.error.inj h
    obtain ⟨split, -, -, rfl, -⟩ := lower_concat hlower
    obtain ⟨w, herror⟩ := ih hhigh
    exact ⟨w, herror⟩
  | case4 => cases h
  | case5 => cases h

end Plan

/-- The qualifiers of a conversion between integers and floating point are never dropped, whatever
the tables of a plan and whether or not they list the conversion. If the conversion saturates or
names a rounding mode and is explained, every leaf of the explanation is the same conversion at some
width and a call of the intrinsic that names both qualifiers. If it fails for want of an expression,
it is the single value that fails, with the same types and qualifiers, and the plan has no
intrinsics for single values. With these intrinsics every such conversion at a listed width is
explained. -/
theorem explain_keeps_qualifiers (p : Plan) {c : Conversion}
    (hmixed : c.source.isFloat ≠ c.target.isFloat)
    (hqualified : c.saturation = .on ∨ c.rounding ≠ .implied) :
    (∀ tree, p.explain c = .ok tree → ∀ depth d e, (depth, .leaf d e) ∈ tree.nodes 0 →
      d = c.atWidth d.width ∧
      e = .call (p.intrinsics.stem ++ "Convert" ++ c.source.category.letter ++ "To" ++
        c.target.category.letter ++ "_R" ++ d.targetType ++ c.saturation.suffix ++
        c.rounding.suffix)) ∧
    (∀ d, p.explain c = .error (.noLowering d) →
      d.width = .scalar ∧ p.intrinsics.covers .scalar = false ∧ d.source = c.source ∧
        d.target = c.target ∧ d.saturation = c.saturation ∧ d.rounding = c.rounding) ∧
    (c.width ∈ p.table.widths → p.intrinsics.covers .scalar = true →
      ∃ tree, p.explain c = .ok tree) := by
  refine ⟨?_, ?_, ?_⟩
  · intro tree htree depth d e hleaf
    obtain ⟨w, hspans, -⟩ := (Plan.explain_eq_ok_iff.mp htree).of_mem_nodes hleaf
    have hneeds : (c.atWidth w).NeedsIntrinsic :=
      Conversion.needsIntrinsic_atWidth.mpr ⟨hmixed, hqualified⟩
    cases hspans with
    | leaf lowers ends =>
      refine ⟨rfl, ?_⟩
      rcases lowers.of_needsIntrinsic hneeds with hcall | hconcat
      · exact hcall
      · cases ends.symm.trans hconcat
  · intro d herror
    obtain ⟨w, hlower⟩ := Plan.exists_lower_of_explain_eq_error herror
    obtain ⟨hsingle, huncovered, rfl⟩ := Plan.of_lower_eq_noLowering hlower
    have hcovers : p.intrinsics.covers .scalar = false :=
      Bool.eq_false_of_not_eq_true (mt IntrinsicSet.covers_iff.mp huncovered)
    exact ⟨hsingle, hcovers, rfl, rfl, rfl, rfl⟩
  · intro hw hcovers
    have hscalar := IntrinsicSet.covers_iff.mp hcovers
    cases hexplain : p.explain c with
    | ok tree => exact ⟨tree, rfl⟩
    | error e => exact absurd hscalar (Plan.of_explain_eq_error hw hexplain).1

/-- Three lanes are two intrinsics with both qualifiers, although the catalog lists neither type.
Without the intrinsic for single values there is no explanation. -/
theorem explain_keeps_qualifiers_three :
    let plan (widths : List Width) : Plan :=
      ⟨⟨[.int], by decide, by decide⟩, .full, .of "__spirv_" widths⟩
    let c : Conversion := ⟨.double, .short, .three, .on, .towardZero, by decide⟩
    (∃ tree, (plan [.scalar, .two]).explain c = .ok tree ∧
      ∀ depth d e, (depth, .leaf d e) ∈ tree.nodes 0 →
        d = c.atWidth d.width ∧
          e = .call ("__spirv_ConvertFToS_R" ++ d.targetType ++ "_sat" ++ "_rtz")) ∧
    (plan [.two]).explain c = .error (.noLowering (c.atWidth .scalar)) ∧
      (plan [.two]).intrinsics.covers .scalar = false := by
  intro plan c
  have hmixed : c.source.isFloat ≠ c.target.isFloat := by decide
  have hqualified : c.saturation = .on ∨ c.rounding ≠ .implied := .inl rfl
  obtain ⟨hleaves, -, hsucceeds⟩ :=
    explain_keeps_qualifiers (plan [.scalar, .two]) hmixed hqualified
  obtain ⟨tree, htree⟩ := hsucceeds (by decide) (by decide)
  have herror : (plan [.two]).explain c = .error (.noLowering (c.atWidth .scalar)) := by cbv
  obtain ⟨-, hfails, -⟩ := explain_keeps_qualifiers (plan [.two]) hmixed hqualified
  refine ⟨⟨tree, htree, ?_⟩, herror, (hfails _ herror).2.1⟩
  intro depth d e hleaf
  obtain ⟨hd, he⟩ := hleaves tree htree depth d e hleaf
  refine ⟨hd, he.trans ?_⟩
  simp [plan, c, IntrinsicSet.of, Scalar.category, Category.letter, Saturation.suffix,
    Rounding.suffix]

end LaneConvert
