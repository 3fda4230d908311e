import LaneConvert.Conversion
import LaneConvert.Proofs.Text.Lines

/-!
# Names that can be taken apart

The name of a generated function is a fixed beginning, the name of a scalar type, a width and the
words for the qualifiers, written without separators. Letters end at the width and both end at the
first underscore behind them, so the parts can be read off the name. A signature therefore belongs
to one conversion, the name of an intrinsic to one operation and one result type, and no function is
called like an intrinsic.
-/

namespace LaneConvert

open Text

/-- The characters of the names of types, widths and functions. -/
def isNameChar (c : Char) : Bool := c.isLower || c.isDigit || c == '_'

/-- The characters of names are ASCII characters from the digit zero on. -/
theorem toNat_of_isNameChar {c : Char} (h : isNameChar c = true) :
    48 ≤ c.toNat ∧ c.toNat < 0x80 := by
  simp only [isNameChar, Char.isLower, Char.isDigit, Bool.or_eq_true, Bool.and_eq_true,
    decide_eq_true_eq, beq_iff_eq] at h
  rcases h with (⟨hlow, hhigh⟩ | ⟨hlow, hhigh⟩) | rfl
  · have hlow := UInt32.le_iff_toNat_le.mp hlow
    have hhigh := UInt32.le_iff_toNat_le.mp hhigh
    exact ⟨Nat.le_trans (by decide) hlow, Nat.lt_of_le_of_lt hhigh (by decide)⟩
  · have hlow := UInt32.le_iff_toNat_le.mp hlow
    have hhigh := UInt32.le_iff_toNat_le.mp hhigh
    exact ⟨Nat.le_trans (by decide) hlow, Nat.lt_of_le_of_lt hhigh (by decide)⟩
  · decide

/-- The characters of names belong to words. -/
theorem isWord_of_isNameChar {c : Char} (h : isNameChar c = true) : isWord c = true := by
  have hascii := (toNat_of_isNameChar h).2
  simp only [isNameChar, Bool.or_eq_true, beq_iff_eq] at h
  simp only [isWord, hascii, if_true, Char.isAlphanum, Char.isAlpha, Bool.or_eq_true, beq_iff_eq]
  rcases h with (h | h) | h
  · exact .inl (.inl (.inr h))
  · exact .inl (.inr h)
  · exact .inr h

/-- No character of a name is blank. -/
theorem isBlank_of_isNameChar {c : Char} (h : isNameChar c = true) : isBlank c = false := by
  obtain ⟨hlow, hhigh⟩ := toNat_of_isNameChar h
  simp only [isBlank, Bool.or_eq_false_iff, Bool.and_eq_false_iff, decide_eq_false_iff_not,
    beq_eq_false_iff_ne]
  omega

/-- The name of a scalar type is in small letters. -/
theorem Scalar.isLower_name (t : Scalar) : ∀ c ∈ t.name.toList, c.isLower = true := by
  cases t <;> exact List.all_eq_true.mp (by decide)

/-- A width adds only digits to the name of a type. -/
theorem Width.isDigit_suffix (w : Width) : ∀ c ∈ w.suffix.toList, c.isDigit = true := by
  cases w <;> exact List.all_eq_true.mp (by decide)

/-- Scalar types have different names. -/
theorem Scalar.name_injective : Function.Injective Scalar.name := by
  intro s t h
  have hread := congrArg Scalar.ofName? h
  rw [Scalar.ofName?_name, Scalar.ofName?_name] at hread
  exact Option.some.inj hread

/-- Widths add different endings to the name of a type. -/
theorem Width.suffix_injective : Function.Injective Width.suffix := by
  intro v w
  cases v <;> cases w <;> decide

/-- The words for both qualifiers of a conversion. -/
def qualifierSuffix (s : Saturation) (r : Rounding) : String := s.suffix ++ r.suffix

/-- The ending of a function name says both qualifiers. -/
theorem qualifierSuffix_injective {s s' : Saturation} {r r' : Rounding}
    (h : qualifierSuffix s r = qualifierSuffix s' r') : s = s' ∧ r = r' := by
  revert h
  cases s <;> cases s' <;> cases r <;> cases r' <;> decide

/-- The words for qualifiers start with an underscore, if there are any. -/
theorem leaves_qualifierSuffix (s : Saturation) (r : Rounding) :
    Leaves (· ≠ '_') (qualifierSuffix s r).toList := by
  cases s <;> cases r <;> first | exact leaves_nil _ | exact leaves_cons (by decide)

/-- The name of a vector type. -/
def vectorName (t : Scalar) (w : Width) : String := t.name ++ w.suffix

/-- The name of a vector type is made of small letters and digits. -/
theorem mem_vectorName {t : Scalar} {w : Width} {c : Char} (h : c ∈ (vectorName t w).toList) :
    c.isLower = true ∨ c.isDigit = true := by
  rw [vectorName, String.toList_append, List.mem_append] at h
  exact h.imp (t.isLower_name c) (w.isDigit_suffix c)

/-- The name of a vector type is made of characters of names. -/
theorem isNameChar_of_mem_vectorName (t : Scalar) (w : Width) :
    ∀ c ∈ (vectorName t w).toList, isNameChar c = true := by
  intro c hc
  rcases mem_vectorName hc with h | h
  · simp [isNameChar, h]
  · simp [isNameChar, h]

/-- The name of a vector type has no underscore. -/
theorem ne_underscore_of_mem_vectorName (t : Scalar) (w : Width) :
    ∀ c ∈ (vectorName t w).toList, decide (c ≠ '_') = true := by
  intro c hc
  rw [decide_eq_true_eq]
  rintro rfl
  rcases mem_vectorName hc with h | h
  · exact absurd h (by decide)
  · exact absurd h (by decide)

/-- Names of types are letters and widths are digits, so both can be read off their join. -/
theorem vectorName_injective {s t : Scalar} {v w : Width}
    (h : vectorName s v = vectorName t w) : s = t ∧ v = w := by
  have hleaves : ∀ u : Width, Leaves Char.isLower u.suffix.toList := by
    intro u
    cases u <;> first | exact leaves_nil _ | exact leaves_cons (by decide)
  have hlist : s.name.toList ++ v.suffix.toList = t.name.toList ++ w.suffix.toList := by
    simpa [vectorName] using congrArg String.toList h
  obtain ⟨hname, hsuffix⟩ := append_inj_of_leaves s.isLower_name t.isLower_name
    (hleaves v) (hleaves w) hlist
  exact ⟨Scalar.name_injective (String.toList_inj.mp hname),
    Width.suffix_injective (String.toList_inj.mp hsuffix)⟩

namespace Conversion

/-- A function name is a fixed beginning, the result type and the qualifiers. -/
theorem functionName_eq (c : Conversion) : c.functionName =
    "convert_" ++ (vectorName c.target c.width ++ qualifierSuffix c.saturation c.rounding) := by
  simp [functionName, targetType, vectorName, qualifierSuffix, String.append_assoc]

/-- A signature is the function name with the argument type in parentheses. -/
theorem signature_eq (c : Conversion) :
    c.signature.toList = c.functionName.toList ++ '(' :: (c.sourceType.toList ++ [')']) := by
  simp [signature]

/-- An argument type is made of characters of names. -/
theorem isNameChar_sourceType (c : Conversion) :
    ∀ ch ∈ c.sourceType.toList, isNameChar ch = true :=
  isNameChar_of_mem_vectorName c.source c.width

/-- A result type is made of characters of names. -/
theorem isNameChar_targetType (c : Conversion) :
    ∀ ch ∈ c.targetType.toList, isNameChar ch = true :=
  isNameChar_of_mem_vectorName c.target c.width

/-- A function name is made of characters of names. -/
theorem isNameChar_functionName (c : Conversion) :
    ∀ ch ∈ c.functionName.toList, isNameChar ch = true := by
  have hsaturation : ∀ ch ∈ c.saturation.suffix.toList, isNameChar ch = true := by
    cases c.saturation <;> exact List.all_eq_true.mp (by decide)
  have hrounding : ∀ ch ∈ c.rounding.suffix.toList, isNameChar ch = true := by
    cases c.rounding <;> exact List.all_eq_true.mp (by decide)
  have hstem : ∀ ch ∈ "convert_".toList, isNameChar ch = true :=
    List.all_eq_true.mp (by decide)
  intro ch h
  simp only [functionName, String.toList_append, List.mem_append] at h
  rcases h with ((h | h) | h) | h
  · exact hstem ch h
  · exact c.isNameChar_targetType ch h
  · exact hsaturation ch h
  · exact hrounding ch h

/-- The name of a function tells everything about its conversion but the source. -/
theorem functionName_inj {c d : Conversion} (h : c.functionName = d.functionName) :
    c.target = d.target ∧ c.width = d.width ∧ c.saturation = d.saturation ∧
      c.rounding = d.rounding := by
  rw [functionName_eq, functionName_eq] at h
  have hlist := congrArg String.toList h
  simp only [String.toList_append, List.append_cancel_left_eq] at hlist
  obtain ⟨htype, hwords⟩ := append_inj_of_leaves
    (ne_underscore_of_mem_vectorName c.target c.width)
    (ne_underscore_of_mem_vectorName d.target d.width)
    (leaves_qualifierSuffix _ _) (leaves_qualifierSuffix _ _) hlist
  obtain ⟨htarget, hwidth⟩ := vectorName_injective (String.toList_inj.mp htype)
  obtain ⟨hsaturation, hrounding⟩ := qualifierSuffix_injective (String.toList_inj.mp hwords)
  exact ⟨htarget, hwidth, hsaturation, hrounding⟩

/-- Conversions with the same types, width and qualifiers are the same. -/
theorem ext_parts {c d : Conversion} (hsource : c.source = d.source) (htarget : c.target = d.target)
    (hwidth : c.width = d.width) (hsaturation : c.saturation = d.saturation)
    (hrounding : c.rounding = d.rounding) : c = d := by
  cases c
  cases d
  simp_all

/-- The signature of a function tells everything about its conversion. -/
theorem signature_inj {c d : Conversion} (h : c.signature = d.signature) : c = d := by
  have hlist := congrArg String.toList h
  rw [signature_eq, signature_eq] at hlist
  have hname : ∀ e : Conversion, ∀ ch ∈ e.functionName.toList, decide (ch ≠ '(') = true := by
    intro e ch hch
    have hclass := e.isNameChar_functionName ch hch
    rw [decide_eq_true_eq]
    rintro rfl
    exact absurd hclass (by decide)
  obtain ⟨hfunction, hargument⟩ := append_inj_of_leaves (hname c) (hname d)
    (leaves_cons (by decide)) (leaves_cons (by decide)) hlist
  have hsourceType : vectorName c.source c.width = vectorName d.source d.width :=
    String.toList_inj.mp (List.append_cancel_right (List.cons.inj hargument).2)
  obtain ⟨htarget, hwidth, hsaturation, hrounding⟩ :=
    functionName_inj (String.toList_inj.mp hfunction)
  exact ext_parts (vectorName_injective hsourceType).1 htarget hwidth hsaturation hrounding

end Conversion

namespace IntrinsicSet

/-- The words for qualifiers that an operation leaves to the name of the intrinsic. -/
def intrinsicSuffix (op : Operation) (c : Conversion) : String :=
  (if op.namesSaturation then c.saturation.suffix else "") ++
    (if op.namesRounding then c.rounding.suffix else "")

/-- An intrinsic name is the stem, the operation, the result type and the qualifiers that the
operation leaves open. -/
theorem intrinsicName_eq (set : IntrinsicSet) (op : Operation) (c : Conversion) :
    set.intrinsicName op c =
      set.stem ++ (op.name ++ ("_R" ++ (vectorName c.target c.width ++ intrinsicSuffix op c))) := by
  simp [intrinsicName, Conversion.targetType, vectorName, intrinsicSuffix, String.append_assoc]

/-- The words are those of the qualifiers that the operation leaves open. -/
theorem intrinsicSuffix_eq (op : Operation) (c : Conversion) : intrinsicSuffix op c =
    qualifierSuffix (if op.namesSaturation then c.saturation else .off)
      (if op.namesRounding then c.rounding else .implied) := by
  unfold intrinsicSuffix qualifierSuffix
  rw [apply_ite Saturation.suffix, apply_ite Rounding.suffix]
  rfl

/-- What an intrinsic name says behind the result type begins with an underscore, if it says
anything. -/
theorem leaves_intrinsicSuffix (op : Operation) (c : Conversion) :
    Leaves (· ≠ '_') (intrinsicSuffix op c).toList := by
  rw [intrinsicSuffix_eq]
  exact leaves_qualifierSuffix _ _

/-- The name of an intrinsic tells the operation, the result type and the qualifiers that the
operation leaves open. -/
theorem intrinsicName_inj {set : IntrinsicSet} {op op' : Operation} {c d : Conversion}
    (h : set.intrinsicName op c = set.intrinsicName op' d) :
    op = op' ∧ c.target = d.target ∧ c.width = d.width ∧
      intrinsicSuffix op c = intrinsicSuffix op' d := by
  have hop : ∀ o : Operation, ∀ ch ∈ o.name.toList, decide (ch ≠ '_') = true := by
    intro o
    cases o <;> exact List.all_eq_true.mp (by decide)
  have hopName : Function.Injective Operation.name := by
    intro o o'
    cases o <;> cases o' <;> decide
  rw [intrinsicName_eq, intrinsicName_eq] at h
  have hlist := congrArg String.toList h
  simp only [String.toList_append, List.append_cancel_left_eq] at hlist
  obtain ⟨hname, hrest⟩ := append_inj_of_leaves (hop op) (hop op')
    (leaves_cons (by decide)) (leaves_cons (by decide)) hlist
  have hbehind := (List.append_right_inj "_R".toList).mp hrest
  obtain ⟨htype, hwords⟩ := append_inj_of_leaves
    (ne_underscore_of_mem_vectorName c.target c.width)
    (ne_underscore_of_mem_vectorName d.target d.width)
    (leaves_intrinsicSuffix op c) (leaves_intrinsicSuffix op' d) hbehind
  obtain ⟨htarget, hwidth⟩ := vectorName_injective (String.toList_inj.mp htype)
  exact ⟨hopName (String.toList_inj.mp hname), htarget, hwidth, String.toList_inj.mp hwords⟩

/-- No function is called like an intrinsic, whatever the stem: only the name of an intrinsic has a
capital letter. -/
theorem intrinsicName_ne_functionName (set : IntrinsicSet) (op : Operation) (c d : Conversion) :
    set.intrinsicName op c ≠ d.functionName := by
  intro h
  have hcapital : 'R' ∈ (set.intrinsicName op c).toList := by
    simp [intrinsicName_eq]
  rw [h] at hcapital
  exact absurd (d.isNameChar_functionName 'R' hcapital) (by decide)

end IntrinsicSet

end LaneConvert
