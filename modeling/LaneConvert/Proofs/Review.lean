import LaneConvert.Proofs.Lowering

/-!
# What a review vouches for

A review goes through definitions of any origin. What it accepts has new signatures throughout, and
whatever is put together from parts there calls the functions of the parts that its width splits
into. What it refuses has a definition that repeats a signature or calls other parts, and the error
is about the first such definition. It compares names: neither the slices that the functions are
applied to nor a single value that is put together from parts are held against a definition. All
that a plan defines passes.
-/

namespace LaneConvert

namespace Definition

variable {d : Definition}

/-- A definition that is put together from parts calls the parts that its width splits into. -/
def CallsParts (d : Definition) : Prop :=
  ∀ expected, d.expectedCalls? = some expected → d.result.calls = expected

/-- A definition that is put together from parts takes the parts of its width: it calls the
functions of the low and of the high part, each on its own slice. -/
def TakesParts (d : Definition) : Prop :=
  ∀ type low lowSlice high highSlice, d.result = .concat type low lowSlice high highSlice →
    ∃ split, d.conversion.width.split? = some split ∧
      low.functionName = (d.conversion.atWidth split.low).functionName ∧
      high.functionName = (d.conversion.atWidth split.high).functionName ∧
      lowSlice = split.lowSlice ∧ highSlice = split.highSlice

/-- A definition calls its parts exactly if an expression that is put together from two conversions
names the functions of the two narrower widths, slices and types aside. -/
theorem callsParts_iff :
    d.CallsParts ↔ ∀ split, d.conversion.width.split? = some split →
      ∀ type low lowSlice high highSlice, d.result = .concat type low lowSlice high highSlice →
        low.functionName = (d.conversion.atWidth split.low).functionName ∧
          high.functionName = (d.conversion.atWidth split.high).functionName := by
  constructor
  · intro h split hsplit type low lowSlice high highSlice hresult
    have hcalls := h (split.parts.map fun width => (d.conversion.atWidth width).functionName)
      (by simp [expectedCalls?, hresult, hsplit, Expression.isConcat])
    simpa [hresult, Expression.calls, Width.Split.parts] using hcalls
  · intro h expected hexpected
    unfold expectedCalls? at hexpected
    cases hresult : d.result with
    | concat type low lowSlice high highSlice =>
      rw [hresult] at hexpected
      obtain ⟨split, hsplit, rfl⟩ := Option.map_eq_some_iff.mp hexpected
      obtain ⟨hlow, hhigh⟩ := h split hsplit type low lowSlice high highSlice hresult
      simp [Expression.calls, Width.Split.parts, hlow, hhigh]
    | _ => simp [hresult, Expression.isConcat] at hexpected

/-- A definition that takes its parts calls them. -/
theorem TakesParts.callsParts (h : d.TakesParts) : d.CallsParts := by
  rw [callsParts_iff]
  intro split hsplit type low lowSlice high highSlice hresult
  obtain ⟨found, hfound, hlow, hhigh, -⟩ := h type low lowSlice high highSlice hresult
  obtain rfl := Option.some.inj (hfound.symm.trans hsplit)
  exact ⟨hlow, hhigh⟩

/-- A definition with a new signature that calls its parts is passed over. -/
theorem reviewAfter_cons_eq_ok_iff {seen : List String} {rest : List Definition} :
    reviewAfter seen (d :: rest) = .ok () ↔
      d.conversion.signature ∉ seen ∧ d.CallsParts ∧
        reviewAfter (d.conversion.signature :: seen) rest = .ok () := by
  unfold CallsParts
  rw [reviewAfter]
  split
  · next hseen => simp [hseen]
  · next hfresh =>
    cases hexpected : d.expectedCalls? with
    | none => simp [hfresh]
    | some expected =>
      by_cases hcalls : d.result.calls = expected
      · simp [hfresh, hcalls]
      · simp [hcalls]

/-- A review succeeds exactly if every signature is new and all definitions call their parts. -/
theorem reviewAfter_eq_ok_iff {seen : List String} {definitions : List Definition} :
    reviewAfter seen definitions = .ok () ↔
      (definitions.map fun d => d.conversion.signature).Nodup ∧
        (∀ d ∈ definitions, d.conversion.signature ∉ seen) ∧ ∀ d ∈ definitions, d.CallsParts := by
  induction definitions generalizing seen with
  | nil => simp [reviewAfter]
  | cons d rest ih =>
    rw [reviewAfter_cons_eq_ok_iff, ih, List.map_cons, List.nodup_cons, List.forall_mem_cons,
      List.forall_mem_cons]
    have hapart : (∀ e ∈ rest, e.conversion.signature ∉ d.conversion.signature :: seen) ↔
        d.conversion.signature ∉ rest.map (fun e => e.conversion.signature) ∧
          ∀ e ∈ rest, e.conversion.signature ∉ seen := by
      simp only [List.mem_cons, not_or, List.mem_map, not_exists, not_and]
      exact forall₂_and
    rw [hapart]
    tauto

/-- A review accepts exactly the lists without a repeated signature in which every definition calls
its parts. -/
theorem review_eq_ok_iff {definitions : List Definition} :
    review definitions = .ok () ↔
      (definitions.map fun d => d.conversion.signature).Nodup ∧
        ∀ d ∈ definitions, d.CallsParts := by
  simp [review, reviewAfter_eq_ok_iff]

end Definition

namespace Plan

variable {p : Plan} {definitions : List Definition}

/-- Whatever a plan puts together, it puts together from the parts of the width. -/
theorem takesParts_of_mem (h : p.definitions = .ok definitions) {d : Definition}
    (hd : d ∈ definitions) : d.TakesParts := by
  intro type low lowSlice high highSlice hresult
  have hlowers := lowersTo_of_mem h hd
  rw [hresult] at hlowers
  obtain ⟨split, hsplit, rfl, rfl, rfl, rfl, -⟩ := lower_concat (lower_eq_ok_iff.mpr hlowers)
  exact ⟨split, hsplit, rfl, rfl, rfl, rfl⟩

/-- Whatever a plan defines passes the review. -/
theorem review_definitions (h : p.definitions = .ok definitions) :
    Definition.review definitions = .ok () :=
  Definition.review_eq_ok_iff.mpr
    ⟨signatures_definitions_nodup h, fun _ hd => (takesParts_of_mem h hd).callsParts⟩

end Plan

namespace Definition

/-- What a review accepts has no signature twice, and a vector conversion that is put together there
calls the functions of the low and of the high part of its width, in this order. In turn,
definitions with distinct signatures that take the parts of their widths are accepted. -/
theorem review_vouches (definitions : List Definition) :
    (review definitions = .ok () →
      (definitions.map fun d => d.conversion.signature).Nodup ∧
      ∀ d ∈ definitions, ∀ split, d.conversion.width.split? = some split →
        ∀ type low lowSlice high highSlice, d.result = .concat type low lowSlice high highSlice →
          low.functionName = (d.conversion.atWidth split.low).functionName ∧
            high.functionName = (d.conversion.atWidth split.high).functionName) ∧
    ((definitions.map fun d => d.conversion.signature).Nodup →
      (∀ d ∈ definitions, d.TakesParts) → review definitions = .ok ()) := by
  constructor
  · intro h
    obtain ⟨hnodup, hcalls⟩ := review_eq_ok_iff.mp h
    exact ⟨hnodup, fun d hd => callsParts_iff.mp (hcalls d hd)⟩
  · intro hnodup htakes
    exact review_eq_ok_iff.mpr ⟨hnodup, fun d hd => (htakes d hd).callsParts⟩

/-- A vector of three from the right functions on each other's slices. -/
def swappedSlices : Definition :=
  ⟨.plain .char .int .three, none,
    .concat "int3" (.plain .char .int .two) "s2" (.plain .char .int .scalar) "s01"⟩

/-- A single value that is put together from two. -/
def joinedScalar : Definition :=
  ⟨.plain .char .int .scalar, none,
    .concat "int" (.plain .char .int .two) "lo" (.plain .uchar .float .four) "hi"⟩

/-- Neither the slices nor a single value that is put together are noticed, so what a review accepts
need not take the parts of its width. -/
theorem other_parts_accepted :
    (review [swappedSlices] = .ok () ∧ ¬ swappedSlices.TakesParts) ∧
      review [joinedScalar] = .ok () ∧ ¬ joinedScalar.TakesParts := by
  refine ⟨⟨rfl, ?_⟩, rfl, ?_⟩
  · intro h
    obtain ⟨split, hsplit, -, -, hslice, -⟩ := h _ _ _ _ _ rfl
    obtain rfl := Option.some.inj hsplit
    exact absurd hslice (by decide)
  · intro h
    obtain ⟨split, hsplit, -⟩ := h _ _ _ _ _ rfl
    cases hsplit

/-- A vector is put together from functions of other names than those of its parts. -/
structure CallsOthers (d : Definition) (expected found : List String) : Prop where
  /-- The width splits, and these are the functions of its low and of its high part. -/
  splits : ∃ split, d.conversion.width.split? = some split ∧
    expected = [(d.conversion.atWidth split.low).functionName,
      (d.conversion.atWidth split.high).functionName]
  /-- The vector is put together from two slices, and these are the functions called on them. -/
  calls : ∃ type low lowSlice high highSlice, d.result = .concat type low lowSlice high highSlice ∧
    found = [low.functionName, high.functionName]
  /-- The functions differ. -/
  differ : found ≠ expected

/-- The definition at a place has the signature of an earlier one. -/
def RepeatsAt (definitions : List Definition) (i : Nat) : Prop :=
  ∃ d, definitions[i]? = some d ∧
    ∃ j < i, ∃ e, definitions[j]? = some e ∧ e.conversion.signature = d.conversion.signature

/-- The definition at a place has a defect that a review looks for. -/
def FaultyAt (definitions : List Definition) (i : Nat) : Prop :=
  RepeatsAt definitions i ∨
    ∃ d, definitions[i]? = some d ∧ ∃ expected found, d.CallsOthers expected found

variable {definitions : List Definition} {d : Definition} {i : Nat} {expected found : List String}

/-- A definition that does not call its parts calls others. -/
theorem not_callsParts_iff :
    ¬ d.CallsParts ↔ ∃ expected found, d.CallsOthers expected found := by
  constructor
  · intro h
    by_contra hnone
    refine h (callsParts_iff.mpr fun split hsplit type low lowSlice high highSlice hresult => ?_)
    by_contra hdiffer
    refine hnone ⟨_, _, ⟨split, hsplit, rfl⟩, ⟨type, low, lowSlice, high, highSlice, hresult, rfl⟩,
      ?_⟩
    simpa using hdiffer
  · rintro ⟨expected, found, ⟨split, hsplit, rfl⟩,
      ⟨type, low, lowSlice, high, highSlice, hresult, rfl⟩, hdiffer⟩ h
    obtain ⟨hlow, hhigh⟩ :=
      callsParts_iff.mp h split hsplit type low lowSlice high highSlice hresult
    exact hdiffer (by rw [hlow, hhigh])

/-- The names that are compared are those of the parts and those that are called. -/
theorem CallsOthers.expectedCalls? (h : d.CallsOthers expected found) :
    d.expectedCalls? = some expected ∧ d.result.calls = found := by
  obtain ⟨⟨split, hsplit, rfl⟩, ⟨type, low, lowSlice, high, highSlice, hresult, rfl⟩, -⟩ := h
  simp [Definition.expectedCalls?, hsplit, hresult, Expression.isConcat, Expression.calls,
    Width.Split.parts]

/-- No signature is repeated exactly if none is repeated at any place. -/
theorem nodup_signatures_iff :
    (definitions.map fun d => d.conversion.signature).Nodup ↔ ∀ i, ¬ RepeatsAt definitions i := by
  rw [List.nodup_iff_getElem?_ne_getElem?]
  constructor
  · rintro h i ⟨d, hd, j, hj, e, he, hsame⟩
    have hi := (List.getElem?_eq_some_iff.mp hd).1
    have hne := h j i hj (by simpa using hi)
    rw [List.getElem?_map, List.getElem?_map, hd, he] at hne
    exact hne (congrArg some hsame)
  · intro h j i hj hi hsame
    rw [List.length_map] at hi
    have hd := List.getElem?_eq_getElem hi
    have he := List.getElem?_eq_getElem (hj.trans hi)
    rw [List.getElem?_map, List.getElem?_map, hd, he] at hsame
    exact h i ⟨_, hd, j, hj, _, he, Option.some.inj hsame⟩

/-- A review succeeds exactly if no definition has a defect. -/
theorem review_eq_ok_iff_faultless :
    review definitions = .ok () ↔ ∀ i, ¬ FaultyAt definitions i := by
  rw [review_eq_ok_iff, nodup_signatures_iff]
  constructor
  · rintro ⟨hnew, hcalls⟩ i (hrepeats | ⟨d, hd, hothers⟩)
    · exact hnew i hrepeats
    · exact not_callsParts_iff.mpr hothers (hcalls d (List.mem_of_getElem? hd))
  · intro h
    refine ⟨fun i hrepeats => h i (.inl hrepeats), fun d hd => ?_⟩
    obtain ⟨i, hi⟩ := List.mem_iff_getElem?.mp hd
    by_contra hcalls
    exact h i (.inr ⟨d, hi, not_callsParts_iff.mp hcalls⟩)

/-- What is faulty among the first definitions is faulty among all of them. -/
theorem FaultyAt.of_take {j : Nat} (h : FaultyAt (definitions.take i) j) :
    j < i ∧ FaultyAt definitions j := by
  have htake : ∀ {k : Nat} {d : Definition}, (definitions.take i)[k]? = some d →
      k < i ∧ definitions[k]? = some d := by
    intro k d hk
    rw [List.getElem?_take] at hk
    split at hk
    · next hlt => exact ⟨hlt, hk⟩
    · cases hk
  rcases h with ⟨d, hd, k, hk, e, he, hsame⟩ | ⟨d, hd, hothers⟩
  · obtain ⟨hj, hd⟩ := htake hd
    exact ⟨hj, .inl ⟨d, hd, k, hk, e, (htake he).2, hsame⟩⟩
  · obtain ⟨hj, hd⟩ := htake hd
    exact ⟨hj, .inr ⟨d, hd, hothers⟩⟩

/-- A signature is repeated at a place exactly if a definition in front of it has the same. -/
theorem repeatsAt_iff (hd : definitions[i]? = some d) : RepeatsAt definitions i ↔
    d.conversion.signature ∈ (definitions.take i).map fun e => e.conversion.signature := by
  rw [List.mem_map]
  constructor
  · rintro ⟨d', hd', j, hj, e, he, hsame⟩
    obtain rfl := Option.some.inj (hd'.symm.trans hd)
    exact ⟨e, List.mem_of_getElem? ((List.getElem?_take_of_lt hj).trans he), hsame⟩
  · rintro ⟨e, hmem, hsame⟩
    obtain ⟨j, hj⟩ := List.mem_iff_getElem?.mp hmem
    rw [List.getElem?_take] at hj
    split at hj
    · next hlt => exact ⟨d, hd, j, hlt, e, hj, hsame⟩
    · cases hj

/-- What is reviewed after definitions in order is reviewed with their signatures seen. -/
theorem reviewAfter_append {seen : List String} {before : List Definition}
    (h : reviewAfter seen before = .ok ()) (rest : List Definition) :
    reviewAfter seen (before ++ rest) =
      reviewAfter ((before.map fun d => d.conversion.signature).reverse ++ seen) rest := by
  induction before generalizing seen with
  | nil => rfl
  | cons d before ih =>
    obtain ⟨hfresh, hcalls, hbefore⟩ := reviewAfter_cons_eq_ok_iff.mp h
    have hstep : reviewAfter seen (d :: (before ++ rest)) =
        reviewAfter (d.conversion.signature :: seen) (before ++ rest) := by
      rw [reviewAfter, if_neg hfresh]
      cases hexpected : d.expectedCalls? with
      | none => rfl
      | some expected => exact if_pos (hcalls expected hexpected)
    rw [List.cons_append, hstep, ih hbefore]
    simp

/-- The definitions before the first defect only leave their signatures behind. -/
theorem review_of_least (hd : definitions[i]? = some d)
    (hleast : ∀ j < i, ¬ FaultyAt definitions j) :
    review definitions = reviewAfter
      (((definitions.take i).map fun e => e.conversion.signature).reverse)
      (d :: definitions.drop (i + 1)) := by
  have hbefore : reviewAfter [] (definitions.take i) = .ok () :=
    review_eq_ok_iff_faultless.mpr fun j hfaulty => hleast j hfaulty.of_take.1 hfaulty.of_take.2
  obtain ⟨hi, rfl⟩ := List.getElem?_eq_some_iff.mp hd
  have hsplit : definitions.take i ++ definitions[i] :: definitions.drop (i + 1) = definitions := by
    rw [← List.drop_eq_getElem_cons hi, List.take_append_drop]
  have happend := reviewAfter_append hbefore (definitions[i] :: definitions.drop (i + 1))
  rwa [hsplit, List.append_nil] at happend

/-- A review ends at a signature that was seen before. -/
theorem reviewAfter_of_repeat {seen : List String} (h : d.conversion.signature ∈ seen)
    (rest : List Definition) :
    reviewAfter seen (d :: rest) = .error (.repeatedSignature d.conversion.signature) := by
  rw [reviewAfter, if_pos h]

/-- A review ends at a definition with a new signature that calls others than its parts. -/
theorem reviewAfter_of_callsOthers {seen : List String} (hnew : d.conversion.signature ∉ seen)
    (h : d.CallsOthers expected found) (rest : List Definition) :
    reviewAfter seen (d :: rest) = .error (.wrongParts d.conversion.signature expected found) := by
  obtain ⟨hexpected, hcalls⟩ := h.expectedCalls?
  rw [reviewAfter, if_neg hnew, hexpected, hcalls]
  exact if_neg h.differ

/-- A review refuses definitions exactly if one of them has the signature of an earlier one or puts
a vector together from other functions than those of the parts of its width. The error is about the
first definition of which either holds: it reports a repeated signature if the signature is one, and
otherwise the signature with the functions of the low and of the high part and with the two that are
called. -/
theorem review_reports_first (definitions : List Definition) :
    ((∃ e, review definitions = .error e) ↔ ∃ i, FaultyAt definitions i) ∧
    ∀ i d, definitions[i]? = some d → FaultyAt definitions i →
      (∀ j < i, ¬ FaultyAt definitions j) →
      (RepeatsAt definitions i →
        review definitions = .error (.repeatedSignature d.conversion.signature)) ∧
      (¬ RepeatsAt definitions i → ∃ expected found, d.CallsOthers expected found ∧
        review definitions = .error (.wrongParts d.conversion.signature expected found)) := by
  refine ⟨?_, ?_⟩
  · rw [← not_iff_not, not_exists, not_exists, ← review_eq_ok_iff_faultless]
    cases hreview : review definitions with
    | ok => simp
    | error e => simp
  · intro i d hd hfaulty hleast
    have hseen : RepeatsAt definitions i ↔ d.conversion.signature ∈
        ((definitions.take i).map fun e => e.conversion.signature).reverse := by
      rw [List.mem_reverse, repeatsAt_iff hd]
    rw [review_of_least hd hleast]
    refine ⟨fun hrepeats => reviewAfter_of_repeat (hseen.mp hrepeats) _, fun hnew => ?_⟩
    obtain ⟨d', hd', expected, found, hothers⟩ := hfaulty.resolve_left hnew
    obtain rfl := Option.some.inj (hd'.symm.trans hd)
    exact ⟨expected, found, hothers, reviewAfter_of_callsOthers (mt hseen.mpr hnew) hothers _⟩

/-- A vector of four that takes its last two lanes from a function of another result type. -/
def crossedHalves : Definition :=
  ⟨.plain .char .int .four, none,
    .concat "int4" (.plain .char .int .two) "lo" (.plain .char .uint .two) "hi"⟩

/-- The same function by an intrinsic. -/
def calledFour : Definition :=
  ⟨.plain .char .int .four, none, .call "__spirv_SConvert_Rint4"⟩

/-- The first definition of a list is not faulty if it calls its parts. -/
theorem not_faultyAt_first (h : d.CallsParts) (rest : List Definition) :
    ∀ j < 1, ¬ FaultyAt (d :: rest) j := by
  intro j hj hfaulty
  obtain rfl : j = 0 := by omega
  rcases hfaulty with ⟨-, -, k, hk, -⟩ | ⟨e, he, hothers⟩
  · exact absurd hk (Nat.not_lt_zero k)
  · obtain rfl := Option.some.inj he
    exact not_callsParts_iff.mpr hothers h

/-- Wrong parts are reported before a signature that repeats only later, and a repeated signature
before wrong parts of the same definition. -/
theorem review_reports_first_each :
    (∃ expected found, crossedHalves.CallsOthers expected found ∧
      review [swappedSlices, crossedHalves, swappedSlices] =
        .error (.wrongParts "convert_int4(char4)" expected found)) ∧
    review [calledFour, crossedHalves] = .error (.repeatedSignature "convert_int4(char4)") := by
  have hothers : crossedHalves.CallsOthers ["convert_int2", "convert_int2"]
      ["convert_int2", "convert_uint2"] :=
    ⟨⟨_, rfl, by decide⟩, ⟨_, _, _, _, _, rfl, by decide⟩, by decide⟩
  constructor
  · have hfine : swappedSlices.CallsParts := by
      intro expected hexpected
      obtain rfl := Option.some.inj hexpected
      rfl
    obtain ⟨-, hreports⟩ := review_reports_first [swappedSlices, crossedHalves, swappedSlices]
    obtain ⟨-, hparts⟩ := hreports 1 crossedHalves rfl (.inr ⟨_, rfl, _, _, hothers⟩)
      (not_faultyAt_first hfine _)
    apply hparts
    rintro ⟨d, hd, j, hj, e, he, hsame⟩
    obtain rfl := Option.some.inj hd
    obtain rfl : j = 0 := by omega
    obtain rfl := Option.some.inj he
    exact absurd hsame (by decide)
  · have hfine : calledFour.CallsParts := fun expected hexpected => by cases hexpected
    have hrepeats : RepeatsAt [calledFour, crossedHalves] 1 :=
      ⟨crossedHalves, rfl, 0, by decide, calledFour, rfl, rfl⟩
    obtain ⟨-, hreports⟩ := review_reports_first [calledFour, crossedHalves]
    exact (hreports 1 crossedHalves rfl (.inl hrepeats) (not_faultyAt_first hfine _)).1 hrepeats

end Definition

end LaneConvert
