import LaneConvert.Proofs.Lowering

/-!
# Lanes under decomposition

A slice is read by its name: the halves of an even number of lanes, the first two lanes, or the
third. The two slices of a split are a vector cut in two, each with the lanes of its own part. A
lowering that is evaluated leaf by leaf on the slices its expressions name therefore treats every
lane once and in order.
-/

namespace LaneConvert

variable {α β : Type}

/-- The lanes that a slice names. A slice names nothing in a vector that lacks its lanes, and only
an even number of lanes has halves. -/
def slice? (name : String) (v : List α) : Option (List α) :=
  match name with
  | "lo" => if v.length % 2 = 0 then some (v.take (v.length / 2)) else none
  | "hi" => if v.length % 2 = 0 then some (v.drop (v.length / 2)) else none
  | "s01" => if 2 ≤ v.length then some (v.take 2) else none
  | "s2" => v[2]?.map fun x => [x]
  | _ => none

/-- A split cuts a vector in two: each part has its own number of lanes, and no lane is lost or
moved. -/
structure CutBy (split : Width.Split) (v low high : List α) : Prop where
  /-- The first slice. -/
  low_slice : slice? split.lowSlice v = some low
  /-- The last slice. -/
  high_slice : slice? split.highSlice v = some high
  /-- The slices make up the vector. -/
  append : low ++ high = v
  /-- The first slice fits the first part. -/
  low_length : low.length = split.low.lanes
  /-- The last slice fits the last part. -/
  high_length : high.length = split.high.lanes

/-- The halves of an even number of lanes cut a vector of that many lanes. -/
theorem cutBy_halves {half : Width} {v : List α} (hv : v.length = half.lanes + half.lanes) :
    CutBy (.halves half) v (v.take half.lanes) (v.drop half.lanes) where
  low_slice := by
    have heven : v.length % 2 = 0 := by omega
    have hhalf : v.length / 2 = half.lanes := by omega
    simp [slice?, Width.Split.halves, heven, hhalf]
  high_slice := by
    have heven : v.length % 2 = 0 := by omega
    have hhalf : v.length / 2 = half.lanes := by omega
    simp [slice?, Width.Split.halves, heven, hhalf]
  append := List.take_append_drop _ _
  low_length := by
    simp only [Width.Split.halves, List.length_take]
    omega
  high_length := by
    simp only [Width.Split.halves, List.length_drop]
    omega

/-- The slices of a split cut every vector of the width that splits. -/
theorem exists_cutBy {w : Width} {split : Width.Split} (hs : w.split? = some split) {v : List α}
    (hv : v.length = w.lanes) : ∃ low high, CutBy split v low high := by
  cases w with
  | scalar => simp [Width.split?] at hs
  | three =>
    obtain rfl := Option.some.inj hs
    obtain ⟨x, y, z, rfl⟩ := List.length_eq_three.mp hv
    exact ⟨[x, y], [z], ⟨rfl, rfl, rfl, rfl, rfl⟩⟩
  | two | four | eight | sixteen =>
    obtain rfl := Option.some.inj hs
    exact ⟨_, _, cutBy_halves hv⟩

namespace Lowering

/-- The result of a lowering on a vector, where every leaf has a result of its own. A node passes
the slices that its expression names to its parts and puts their results together. -/
def evaluate (leaf : Conversion → Expression → List α → Option (List β)) :
    Lowering → List α → Option (List β)
  | .leaf c e, v => leaf c e v
  | .node _ (.concat _ _ lowSlice _ highSlice) low high, v => do
    let first ← slice? lowSlice v
    let last ← slice? highSlice v
    return (← low.evaluate leaf first) ++ (← high.evaluate leaf last)
  | .node .., _ => none

/-- The conversions of the leaves from left to right, each with the slice that it receives. -/
def deliveries (tree : Lowering) (v : List α) : Option (List (Conversion × List α)) :=
  tree.evaluate (fun c _ slice => some [(c, slice)]) v

/-- The conversions of the leaves from left to right. -/
def leafConversions : Lowering → List Conversion
  | .leaf c _ => [c]
  | .node _ _ low high => low.leafConversions ++ high.leafConversions

/-- The expressions of the leaves from left to right. -/
def leafResults : Lowering → List Expression
  | .leaf _ e => [e]
  | .node _ _ low high => low.leafResults ++ high.leafResults

end Lowering

/-- A node whose parts have results on the slices of its split puts these together. -/
theorem Lowering.evaluate_node {leaf : Conversion → Expression → List α → Option (List β)}
    {c : Conversion} {split : Width.Split} {low high : Lowering} {v first last : List α}
    {a b : List β} (hcut : CutBy split v first last) (ha : low.evaluate leaf first = some a)
    (hb : high.evaluate leaf last = some b) :
    (Lowering.node c (c.joined split) low high).evaluate leaf v = some (a ++ b) := by
  simp [Conversion.joined, Lowering.evaluate, hcut.low_slice, hcut.high_slice, ha, hb]

namespace Plan.Spans

variable {p : Plan} {c : Conversion} {tree : Lowering}

/-- What every leaf does on its own slice, and what survives putting results together, the whole
lowering does. -/
theorem evaluate_of_append (h : p.Spans c tree) (Result : List α → List β → Prop)
    {leaf : Conversion → Expression → List α → Option (List β)}
    (happend : ∀ v v' r r', Result v r → Result v' r' → Result (v ++ v') (r ++ r'))
    (hleaf : ∀ d e v, v.length = d.width.lanes → ∃ r, leaf d e v = some r ∧ Result v r)
    {v : List α} (hv : v.length = c.width.lanes) :
    ∃ r, tree.evaluate leaf v = some r ∧ Result v r := by
  induction h generalizing v with
  | leaf lowers ends => exact hleaf _ _ v hv
  | node lowers splits low_spans high_spans ihlow ihhigh =>
    obtain ⟨first, last, hcut⟩ := exists_cutBy splits hv
    obtain ⟨a, ha, hfirst⟩ := ihlow hcut.low_length
    obtain ⟨b, hb, hlast⟩ := ihhigh hcut.high_length
    refine ⟨a ++ b, Lowering.evaluate_node hcut ha hb, ?_⟩
    rw [← hcut.append]
    exact happend _ _ _ _ hfirst hlast

/-- The slices that the leaves receive have the lanes of the leaves and make up the vector. -/
theorem deliveries (h : p.Spans c tree) {v : List α} (hv : v.length = c.width.lanes) :
    ∃ received, tree.deliveries v = some received ∧
      (∀ r ∈ received, r.2.length = r.1.width.lanes) ∧ received.flatMap Prod.snd = v := by
  refine h.evaluate_of_append
    (fun v (received : List (Conversion × List α)) =>
      (∀ r ∈ received, r.2.length = r.1.width.lanes) ∧ received.flatMap Prod.snd = v) ?_ ?_ hv
  · rintro v v' r r' ⟨hr, rfl⟩ ⟨hr', rfl⟩
    refine ⟨?_, List.flatMap_append⟩
    intro x hx
    rcases List.mem_append.mp hx with hx | hx
    · exact hr x hx
    · exact hr' x hx
  · intro d _ v hd
    exact ⟨[(d, v)], rfl, by simpa using hd, by simp⟩

/-- Slices are delivered to the leaves in their order, one to each. -/
theorem map_fst_deliveries (h : p.Spans c tree) {v : List α} (hv : v.length = c.width.lanes)
    {received : List (Conversion × List α)} (hr : tree.deliveries v = some received) :
    received.map Prod.fst = tree.leafConversions := by
  induction h generalizing v received with
  | leaf lowers ends =>
    obtain rfl := Option.some.inj hr
    rfl
  | node lowers splits low_spans high_spans ihlow ihhigh =>
    obtain ⟨first, last, hcut⟩ := exists_cutBy splits hv
    obtain ⟨a, ha, -⟩ := low_spans.deliveries hcut.low_length
    obtain ⟨b, hb, -⟩ := high_spans.deliveries hcut.high_length
    obtain rfl := Option.some.inj ((Lowering.evaluate_node hcut ha hb).symm.trans hr)
    rw [List.map_append, ihlow hcut.low_length ha, ihhigh hcut.high_length hb]
    rfl

/-- The lanes of the leaves add up to the lanes of the conversion. -/
theorem lanes_leafConversions (h : p.Spans c tree) :
    (tree.leafConversions.map fun d => d.width.lanes).sum = c.width.lanes := by
  induction h with
  | leaf lowers ends => simp [Lowering.leafConversions]
  | node lowers splits low_spans high_spans ihlow ihhigh =>
    rw [Lowering.leafConversions, List.map_append, List.sum_append, ihlow, ihhigh]
    exact Width.lanes_split splits

/-- Each leaf has the expression that the plan gives its conversion, and none is put together from
parts. -/
theorem leafResults (h : p.Spans c tree) :
    List.Forall₂ (fun d e => p.lower d = .ok e ∧ e.isConcat = false) tree.leafConversions
      tree.leafResults := by
  induction h with
  | leaf lowers ends =>
    exact .cons ⟨Plan.lower_eq_ok_iff.mpr lowers, ends⟩ .nil
  | node lowers splits low_spans high_spans ihlow ihhigh =>
    exact List.rel_append ihlow ihhigh

end Plan.Spans

/-- Decomposition neither loses, duplicates nor reorders lanes: if every leaf treats each lane of
its slice by `f`, the whole lowering maps `f` over the vector. Every leaf receives as many lanes as
its conversion has, the slices from left to right are the vector, and their lanes add up to its
own. A lowering is followed all the way down: a leaf has the expression that the plan gives its
conversion, and no leaf is put together from parts. -/
theorem explain_lanes {p : Plan} {c : Conversion} {tree : Lowering} (h : p.explain c = .ok tree)
    {v : List α} (hv : v.length = c.width.lanes) (f : α → β) :
    tree.evaluate (fun _ _ slice => some (slice.map f)) v = some (v.map f) ∧
      (∃ received, tree.deliveries v = some received ∧
        received.map Prod.fst = tree.leafConversions ∧
        (∀ r ∈ received, r.2.length = r.1.width.lanes) ∧ received.flatMap Prod.snd = v) ∧
      (tree.leafConversions.map fun d => d.width.lanes).sum = c.width.lanes ∧
      List.Forall₂ (fun d e => p.lower d = .ok e ∧ e.isConcat = false) tree.leafConversions
        tree.leafResults := by
  have hspans := Plan.explain_eq_ok_iff.mp h
  refine ⟨?_, ?_, hspans.lanes_leafConversions, hspans.leafResults⟩
  · obtain ⟨r, hr, rfl⟩ := hspans.evaluate_of_append (fun v r => r = v.map f)
      (by rintro v v' _ _ rfl rfl; exact List.map_append.symm) (fun _ _ v _ => ⟨_, rfl, rfl⟩) hv
    exact hr
  · obtain ⟨received, hreceived, hlengths, hall⟩ := hspans.deliveries hv
    exact ⟨received, hreceived, hspans.map_fst_deliveries hv hreceived, hlengths, hall⟩

/-- Three lanes without an intrinsic for vectors come down to three calls for single lanes in two
steps. -/
theorem explain_lanes_three :
    let plan : Plan := ⟨.full, .full, .of "__spirv_" [.scalar]⟩
    ∃ tree, plan.explain (.plain .int .float .three) = .ok tree ∧
      tree.evaluate (fun _ _ slice => some (slice.map (· + 1))) [7, 8, 9] = some [8, 9, 10] ∧
      (tree.leafConversions.map fun d => d.width.lanes).sum = 3 ∧
      tree.leafResults = List.replicate 3 (.call "__spirv_ConvertSToF_Rfloat") ∧
      List.Forall₂ (fun d e => plan.lower d = .ok e ∧ e.isConcat = false) tree.leafConversions
        tree.leafResults := by
  intro plan
  have h : plan.explain (.plain .int .float .three) =
      .ok (.node (.plain .int .float .three)
        ((Conversion.plain .int .float .three).joined ⟨.two, "s01", .scalar, "s2"⟩)
        (.node (.plain .int .float .two)
          ((Conversion.plain .int .float .two).joined (.halves .scalar))
          (.leaf (.plain .int .float .scalar) (.call "__spirv_ConvertSToF_Rfloat"))
          (.leaf (.plain .int .float .scalar) (.call "__spirv_ConvertSToF_Rfloat")))
        (.leaf (.plain .int .float .scalar) (.call "__spirv_ConvertSToF_Rfloat"))) := by
    cbv
  obtain ⟨hmap, -, hsum, hleaves⟩ := explain_lanes h (v := [7, 8, 9]) rfl (· + 1)
  exact ⟨_, h, hmap, hsum, rfl, hleaves⟩

end LaneConvert
