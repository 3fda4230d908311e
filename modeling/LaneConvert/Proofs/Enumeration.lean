import LaneConvert.Conversion
import LaneConvert.Proofs.Names

/-!
# What the enumeration lists

The enumeration lists the legal conversions between the types of a catalog at the widths of a table
and nothing else. It goes up in the lexicographic order of source, target, width, saturation and
rounding mode, so it lists no conversion twice, and no two listed conversions share a signature.
-/

namespace LaneConvert

/-- Distinct elements ascend in their places along the list. -/
theorem pairwise_idxOf {α : Type} [DecidableEq α] {l : List α} (h : l.Nodup) :
    l.Pairwise fun a b => l.idxOf a < l.idxOf b := by
  rw [List.pairwise_iff_getElem]
  intro i j hi hj hij
  rwa [h.idxOf_getElem i hi, h.idxOf_getElem j hj]

/-- Groups that are listed by the places of their keys ascend together if each of them ascends. -/
theorem pairwise_flatMap_places {α β : Type} {place : α → ℕ} {places : β → List ℕ}
    {keys : List α} {group : α → List β} (rest : β → List ℕ)
    (hkeys : keys.Pairwise fun a b => place a < place b)
    (hplaces : ∀ a, ∀ x ∈ group a, places x = place a :: rest x)
    (hgroup : ∀ a, (group a).Pairwise fun x y => rest x < rest y) :
    (keys.flatMap group).Pairwise fun x y => places x < places y := by
  rw [List.pairwise_flatMap]
  constructor
  · intro a _
    refine (hgroup a).imp_of_mem ?_
    intro x y hx hy hxy
    rw [hplaces a x hx, hplaces a y hy, List.cons_lt_cons_iff]
    exact .inr ⟨rfl, hxy⟩
  · refine hkeys.imp ?_
    intro a b hab x hx y hy
    rw [hplaces a x hx, hplaces b y hy, List.cons_lt_cons_iff]
    exact .inl hab

/-- The places of the parts of a conversion: of its types in the catalog, of its width in the table,
and of its qualifiers among all of their kind. -/
def Conversion.places (catalog : Catalog) (table : WidthTable) (c : Conversion) : List ℕ :=
  [catalog.types.idxOf c.source, catalog.types.idxOf c.target, table.widths.idxOf c.width,
    Saturation.all.idxOf c.saturation, Rounding.all.idxOf c.rounding]

/-- A catalog lists no type twice. -/
theorem Catalog.nodup_types (catalog : Catalog) : catalog.types.Nodup := by
  refine catalog.sorted.imp ?_
  rintro t _ h rfl
  exact Nat.lt_irrefl t.rank h

/-- A table lists no width twice. -/
theorem WidthTable.nodup_widths (table : WidthTable) : table.widths.Nodup := by
  refine table.sorted.imp ?_
  rintro w _ h rfl
  exact Nat.lt_irrefl w.lanes h

/-- A kind lists the choices of saturation that it does not refuse. -/
theorem Kind.mem_saturations {k : Kind} {s : Saturation} :
    s ∈ k.saturations ↔ (s.isOn && !k.acceptsSaturation) = false := by
  have hall : s ∈ Saturation.all := by cases s <;> decide
  rw [saturations, List.mem_filter]
  cases s.isOn <;> simp [hall]

/-- A kind lists the rounding modes that it does not refuse. -/
theorem Kind.mem_roundings {k : Kind} {r : Rounding} :
    r ∈ k.roundings ↔ (r.isExplicit && !k.acceptsRounding) = false := by
  have hall : r ∈ Rounding.all := by cases r <;> decide
  rw [roundings, List.mem_filter]
  cases r.isExplicit <;> simp [hall]

namespace Conversion

variable {source target : Scalar} {width : Width} {c : Conversion}

/-- A conversion is made of given parts only if these are its own, and then it is made. -/
theorem of_eq_ok_iff {saturation : Saturation} {rounding : Rounding} :
    Conversion.of source target width saturation rounding = .ok c ↔
      c.source = source ∧ c.target = target ∧ c.width = width ∧ c.saturation = saturation ∧
        c.rounding = rounding := by
  constructor
  · intro h
    unfold Conversion.of at h
    split at h
    · simp at h
    · simp at h
    · obtain rfl := Except.ok.inj h
      exact ⟨rfl, rfl, rfl, rfl, rfl⟩
  · rintro ⟨rfl, rfl, rfl, rfl, rfl⟩
    obtain ⟨hsaturation, hrounding⟩ := Kind.accepts_iff.mp c.legal
    unfold Conversion.of
    split
    · next h => simp [hsaturation] at h
    · next h => simp [hrounding] at h
    · rfl

/-- The two filters pass what is legal and nothing else. -/
theorem mem_variants :
    c ∈ variants source target width ↔
      c.source = source ∧ c.target = target ∧ c.width = width := by
  simp only [variants, List.mem_flatMap, List.mem_map, List.mem_attach, true_and]
  constructor
  · rintro ⟨⟨saturation, hs⟩, ⟨rounding, hr⟩, rfl⟩
    exact ⟨rfl, rfl, rfl⟩
  · rintro ⟨rfl, rfl, rfl⟩
    obtain ⟨hsaturation, hrounding⟩ := Kind.accepts_iff.mp c.legal
    exact ⟨⟨c.saturation, Kind.mem_saturations.mpr hsaturation⟩,
      ⟨c.rounding, Kind.mem_roundings.mpr hrounding⟩, rfl⟩

/-- The conversions between two types at one width are listed by saturation and then by rounding
mode, since a filtered list keeps the order of the list that it is taken from. -/
theorem variants_sorted (source target : Scalar) (width : Width) :
    (variants source target width).Pairwise fun c d =>
      [Saturation.all.idxOf c.saturation, Rounding.all.idxOf c.rounding] <
        [Saturation.all.idxOf d.saturation, Rounding.all.idxOf d.rounding] := by
  have hsaturations : (Kind.between source target).saturations.Pairwise fun s t =>
      Saturation.all.idxOf s < Saturation.all.idxOf t := .filter _ (by decide)
  have hroundings : (Kind.between source target).roundings.Pairwise fun r s =>
      Rounding.all.idxOf r < Rounding.all.idxOf s := .filter _ (by decide)
  rw [← List.attach_map_subtype_val (Kind.between source target).saturations,
    List.pairwise_map] at hsaturations
  rw [← List.attach_map_subtype_val (Kind.between source target).roundings,
    List.pairwise_map] at hroundings
  refine pairwise_flatMap_places (fun c => [Rounding.all.idxOf c.rounding]) hsaturations ?_ ?_
  · rintro ⟨saturation, hs⟩ c hc
    obtain ⟨⟨rounding, hr⟩, -, rfl⟩ := List.mem_map.mp hc
    rfl
  · rintro ⟨saturation, hs⟩
    refine List.pairwise_map.mpr (hroundings.imp ?_)
    rintro ⟨r, hr⟩ ⟨s, hs⟩ hrs
    rw [List.cons_lt_cons_iff]
    exact .inl hrs

end Conversion

variable {catalog : Catalog} {table : WidthTable}

/-- Every legal conversion between listed types at a listed width is listed, and no other. -/
theorem mem_conversions {c : Conversion} :
    c ∈ conversions catalog table ↔
      c.source ∈ catalog.types ∧ c.target ∈ catalog.types ∧ c.width ∈ table.widths := by
  simp only [conversions, List.mem_flatMap, Conversion.mem_variants]
  constructor
  · rintro ⟨source, hsource, target, htarget, width, hwidth, rfl, rfl, rfl⟩
    exact ⟨hsource, htarget, hwidth⟩
  · rintro ⟨hsource, htarget, hwidth⟩
    exact ⟨_, hsource, _, htarget, _, hwidth, rfl, rfl, rfl⟩

/-- The enumeration goes up in the lexicographic order of source, target, width, saturation and
rounding mode. -/
theorem conversions_sorted (catalog : Catalog) (table : WidthTable) :
    (conversions catalog table).Pairwise fun c d =>
      c.places catalog table < d.places catalog table := by
  have htypes := pairwise_idxOf catalog.nodup_types
  have hwidths := pairwise_idxOf table.nodup_widths
  refine pairwise_flatMap_places (fun c => (c.places catalog table).tail) htypes ?_ ?_
  · simp only [List.mem_flatMap, Conversion.mem_variants]
    rintro _ c ⟨_, _, _, _, rfl, -, -⟩
    rfl
  intro source
  refine pairwise_flatMap_places (fun c => (c.places catalog table).tail.tail) htypes ?_ ?_
  · simp only [List.mem_flatMap, Conversion.mem_variants]
    rintro _ c ⟨_, _, -, rfl, -⟩
    rfl
  intro target
  refine pairwise_flatMap_places (fun c => (c.places catalog table).tail.tail.tail) hwidths ?_ ?_
  · simp only [Conversion.mem_variants]
    rintro _ c ⟨-, -, rfl⟩
    rfl
  intro width
  exact Conversion.variants_sorted source target width

/-- No conversion is listed twice. -/
theorem conversions_nodup (catalog : Catalog) (table : WidthTable) :
    (conversions catalog table).Nodup := by
  refine (conversions_sorted catalog table).imp ?_
  rintro c _ h rfl
  exact List.lt_irrefl _ h

/-- No two listed conversions share a signature. -/
theorem signatures_nodup (catalog : Catalog) (table : WidthTable) :
    ((conversions catalog table).map Conversion.signature).Nodup := by
  refine List.Nodup.map ?_ (conversions_nodup catalog table)
  intro c d h
  exact Conversion.signature_inj h

/-- The enumeration is exact, ordered and free of collisions. A conversion of given parts is listed
exactly if its types are in the catalog, its width is in the table and it can be made of its parts.
No conversion is listed twice, the listed ones ascend in their places, and a signature belongs to
one conversion only. -/
theorem enumeration_exact (catalog : Catalog) (table : WidthTable) :
    (∀ source target width saturation rounding c,
      (c ∈ conversions catalog table ∧ c.source = source ∧ c.target = target ∧
        c.width = width ∧ c.saturation = saturation ∧ c.rounding = rounding) ↔
      source ∈ catalog.types ∧ target ∈ catalog.types ∧ width ∈ table.widths ∧
        Conversion.of source target width saturation rounding = .ok c) ∧
    (conversions catalog table).Nodup ∧
    ((conversions catalog table).map (Conversion.places catalog table)).Pairwise (· < ·) ∧
    Function.Injective Conversion.signature ∧
    ((conversions catalog table).map Conversion.signature).Nodup := by
  refine ⟨?_, conversions_nodup catalog table, ?_, ?_, signatures_nodup catalog table⟩
  · intro source target width saturation rounding c
    rw [mem_conversions, Conversion.of_eq_ok_iff]
    constructor
    · rintro ⟨⟨hsource, htarget, hwidth⟩, rfl, rfl, rfl, rfl, rfl⟩
      exact ⟨hsource, htarget, hwidth, rfl, rfl, rfl, rfl, rfl⟩
    · rintro ⟨hsource, htarget, hwidth, rfl, rfl, rfl, rfl, rfl⟩
      exact ⟨⟨hsource, htarget, hwidth⟩, rfl, rfl, rfl, rfl, rfl⟩
  · exact List.pairwise_map.mpr (conversions_sorted catalog table)
  · intro c d h
    exact Conversion.signature_inj h

end LaneConvert
