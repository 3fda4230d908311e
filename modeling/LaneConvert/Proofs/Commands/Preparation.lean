import Mathlib
import LaneConvert.Command

/-!
# What commands do before they act

To read a configuration, to set up a plan and to make the text of a library is silent: nothing is
printed and no file is changed, whether it succeeds or fails. What follows a silent run therefore is
all that can be seen of a command, the journal aside.
-/

namespace LaneConvert

namespace Run

variable {α β γ : Type}

/-- A run that prints nothing and changes no file. -/
structure Silent (r : Run α) : Prop where
  /-- Nothing is printed. -/
  printed : r.printed = ""
  /-- No file is changed. -/
  changes : r.changes = []

/-- Two runs differ in what they record at most. -/
structure Agrees (r s : Run α) : Prop where
  /-- They print the same. -/
  printed : r.printed = s.printed
  /-- They change the same files. -/
  changes : r.changes = s.changes
  /-- They end with the same. -/
  result : r.result = s.result

/-- A run agrees with itself. -/
theorem Agrees.refl (r : Run α) : r.Agrees r := ⟨rfl, rfl, rfl⟩

/-- Two runs agree with each other. -/
theorem Agrees.symm {r s : Run α} (h : r.Agrees s) : s.Agrees r :=
  ⟨h.printed.symm, h.changes.symm, h.result.symm⟩

/-- Runs that agree with one run agree. -/
theorem Agrees.trans {r s t : Run α} (h : r.Agrees s) (h' : s.Agrees t) : r.Agrees t :=
  ⟨h.printed.trans h'.printed, h.changes.trans h'.changes, h.result.trans h'.result⟩

/-- Runs that agree are followed by runs that agree. -/
theorem Agrees.bind {first other : Run α} {next next' : α → Run β} (h : first.Agrees other)
    (hnext : ∀ a, (next a).Agrees (next' a)) : (first >>= next).Agrees (other >>= next') := by
  cases hresult : other.result with
  | error failure =>
    rw [bind_of_error (h.result.trans hresult), bind_of_error hresult]
    exact ⟨h.printed, h.changes, rfl⟩
  | ok a =>
    have hafter := hnext a
    rw [Run.bind_of_ok (h.result.trans hresult), Run.bind_of_ok hresult, h.printed, h.changes,
      hafter.printed, hafter.changes, hafter.result]
    exact ⟨rfl, rfl, rfl⟩

/-- A run that only ends is silent. -/
theorem silent_ofResult (result : Except Failure α) : (ofResult result).Silent := ⟨rfl, rfl⟩

/-- A run that only gives a value is silent. -/
theorem silent_pure (a : α) : (pure a : Run α).Silent := ⟨rfl, rfl⟩

/-- A run that only fails is silent. -/
theorem silent_fail (failure : Failure) : (fail failure : Run α).Silent := ⟨rfl, rfl⟩

/-- Making records is silent. -/
theorem silent_recordAll (records : List Record) : (recordAll records).Silent := ⟨rfl, rfl⟩

/-- Making one record is silent. -/
theorem silent_record (level : Level) (topic : Topic) (message : String) :
    (record level topic message).Silent := ⟨rfl, rfl⟩

/-- Reading a file is silent. -/
theorem silent_readFile (files : Tree) (path : Path) : (readFile files path).Silent := by
  unfold readFile
  split
  · exact silent_pure _
  · exact silent_fail _

variable {first : Run α} {next : α → Run β}

/-- A silent run that succeeds leaves the rest as it is. -/
theorem Silent.bind_of_ok (h : first.Silent) {a : α} (ha : first.result = .ok a) :
    (first >>= next).Agrees (next a) := by
  rw [Run.bind_of_ok ha]
  constructor
  · rw [h.printed, String.empty_append]
  · rw [h.changes, List.nil_append]
  · rfl

/-- A silent run that fails ends the whole run. -/
theorem Silent.bind_of_error (h : first.Silent) {failure : Failure}
    (hfailure : first.result = .error failure) : (first >>= next).Agrees (fail failure) := by
  rw [Run.bind_of_error hfailure]
  exact ⟨h.printed, h.changes, rfl⟩

/-- Silent runs are silent one after another. -/
theorem Silent.bind (h : first.Silent) (hnext : ∀ a, (next a).Silent) :
    (first >>= next).Silent := by
  cases hresult : first.result with
  | error failure =>
    have hagrees : (first >>= next).Agrees (fail failure) := h.bind_of_error hresult
    exact ⟨hagrees.printed, hagrees.changes⟩
  | ok a =>
    have hagrees : (first >>= next).Agrees (next a) := h.bind_of_ok hresult
    have hsilent := hnext a
    exact ⟨hagrees.printed.trans hsilent.printed, hagrees.changes.trans hsilent.changes⟩

/-- A run of two that change no files changes none. -/
theorem changes_bind (h : first.changes = []) (hnext : ∀ a, (next a).changes = []) :
    (first >>= next).changes = [] := by
  cases hresult : first.result with
  | error failure => rw [Run.bind_of_error hresult, h]
  | ok a => rw [Run.bind_of_ok hresult, h, hnext a, List.nil_append]

/-- Reading gives a text exactly if the path leads to that text. -/
theorem result_readFile_eq_ok_iff {files : Tree} {path : Path} {text : String} :
    (readFile files path).result = .ok text ↔ files.read? path = some text := by
  unfold readFile
  split
  · next found h =>
    rw [h]
    constructor
    · intro heq
      exact congrArg some (Except.ok.inj heq)
    · intro heq
      exact congrArg Except.ok (Option.some.inj heq)
  · next h =>
    rw [h]
    constructor
    · intro heq
      cases heq
    · intro heq
      cases heq

/-- A run of two ends with the second one if the first one succeeds. -/
theorem result_bind_of_ok {a : α} (h : first.result = .ok a) :
    (first >>= next).result = (next a).result := by
  rw [result_bind, h]
  rfl

/-- A run of two succeeds exactly if both succeed. -/
theorem result_bind_eq_ok_iff {b : β} :
    (first >>= next).result = .ok b ↔ ∃ a, first.result = .ok a ∧ (next a).result = .ok b := by
  rw [result_bind]
  cases first.result with
  | error failure => simp [Bind.bind, Except.bind]
  | ok a => simp [Bind.bind, Except.bind]

/-- An operation on libraries succeeds as a run exactly with its own value. -/
theorem result_ofLibrary_eq_ok_iff {result : Except LibraryError α} {a : α} :
    (ofLibrary result).result = .ok a ↔ result = .ok a := by
  cases result with
  | error e => simp [ofLibrary, ofResult, Except.mapError]
  | ok b => simp [ofLibrary, ofResult, Except.mapError]

/-- A defect of a library is the failure of the run. -/
theorem result_ofLibrary_of_error {result : Except LibraryError α} {e : LibraryError}
    (h : result = .error e) : (ofLibrary result).result = .error (.library e) := by
  rw [h]
  rfl

end Run

namespace Configuration

open Run

/-- Reading a configuration is silent. -/
theorem silent_load (files : Tree) (named? : Option Path) : (load files named?).Silent := by
  unfold load
  split
  · exact (silent_record _ _ _).bind fun _ => silent_pure _
  · refine (silent_record _ _ _).bind fun _ => ?_
    refine (silent_readFile _ _).bind fun _ => ?_
    exact (silent_ofResult _).bind fun _ => silent_pure _

/-- Making a setup is silent. -/
theorem silent_setup (c : Configuration) (files : Tree) (base : Path) :
    (c.setup files base).Silent := by
  have hcatalog : ∀ catalog, (c.recordCatalog catalog).Silent := by
    intro catalog
    unfold recordCatalog
    split
    · exact silent_record _ _ _
    · exact silent_pure _
  have hheader : ((c.headerPath? base).mapM (readFile files)).Silent := by
    cases c.headerPath? base with
    | none => exact silent_pure _
    | some path => exact (silent_readFile files path).bind fun _ => silent_pure _
  refine (silent_ofResult _).bind fun catalog => ?_
  refine (hcatalog catalog).bind fun _ => ?_
  refine (silent_ofResult _).bind fun table => ?_
  refine hheader.bind fun _ => ?_
  exact (silent_record _ _ _).bind fun _ => silent_pure _

/-- Relative paths start in the directory of the file that holds the configuration. -/
theorem base_of_load {files : Tree} {named? : Option Path} {c : Configuration} {base : Path}
    (h : (load files named?).result = .ok (c, base)) :
    base = ((sourcePath? files named?).map Path.directory).getD .here := by
  unfold load at h
  split at h
  · next hsource =>
    obtain ⟨_, -, hpure⟩ := result_bind_eq_ok_iff.mp h
    obtain ⟨-, rfl⟩ := Prod.mk.inj (Except.ok.inj hpure)
    rw [hsource]
    rfl
  · next path hsource =>
    obtain ⟨_, -, h⟩ := result_bind_eq_ok_iff.mp h
    obtain ⟨_, -, h⟩ := result_bind_eq_ok_iff.mp h
    obtain ⟨_, -, hpure⟩ := result_bind_eq_ok_iff.mp h
    obtain ⟨-, rfl⟩ := Prod.mk.inj (Except.ok.inj hpure)
    rw [hsource]
    rfl

/-- The library goes where the configuration says. -/
theorem output?_of_setup {c : Configuration} {files : Tree} {base : Path} {s : Setup}
    (h : (c.setup files base).result = .ok s) : s.output? = c.path?.map base.join := by
  obtain ⟨_, -, h⟩ := result_bind_eq_ok_iff.mp h
  obtain ⟨_, -, h⟩ := result_bind_eq_ok_iff.mp h
  obtain ⟨_, -, h⟩ := result_bind_eq_ok_iff.mp h
  obtain ⟨_, -, h⟩ := result_bind_eq_ok_iff.mp h
  obtain ⟨_, -, hpure⟩ := result_bind_eq_ok_iff.mp h
  obtain rfl := Except.ok.inj hpure
  rfl

end Configuration

namespace Setup

open Run

/-- Whatever a command prepares, it prepares in silence. -/
theorem silent_prepare (files : Tree) (named? : Option Path) : (prepare files named?).Silent := by
  unfold prepare
  exact (Configuration.silent_load _ _).bind fun found => found.1.silent_setup files found.2

/-- Without a configuration everything is as usual. -/
theorem result_prepare_of_no_file {files : Tree}
    (h : files.isFile Configuration.usualPath = false) :
    (prepare files none).result = .ok ⟨.standard, .standard, none⟩ := by
  have hsource : Configuration.sourcePath? files none = none := by
    simp [Configuration.sourcePath?, h]
  have hload : (Configuration.load files none).result = .ok (.empty, .here) := by
    unfold Configuration.load
    rw [hsource]
    rfl
  exact result_bind_eq_ok_iff.mpr ⟨_, hload, rfl⟩

/-- Making the definitions is silent. -/
theorem silent_definitions (s : Setup) : s.definitions.Silent := by
  unfold definitions
  refine (silent_recordAll _).bind fun _ => ?_
  refine (silent_ofResult _).bind fun _ => ?_
  exact (silent_record _ _ _).bind fun _ => silent_pure _

/-- Rendering is silent. -/
theorem silent_render (s : Setup) : s.render.Silent := by
  unfold render
  refine s.silent_definitions.bind fun _ => ?_
  exact (silent_record _ _ _).bind fun _ => silent_pure _

/-- The definitions of a setup are those of its plan. -/
theorem result_definitions_eq_ok_iff {s : Setup} {definitions : List Definition} :
    s.definitions.result = .ok definitions ↔ s.plan.definitions = .ok definitions := by
  unfold Setup.definitions
  rw [result_bind_eq_ok_iff]
  constructor
  · rintro ⟨_, -, h⟩
    obtain ⟨found, hfound, h⟩ := result_bind_eq_ok_iff.mp h
    obtain ⟨_, -, hpure⟩ := result_bind_eq_ok_iff.mp h
    obtain rfl := Except.ok.inj hpure
    exact result_ofLibrary_eq_ok_iff.mp hfound
  · intro h
    refine ⟨(), rfl, result_bind_eq_ok_iff.mpr ⟨definitions, ?_, ?_⟩⟩
    · exact result_ofLibrary_eq_ok_iff.mpr h
    · exact result_bind_eq_ok_iff.mpr ⟨(), rfl, rfl⟩

/-- The text of a setup is that of its plan in its layout. -/
theorem result_render_eq_ok_iff {s : Setup} {text : String} :
    s.render.result = .ok text ↔ s.plan.render s.layout = .ok text := by
  rw [Plan.render_eq_ok_iff]
  unfold render
  rw [result_bind_eq_ok_iff]
  constructor
  · rintro ⟨definitions, hdefinitions, h⟩
    obtain ⟨_, -, hpure⟩ := result_bind_eq_ok_iff.mp h
    exact ⟨definitions, result_definitions_eq_ok_iff.mp hdefinitions, Except.ok.inj hpure⟩
  · rintro ⟨definitions, hdefinitions, rfl⟩
    refine ⟨definitions, result_definitions_eq_ok_iff.mpr hdefinitions, ?_⟩
    exact result_bind_eq_ok_iff.mpr ⟨(), rfl, rfl⟩

end Setup

end LaneConvert
