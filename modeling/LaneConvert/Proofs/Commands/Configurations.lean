import LaneConvert.Proofs.Tables
import LaneConvert.Proofs.Commands.Preparation
import LaneConvert.Proofs.Commands.Repetition
import LaneConvert.Proofs.Expressibility
import LaneConvert.Proofs.Library.Grammar

/-!
# What configurations mean to commands

A configuration can be written down in many ways: lists may be in any order, widths of intrinsics
may be repeated, and what has its standard value may be left out. All these ways have the same
setup, and are refused for the same reason if they are, so no command tells them apart.

A check without a library stops at the definitions. It vouches for a text that can be rendered and
for nothing that stands around the definitions in it: the header, the included files, the words in
front of signatures and the stem of the intrinsics come into play only when a generation inspects
the text. So a configuration can be called in order although no library is ever generated from it.
-/

namespace LaneConvert

open Run

namespace Configuration

/-- The types that a configuration lists, which are all types unless it says otherwise. -/
def types (c : Configuration) : List Scalar := c.types?.getD Scalar.all

/-- The widths that a configuration lists, which are all widths unless it says otherwise. -/
def widths (c : Configuration) : List Width := c.widths?.getD Width.all

/-- The widths at which a configuration has intrinsics. -/
def intrinsicWidths (c : Configuration) : List Width :=
  c.intrinsicWidths?.getD IntrinsicSet.standardWidths

/-- Two configurations differ in the order of their lists, in repeated widths of intrinsics and in
what is left out although it has its standard value, and in nothing else. -/
structure Equivalent (c d : Configuration) : Prop where
  /-- No type is listed twice. -/
  types_nodup : c.types.Nodup
  /-- The same types are listed. -/
  types : c.types.Perm d.types
  /-- No width is listed twice. -/
  widths_nodup : c.widths.Nodup
  /-- The same widths are listed. -/
  widths : c.widths.Perm d.widths
  /-- The names of intrinsics begin alike. -/
  stem : c.stem?.getD IntrinsicSet.standardStem = d.stem?.getD IntrinsicSet.standardStem
  /-- There are intrinsics at the same widths. -/
  intrinsicWidths : ∀ width, width ∈ c.intrinsicWidths ↔ width ∈ d.intrinsicWidths
  /-- The library goes to the same place. -/
  path : c.path? = d.path?
  /-- The header comment comes from the same place. -/
  header : c.header? = d.header?
  /-- The same headers are included. -/
  includes : c.includes?.getD Layout.standard.includes = d.includes?.getD Layout.standard.includes
  /-- The same words stand in front of signatures. -/
  decorations :
    c.decorations?.getD Layout.standard.decorations =
      d.decorations?.getD Layout.standard.decorations

/-- The catalog of a configuration is that of the types it lists or leaves to the standard. -/
theorem catalog_eq_ofList (c : Configuration) : c.catalog = Catalog.ofList c.types := by
  unfold catalog types
  cases c.types? with
  | none => exact Catalog.ofList_all.symm
  | some types => rfl

/-- The table of a configuration is that of the widths it lists or leaves to the standard. -/
theorem table_eq_ofList (c : Configuration) : c.table = WidthTable.ofList c.widths := by
  unfold table widths
  cases c.widths? with
  | none => exact WidthTable.ofList_all.symm
  | some widths => rfl

namespace Equivalent

variable {c d : Configuration} (h : c.Equivalent d)
include h

/-- Equivalent configurations have the same catalog or the same reason to have none. -/
theorem catalog_eq : c.catalog = d.catalog := by
  rw [catalog_eq_ofList, catalog_eq_ofList, Catalog.ofList_of_perm h.types_nodup h.types]

/-- Equivalent configurations have the same table or the same reason to have none. -/
theorem table_eq : c.table = d.table := by
  rw [table_eq_ofList, table_eq_ofList, WidthTable.ofList_of_perm h.widths_nodup h.widths]

/-- Equivalent configurations have the same intrinsics. -/
theorem intrinsics_eq : c.intrinsics = d.intrinsics := by
  have hwidths := Selection.arrange_congr Width.all h.intrinsicWidths
  unfold Configuration.intrinsicWidths at hwidths
  simp only [intrinsics, IntrinsicSet.of, h.stem, hwidths]

/-- Equivalent configurations have the same layout around any header comment. -/
theorem layout_eq (headerText? : Option String) : c.layout headerText? = d.layout headerText? := by
  simp only [layout, h.includes, h.decorations]

/-- Equivalent configurations have the same setup, or fail for the same reason. -/
theorem agrees_setup (files : Tree) (base : Path) :
    (c.setup files base).Agrees (d.setup files base) := by
  have hrecord : ∀ catalog, (c.recordCatalog catalog).Agrees (d.recordCatalog catalog) := by
    intro catalog
    unfold recordCatalog
    split <;> split <;> exact ⟨rfl, rfl, rfl⟩
  simp only [setup, output?, headerPath?, h.catalog_eq, h.table_eq, h.intrinsics_eq, h.layout_eq,
    h.path, h.header]
  exact (Agrees.refl _).bind fun catalog => (hrecord catalog).bind fun _ => .refl _

/-- Where both configurations list types or both leave them out, the setups are recorded alike. -/
theorem setup_eq (hlists : c.types?.isSome = d.types?.isSome) (files : Tree) (base : Path) :
    c.setup files base = d.setup files base := by
  have hrecord : c.recordCatalog = d.recordCatalog := by
    unfold recordCatalog
    rw [hlists]
  simp only [setup, output?, headerPath?, h.catalog_eq, h.table_eq, h.intrinsics_eq, h.layout_eq,
    h.path, h.header, hrecord]

end Equivalent

end Configuration

namespace Command

/-- The same request with another file for the configuration. -/
def withConfiguration (configuration? : Option Path) : Command → Command
  | generate _ output? => generate configuration? output?
  | list _ filter? => list configuration? filter?
  | explain _ name source => explain configuration? name source
  | check _ library? => check configuration? library?

/-- What a command does depends on its configuration only through the setup. -/
theorem agrees_withConfiguration {files : Tree} {configuration? other? : Option Path}
    (h : (Setup.prepare files configuration?).Agrees (Setup.prepare files other?)) (c : Command) :
    ((c.withConfiguration configuration?).run files).Agrees
      ((c.withConfiguration other?).run files) := by
  cases c with
  | generate _ output? => exact h.bind fun _ => .refl _
  | list _ filter? => exact h.bind fun _ => .refl _
  | explain _ name source => exact h.bind fun _ => .refl _
  | check _ library? => exact h.bind fun _ => .refl _

end Command

namespace Configuration

/-- Equivalent configurations give the same setup in the same directory, or fail for the same
reason. The records of it are the same too, unless one configuration lists its types and the other
leaves them out. No command does anything else where it is given the one instead of the other. -/
theorem setup_of_equivalent {c d : Configuration} (h : c.Equivalent d) (files : Tree)
    (base : Path) :
    (c.setup files base).result = (d.setup files base).result ∧
    (c.types?.isSome = d.types?.isSome → c.setup files base = d.setup files base) ∧
    ∀ named? other?, (load files named?).result = .ok (c, base) →
      (load files other?).result = .ok (d, base) → ∀ command : Command,
        ((command.withConfiguration named?).run files).Agrees
          ((command.withConfiguration other?).run files) := by
  refine ⟨(h.agrees_setup files base).result, fun hlists => h.setup_eq hlists files base, ?_⟩
  intro named? other? hload hload' command
  have hnamed : (Setup.prepare files named?).Agrees (c.setup files base) :=
    (silent_load files named?).bind_of_ok hload
  have hother : (Setup.prepare files other?).Agrees (d.setup files base) :=
    (silent_load files other?).bind_of_ok hload'
  have hprepare := (hnamed.trans (h.agrees_setup files base)).trans hother.symm
  exact Command.agrees_withConfiguration hprepare command

/-- Two types in either order and the usual widths of intrinsics, written out with a repetition or
left out, come to the same library. -/
theorem setup_of_equivalent_reordered :
    let files : Tree := ⟨[
      (["a.toml"], .file ("[catalog]\ntypes = ['int', 'char']\nwidths = ['2', '']\n" ++
        "[primitives]\nwidths = ['4', '', '2', '2']\n").toUTF8),
      (["b.toml"], .file "[catalog]\ntypes = ['char', 'int']\nwidths = ['', '2']\n".toUTF8)], []⟩
    ((Command.generate (some ⟨"a.toml"⟩) none).run files).Agrees
        ((Command.generate (some ⟨"b.toml"⟩) none).run files) ∧
      ∃ setup, (Setup.prepare files (some ⟨"a.toml"⟩)).result = .ok setup ∧
        (Setup.prepare files (some ⟨"b.toml"⟩)).result = .ok setup := by
  intro files
  let c : Configuration :=
    { types? := some [.int, .char], widths? := some [.two, .scalar],
      intrinsicWidths? := some [.four, .scalar, .two, .two] }
  let d : Configuration := { types? := some [.char, .int], widths? := some [.scalar, .two] }
  have hc : (load files (some ⟨"a.toml"⟩)).result = .ok (c, .here) := by decide +kernel
  have hd : (load files (some ⟨"b.toml"⟩)).result = .ok (d, .here) := by decide +kernel
  have h : c.Equivalent d := {
    types_nodup := by decide
    types := by decide
    widths_nodup := by decide
    widths := by decide
    stem := rfl
    intrinsicWidths := by intro width; cases width <;> decide
    path := rfl
    header := rfl
    includes := rfl
    decorations := rfl }
  obtain ⟨hsetup, -, hcommands⟩ := setup_of_equivalent h files .here
  refine ⟨hcommands _ _ hc hd (.generate none none), ?_⟩
  obtain ⟨setup, hok⟩ : ∃ setup, (c.setup files .here).result = .ok setup := ⟨_, rfl⟩
  refine ⟨setup, ?_, ?_⟩
  · exact result_bind_eq_ok_iff.mpr ⟨_, hc, hok⟩
  · exact result_bind_eq_ok_iff.mpr ⟨_, hd, hsetup.symm.trans hok⟩

end Configuration

open Text

namespace Command

variable {files : Tree} {configuration? : Option Path} {setup : Setup}

/-- A check without a library reports the conversions as soon as they are defined. -/
theorem agrees_runCheck_none (hprepare : (Setup.prepare files configuration?).result = .ok setup)
    (h : ∃ definitions, setup.plan.definitions = .ok definitions) :
    (runCheck files configuration? none).Agrees
      (print ("Configuration OK: " ++ toString setup.plan.conversions.length ++
        " conversion functions\n")) := by
  obtain ⟨definitions, hdefinitions⟩ := h
  rw [← Plan.length_definitions hdefinitions]
  exact (agrees_runCheck hprepare hdefinitions none).trans ⟨String.append_empty, rfl, rfl⟩

/-- A check without a library succeeds exactly if the configuration can be set up and its
conversions are defined. -/
theorem result_runCheck_none_eq_ok_iff :
    (runCheck files configuration? none).result = .ok () ↔
      ∃ setup, (Setup.prepare files configuration?).result = .ok setup ∧
        ∃ definitions, setup.plan.definitions = .ok definitions := by
  constructor
  · intro h
    obtain ⟨setup, hprepare, h⟩ := result_bind_eq_ok_iff.mp h
    obtain ⟨definitions, hdefinitions, -⟩ := result_bind_eq_ok_iff.mp h
    exact ⟨setup, hprepare, definitions, Setup.result_definitions_eq_ok_iff.mp hdefinitions⟩
  · rintro ⟨setup, hprepare, hdefinitions⟩
    exact (agrees_runCheck_none hprepare hdefinitions).result

/-- A text that is rendered is a library that can be made exactly if it is in order. -/
theorem exists_makes_iff {text : String} {read : List (Nat × Line)}
    (hprepare : (Setup.prepare files configuration?).result = .ok setup)
    (hrender : setup.plan.render setup.layout = .ok text)
    (hread : Line.Reading 1 (Text.lines text.toList) read) :
    (∃ summary, Makes files configuration? setup text summary) ↔
      Line.WellFormed (read.map Prod.snd) := by
  constructor
  · rintro ⟨summary, hmakes⟩
    exact ((inspect_iff hread).mp hmakes.inspected).1
  · intro hformed
    exact ⟨_, hprepare, hrender, (inspect_iff hread).mpr ⟨hformed, rfl⟩⟩

/-- A check without a library succeeds exactly if the configuration can be set up and its plan has
the intrinsics for single values or nothing to do between integers and floating point; nothing else
in the configuration matters. Then the text of the library is rendered, and a generation ends as the
inspection of this text and its delivery do. The inspection accepts the text exactly if its lines
are well formed, for which the check does not vouch. It does accept the text if the surroundings of
the definitions keep out of the way and the stem of the intrinsics fits on a line. -/
theorem check_vouches (files : Tree) (configuration? : Option Path) :
    (((check configuration? none).run files).result = .ok () ↔
      ∃ setup, (Setup.prepare files configuration?).result = .ok setup ∧
        (setup.plan.intrinsics.covers .scalar = true ∨ ¬ setup.plan.catalog.Mixed)) ∧
    ∀ setup, (Setup.prepare files configuration?).result = .ok setup →
      ((check configuration? none).run files).result = .ok () →
      ((check configuration? none).run files).Agrees
        (print ("Configuration OK: " ++ toString setup.plan.conversions.length ++
          " conversion functions\n")) ∧
      ∃ text, setup.plan.render setup.layout = .ok text ∧
        (∀ output?, ((generate configuration? output?).run files).Agrees
          (ofLibrary (inspect text) >>= deliver files (output?.or setup.output?) text)) ∧
        (∃ read, Line.Reading 1 (Text.lines text.toList) read ∧
          ((∃ summary, Makes files configuration? setup text summary) ↔
            Line.WellFormed (read.map Prod.snd))) ∧
        (OneLine setup.plan.intrinsics.stem → setup.layout.Unobtrusive →
          ∃ summary, Makes files configuration? setup text summary) := by
  constructor
  · simp only [run, result_runCheck_none_eq_ok_iff, Plan.exists_definitions_iff_covers]
  · intro setup hprepare hcheck
    obtain ⟨found, hfound, hdefined⟩ := result_runCheck_none_eq_ok_iff.mp hcheck
    obtain rfl := Except.ok.inj (hprepare.symm.trans hfound)
    obtain ⟨definitions, hdefinitions⟩ := hdefined
    obtain ⟨text, hrender⟩ := Plan.exists_render hdefinitions setup.layout
    have hread := Line.reading_number 1 (Text.lines text.toList)
    exact ⟨agrees_runCheck_none hprepare ⟨definitions, hdefinitions⟩, text, hrender,
      agrees_runGenerate hprepare hrender, ⟨_, hread, exists_makes_iff hprepare hrender hread⟩,
      exists_makes_of_render hprepare hrender⟩

/-- A configuration is called in order from which a library can be made. -/
theorem check_vouches_configured :
    ((check none none).run configuredTree).Agrees
      (print "Configuration OK: 24 conversion functions\n") ∧
    ∃ text summary, Makes configuredTree none configuredSetup text summary := by
  obtain ⟨hok, hvouches⟩ := check_vouches configuredTree none
  have hcheck := hok.mpr ⟨configuredSetup, prepare_configured, .inl (by decide)⟩
  obtain ⟨hprinted, text, -, -, -, hmakes⟩ := hvouches _ prepare_configured hcheck
  have hcount : configuredSetup.plan.conversions.length = 24 := by decide +kernel
  rw [hcount] at hprinted
  exact ⟨hprinted, text, hmakes (by decide) unobtrusive_configured⟩

/-- Files with a configuration that names the beginning of an include guard as the header comment.
-/
def guardedTree : Tree := ⟨[
  (["convgen.toml"], .file ("[catalog]\ntypes = ['int']\nwidths = ['']\n" ++
    "[output]\nheader = 'head.txt'\n").toUTF8),
  (["head.txt"], .file "#ifndef CONVERT_CL\n#define CONVERT_CL\n".toUTF8)], []⟩

/-- A configuration is called in order from which no library can be made, because its header opens a
conditional. -/
theorem ok_but_not_generated :
    ((check none none).run guardedTree).Agrees
      (print "Configuration OK: 2 conversion functions\n") ∧
    ∀ output?, ((generate none output?).run guardedTree).Agrees
      (fail (.library (.unbalanced 1 .neverClosed))) := by
  let setup : Setup := ⟨⟨⟨[.int], by decide, by decide⟩,
    ⟨[.scalar], by decide, by decide, by decide⟩, .standard⟩,
    { Layout.standard with header := "#ifndef CONVERT_CL\n#define CONVERT_CL\n" }, none⟩
  have hprepare : (Setup.prepare guardedTree none).result = .ok setup := by decide +kernel
  obtain ⟨definitions, hdefinitions⟩ : ∃ definitions, setup.plan.definitions = .ok definitions :=
    Plan.exists_definitions (by decide)
  have hcount : setup.plan.conversions.length = 2 := rfl
  have hcheck := agrees_runCheck_none hprepare ⟨definitions, hdefinitions⟩
  rw [hcount] at hcheck
  refine ⟨hcheck, fun output? => ?_⟩
  obtain ⟨text, hrender⟩ := Plan.exists_render hdefinitions setup.layout
  have hinspect : (setup.plan.render setup.layout >>= inspect) =
      .error (.unbalanced 1 .neverClosed) := by decide +kernel
  rw [hrender] at hinspect
  refine (agrees_runGenerate hprepare hrender output?).trans ?_
  exact (silent_ofResult _).bind_of_error (result_ofLibrary_of_error hinspect)

end Command

end LaneConvert
