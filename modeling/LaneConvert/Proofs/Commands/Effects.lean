import LaneConvert.Proofs.Commands.Preparation
import LaneConvert.Proofs.Files
import LaneConvert.Proofs.Library.Acceptance
import LaneConvert.Proofs.Review

/-!
# What commands leave behind

A command that fails leaves the files that it found, and a generation that fails has printed
nothing. A command that succeeds changes no file, except that a generation with a target replaces
the file there by the text of the library. The draft that a replacement goes through is gone in the
end, whether the replacement succeeds or not.

A check does more than a generation: it reviews the definitions, and it inspects the library that is
already written. The review refuses nothing that a plan defines, and a written library that is the
generated one is inspected twice. So a check of a library succeeds exactly if a generation would
make the very text that is there.
-/

namespace LaneConvert

open Run

namespace Command

variable {files : Tree} {configuration? output? : Option Path}

/-- A library can be made from a configuration: the configuration is loaded and set up, the text is
rendered, and the text passes its inspection. -/
structure Makes (files : Tree) (configuration? : Option Path) (setup : Setup) (text : String)
    (summary : Summary) : Prop where
  /-- The configuration is in order. -/
  prepared : (Setup.prepare files configuration?).result = .ok setup
  /-- Every definition is there. -/
  rendered : setup.plan.render setup.layout = .ok text
  /-- The text is in order. -/
  inspected : inspect text = .ok summary

/-- A text in surroundings that keep out of the way is a library that can be made. -/
theorem exists_makes_of_render {setup : Setup} {text : String}
    (hprepare : (Setup.prepare files configuration?).result = .ok setup)
    (hrender : setup.plan.render setup.layout = .ok text)
    (hstem : Text.OneLine setup.plan.intrinsics.stem) (hl : setup.layout.Unobtrusive) :
    ∃ summary, Makes files configuration? setup text summary := by
  obtain ⟨definitions, hdefinitions, rfl⟩ := Plan.render_eq_ok_iff.mp hrender
  exact ⟨_, hprepare, hrender, hl.inspect_text setup.plan.catalog
    (Plan.oneLine_results hstem hdefinitions) (Plan.signatures_definitions_nodup hdefinitions)⟩

/-- Where no expression is missing and the surroundings keep out of the way, a library can be made.
-/
theorem exists_makes {setup : Setup}
    (hprepare : (Setup.prepare files configuration?).result = .ok setup)
    (hscalar : .scalar ∈ setup.plan.intrinsics.widths)
    (hstem : Text.OneLine setup.plan.intrinsics.stem) (hl : setup.layout.Unobtrusive) :
    ∃ text summary, Makes files configuration? setup text summary := by
  obtain ⟨definitions, hdefinitions⟩ := Plan.exists_definitions hscalar
  obtain ⟨text, hrender⟩ := Plan.exists_render hdefinitions setup.layout
  exact ⟨text, exists_makes_of_render hprepare hrender hstem hl⟩

/-- Without a configuration the standard library can be made. -/
theorem exists_makes_standard (h : files.isFile Configuration.usualPath = false) :
    ∃ text summary, Makes files none ⟨.standard, .standard, none⟩ text summary :=
  exists_makes (Setup.result_prepare_of_no_file h) (by decide) (by decide)
    Layout.unobtrusive_standard

/-- Once the text is rendered, all that can be seen of a generation is how its inspection ends and
what is delivered. -/
theorem agrees_runGenerate {setup : Setup} {text : String}
    (hprepare : (Setup.prepare files configuration?).result = .ok setup)
    (hrender : setup.plan.render setup.layout = .ok text) (output? : Option Path) :
    (runGenerate files configuration? output?).Agrees
      (ofLibrary (inspect text) >>= deliver files (output?.or setup.output?) text) := by
  refine ((Setup.silent_prepare _ _).bind_of_ok hprepare).trans ?_
  exact setup.silent_render.bind_of_ok (Setup.result_render_eq_ok_iff.mpr hrender)

/-- A library that can be made is delivered, and nothing else can be seen. -/
theorem Makes.agrees {setup : Setup} {text : String} {summary : Summary}
    (h : Makes files configuration? setup text summary) (output? : Option Path) :
    (runGenerate files configuration? output?).Agrees
      (deliver files (output?.or setup.output?) text summary) := by
  have hinspect := result_ofLibrary_eq_ok_iff.mpr h.inspected
  refine (agrees_runGenerate h.prepared h.rendered output?).trans ?_
  exact (silent_ofResult _).bind_of_ok hinspect

/-- A generation either fails in silence or delivers a library that it has made. -/
theorem runGenerate_cases (files : Tree) (configuration? output? : Option Path) :
    (∃ failure, (runGenerate files configuration? output?).Agrees (fail failure)) ∨
      ∃ setup text summary, Makes files configuration? setup text summary ∧
        (runGenerate files configuration? output?).Agrees
          (deliver files (output?.or setup.output?) text summary) := by
  cases hprepare : (Setup.prepare files configuration?).result with
  | error failure => exact .inl ⟨failure, (Setup.silent_prepare _ _).bind_of_error hprepare⟩
  | ok setup =>
    cases hrender : setup.render.result with
    | error failure =>
      left
      refine ⟨failure, ((Setup.silent_prepare _ _).bind_of_ok hprepare).trans ?_⟩
      exact setup.silent_render.bind_of_error hrender
    | ok text =>
      have hrendered := Setup.result_render_eq_ok_iff.mp hrender
      have hafterText := agrees_runGenerate hprepare hrendered output?
      cases hinspect : (ofLibrary (inspect text)).result with
      | error failure =>
        exact .inl ⟨failure, hafterText.trans ((silent_ofResult _).bind_of_error hinspect)⟩
      | ok summary =>
        have hmakes : Makes files configuration? setup text summary :=
          ⟨hprepare, hrendered, result_ofLibrary_eq_ok_iff.mp hinspect⟩
        exact .inr ⟨setup, text, summary, hmakes, hmakes.agrees output?⟩

/-- A delivery that fails leaves the files as they were and prints nothing. -/
theorem deliver_error {target? : Option Path} {text : String} {summary : Summary}
    {failure : Failure} (h : (deliver files target? text summary).result = .error failure) :
    (deliver files target? text summary).printed = "" ∧
      files.applyAll (deliver files target? text summary).changes = files := by
  cases target? with
  | none => simp [deliver, print] at h
  | some path =>
    obtain ⟨hprinted, hcases⟩ := replaceFile_cases files path text
    rcases hcases with ⟨fault, hfault, hfiles⟩ | ⟨hok, -⟩
    · have hrun : deliver files (some path) text summary = _ := Run.bind_of_error hfault _
      rw [hrun]
      exact ⟨hprinted, hfiles⟩
    · have hrun : deliver files (some path) text summary = _ := Run.bind_of_ok hok _
      rw [hrun] at h
      cases h

/-- A library is handed over: the target holds its text and all other files are as they were, or the
text is printed where there is no target. -/
def Delivered (before after : Tree) (printed : String) (target? : Option Path) (text : String) :
    Prop :=
  match target? with
  | some path => before.Replaced after path text ∧ printed = ""
  | none => after = before ∧ printed = text

/-- A library that was handed over stands in the file it was meant for, or was printed if no file
was named. Behind a replacement there is only a record. -/
theorem deliver_ok {target? : Option Path} {text : String} {summary : Summary}
    (h : (deliver files target? text summary).result = .ok ()) :
    Delivered files (files.applyAll (deliver files target? text summary).changes)
      (deliver files target? text summary).printed target? text := by
  cases target? with
  | none => exact ⟨rfl, rfl⟩
  | some path =>
    obtain ⟨hprinted, hcases⟩ := replaceFile_cases files path text
    rcases hcases with ⟨fault, hfault, -⟩ | ⟨hok, hreplaced⟩
    · have hrun : deliver files (some path) text summary = _ := Run.bind_of_error hfault _
      rw [hrun] at h
      cases h
    · have hrun : deliver files (some path) text summary = _ := Run.bind_of_ok hok _
      have hchanges : (deliver files (some path) text summary).changes =
          (replaceFile files path text).changes := by
        rw [hrun]
        exact List.append_nil _
      have hprints : (deliver files (some path) text summary).printed = "" := by
        rw [hrun]
        change (replaceFile files path text).printed ++ "" = ""
        rw [hprinted]
        rfl
      rw [hchanges, hprints]
      exact ⟨hreplaced, rfl⟩

/-- A list has one line for each conversion that the filter lets through. -/
theorem agrees_runList_filter {setup : Setup}
    (h : (Setup.prepare files configuration?).result = .ok setup) (filter? : Option String) :
    (runList files configuration? filter?).Agrees
      (print (joinLines ((setup.plan.conversions.filter (isListed filter?)).map listLine))) := by
  refine ((Setup.silent_prepare _ _).bind_of_ok h).trans ?_
  exact (silent_record _ _ _).bind_of_ok rfl

/-- Without a filter every conversion of the plan is listed. -/
theorem agrees_runList {setup : Setup}
    (h : (Setup.prepare files configuration?).result = .ok setup) :
    (runList files configuration? none).Agrees
      (print (joinLines (setup.plan.conversions.map listLine))) := by
  have hall : setup.plan.conversions.filter (isListed none) = setup.plan.conversions :=
    List.filter_eq_self.mpr fun _ _ => rfl
  have hlist := agrees_runList_filter h none
  rwa [hall] at hlist

/-- Listing changes no file. -/
theorem changes_runList (files : Tree) (configuration? : Option Path) (filter? : Option String) :
    (runList files configuration? filter?).changes = [] := by
  refine changes_bind (Setup.silent_prepare _ _).changes fun setup => ?_
  exact changes_bind rfl fun _ => rfl

/-- Explaining changes no file. -/
theorem changes_runExplain (files : Tree) (configuration? : Option Path) (name : String)
    (source : Scalar) : (runExplain files configuration? name source).changes = [] := by
  refine changes_bind (Setup.silent_prepare _ _).changes fun setup => ?_
  split
  · rfl
  · refine changes_bind rfl fun lowering => ?_
    exact changes_bind rfl fun _ => rfl

/-- Checking a written library changes no file. -/
theorem changes_checkLibrary (files : Tree) (setup : Setup) (count : Nat) (path : Path) :
    (checkLibrary files setup count path).changes = [] := by
  refine changes_bind (silent_readFile _ _).changes fun existing => ?_
  refine changes_bind rfl fun summary => ?_
  refine changes_bind setup.silent_render.changes fun expected => ?_
  split
  · rfl
  · exact changes_bind rfl fun _ => rfl

/-- Checking changes no file. -/
theorem changes_runCheck (files : Tree) (configuration? library? : Option Path) :
    (runCheck files configuration? library?).changes = [] := by
  refine changes_bind (Setup.silent_prepare _ _).changes fun setup => ?_
  refine changes_bind setup.silent_definitions.changes fun definitions => ?_
  refine changes_bind rfl fun _ => ?_
  refine changes_bind rfl fun _ => ?_
  cases library? with
  | none => rfl
  | some path => exact changes_checkLibrary files setup definitions.length path

/-- A command that changes no file leaves the tree that it found. -/
theorem filesAfter_eq_self {c : Command} (h : (c.run files).changes = []) :
    c.filesAfter files = files := by
  rw [filesAfter, h]
  rfl

/-- A generation that fails leaves the files as they were and has printed nothing. -/
theorem runGenerate_error {failure : Failure}
    (h : (runGenerate files configuration? output?).result = .error failure) :
    files.applyAll (runGenerate files configuration? output?).changes = files ∧
      (runGenerate files configuration? output?).printed = "" := by
  rcases runGenerate_cases files configuration? output? with
    ⟨reason, hagrees⟩ | ⟨setup, text, summary, -, hagrees⟩
  · rw [hagrees.changes, hagrees.printed]
    exact ⟨rfl, rfl⟩
  · rw [hagrees.result] at h
    obtain ⟨hprinted, hfiles⟩ := deliver_error h
    rw [hagrees.changes, hagrees.printed]
    exact ⟨hfiles, hprinted⟩

/-- A generation that succeeds has made a library and handed it over. -/
theorem runGenerate_ok (h : (runGenerate files configuration? output?).result = .ok ()) :
    ∃ setup text summary, Makes files configuration? setup text summary ∧
      Delivered files (files.applyAll (runGenerate files configuration? output?).changes)
        (runGenerate files configuration? output?).printed (output?.or setup.output?) text := by
  rcases runGenerate_cases files configuration? output? with
    ⟨reason, hagrees⟩ | ⟨setup, text, summary, hmakes, hagrees⟩
  · rw [hagrees.result] at h
    cases h
  · rw [hagrees.result] at h
    refine ⟨setup, text, summary, hmakes, ?_⟩
    rw [hagrees.changes, hagrees.printed]
    exact deliver_ok h

/-- A command that fails leaves every file as it was, and a generation that fails has printed
nothing. A command that succeeds leaves the files as they were too, except for a generation with a
target, the one on the command line or else the one that the configuration names from its own
directory: it replaces that file by the text of the library and changes no other. Without a target
a generation prints the text of the library. -/
theorem files_after_command (files : Tree) (c : Command) :
    (∀ failure, (c.run files).result = .error failure →
      c.filesAfter files = files ∧
        ∀ configuration? output?, c = .generate configuration? output? →
          (c.run files).printed = "") ∧
    ((c.run files).result = .ok () →
      match c with
      | .generate configuration? output? =>
        ∃ configuration base setup text,
          (Configuration.load files configuration?).result = .ok (configuration, base) ∧
          base = ((Configuration.sourcePath? files configuration?).map Path.directory).getD .here ∧
          (configuration.setup files base).result = .ok setup ∧
          setup.plan.render setup.layout = .ok text ∧
          Delivered files (c.filesAfter files) (c.run files).printed
            (output?.or (configuration.path?.map base.join)) text
      | _ => c.filesAfter files = files) := by
  cases c with
  | generate configuration? output? =>
    constructor
    · intro failure h
      obtain ⟨hfiles, hprinted⟩ := runGenerate_error h
      exact ⟨hfiles, fun _ _ _ => hprinted⟩
    · intro h
      obtain ⟨setup, text, summary, hmakes, hdelivered⟩ := runGenerate_ok h
      obtain ⟨⟨configuration, base⟩, hload, hsetup⟩ := result_bind_eq_ok_iff.mp hmakes.prepared
      rw [Configuration.output?_of_setup hsetup] at hdelivered
      exact ⟨configuration, base, setup, text, hload, Configuration.base_of_load hload, hsetup,
        hmakes.rendered, hdelivered⟩
  | list configuration? filter? =>
    have hfiles : (list configuration? filter?).filesAfter files = files :=
      filesAfter_eq_self (changes_runList files configuration? filter?)
    exact ⟨fun _ _ => ⟨hfiles, fun _ _ => nofun⟩, fun _ => hfiles⟩
  | explain configuration? name source =>
    have hfiles : (explain configuration? name source).filesAfter files = files :=
      filesAfter_eq_self (changes_runExplain files configuration? name source)
    exact ⟨fun _ _ => ⟨hfiles, fun _ _ => nofun⟩, fun _ => hfiles⟩
  | check configuration? library? =>
    have hfiles : (check configuration? library?).filesAfter files = files :=
      filesAfter_eq_self (changes_runCheck files configuration? library?)
    exact ⟨fun _ _ => ⟨hfiles, fun _ _ => nofun⟩, fun _ => hfiles⟩

/-- An empty file is replaced by the standard library, and a configuration that is missing leaves
the file as it is. -/
theorem files_after_command_file :
    let files : Tree := ⟨[(["lib.cl"], .file .empty)], []⟩
    (∃ text, Plan.standard.render .standard = .ok text ∧
      files.Replaced ((generate none (some ⟨"lib.cl"⟩)).filesAfter files) ⟨"lib.cl"⟩ text) ∧
    (generate (some ⟨"lib.toml"⟩) none).filesAfter files = files ∧
      ((generate (some ⟨"lib.toml"⟩) none).run files).printed = "" := by
  intro files
  constructor
  · have husual : files.isFile Configuration.usualPath = false := by decide +kernel
    have hcan : files.canDraft (Path.directory ⟨"lib.cl"⟩) = true := by decide +kernel
    have htarget : files.target? ⟨"lib.cl"⟩ = some ["lib.cl"] := by decide +kernel
    obtain ⟨text, summary, hmakes⟩ := exists_makes_standard husual
    have hok : ((generate none (some ⟨"lib.cl"⟩)).run files).result = .ok () := by
      have hreplace : (replaceFile files ⟨"lib.cl"⟩ text).result = .ok () := by
        obtain ⟨draft, journal, -, hrun⟩ := replaceFile_of_target hcan htarget text
        rw [hrun]
      refine (hmakes.agrees (some ⟨"lib.cl"⟩)).result.trans ?_
      exact result_bind_eq_ok_iff.mpr ⟨(), hreplace, rfl⟩
    obtain ⟨configuration, base, setup, found, hload, -, hsetup, hfound, hdelivered, -⟩ :=
      (files_after_command files (generate none (some ⟨"lib.cl"⟩))).2 hok
    have hprepare : (Setup.prepare files none).result = .ok setup :=
      result_bind_eq_ok_iff.mpr ⟨_, hload, hsetup⟩
    obtain rfl := Except.ok.inj (hprepare.symm.trans hmakes.prepared)
    exact ⟨found, hfound, hdelivered⟩
  · have hmissing : ((generate (some ⟨"lib.toml"⟩) none).run files).result =
        .error (.unreadable ⟨"lib.toml"⟩) := by rfl
    obtain ⟨hfiles, hprinted⟩ :=
      (files_after_command files (generate (some ⟨"lib.toml"⟩) none)).1 _ hmissing
    exact ⟨hfiles, hprinted _ _ rfl⟩

variable {path : Path} {setup : Setup}
  {text : String} {summary : Summary}

/-- What the end of a check depends on: the written text has to pass its inspection before it is
compared with the generated one. -/
theorem result_checkLibrary_eq_ok_iff {count : Nat} :
    (checkLibrary files setup count path).result = .ok () ↔
      ∃ text summary, files.read? path = some text ∧ inspect text = .ok summary ∧
        setup.plan.render setup.layout = .ok text := by
  unfold checkLibrary
  constructor
  · intro h
    obtain ⟨existing, hexisting, h⟩ := result_bind_eq_ok_iff.mp h
    obtain ⟨summary, hsummary, h⟩ := result_bind_eq_ok_iff.mp h
    obtain ⟨expected, hexpected, h⟩ := result_bind_eq_ok_iff.mp h
    split at h
    · next hsame =>
      obtain rfl := hsame
      exact ⟨existing, summary, result_readFile_eq_ok_iff.mp hexisting,
        result_ofLibrary_eq_ok_iff.mp hsummary, Setup.result_render_eq_ok_iff.mp hexpected⟩
    · cases h
  · rintro ⟨text, summary, hread, hinspect, hrender⟩
    refine result_bind_eq_ok_iff.mpr ⟨text, result_readFile_eq_ok_iff.mpr hread, ?_⟩
    refine result_bind_eq_ok_iff.mpr ⟨summary, result_ofLibrary_eq_ok_iff.mpr hinspect, ?_⟩
    refine result_bind_eq_ok_iff.mpr ⟨text, Setup.result_render_eq_ok_iff.mpr hrender, ?_⟩
    rw [if_pos rfl]
    rfl

/-- A written library that is in order but not what would be generated is stale. -/
theorem result_checkLibrary_of_ne {count : Nat} {existing : String} {found : Summary}
    (hread : files.read? path = some existing) (hinspect : inspect existing = .ok found)
    (hrender : setup.plan.render setup.layout = .ok text) (hne : existing ≠ text) :
    (checkLibrary files setup count path).result = .error (.stale path) := by
  unfold checkLibrary
  rw [result_bind_of_ok (result_readFile_eq_ok_iff.mpr hread),
    result_bind_of_ok (result_ofLibrary_eq_ok_iff.mpr hinspect),
    result_bind_of_ok (Setup.result_render_eq_ok_iff.mpr hrender), if_neg hne]
  rfl

/-- A check reports the definitions, which pass their review, and goes on with the library. -/
theorem agrees_runCheck {definitions : List Definition}
    (hprepare : (Setup.prepare files configuration?).result = .ok setup)
    (hdefinitions : setup.plan.definitions = .ok definitions) (library? : Option Path) :
    (runCheck files configuration? library?).Agrees (do
      print ("Configuration OK: " ++ toString definitions.length ++ " conversion functions\n")
      match library? with
      | none => pure ()
      | some path => checkLibrary files setup definitions.length path) := by
  have hreview := result_ofLibrary_eq_ok_iff.mpr (Plan.review_definitions hdefinitions)
  refine ((Setup.silent_prepare _ _).bind_of_ok hprepare).trans ?_
  refine (setup.silent_definitions.bind_of_ok
    (Setup.result_definitions_eq_ok_iff.mpr hdefinitions)).trans ?_
  exact (silent_ofResult _).bind_of_ok hreview

/-- Where a library can be made, a check comes down to the library that is written. -/
theorem Makes.result_runCheck (h : Makes files configuration? setup text summary) (path : Path) :
    ∃ count, (runCheck files configuration? (some path)).result =
      (checkLibrary files setup count path).result := by
  obtain ⟨definitions, hdefinitions, -⟩ := Plan.render_eq_ok_iff.mp h.rendered
  refine ⟨definitions.length, ?_⟩
  exact (agrees_runCheck h.prepared hdefinitions (some path)).result.trans (result_bind_of_ok rfl)

/-- A check of a library succeeds exactly if generation, with the same configuration, would make a
text and the file holds that text; all that is left to a generation then is to deliver it. If
generation would make a text and the file holds another one that passes the inspection, the check
fails because the file is stale. -/
theorem check_agrees (files : Tree) (configuration? : Option Path) (path : Path) :
    (((check configuration? (some path)).run files).result = .ok () ↔
      ∃ setup text summary, Makes files configuration? setup text summary ∧
        files.read? path = some text) ∧
    ∀ setup text summary, Makes files configuration? setup text summary →
      (∀ output?, ((generate configuration? output?).run files).Agrees
        (deliver files (output?.or setup.output?) text summary)) ∧
      ∀ existing found, files.read? path = some existing → inspect existing = .ok found →
        existing ≠ text →
          ((check configuration? (some path)).run files).result = .error (.stale path) := by
  refine ⟨⟨?_, ?_⟩, ?_⟩
  · intro h
    obtain ⟨setup, hprepare, h⟩ := result_bind_eq_ok_iff.mp h
    obtain ⟨definitions, -, h⟩ := result_bind_eq_ok_iff.mp h
    obtain ⟨-, -, h⟩ := result_bind_eq_ok_iff.mp h
    obtain ⟨-, -, h⟩ := result_bind_eq_ok_iff.mp h
    obtain ⟨text, summary, hread, hinspect, hrender⟩ := result_checkLibrary_eq_ok_iff.mp h
    exact ⟨setup, text, summary, ⟨hprepare, hrender, hinspect⟩, hread⟩
  · rintro ⟨setup, text, summary, hmakes, hread⟩
    obtain ⟨count, hcheck⟩ := hmakes.result_runCheck path
    refine hcheck.trans (result_checkLibrary_eq_ok_iff.mpr ?_)
    exact ⟨text, summary, hread, hmakes.inspected, hmakes.rendered⟩
  · intro setup text summary hmakes
    refine ⟨fun output? => hmakes.agrees output?, ?_⟩
    intro existing found hread hinspect hne
    obtain ⟨count, hcheck⟩ := hmakes.result_runCheck path
    exact hcheck.trans (result_checkLibrary_of_ne hread hinspect hmakes.rendered hne)

/-- The standard library is found up to date, and an empty file is stale. What is generated does not
depend on the library that is there. -/
theorem check_agrees_standard :
    ∃ text, Plan.standard.render .standard = .ok text ∧
      let files : Tree := ⟨[(["lib.cl"], .file text.toUTF8), (["old.cl"], .file "".toUTF8)], []⟩
      ((check none (some ⟨"lib.cl"⟩)).run files).result = .ok () ∧
        ((check none (some ⟨"old.cl"⟩)).run files).result = .error (.stale ⟨"old.cl"⟩) := by
  obtain ⟨text, -, -, hrender, -⟩ :=
    exists_makes_standard (show (⟨[], []⟩ : Tree).isFile Configuration.usualPath = false from rfl)
  refine ⟨text, hrender, ?_⟩
  intro files
  have husual : files.isFile Configuration.usualPath = false := rfl
  obtain ⟨found, summary, hmakes⟩ := exists_makes_standard husual
  obtain rfl := Except.ok.inj (hrender.symm.trans hmakes.rendered)
  have hlibrary : files.read? ⟨"lib.cl"⟩ = some text := Tree.read?_of_find? rfl
  have hempty : files.read? ⟨"old.cl"⟩ = some "" := Tree.read?_of_find? rfl
  have hne : "" ≠ text := by
    obtain ⟨definitions, -, rfl⟩ := Plan.render_eq_ok_iff.mp hrender
    simp [Layout.text]
  have hinspect : inspect "" = .ok ⟨0, 0⟩ := by decide
  refine ⟨(check_agrees files none ⟨"lib.cl"⟩).1.mpr ⟨_, text, summary, hmakes, hlibrary⟩, ?_⟩
  exact ((check_agrees files none ⟨"old.cl"⟩).2 _ text summary hmakes).2 _ _ hempty hinspect hne

end Command

end LaneConvert
