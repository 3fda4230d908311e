import LaneConvert.Proofs.Commands.Effects
import LaneConvert.Proofs.Files

/-!
# Runs of commands

A setup that is not read from the file that generation writes is the same before and after any
command. So every generation makes the same text, and once it was written it stays: further
commands find the library up to date, and further generations write it again.
-/

namespace LaneConvert

open Run

namespace Configuration

variable {files other : Tree} {configuration? : Option Path} {p : Path}

/-- The configuration is the same if only a file is replaced that it is not read from. -/
theorem load_congr (h : files.SameBut p other)
    (hp : files.Apart p (configuration?.getD usualPath)) :
    load other configuration? = load files configuration? := by
  have hsource : sourcePath? other configuration? = sourcePath? files configuration? := by
    cases configuration? with
    | none =>
      have husual : other.isFile usualPath = files.isFile usualPath := h.isFile_of_apart hp
      simp only [sourcePath?, husual]
    | some path => rfl
  have hnamed : ∀ path, sourcePath? files configuration? = some path →
      path = configuration?.getD usualPath := by
    intro path hpath
    cases configuration? with
    | none =>
      simp only [sourcePath?, Option.ite_none_right_eq_some, Option.some.injEq] at hpath
      exact hpath.2.symm
    | some named => exact (Option.some.inj hpath).symm
  unfold load
  rw [hsource]
  split
  · rfl
  · next path hpath =>
    obtain rfl := hnamed path hpath
    simp only [readFile, h.read?_of_apart hp]

/-- A configuration has the same setup if only a file is replaced that is not the header comment. -/
theorem setup_congr {c : Configuration} {base : Path} (h : files.SameBut p other)
    (hp : ∀ header, c.headerPath? base = some header → files.Apart p header) :
    c.setup other base = c.setup files base := by
  have hheader : (c.headerPath? base).mapM (readFile other) =
      (c.headerPath? base).mapM (readFile files) := by
    cases hpath : c.headerPath? base with
    | none => rfl
    | some header =>
      have hread : readFile other header = readFile files header := by
        simp only [readFile, h.read?_of_apart (hp header hpath)]
      simp only [Option.mapM_some, hread]
  simp only [setup, hheader]

end Configuration

namespace Setup

variable {files other : Tree} {configuration? : Option Path} {p : Path}

/-- A setup is not read from the file that a path stands for: this file holds neither the
configuration nor the header comment. Without a named configuration it is not the usual file of one
either, whether there is such a file or not. -/
structure IndependentOf (files : Tree) (configuration? : Option Path) (p : Path) : Prop where
  /-- The configuration is elsewhere. -/
  configuration : files.Apart p (configuration?.getD Configuration.usualPath)
  /-- The header comment is elsewhere. -/
  header : ∀ c base header, (Configuration.load files configuration?).result = .ok (c, base) →
    c.headerPath? base = some header → files.Apart p header

/-- A change of a file that a setup is not read from does not change the setup. -/
theorem prepare_congr (hp : IndependentOf files configuration? p) (h : files.SameBut p other) :
    prepare other configuration? = prepare files configuration? := by
  unfold prepare
  rw [Configuration.load_congr h hp.configuration]
  cases hload : (Configuration.load files configuration?).result with
  | error failure => rw [Run.bind_of_error hload, Run.bind_of_error hload]
  | ok found =>
    obtain ⟨c, base⟩ := found
    have hsetup := Configuration.setup_congr h fun header => hp.header c base header hload
    rw [Run.bind_of_ok hload, Run.bind_of_ok hload]
    simp only [hsetup]

end Setup

namespace Command

variable {files t : Tree} {configuration? : Option Path} {p : Path} {setup : Setup}
  {text : String} {summary : Summary} {c : Command} {commands : List Command}

/-- A library that can be made can be made after a change of a file that its setup is not read
from. -/
theorem Makes.of_sameBut (hp : Setup.IndependentOf files configuration? p)
    (h : files.SameBut p t) :
    Makes t configuration? setup text summary ↔ Makes files configuration? setup text summary := by
  have hprepare := Setup.prepare_congr hp h
  constructor
  · intro hmakes
    exact ⟨hprepare ▸ hmakes.prepared, hmakes.rendered, hmakes.inspected⟩
  · intro hmakes
    exact ⟨hprepare.symm ▸ hmakes.prepared, hmakes.rendered, hmakes.inspected⟩

/-- There is one text that can be made. -/
theorem Makes.text_unique {setup' : Setup} {text' : String} {summary' : Summary}
    (h : Makes files configuration? setup text summary)
    (h' : Makes files configuration? setup' text' summary') : text' = text := by
  obtain rfl := Except.ok.inj (h'.prepared.symm.trans h.prepared)
  exact Except.ok.inj (h'.rendered.symm.trans h.rendered)

/-- In surroundings that keep out of the way, every conversion of the plan is counted. -/
theorem Makes.functions_eq (h : Makes files configuration? setup text summary)
    (hstem : Text.OneLine setup.plan.intrinsics.stem) (hl : setup.layout.Unobtrusive) :
    summary.functions = setup.plan.conversions.length := by
  obtain ⟨definitions, hdefinitions, rfl⟩ := Plan.render_eq_ok_iff.mp h.rendered
  have hinspect := hl.inspect_text setup.plan.catalog (Plan.oneLine_results hstem hdefinitions)
    (Plan.signatures_definitions_nodup hdefinitions)
  obtain rfl := Except.ok.inj (h.inspected.symm.trans hinspect)
  exact Plan.length_definitions hdefinitions

/-- What a check prints about a library that is up to date. -/
def upToDateReport (p : Path) (count : Nat) (summary : Summary) : String :=
  "Configuration OK: " ++ toString count ++ " conversion functions\n" ++
    (p.text ++ " is up to date: " ++ toString summary.functions ++ " functions, " ++
      toString summary.guarded ++ " guarded\n")

/-- A check of a file that holds the text that can be made finds it up to date. -/
theorem Makes.agrees_runCheck (h : Makes files configuration? setup text summary)
    (hread : files.read? p = some text) :
    (runCheck files configuration? (some p)).Agrees
      (print (upToDateReport p setup.plan.conversions.length summary)) := by
  obtain ⟨definitions, hdefinitions, -⟩ := Plan.render_eq_ok_iff.mp h.rendered
  have hlength := Plan.length_definitions hdefinitions
  have hinspect := result_ofLibrary_eq_ok_iff.mpr h.inspected
  have hlibrary : (checkLibrary files setup definitions.length p).Agrees
      (print (p.text ++ " is up to date: " ++ toString summary.functions ++ " functions, " ++
        toString summary.guarded ++ " guarded\n")) := by
    refine ((silent_readFile files p).bind_of_ok (result_readFile_eq_ok_iff.mpr hread)).trans ?_
    refine ((silent_ofResult _).bind_of_ok hinspect).trans ?_
    refine (setup.silent_render.bind_of_ok (Setup.result_render_eq_ok_iff.mpr h.rendered)).trans ?_
    rw [if_pos rfl]
    exact .refl _
  refine (Command.agrees_runCheck h.prepared hdefinitions (some p)).trans ?_
  rw [hlength] at hlibrary ⊢
  refine ((Agrees.refl _).bind fun _ => hlibrary).trans ?_
  exact ⟨rfl, rfl, rfl⟩

/-- A library that can be made is delivered exactly if the file that it goes to can be replaced. -/
theorem Makes.result_generate_eq_ok_iff (h : Makes files configuration? setup text summary)
    {output? : Option Path} (htarget : output?.or setup.output? = some p) :
    ((generate configuration? output?).run files).result = .ok () ↔
      (replaceFile files p text).result = .ok () := by
  have hdeliver := (h.agrees output?).result
  rw [htarget] at hdeliver
  rw [run, hdeliver]
  constructor
  · intro hok
    obtain ⟨_, hreplace, -⟩ := result_bind_eq_ok_iff.mp hok
    exact hreplace
  · intro hreplace
    exact result_bind_eq_ok_iff.mpr ⟨(), hreplace, rfl⟩

/-- The file that is named for the configuration of a command. -/
def named? : Command → Option Path
  | generate configuration? _ => configuration?
  | list configuration? _ => configuration?
  | explain configuration? _ _ => configuration?
  | check configuration? _ => configuration?

/-- A command takes the given configuration, and if it is a generation, then into the given file,
which the command line or else the configuration names by one of its paths. -/
structure AimsAt (files : Tree) (configuration? : Option Path) (p : Path) (c : Command) : Prop where
  /-- The configuration is the given one. -/
  configuration : c.named? = configuration?
  /-- The target is the given file. -/
  target : ∀ output? setup, c = generate configuration? output? →
    (Setup.prepare files configuration?).result = .ok setup →
      ∃ q, output?.or setup.output? = some q ∧ files.SameFile p q

/-- A generation that succeeds has made a library and replaced the file that it aims at. -/
theorem AimsAt.generated {output? : Option Path}
    (hc : AimsAt files configuration? p (generate configuration? output?))
    (hp : Setup.IndependentOf files configuration? p) (h : files.SameBut p t)
    (hok : ((generate configuration? output?).run t).result = .ok ()) :
    ∃ setup text summary, Makes files configuration? setup text summary ∧
      (replaceFile files p text).result = .ok () ∧
      t.Replaced ((generate configuration? output?).filesAfter t) p text := by
  obtain ⟨setup, text, summary, hmakes, hdelivered⟩ := runGenerate_ok hok
  have hbefore := (Makes.of_sameBut hp h).mp hmakes
  obtain ⟨q, hq, hfile⟩ := hc.target output? setup rfl hbefore.prepared
  refine ⟨setup, text, summary, hbefore, ?_, ?_⟩
  · have hreplace := (hmakes.result_generate_eq_ok_iff hq).mp hok
    exact (result_replaceFile_iff h hfile).mp hreplace
  · rw [hq] at hdelivered
    exact (hfile.of_sameBut h).replaced hdelivered.1

/-- What one command does to the files: nothing, or it replaces the file by the library. -/
theorem AimsAt.filesAfter_cases (hc : AimsAt files configuration? p c)
    (hp : Setup.IndependentOf files configuration? p) (h : files.SameBut p t) :
    c.filesAfter t = t ∨
      ∃ setup text summary, Makes files configuration? setup text summary ∧
        t.Replaced (c.filesAfter t) p text := by
  obtain rfl := hc.configuration
  cases c with
  | generate named? output? =>
    cases hresult : (runGenerate t named? output?).result with
    | error failure => exact .inl (runGenerate_error hresult).1
    | ok _ =>
      obtain ⟨setup, text, summary, hmakes, -, hreplaced⟩ := hc.generated hp h hresult
      exact .inr ⟨setup, text, summary, hmakes, hreplaced⟩
  | list named? filter? => exact .inl (filesAfter_eq_self (changes_runList t named? filter?))
  | explain named? name source =>
    exact .inl (filesAfter_eq_self (changes_runExplain t named? name source))
  | check named? library? => exact .inl (filesAfter_eq_self (changes_runCheck t named? library?))

/-- No command changes the working directory. -/
theorem home_filesAfter (t : Tree) (c : Command) : (c.filesAfter t).home = t.home :=
  t.home_applyAll (c.run t).changes

/-- One command leaves all other files alone. -/
theorem AimsAt.sameBut (hc : AimsAt files configuration? p c)
    (hp : Setup.IndependentOf files configuration? p) (h : files.SameBut p t) :
    files.SameBut p (c.filesAfter t) := by
  rcases hc.filesAfter_cases hp h with hsame | ⟨setup, text, summary, -, hreplaced⟩
  · rwa [hsame]
  · exact h.trans (hreplaced.sameBut (home_filesAfter t c))

/-- One command leaves the library there. -/
theorem AimsAt.find? (hc : AimsAt files configuration? p c)
    (hp : Setup.IndependentOf files configuration? p) (h : files.SameBut p t)
    (hmakes : Makes files configuration? setup text summary)
    (hfind : t.find? p = some (.file text.toUTF8)) :
    (c.filesAfter t).find? p = some (.file text.toUTF8) := by
  rcases hc.filesAfter_cases hp h with hsame | ⟨setup', text', summary', hmakes', hreplaced⟩
  · rwa [hsame]
  · obtain rfl := hmakes.text_unique hmakes'
    exact hreplaced.find? (home_filesAfter t c)

/-- The tree that commands leave which are run one after another. -/
def filesAfterAll (files : Tree) (commands : List Command) : Tree :=
  commands.foldl Command.filesAfter files

/-- A run of commands leaves all other files alone. -/
theorem sameBut_filesAfterAll (hcommands : ∀ c ∈ commands, AimsAt files configuration? p c)
    (hp : Setup.IndependentOf files configuration? p) (h : files.SameBut p t) :
    files.SameBut p (filesAfterAll t commands) := by
  induction commands generalizing t with
  | nil => exact h
  | cons c rest ih =>
    rw [List.forall_mem_cons] at hcommands
    exact ih hcommands.2 (hcommands.1.sameBut hp h)

/-- A run of commands leaves the library there. -/
theorem find?_filesAfterAll (hcommands : ∀ c ∈ commands, AimsAt files configuration? p c)
    (hp : Setup.IndependentOf files configuration? p) (h : files.SameBut p t)
    (hmakes : Makes files configuration? setup text summary)
    (hfind : t.find? p = some (.file text.toUTF8)) :
    (filesAfterAll t commands).find? p = some (.file text.toUTF8) := by
  induction commands generalizing t with
  | nil => exact hfind
  | cons c rest ih =>
    rw [List.forall_mem_cons] at hcommands
    exact ih hcommands.2 (hcommands.1.sameBut hp h) (hcommands.1.find? hp h hmakes hfind)

/-- Once a generation into a file has succeeded, the library stays up to date over any further run
of commands with the same configuration and the same target, if neither the configuration nor the
header comment is read from that file: the file always holds the bytes that were written first,
every further generation succeeds, and every check of the file finds it up to date. The functions
that such a check reports are as many as the conversions that are listed, if the surroundings of the
definitions keep out of the way and the stem of the intrinsics fits on a line. Trees have no links,
so a file is reached in no other way than by its place, and what is read like a file without being
one, such as a pipe, gives the same content at every reading; both are assumed of the system here.
-/
theorem stays_up_to_date {files : Tree} {configuration? output? : Option Path} {p : Path}
    {before : List Command} (hp : Setup.IndependentOf files configuration? p)
    (hbefore : ∀ c ∈ before, AimsAt files configuration? p c)
    (hfirst : AimsAt files configuration? p (generate configuration? output?))
    (hok : ((generate configuration? output?).run (filesAfterAll files before)).result = .ok ()) :
    ∃ setup text summary, Makes files configuration? setup text summary ∧
      (Text.OneLine setup.plan.intrinsics.stem → setup.layout.Unobtrusive →
        summary.functions = setup.plan.conversions.length) ∧
      ∀ after : List Command, (∀ c ∈ after, AimsAt files configuration? p c) →
        let later := filesAfterAll files (before ++ generate configuration? output? :: after)
        later.find? p = some (.file text.toUTF8) ∧
        (∀ output?, AimsAt files configuration? p (generate configuration? output?) →
          ((generate configuration? output?).run later).result = .ok ()) ∧
        (∀ q, files.SameFile p q → ((check configuration? (some q)).run later).Agrees
          (print (upToDateReport q setup.plan.conversions.length summary))) ∧
        ((list configuration? none).run later).Agrees
          (print (joinLines (setup.plan.conversions.map listLine))) := by
  have hsame := sameBut_filesAfterAll hbefore hp (.refl p files)
  obtain ⟨setup, text, summary, hmakes, hreplace, hreplaced⟩ := hfirst.generated hp hsame hok
  have hfind := hreplaced.find? (home_filesAfter _ (generate configuration? output?))
  refine ⟨setup, text, summary, hmakes, hmakes.functions_eq, ?_⟩
  intro after hafter later
  have hlater : later = filesAfterAll
      ((generate configuration? output?).filesAfter (filesAfterAll files before)) after :=
    List.foldl_append
  have hgenerated := hfirst.sameBut hp hsame
  have hsameLater : files.SameBut p later := by
    rw [hlater]
    exact sameBut_filesAfterAll hafter hp hgenerated
  have hfindLater : later.find? p = some (.file text.toUTF8) := by
    rw [hlater]
    exact find?_filesAfterAll hafter hp hgenerated hmakes hfind
  have hmakesLater := (Makes.of_sameBut hp hsameLater).mpr hmakes
  refine ⟨hfindLater, ?_, ?_, ?_⟩
  · intro again? hagain
    obtain ⟨q, hq, hfile⟩ := hagain.target again? setup rfl hmakes.prepared
    refine (hmakesLater.result_generate_eq_ok_iff hq).mpr ?_
    exact (result_replaceFile_iff hsameLater hfile).mpr hreplace
  · intro q hfile
    obtain ⟨-, l, hl⟩ := result_replaceFile_eq_ok_iff.mp hreplace
    have hsameFind : later.find? q = later.find? p :=
      (hfile.of_sameBut hsameLater).find? ((hsameLater.target? p).trans hl)
    exact hmakesLater.agrees_runCheck (Tree.read?_of_find? (hsameFind.trans hfindLater))
  · exact agrees_runList hmakesLater.prepared

/-- Files with a configuration that names a header comment and where the library goes. -/
def configuredTree : Tree := ⟨[
  (["convgen.toml"], .file ("[catalog]\ntypes = ['uchar', 'ushort']\nwidths = ['', '2', '4']\n" ++
    "[output]\npath = 'lib.cl'\nheader = 'head.txt'\n").toUTF8),
  (["head.txt"], .file "// Conversions\n".toUTF8)], []⟩

/-- The configuration in these files. -/
def configured : Configuration where
  types? := some [.uchar, .ushort]
  widths? := some [.scalar, .two, .four]
  path? := some ⟨"lib.cl"⟩
  header? := some ⟨"head.txt"⟩

/-- The setup from these files. -/
def configuredSetup : Setup where
  plan := ⟨⟨[.uchar, .ushort], by decide, by decide⟩,
    ⟨[.scalar, .two, .four], by decide, by decide, by decide⟩, .standard⟩
  layout := { Layout.standard with header := "// Conversions\n" }
  output? := some ⟨"./lib.cl"⟩

/-- The text of the configured tree says the configuration that is meant. -/
theorem load_configured :
    (Configuration.load configuredTree none).result = .ok (configured, .here) := by decide +kernel

/-- The setup of the configured tree is the one that is meant. -/
theorem prepare_configured : (Setup.prepare configuredTree none).result = .ok configuredSetup := by
  decide +kernel

/-- The surroundings of the configured library keep out of the way. -/
theorem unobtrusive_configured : configuredSetup.layout.Unobtrusive := by
  obtain ⟨-, -, hincludes, hdecorations, hcomment, hopening, hclosing, hhead⟩ :=
    Layout.unobtrusive_standard
  refine ⟨⟨.start, ?_, rfl, rfl⟩, ?_, hincludes, hdecorations, hcomment, hopening, hclosing, hhead⟩
  · decide +kernel
  · decide +kernel

/-- The library of the configured tree goes to a place of its own. -/
theorem target?_configured : configuredTree.target? ⟨"lib.cl"⟩ = some ["lib.cl"] := by
  decide +kernel

/-- Neither the configuration nor the header comment of the configured tree is read from the
library. -/
theorem independentOf_configured : Setup.IndependentOf configuredTree none ⟨"lib.cl"⟩ := by
  constructor
  · exact (Tree.apart_iff target?_configured).mpr (by decide +kernel)
  · intro c base header hload hheader
    obtain ⟨rfl, rfl⟩ := Prod.mk.inj (Except.ok.inj (load_configured.symm.trans hload))
    obtain rfl := Option.some.inj hheader
    exact (Tree.apart_iff target?_configured).mpr (by decide +kernel)

/-- The configuration and the command line name the same file by different paths. -/
theorem aimsAt_configured {output? : Option Path}
    (h : output? = none ∨ output? = some ⟨"lib.cl"⟩) :
    AimsAt configuredTree none ⟨"lib.cl"⟩ (generate none output?) := by
  have hfile : configuredTree.SameFile ⟨"lib.cl"⟩ ⟨"./lib.cl"⟩ :=
    ⟨by decide +kernel, by decide +kernel⟩
  refine ⟨rfl, ?_⟩
  intro output? setup hgenerate hprepare
  obtain ⟨-, rfl⟩ := generate.inj hgenerate
  obtain rfl := Except.ok.inj (prepare_configured.symm.trans hprepare)
  rcases h with rfl | rfl
  · exact ⟨_, rfl, hfile⟩
  · exact ⟨_, rfl, .refl _ _⟩

/-- A library stays up to date whose configuration names where it goes, and the command line may
name the same file by another path. -/
theorem stays_up_to_date_configured :
    let later := filesAfterAll configuredTree
      [generate none none, list none none, generate none (some ⟨"lib.cl"⟩)]
    ∃ (text : String) (guarded : Nat),
      later.find? ⟨"lib.cl"⟩ = some (.file text.toUTF8) ∧
      ((generate none none).run later).result = .ok () ∧
      ((check none (some ⟨"lib.cl"⟩)).run later).Agrees
        (print (upToDateReport ⟨"lib.cl"⟩ 24 ⟨24, guarded⟩)) := by
  intro later
  obtain ⟨text, summary, hmakes⟩ :=
    exists_makes prepare_configured (by decide) (by decide) unobtrusive_configured
  have hok : ((generate none none).run configuredTree).result = .ok () := by
    refine (hmakes.result_generate_eq_ok_iff (p := ⟨"./lib.cl"⟩) rfl).mpr ?_
    exact result_replaceFile_eq_ok_iff.mpr ⟨by decide +kernel, ["lib.cl"], by decide +kernel⟩
  obtain ⟨setup, made, ⟨functions, guarded⟩, hmakes, hcount, hlater⟩ :=
    stays_up_to_date independentOf_configured (List.forall_mem_nil _)
      (aimsAt_configured (.inl rfl)) hok
  obtain rfl := Except.ok.inj (prepare_configured.symm.trans hmakes.prepared)
  obtain rfl : functions = 24 := hcount (by decide) unobtrusive_configured
  have hafter : ∀ c ∈ [list none none, generate none (some ⟨"lib.cl"⟩)],
      AimsAt configuredTree none ⟨"lib.cl"⟩ c := by
    simp only [List.forall_mem_cons]
    exact ⟨⟨rfl, nofun⟩, aimsAt_configured (.inr rfl), List.forall_mem_nil _⟩
  obtain ⟨hfind, hgenerate, hcheck, -⟩ := hlater _ hafter
  exact ⟨made, guarded, hfind, hgenerate none (aimsAt_configured (.inl rfl)), hcheck _ (.refl _ _)⟩

end Command

end LaneConvert
