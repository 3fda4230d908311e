import LaneConvert.Proofs.Commands.Repetition
import LaneConvert.Proofs.Explanation

/-!
# Lists and explanations describe the library

A list goes through the conversions of a plan, an explanation looks for the first of them with a
name and a source, and a library holds their definitions. All three speak of the same functions,
line by line and one by one, because a name with a source belongs to one conversion only. An
explanation can fail although there is such a conversion: without the intrinsic for single values
there may be no lowering to print.
-/

namespace LaneConvert

open Run Text

/-- The name of a function and its source tell everything about its conversion. -/
theorem Conversion.eq_of_functionName {c d : Conversion} (hname : c.functionName = d.functionName)
    (hsource : c.source = d.source) : c = d := by
  obtain ⟨htarget, hwidth, hsaturation, hrounding⟩ := functionName_inj hname
  exact ext_parts hsource htarget hwidth hsaturation hrounding

/-- A line says of a function what the definition itself says: its result, its name and the type of
its argument. -/
def Describes (decorations : List String) (line : String) (d : Definition) : Prop :=
  ∃ result name argument,
    line = result ++ " " ++ name ++ "(" ++ argument ++ ")" ∧
    [result ++ " " ++ name ++ "(" ++ argument ++ " x)", "\x7b", "  return " ++ d.result.text ++ ";",
      "\x7d"] <:+: d.lines decorations

namespace Command

variable {files : Tree} {configuration? : Option Path} {setup : Setup} {name : String}
  {source : Scalar} {c : Conversion}

/-- The line of a conversion in a list describes its definition, whatever its decorations are. -/
theorem describes_listLine (decorations : List String) (d : Definition) :
    Describes decorations (listLine d.conversion) d := by
  refine ⟨d.conversion.targetType, d.conversion.functionName, d.conversion.sourceType, ?_,
    d.function_infix decorations⟩
  simp only [listLine, Conversion.signature, String.append_assoc]

/-- The lines of a list describe the definitions one after another. -/
theorem forall₂_describes {p : Plan} {definitions : List Definition} (decorations : List String)
    (h : p.definitions = .ok definitions) :
    List.Forall₂ (Describes decorations) (p.conversions.map listLine) definitions := by
  rw [← Plan.map_conversion_definitions h, List.map_map, List.forall₂_map_left_iff,
    List.forall₂_same]
  exact fun d _ => describes_listLine decorations d

/-- The line of a conversion in a list is a single line. -/
theorem oneLine_listLine (c : Conversion) : OneLine (listLine c) := by
  have htarget := oneLine_of_isNameChar c.isNameChar_targetType
  have hname := oneLine_of_isNameChar c.isNameChar_functionName
  have hargument := oneLine_of_isNameChar c.isNameChar_sourceType
  simp +decide [listLine, Conversion.signature, htarget, hname, hargument]

/-- A list is read back line by line. -/
theorem lines_list (listed : List Conversion) :
    Text.lines (joinLines (listed.map listLine)).toList =
      listed.map fun c => (listLine c).toList := by
  have hlines : ∀ line ∈ listed.map listLine, OneLine line := by
    intro line hline
    obtain ⟨c, -, rfl⟩ := List.mem_map.mp hline
    exact oneLine_listLine c
  rw [lines_joinLines hlines, List.map_map]
  rfl

/-- With a filter those conversions are listed whose signature contains the text. -/
theorem agrees_runList_part (h : (Setup.prepare files configuration?).result = .ok setup)
    (part : String) :
    (runList files configuration? (some part)).Agrees
      (print (joinLines ((setup.plan.conversions.filter
        fun c => part.toList <:+: c.signature.toList).map listLine))) := by
  have hlisted : isListed (some part) = fun c => decide (part.toList <:+: c.signature.toList) := by
    funext c
    rw [Bool.eq_iff_iff, decide_eq_true_eq]
    exact contains_iff part.toList c.signature.toList
  rw [← hlisted]
  exact agrees_runList_filter h (some part)

/-- A conversion answers to a name and a source exactly if they are its own. -/
theorem isNamed_iff : isNamed name source c = true ↔ c.functionName = name ∧ c.source = source := by
  simp [isNamed]

/-- The first conversion with a name and a source is the only one. -/
theorem find?_isNamed_eq_some {listed : List Conversion} (hc : c ∈ listed)
    (hname : c.functionName = name) (hsource : c.source = source) :
    listed.find? (isNamed name source) = some c := by
  cases hfind : listed.find? (isNamed name source) with
  | none =>
    rw [List.find?_eq_none] at hfind
    exact absurd (isNamed_iff.mpr ⟨hname, hsource⟩) (hfind c hc)
  | some d =>
    obtain ⟨hdname, hdsource⟩ := isNamed_iff.mp (List.find?_some hfind)
    rw [Conversion.eq_of_functionName (hdname.trans hname.symm) (hdsource.trans hsource.symm)]

/-- Nothing is found under a name and a source exactly if no listed conversion has both. -/
theorem find?_isNamed_eq_none_iff {listed : List Conversion} :
    listed.find? (isNamed name source) = none ↔
      ∀ c ∈ listed, ¬ (c.functionName = name ∧ c.source = source) := by
  simp only [List.find?_eq_none, isNamed_iff]

/-- What is not listed is not explained. -/
theorem agrees_runExplain_unknown (h : (Setup.prepare files configuration?).result = .ok setup)
    (hnone : setup.plan.conversions.find? (isNamed name source) = none) :
    (runExplain files configuration? name source).Agrees
      (fail (.unknownConversion name source)) := by
  refine ((Setup.silent_prepare _ _).bind_of_ok h).trans ?_
  simp only [hnone]
  exact .refl _

/-- What is listed is explained by its lowering. -/
theorem agrees_runExplain_ok {tree : Lowering}
    (h : (Setup.prepare files configuration?).result = .ok setup)
    (hfind : setup.plan.conversions.find? (isNamed name source) = some c)
    (htree : setup.plan.explain c = .ok tree) :
    (runExplain files configuration? name source).Agrees (print tree.text) := by
  refine ((Setup.silent_prepare _ _).bind_of_ok h).trans ?_
  simp only [hfind]
  refine ((silent_ofResult _).bind_of_ok (result_ofLibrary_eq_ok_iff.mpr htree)).trans ?_
  exact (silent_record _ _ _).bind_of_ok rfl

/-- Without a lowering there is no explanation. -/
theorem agrees_runExplain_error {e : LibraryError}
    (h : (Setup.prepare files configuration?).result = .ok setup)
    (hfind : setup.plan.conversions.find? (isNamed name source) = some c)
    (herror : setup.plan.explain c = .error e) :
    (runExplain files configuration? name source).Agrees (fail (.library e)) := by
  refine ((Setup.silent_prepare _ _).bind_of_ok h).trans ?_
  simp only [hfind]
  exact (silent_ofResult _).bind_of_error (result_ofLibrary_of_error herror)

/-- No conversion is found exactly if an explanation says so. -/
theorem runExplain_eq_unknown_iff (h : (Setup.prepare files configuration?).result = .ok setup) :
    (runExplain files configuration? name source).result =
        .error (.unknownConversion name source) ↔
      ∀ c ∈ setup.plan.conversions, ¬ (c.functionName = name ∧ c.source = source) := by
  rw [← find?_isNamed_eq_none_iff]
  constructor
  · intro hunknown
    cases hfind : setup.plan.conversions.find? (isNamed name source) with
    | none => rfl
    | some c =>
      cases hexplain : setup.plan.explain c with
      | ok tree => cases (agrees_runExplain_ok h hfind hexplain).result.symm.trans hunknown
      | error e => cases (agrees_runExplain_error h hfind hexplain).result.symm.trans hunknown
  · exact fun hnone => (agrees_runExplain_unknown h hnone).result

/-- The lines of all definitions are at the end of a library. -/
theorem render_of_definitions {p : Plan} {definitions : List Definition} (l : Layout)
    (h : p.definitions = .ok definitions) :
    ∃ front, p.render l =
      .ok (front ++ joinLines (definitions.flatMap fun d => d.lines l.decorations)) := by
  refine ⟨l.headerText ++ "\n" ++ joinLines (l.includeLines ++
    Layout.preludeLines p.catalog .fp64 ++ Layout.preludeLines p.catalog .int64), ?_⟩
  refine Plan.render_eq_ok_iff.mpr ⟨definitions, h, ?_⟩
  rw [Layout.text, Layout.lines, joinLines_append]
  exact String.append_assoc.symm

/-- What a generation hands over is the text of the plan. -/
theorem delivered_of_generate {output? : Option Path} {text : String}
    (h : (Setup.prepare files configuration?).result = .ok setup)
    (hrender : setup.plan.render setup.layout = .ok text)
    (hok : ((generate configuration? output?).run files).result = .ok ()) :
    Delivered files ((generate configuration? output?).filesAfter files)
      ((generate configuration? output?).run files).printed (output?.or setup.output?) text := by
  obtain ⟨made, found, summary, hmakes, hdelivered⟩ := runGenerate_ok hok
  obtain rfl := Except.ok.inj (h.symm.trans hmakes.prepared)
  obtain rfl := Except.ok.inj (hrender.symm.trans hmakes.rendered)
  exact hdelivered

/-- Lists, explanations and libraries describe the same functions, whenever a configuration can be
set up. A list without a filter has a line for each conversion, with a filter it has those lines in
the same order whose signatures contain the text. If all conversions can be defined, the lines of
the list and the definitions in the library that is generated describe each other one by one. A name
and a source belong to one conversion at most. An explanation reports them as unknown exactly if
there is none, and otherwise ends as the lowering of that conversion does: it prints the lowering,
which is there if all conversions can be defined, or it fails because single values have no
expression. -/
theorem commands_describe {files : Tree} {configuration? : Option Path} {setup : Setup}
    (h : (Setup.prepare files configuration?).result = .ok setup) :
    (∃ listed : List String,
      listed = (setup.plan.conversions.map fun c => c.targetType ++ " " ++ c.signature) ∧
      ((list configuration? none).run files).Agrees (print (joinLines listed)) ∧
      Text.lines (joinLines listed).toList = listed.map String.toList ∧
      ∀ definitions, setup.plan.definitions = .ok definitions →
        List.Forall₂ (Describes setup.layout.decorations) listed definitions ∧
        ∃ front text, text = front ++
            joinLines (definitions.flatMap fun d => d.lines setup.layout.decorations) ∧
          setup.plan.render setup.layout = .ok text ∧
          ∀ output?, ((generate configuration? output?).run files).result = .ok () →
            Delivered files ((generate configuration? output?).filesAfter files)
              ((generate configuration? output?).run files).printed (output?.or setup.output?)
              text) ∧
    (∀ part : String, ((list configuration? (some part)).run files).Agrees
      (print (joinLines ((setup.plan.conversions.filter
        fun c => part.toList <:+: c.signature.toList).map
          fun c => c.targetType ++ " " ++ c.signature)))) ∧
    ∀ name source,
      (∀ c ∈ setup.plan.conversions, c.functionName = name → c.source = source →
        ∀ d ∈ setup.plan.conversions, d.functionName = name → d.source = source → d = c) ∧
      (((explain configuration? name source).run files).result =
          .error (.unknownConversion name source) ↔
        ∀ c ∈ setup.plan.conversions, ¬ (c.functionName = name ∧ c.source = source)) ∧
      ∀ c ∈ setup.plan.conversions, c.functionName = name → c.source = source →
        (∀ tree, setup.plan.explain c = .ok tree → tree.conversion = c ∧
          ((explain configuration? name source).run files).Agrees (print tree.text)) ∧
        (∀ e, setup.plan.explain c = .error e → e = .noLowering (c.atWidth .scalar) ∧
          ((explain configuration? name source).run files).Agrees (fail (.library e))) ∧
        ((∃ definitions, setup.plan.definitions = .ok definitions) →
          ∃ tree, setup.plan.explain c = .ok tree) := by
  refine ⟨?_, agrees_runList_part h, ?_⟩
  · refine ⟨setup.plan.conversions.map listLine, rfl, agrees_runList h, ?_, ?_⟩
    · rw [lines_list, List.map_map]
      rfl
    · intro definitions hdefinitions
      obtain ⟨front, hrender⟩ := render_of_definitions setup.layout hdefinitions
      exact ⟨forall₂_describes _ hdefinitions, front, _, rfl, hrender,
        fun _ hok => delivered_of_generate h hrender hok⟩
  · intro name source
    refine ⟨?_, runExplain_eq_unknown_iff h, ?_⟩
    · intro c _ hname hsource d _ hdname hdsource
      exact Conversion.eq_of_functionName (hdname.trans hname.symm) (hdsource.trans hsource.symm)
    · intro c hc hname hsource
      have hfind := find?_isNamed_eq_some hc hname hsource
      refine ⟨?_, ?_, fun hdefinitions => Plan.exists_explain_of_definitions hdefinitions hc⟩
      · intro tree htree
        exact ⟨(Plan.explain_eq_ok_iff.mp htree).conversion_eq,
          agrees_runExplain_ok h hfind htree⟩
      · intro e herror
        obtain ⟨-, -, he⟩ := Plan.of_explain_eq_error (mem_conversions.mp hc).2.2 herror
        exact ⟨he, agrees_runExplain_error h hfind herror⟩

/-- A list, an explanation and a library of the same configuration. -/
theorem commands_describe_configured :
    ((list none (some "uchar_sat(")).run configuredTree).Agrees
      (print "uchar convert_uchar_sat(uchar)\nuchar convert_uchar_sat(ushort)\n") ∧
    ((explain none "convert_uchar2_sat" .ushort).run configuredTree).Agrees
      (print ("convert_uchar2_sat(ushort2) = " ++
        "(uchar2)(convert_uchar_sat(x.lo), convert_uchar_sat(x.hi))\n" ++
        "  convert_uchar_sat(ushort) = (uchar)(min(x, (ushort)UCHAR_MAX))\n" ++
        "  convert_uchar_sat(ushort) = (uchar)(min(x, (ushort)UCHAR_MAX))\n")) ∧
    ((explain none "convert_uchar2_rtz" .ushort).run configuredTree).result =
      .error (.unknownConversion "convert_uchar2_rtz" .ushort) ∧
    ∃ listed definitions, ((list none none).run configuredTree).Agrees (print (joinLines listed)) ∧
      listed.length = 24 ∧ configuredSetup.plan.definitions = .ok definitions ∧
      List.Forall₂ (Describes ["_CLC_DEF", "_CLC_OVERLOAD"]) listed definitions := by
  obtain ⟨⟨listed, hlisted, hlist, -, hlibrary⟩, hpart, hexplain⟩ :=
    commands_describe prepare_configured
  refine ⟨?_, ?_, ?_, ?_⟩
  · have htwo := hpart "uchar_sat("
    convert htwo using 2
    decide +kernel
  · let c : Conversion := ⟨.ushort, .uchar, .two, .on, .implied, by decide⟩
    have hc : c ∈ configuredSetup.plan.conversions := by decide +kernel
    have htext : (configuredSetup.plan.explain c).map Lowering.text =
        .ok ("convert_uchar2_sat(ushort2) = " ++
          "(uchar2)(convert_uchar_sat(x.lo), convert_uchar_sat(x.hi))\n" ++
          "  convert_uchar_sat(ushort) = (uchar)(min(x, (ushort)UCHAR_MAX))\n" ++
          "  convert_uchar_sat(ushort) = (uchar)(min(x, (ushort)UCHAR_MAX))\n") := by
      decide +kernel
    obtain ⟨-, -, hone⟩ := hexplain "convert_uchar2_sat" .ushort
    obtain ⟨hprints, -, -⟩ := hone c hc (by decide) rfl
    cases htree : configuredSetup.plan.explain c with
    | error e =>
      rw [htree] at htext
      cases htext
    | ok tree =>
      rw [htree] at htext
      rw [← Except.ok.inj htext]
      exact (hprints tree htree).2
  · exact (hexplain "convert_uchar2_rtz" .ushort).2.1.mpr (by decide +kernel)
  · obtain ⟨definitions, hdefinitions⟩ :=
      Plan.exists_definitions (p := configuredSetup.plan) (by decide)
    refine ⟨listed, definitions, hlist, ?_, hdefinitions, (hlibrary definitions hdefinitions).1⟩
    rw [hlisted, List.length_map]
    decide +kernel

/-- Integers and floating point with intrinsics for pairs only. -/
def pairedTree : Tree := ⟨[(["convgen.toml"], .file ("[catalog]\ntypes = ['int', 'float']\n" ++
  "widths = ['']\n[primitives]\nwidths = ['2']\n").toUTF8)], []⟩

/-- A listed conversion is not explained whose single values have no expression. -/
theorem listed_but_not_explained :
    ∃ setup, (Setup.prepare pairedTree none).result = .ok setup ∧
      ∃ c ∈ setup.plan.conversions, c.functionName = "convert_float_rtz" ∧ c.source = .int ∧
        ((explain none "convert_float_rtz" .int).run pairedTree).Agrees
          (fail (.library (.noLowering c))) := by
  let setup : Setup := ⟨⟨⟨[.int, .float], by decide, by decide⟩,
    ⟨[.scalar], by decide, by decide, by decide⟩, .of "__spirv_" [.two]⟩, .standard, none⟩
  let c : Conversion := ⟨.int, .float, .scalar, .off, .towardZero, by decide⟩
  have hprepare : (Setup.prepare pairedTree none).result = .ok setup := by decide +kernel
  have hc : c ∈ setup.plan.conversions := by decide +kernel
  have herror : setup.plan.explain c = .error (.noLowering c) := by decide +kernel
  have hname : c.functionName = "convert_float_rtz" := by decide
  have hfind := find?_isNamed_eq_some hc hname rfl
  exact ⟨setup, hprepare, c, hc, hname, rfl, agrees_runExplain_error hprepare hfind herror⟩

end Command

end LaneConvert
