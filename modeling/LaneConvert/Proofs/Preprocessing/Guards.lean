import LaneConvert.Proofs.Definitions
import LaneConvert.Proofs.Library.Acceptance
import LaneConvert.Proofs.Preprocessing.Directives

/-!
# Guards under preprocessing

A definition is compiled exactly where both of its types are available. One guard for each
definition is enough: the prelude of double precision stops the compiler where 64-bit integers are
missing beside it. What a compiled definition calls is compiled as well, because calls stay within
the two types of their caller.
-/

namespace LaneConvert

open Text Preprocessing

/-- Whether a scalar type is available to the compiler. -/
def Scalar.isAvailable (macros : Macros) : Scalar → Bool
  | .double => macros "cl_khr_fp64"
  | .long | .ulong => macros "cles_khr_int64" || !macros "__EMBEDDED_PROFILE__"
  | _ => true

/-- Whether the compiler supports an extension. -/
def Extension.isSupported (macros : Macros) : Extension → Bool
  | .fp64 => macros "cl_khr_fp64"
  | .int64 => macros "cles_khr_int64" || !macros "__EMBEDDED_PROFILE__"

/-- Whether both types of a definition are available. -/
def Definition.isAvailable (macros : Macros) (d : Definition) : Bool :=
  d.conversion.source.isAvailable macros && d.conversion.target.isAvailable macros

/-- Whether the compiler supports double precision, which the catalog needs, but no 64-bit
integers. -/
def Catalog.isRefused (c : Catalog) (macros : Macros) : Bool :=
  c.requires .fp64 && Extension.fp64.isSupported macros && !Extension.int64.isSupported macros

variable {macros : Macros}

/-- A type is available exactly if the extension it depends on is supported. -/
theorem Scalar.isAvailable_eq (t : Scalar) :
    t.isAvailable macros = t.extension?.all (Extension.isSupported macros) := by
  cases t <;> rfl

/-- The one guard of a conversion stands for both of its types, unless there is double precision
without 64-bit integers. -/
theorem all_guard? {source target : Scalar}
    (h : source.extension? = some .fp64 ∨ target.extension? = some .fp64 →
      Extension.fp64.isSupported macros = true → Extension.int64.isSupported macros = true) :
    (guard? source target).all (Extension.isSupported macros) =
      (source.isAvailable macros && target.isAvailable macros) := by
  rw [Scalar.isAvailable_eq, Scalar.isAvailable_eq, guard?]
  generalize source.extension? = a at h ⊢
  generalize target.extension? = b at h ⊢
  rcases a with - | (- | -) <;> rcases b with - | (- | -) <;>
    simp_all [Extension.merge?]

/-- A catalog needs the extensions that its types depend on. -/
theorem Catalog.requires_of_mem {c : Catalog} {t : Scalar} {e : Extension} (ht : t ∈ c.types)
    (he : t.extension? = some e) : c.requires e = true := by
  rw [requires, List.any_eq_true]
  exact ⟨t, ht, by simpa using he⟩

/-- The guard of a definition holds exactly if both types are available. -/
theorem Plan.all_guard_of_mem {p : Plan} {definitions : List Definition} {d : Definition}
    (h : p.definitions = .ok definitions) (hd : d ∈ definitions)
    (haccepted : p.catalog.isRefused macros = false) :
    d.guard?.all (Extension.isSupported macros) = d.isAvailable macros := by
  obtain ⟨hsource, htarget, -⟩ := mem_conversions.mp (conversion_mem h hd)
  rw [guard_of_mem h hd, Definition.isAvailable]
  apply all_guard?
  intro hdouble hfp64
  have hrequires : p.catalog.requires .fp64 = true := by
    rcases hdouble with he | he
    · exact Catalog.requires_of_mem hsource he
    · exact Catalog.requires_of_mem htarget he
  simpa [Catalog.isRefused, hrequires, hfp64] using haccepted

/-- The lines of several functions, without their guards. -/
def Definition.functionLines (decorations : List String) (definitions : List Definition) :
    List (List Char) :=
  definitions.flatMap fun d => (d.bodyLines decorations).map String.toList

namespace Extension

/-- The line behind a guarded definition is the directive that closes a conditional. -/
theorem directive?_closing : directive? closing.toList = some ("endif", []) := by decide

/-- A guard lets lines count exactly if the extension is supported. -/
theorem directive?_opening (macros : Macros) (e : Extension) :
    ∃ word argument, directive? e.opening.toList = some (word, argument) ∧
      behind macros [] word argument = .ok [e.isSupported macros] := by
  cases e with
  | fp64 =>
    have htokens : tokens [] " cl_khr_fp64".toList = [.word "cl_khr_fp64"] := by decide
    refine ⟨"ifdef", " cl_khr_fp64".toList, by decide, ?_⟩
    rw [behind, if_pos rfl, htokens]
    rfl
  | int64 =>
    have htokens : tokens [] " defined cles_khr_int64 || !defined(__EMBEDDED_PROFILE__)".toList =
        [.word "defined", .word "cles_khr_int64", .or, .not, .word "defined", .opening,
          .word "__EMBEDDED_PROFILE__", .closing] := by decide
    refine ⟨"if", " defined cles_khr_int64 || !defined(__EMBEDDED_PROFILE__)".toList, by decide, ?_⟩
    have hcondition : condition? macros [.word "defined", .word "cles_khr_int64", .or, .not,
        .word "defined", .opening, .word "__EMBEDDED_PROFILE__", .closing] =
        some (macros "cles_khr_int64" && true ||
          (!macros "__EMBEDDED_PROFILE__" && true || false)) := rfl
    rw [Bool.and_true, Bool.and_true, Bool.or_false] at hcondition
    rw [behind, if_neg (by decide), if_pos rfl, htokens, hcondition]
    rfl

end Extension

namespace Definition

variable {decorations : List String}

/-- No head of a function is a directive. -/
theorem directive?_signatureLine (d : Definition) : directive? d.signatureLine.toList = none := by
  obtain ⟨first, rest, htype⟩ :=
    List.exists_cons_of_ne_nil d.conversion.isOneWord_targetType.ne_nil
  have hname := d.conversion.isNameChar_targetType first (htype ▸ List.mem_cons_self)
  have hline : d.signatureLine.toList = first :: (rest ++ (" " ++ d.conversion.functionName ++
      "(" ++ d.conversion.sourceType ++ " x)").toList) := by
    simp [signatureLine, htype]
  rw [hline]
  refine directive?_cons_of_ne (isBlank_of_isNameChar hname) ?_ _
  rintro rfl
  exact absurd hname (by decide)

/-- No line of a function is a directive, unless its decorations begin like one. -/
theorem directive?_bodyLines
    (hdecorations : (trim (" ".intercalate decorations).toList).head? ≠ some '#')
    (d : Definition) :
    ∀ line ∈ (d.bodyLines decorations).map String.toList, directive? line = none := by
  intro line hline
  obtain ⟨text, htext, rfl⟩ := List.mem_map.mp hline
  rcases List.mem_append.mp htext with htext | htext
  · unfold decorationLines at htext
    split at htext
    · cases htext
    · obtain rfl := List.mem_singleton.mp htext
      exact directive?_of_head?_trim hdecorations
  · simp only [List.mem_cons, List.not_mem_nil, or_false] at htext
    rcases htext with rfl | rfl | rfl | rfl
    · exact d.directive?_signatureLine
    · decide
    · rw [String.toList_append, String.toList_append]
      rfl
    · decide

/-- A definition counts as a whole or not at all, as its guard says. -/
theorem passes_lines (macros : Macros)
    (hdecorations : (trim (" ".intercalate decorations).toList).head? ≠ some '#')
    (d : Definition) :
    Passes macros [] ((d.lines decorations).map String.toList)
      (if d.guard?.all (Extension.isSupported macros) then
        (d.bodyLines decorations).map String.toList else []) := by
  have hbody : ∀ levels, Passes macros levels ((d.bodyLines decorations).map String.toList) _ :=
    fun levels => .of_plain (d.directive?_bodyLines hdecorations)
  unfold lines
  cases hguard : d.guard? with
  | none => exact hbody []
  | some e =>
    obtain ⟨word, argument, hopening, hbehind⟩ := e.directive?_opening macros
    have hinside := hbody [e.isSupported macros]
    have hactive : isActive [e.isSupported macros] = e.isSupported macros := Bool.and_true _
    rw [hactive] at hinside
    dsimp only
    rw [List.map_append, List.map_cons]
    exact .conditional hopening hbehind hinside Extension.directive?_closing

end Definition

/-- Of several definitions those count whose types are available. -/
theorem Plan.passes_definitions {p : Plan} {definitions : List Definition}
    {decorations : List String}
    (hdecorations : (trim (" ".intercalate decorations).toList).head? ≠ some '#')
    (h : p.definitions = .ok definitions) (haccepted : p.catalog.isRefused macros = false) :
    Passes macros [] ((definitions.flatMap fun d => d.lines decorations).map String.toList)
      (Definition.functionLines decorations
        (definitions.filter (Definition.isAvailable macros))) := by
  have hguards : ∀ d ∈ definitions,
      d.guard?.all (Extension.isSupported macros) = d.isAvailable macros :=
    fun d hd => all_guard_of_mem h hd haccepted
  clear h
  induction definitions with
  | nil => exact .nil macros []
  | cons d rest ih =>
    rw [List.forall_mem_cons] at hguards
    have hfirst := d.passes_lines macros hdecorations
    rw [hguards.1] at hfirst
    rw [List.flatMap_cons, List.map_append]
    have hall := hfirst.append (ih hguards.2)
    cases havailable : d.isAvailable macros with
    | false => simpa [Definition.functionLines, havailable] using hall
    | true => simpa [Definition.functionLines, havailable] using hall

namespace Layout

/-- A line that includes a header is a directive, whatever the header is called. -/
theorem directive?_includeLine (header : String) :
    ∃ argument, directive? ("#include <" ++ header ++ ">").toList = some ("include", argument) := by
  have hline : ("#include <" ++ header ++ ">").toList =
      "#include <".toList ++ (header.toList ++ ['>']) := by simp
  rw [hline]
  exact ⟨_, rfl⟩

/-- The lines that include headers vanish. -/
theorem vanishes_includeLines (macros : Macros) (l : Layout) :
    Vanishes macros [] (l.includeLines.map String.toList) := by
  have hgroup : ∀ a, Vanishes macros [] a → Vanishes macros []
      ((l.includes.map fun header => "#include <" ++ header ++ ">").map String.toList ++ a) := by
    intro a ha
    induction l.includes with
    | nil => exact ha
    | cons header rest ih =>
      obtain ⟨argument, hinclude⟩ := directive?_includeLine header
      exact .cons_directive hinclude rfl ih
  unfold includeLines setOff
  split
  · exact .nil macros []
  · rw [List.map_append]
    exact hgroup _ (.cons_empty (.nil macros []))

/-- The pragma of the double-precision prelude is a directive of no effect. -/
theorem directive?_pragma :
    directive? "#pragma OPENCL EXTENSION cl_khr_fp64 : enable".toList =
      some ("pragma", " OPENCL EXTENSION cl_khr_fp64 : enable".toList) := by decide

/-- The condition of the double-precision prelude is on the profile and on 64-bit integers. -/
theorem directive?_profile :
    directive? "#if defined(__EMBEDDED_PROFILE__) && !defined(cles_khr_int64)".toList =
      some ("if", " defined(__EMBEDDED_PROFILE__) && !defined(cles_khr_int64)".toList) := by decide

/-- The line that stops the compiler is a directive. -/
theorem directive?_error :
    directive? ("#error Embedded profile that supports cl_khr_fp64 also has to support " ++
        "cles_khr_int64").toList =
      some ("error", (" Embedded profile that supports cl_khr_fp64 also has to support " ++
        "cles_khr_int64").toList) := by decide

/-- The inner conditional of the prelude of double precision holds where that is supported without
64-bit integers. -/
theorem behind_profile (macros : Macros) (holds : Bool) :
    behind macros [holds] "if"
        " defined(__EMBEDDED_PROFILE__) && !defined(cles_khr_int64)".toList =
      .ok [holds && !Extension.int64.isSupported macros, holds] := by
  have htokens : tokens [] " defined(__EMBEDDED_PROFILE__) && !defined(cles_khr_int64)".toList =
      [.word "defined", .opening, .word "__EMBEDDED_PROFILE__", .closing, .and, .not,
        .word "defined", .opening, .word "cles_khr_int64", .closing] := by decide
  have hcondition : condition? macros [.word "defined", .opening, .word "__EMBEDDED_PROFILE__",
      .closing, .and, .not, .word "defined", .opening, .word "cles_khr_int64", .closing] =
      some (macros "__EMBEDDED_PROFILE__" && (!macros "cles_khr_int64" && true) || false) := rfl
  rw [behind, if_neg (by decide), if_pos rfl, htokens, hcondition]
  cases holds with
  | false => rfl
  | true => simp [opened, isActive, Extension.isSupported, Bool.and_comm]

/-- The prelude of 64-bit integers vanishes. -/
theorem vanishes_int64 :
    Vanishes macros [] ((setOff Extension.int64.preludeLines).map String.toList) := by
  have hopening : directive? "#ifdef cles_khr_int64".toList =
      some ("ifdef", " cles_khr_int64".toList) := by decide
  have hpragma : directive? "#pragma OPENCL EXTENSION cles_khr_int64 : enable".toList =
      some ("pragma", " OPENCL EXTENSION cles_khr_int64 : enable".toList) := by decide
  have htokens : tokens [] " cles_khr_int64".toList = [.word "cles_khr_int64"] := by decide
  have hbehind : behind macros [] "ifdef" " cles_khr_int64".toList =
      .ok [macros "cles_khr_int64"] := by
    rw [behind, if_pos rfl, htokens]
    rfl
  change Vanishes macros [] ((_ :: [_] ++ [_]) ++ [_])
  refine .append ?_ (.cons_empty (.nil macros []))
  refine .conditional hopening hbehind ?_ Extension.directive?_closing
  exact .cons_directive hpragma rfl (.nil macros _)

/-- The prelude of double precision leaves only empty lines where the compiler is not stopped, since
the directive that would stop it is not reached there. -/
theorem vanishes_fp64
    (h : (Extension.fp64.isSupported macros && !Extension.int64.isSupported macros) = false) :
    Vanishes macros [] ((setOff Extension.fp64.preludeLines).map String.toList) := by
  obtain ⟨word, argument, hopening, hbehind⟩ := Extension.fp64.directive?_opening macros
  have hprofile := behind_profile macros (Extension.fp64.isSupported macros)
  rw [h] at hprofile
  change Vanishes macros [] ((_ :: (_ :: _ :: ((_ :: [_] ++ [_]) ++ [_])) ++ [_]) ++ [_])
  refine .append ?_ (.cons_empty (.nil macros []))
  refine .conditional hopening hbehind ?_ Extension.directive?_closing
  refine .cons_directive directive?_pragma rfl (.cons_empty ?_)
  refine .append ?_ (.cons_empty (.nil macros _))
  refine .conditional directive?_profile hprofile ?_ Extension.directive?_closing
  exact .cons_directive directive?_error rfl (.nil macros _)

/-- The preludes leave only empty lines where the compiler is not stopped. -/
theorem vanishes_preludeLines {catalog : Catalog} (haccepted : catalog.isRefused macros = false)
    (e : Extension) : Vanishes macros [] ((preludeLines catalog e).map String.toList) := by
  unfold preludeLines
  split
  · next hrequires =>
    cases e with
    | int64 => exact vanishes_int64
    | fp64 =>
      rw [Catalog.isRefused, hrequires, Bool.true_and] at haccepted
      exact vanishes_fp64 haccepted
  · exact .nil macros []

/-- Where the catalog is refused, the prelude of double precision stops the compiler. -/
theorem stops_preludeLines {catalog : Catalog} (hrefused : catalog.isRefused macros = true) :
    Stops macros [] ((preludeLines catalog .fp64).map String.toList) := by
  simp only [Catalog.isRefused, Bool.and_eq_true, Bool.not_eq_true'] at hrefused
  obtain ⟨⟨hrequires, hfp64⟩, hint64⟩ := hrefused
  obtain ⟨word, argument, hopening, hbehind⟩ := Extension.fp64.directive?_opening macros
  have hprofile := behind_profile macros true
  rw [hfp64] at hbehind
  rw [hint64] at hprofile
  rw [preludeLines, if_pos hrequires]
  change Stops macros [] (_ :: _ :: _ :: _ :: _ :: _)
  refine .cons_directive hopening hbehind ?_
  refine .cons_directive directive?_pragma rfl (.cons_plain rfl ?_)
  refine .cons_directive directive?_profile hprofile ?_
  exact .cons_error directive?_error rfl _

end Layout

namespace Definition

/-- A definition survives if its lines stand in a text one behind another. -/
def Survives (d : Definition) (decorations : List String) (kept : List (List Char)) : Prop :=
  (d.bodyLines decorations).map String.toList <:+: kept

/-- The line that names a function names its conversion. -/
theorem conversion_of_signatureLine {d e : Definition}
    (h : d.signatureLine.toList = e.signatureLine.toList) : d.conversion = e.conversion := by
  have hd := Line.signature?_eq_some_iff.mpr d.isHead_signatureLine
  have he := Line.signature?_eq_some_iff.mpr e.isHead_signatureLine
  rw [h] at hd
  obtain ⟨hname, hargument⟩ := Prod.mk.inj (Option.some.inj (hd.symm.trans he))
  apply Conversion.signature_inj
  rw [Conversion.signature, Conversion.signature, hname, hargument]

/-- A line without parentheses is no head of a function. -/
theorem signatureLine_ne {d : Definition} {line : List Char} (h : '(' ∉ line) :
    line ≠ d.signatureLine.toList := by
  rintro rfl
  exact h (by simp [signatureLine])

/-- Where a text goes on with a brace behind the line that names a function, that function is one of
a list. -/
def NamedIn (definitions : List Definition) (line next : List Char) : Prop :=
  ∀ d : Definition, line = d.signatureLine.toList → next = ['\x7b'] →
    ∃ e ∈ definitions, e.conversion = d.conversion

/-- A line without parentheses can be put in front of lines whose heads are those of definitions. -/
theorem isChain_cons {definitions : List Definition} {line : List Char} {rest : List (List Char)}
    (hline : '(' ∉ line) (h : rest.IsChain (NamedIn definitions)) :
    (line :: rest).IsChain (NamedIn definitions) :=
  h.cons fun _ _ _ hname => absurd hname (signatureLine_ne hline)

/-- Functions that stand one behind another name only themselves. -/
theorem isChain_functionLines (decorations : List String) {definitions all : List Definition}
    (h : definitions ⊆ all) :
    (functionLines decorations definitions).IsChain (NamedIn all) := by
  induction definitions with
  | nil => exact .nil
  | cons d rest ih =>
    rw [List.cons_subset] at h
    rw [functionLines, List.flatMap_cons, ← functionLines]
    generalize functionLines decorations rest = more at ih
    have hend : (['\x7d'] :: more).IsChain (NamedIn all) := isChain_cons (by decide) (ih h.2)
    have hreturn : (("  return " ++ d.result.text ++ ";").toList :: ['\x7d'] :: more).IsChain
        (NamedIn all) := by
      refine List.isChain_cons_cons.mpr ⟨?_, hend⟩
      intro e _ hbrace
      exact absurd hbrace (by decide)
    have hhead : (d.signatureLine.toList :: ['\x7b'] ::
        ("  return " ++ d.result.text ++ ";").toList :: ['\x7d'] :: more).IsChain
        (NamedIn all) := by
      refine List.isChain_cons_cons.mpr ⟨?_, isChain_cons (by decide) hreturn⟩
      intro e hname _
      exact ⟨d, h.1, conversion_of_signatureLine hname⟩
    unfold bodyLines decorationLines
    split
    · exact hhead
    · refine List.isChain_cons_cons.mpr ⟨?_, hhead⟩
      intro e _ hbrace
      exact absurd hbrace.symm (signatureLine_ne (by decide))

variable {d : Definition} {decorations : List String} {front : List (List Char)}
  {definitions : List Definition}

/-- A definition whose function is written survives. -/
theorem survives_of_mem (h : d ∈ definitions) :
    d.Survives decorations (front ++ functionLines decorations definitions) := by
  obtain ⟨before, after, rfl⟩ := List.append_of_mem h
  rw [functionLines, List.flatMap_append, List.flatMap_cons, ← List.append_assoc]
  exact List.infix_append' _ _ _

/-- Behind empty lines only functions of the list survive. -/
theorem exists_of_survives (hfront : ∀ line ∈ front, line = [])
    (h : d.Survives decorations (front ++ functionLines decorations definitions)) :
    ∃ e ∈ definitions, e.conversion = d.conversion := by
  have hchain : (front ++ functionLines decorations definitions).IsChain
      (NamedIn definitions) := by
    clear h
    induction front with
    | nil => exact isChain_functionLines decorations (List.Subset.refl _)
    | cons line rest ih =>
      rw [List.forall_mem_cons] at hfront
      exact isChain_cons (by simp [hfront.1]) (ih hfront.2)
  have hhead : [d.signatureLine.toList, ['\x7b']] <:+:
      (d.bodyLines decorations).map String.toList :=
    ⟨(decorationLines decorations).map String.toList,
      [("  return " ++ d.result.text ++ ";").toList, ['\x7d']], by simp [bodyLines]⟩
  have hnamed : List.IsChain (NamedIn definitions) [d.signatureLine.toList, ['\x7b']] :=
    List.IsChain.infix hchain (hhead.trans h)
  exact (List.isChain_cons_cons.mp hnamed).1 d rfl rfl

/-- Of the functions of a list, those survive whose types are available. -/
theorem survives_filter_iff (hfront : ∀ line ∈ front, line = []) (hd : d ∈ definitions) :
    d.Survives decorations
        (front ++ functionLines decorations (definitions.filter (isAvailable macros))) ↔
      d.isAvailable macros = true := by
  constructor
  · intro h
    obtain ⟨e, he, hconversion⟩ := exists_of_survives hfront h
    have havailable := (List.mem_filter.mp he).2
    rwa [isAvailable, hconversion] at havailable
  · intro h
    exact survives_of_mem (List.mem_filter.mpr ⟨hd, h⟩)

end Definition

section Libraries

variable {p : Plan} {l : Layout} {definitions : List Definition}

/-- Where the catalog is refused, the compiler is stopped in front of all definitions. -/
theorem Layout.preprocess_of_refused {catalog : Catalog}
    (hlines : ∀ line ∈ l.lines catalog definitions, OneLine line)
    (hrefused : catalog.isRefused macros = true) :
    preprocess macros (l.behindHeader catalog definitions) = .error .stopped := by
  apply Stops.preprocess
  obtain ⟨kept, hincludes, -⟩ := l.vanishes_includeLines macros
  rw [lines_behindHeader hlines, lines, List.map_append, List.map_append, List.map_append]
  refine .cons_plain rfl (.append (.append ?_ _) _)
  exact hincludes.stops (stops_preludeLines hrefused)

/-- Where the catalog is not refused, the functions are compiled whose types are available. -/
theorem Plan.preprocess_of_accepted
    (hlines : ∀ line ∈ l.lines p.catalog definitions, OneLine line)
    (hplain : (trim (" ".intercalate l.decorations).toList).head? ≠ some '#')
    (h : p.definitions = .ok definitions) (haccepted : p.catalog.isRefused macros = false) :
    ∃ front, (∀ line ∈ front, line = []) ∧
      preprocess macros (l.behindHeader p.catalog definitions) =
        .ok (front ++ Definition.functionLines l.decorations
          (definitions.filter (Definition.isAvailable macros))) := by
  have hvanishes : Vanishes macros [] ([] :: (l.includeLines.map String.toList ++
      (Layout.preludeLines p.catalog .fp64).map String.toList ++
      (Layout.preludeLines p.catalog .int64).map String.toList)) :=
    .cons_empty (((l.vanishes_includeLines macros).append
      (Layout.vanishes_preludeLines haccepted .fp64)).append
      (Layout.vanishes_preludeLines haccepted .int64))
  obtain ⟨front, hfront, hempty⟩ := hvanishes
  refine ⟨front, hempty, ?_⟩
  apply Passes.preprocess
  rw [Layout.lines_behindHeader hlines, Layout.lines, List.map_append, List.map_append,
    List.map_append, ← List.cons_append]
  exact hfront.append (p.passes_definitions hplain h haccepted)

/-- What a compiler makes of a library behind its header. It is stopped exactly where the catalog
needs double precision and that is supported without 64-bit integers. Otherwise only lines of
functions are left, empty lines in front of them aside. A definition survives exactly if both of its
types are available, and then so does every function that it calls, which has the same types. -/
theorem preprocess_render {text : String} (hstem : OneLine p.intrinsics.stem)
    (hheader : l.header = "" ∨ l.header = Layout.standard.header)
    (hincludes : ∀ header ∈ l.includes, OneLine header)
    (hdecorations : ∀ word ∈ l.decorations, OneLine word)
    (hplain : (trim (" ".intercalate l.decorations).toList).head? ≠ some '#')
    (h : p.render l = .ok text) :
    ∃ definitions rest, p.definitions = .ok definitions ∧ text = l.header ++ rest ∧
      ∀ macros,
        (preprocess macros rest = .error .stopped ↔ p.catalog.isRefused macros = true) ∧
        (preprocess macros rest ≠ .error .stopped →
          ∃ front kept, preprocess macros rest = .ok kept ∧ (∀ line ∈ front, line = []) ∧
            kept = front ++ Definition.functionLines l.decorations
              (definitions.filter (Definition.isAvailable macros)) ∧
            ∀ d ∈ definitions,
              (d.Survives l.decorations kept ↔
                d.conversion.source.isAvailable macros = true ∧
                  d.conversion.target.isAvailable macros = true) ∧
              (d.Survives l.decorations kept →
                ∀ site ∈ d.result.callSites, ∃ callee ∈ definitions,
                  d.requested? site = some callee.conversion.signature ∧
                    callee.Survives l.decorations kept)) := by
  obtain ⟨definitions, hdefinitions, rfl⟩ := Plan.render_eq_ok_iff.mp h
  have hlines : ∀ line ∈ l.lines p.catalog definitions, OneLine line :=
    Layout.oneLine_lines hincludes hdecorations (Plan.oneLine_results hstem hdefinitions)
  refine ⟨definitions, l.behindHeader p.catalog definitions, hdefinitions, ?_, ?_⟩
  · rw [Layout.text_eq, Layout.headerText_of_standard hheader]
  · intro macros
    cases hrefused : p.catalog.isRefused macros with
    | true =>
      have hstopped := Layout.preprocess_of_refused hlines hrefused
      exact ⟨⟨fun _ => rfl, fun _ => hstopped⟩, fun hne => absurd hstopped hne⟩
    | false =>
      obtain ⟨front, hempty, hkept⟩ :=
        Plan.preprocess_of_accepted hlines hplain hdefinitions hrefused
      refine ⟨⟨?_, nofun⟩, fun _ => ⟨front, _, hkept, hempty, rfl, ?_⟩⟩
      · intro hstopped
        rw [hkept] at hstopped
        cases hstopped
      intro d hd
      have hsurvives : d.Survives l.decorations _ ↔ d.isAvailable macros = true :=
        Definition.survives_filter_iff hempty hd
      rw [hsurvives, Definition.isAvailable, Bool.and_eq_true]
      refine ⟨Iff.rfl, ?_⟩
      intro havailable site hsite
      obtain ⟨callee, hcallee, hrequested, hnarrows⟩ :=
        Plan.callee_of_callSite hdefinitions hd hsite
      refine ⟨callee, hcallee, hrequested, (Definition.survives_filter_iff hempty hcallee).mpr ?_⟩
      rw [Definition.isAvailable, hnarrows.conversion, Bool.and_eq_true]
      exact havailable

/-- A plan of four types at all widths with intrinsics for single values, whose stem looks like
structure. -/
def embeddedPlan : Plan :=
  ⟨⟨[.char, .short, .long, .double], by decide, by decide⟩, .full,
    .of "x; \x7d #endif " [.scalar]⟩

/-- Surroundings with a header to include and a decoration that look like structure. -/
def embeddedLayout : Layout := ⟨"", ["#endif"], ["\x7d"]⟩

/-- The macros of an embedded profile without extensions. -/
def embeddedMacros : Macros := fun name => name = "__EMBEDDED_PROFILE__"

/-- Of the four types the two narrow ones are available on an embedded profile. -/
theorem isAvailable_embedded : ∀ t ∈ embeddedPlan.catalog.types,
    t.isAvailable embeddedMacros = true ↔ t ∈ [Scalar.char, .short] := by decide

/-- A library of four types is refused where there is double precision on an embedded profile
without 64-bit integers. Without double precision only the functions between the two narrow types
are left there: one that is put together from parts survives with the function it calls, and
functions under either guard are removed. -/
theorem preprocess_render_embedded :
    ∃ definitions rest kept, embeddedPlan.definitions = .ok definitions ∧
      embeddedPlan.render embeddedLayout = .ok rest ∧
      preprocess (fun name => name = "cl_khr_fp64" || embeddedMacros name) rest =
        .error .stopped ∧
      preprocess embeddedMacros rest = .ok kept ∧
      (∀ d ∈ definitions, d.Survives embeddedLayout.decorations kept ↔
        d.conversion.source ∈ [Scalar.char, .short] ∧
          d.conversion.target ∈ [Scalar.char, .short]) ∧
      (∃ d ∈ definitions, d.conversion.signature = "convert_short2(char2)" ∧
        d.result.callSites = [("convert_short", "lo"), ("convert_short", "hi")] ∧
        d.Survives embeddedLayout.decorations kept ∧
        ∃ callee ∈ definitions, callee.conversion.signature = "convert_short(char)" ∧
          d.requested? ("convert_short", "lo") = some callee.conversion.signature ∧
          callee.Survives embeddedLayout.decorations kept) ∧
      (∃ d ∈ definitions, d.conversion = .plain .char .long .scalar ∧ d.guard? = some .int64 ∧
        ¬ d.Survives embeddedLayout.decorations kept) ∧
      ∃ d ∈ definitions, d.conversion = .plain .double .char .two ∧ d.guard? = some .fp64 ∧
        ¬ d.Survives embeddedLayout.decorations kept := by
  obtain ⟨found, hfound⟩ := Plan.exists_definitions (p := embeddedPlan) (by decide)
  obtain ⟨text, htext⟩ := Plan.exists_render hfound embeddedLayout
  obtain ⟨definitions, rest, hdefinitions, rfl, hmacros⟩ :=
    preprocess_render (by decide) (.inl rfl) (by decide) (by decide) (by decide) htext
  obtain ⟨hstopped, hkept⟩ := hmacros embeddedMacros
  obtain ⟨-, kept, hkept, -, -, hdefinition⟩ := hkept fun h => absurd (hstopped.mp h) (by decide)
  have hsurvives : ∀ d ∈ definitions, d.Survives embeddedLayout.decorations kept ↔
      d.conversion.source ∈ [Scalar.char, .short] ∧
        d.conversion.target ∈ [Scalar.char, .short] := by
    intro d hd
    obtain ⟨hsource, htarget, -⟩ := mem_conversions.mp (Plan.conversion_mem hdefinitions hd)
    rw [(hdefinition d hd).1, isAvailable_embedded _ hsource, isAvailable_embedded _ htarget]
  have hremoved : ∀ c ∈ embeddedPlan.conversions,
      ¬ (c.source ∈ [Scalar.char, .short] ∧ c.target ∈ [Scalar.char, .short]) →
      ∃ d ∈ definitions, d.conversion = c ∧ d.guard? = guard? c.source c.target ∧
        ¬ d.Survives embeddedLayout.decorations kept := by
    intro c hc hwide
    obtain ⟨d, hd, rfl⟩ := Plan.exists_definition_of_mem hdefinitions hc
    exact ⟨d, hd, rfl, Plan.guard_of_mem hdefinitions hd, fun h => hwide ((hsurvives d hd).mp h)⟩
  let caller : Definition := ⟨.plain .char .short .two, none,
    (Conversion.plain .char .short .two).joined (.halves .scalar)⟩
  have hcaller : caller ∈ definitions :=
    Plan.mem_of_define hdefinitions (mem_conversions.mpr (by decide)) (by cbv)
  have hkeeps := (hsurvives caller hcaller).mpr (by decide)
  obtain ⟨callee, hcallee, hrequested, hsurvived⟩ :=
    (hdefinition caller hcaller).2 hkeeps ("convert_short", "lo") (by decide)
  have hasked : caller.requested? ("convert_short", "lo") = some "convert_short(char)" := by cbv
  refine ⟨definitions, _, kept, hdefinitions, htext, (hmacros _).1.mpr (by decide), hkept,
    hsurvives, ?_, ?_, ?_⟩
  · exact ⟨caller, hcaller, by decide, by decide, hkeeps, callee, hcallee,
      Option.some.inj (hrequested.symm.trans hasked), hrequested, hsurvived⟩
  · exact hremoved _ (mem_conversions.mpr (by decide)) (by decide)
  · exact hremoved _ (mem_conversions.mpr (by decide)) (by decide)

end Libraries

end LaneConvert
