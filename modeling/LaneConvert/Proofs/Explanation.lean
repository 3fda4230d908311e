import LaneConvert.Proofs.Definitions
import LaneConvert.Proofs.Expressibility
import LaneConvert.Proofs.Library.Written

/-!
# Explanations agree with the library

The lowering of a conversion is built on its own and written in indented lines, and the definitions
of a plan are a flat list. Both say the same: every node of a lowering is one of the definitions,
the nodes below it are the conversions that its expression calls, and its line shows the expression
that its function returns, word for word. A stem of intrinsics with a line feed would tear lines
apart, so the lines are counted for all other stems only.
-/

namespace LaneConvert

open Text

namespace Lowering

/-- The nodes of a lowering with their depths, each node before the ones below it. -/
def nodes (depth : Nat) : Lowering → List (Nat × Lowering)
  | leaf c e => [(depth, leaf c e)]
  | node c e low high =>
    (depth, node c e low high) :: (low.nodes (depth + 1) ++ high.nodes (depth + 1))

/-- Every node that is no leaf has two below it. -/
theorem length_nodes (tree : Lowering) (depth : Nat) :
    (tree.nodes depth).length + 1 = 2 * tree.leaves := by
  induction tree generalizing depth with
  | leaf c e => rfl
  | node c e low high ihlow ihhigh =>
    have hlow := ihlow (depth + 1)
    have hhigh := ihhigh (depth + 1)
    simp only [nodes, leaves, List.length_cons, List.length_append]
    omega

/-- A lowering is written node by node. -/
theorem lines_eq_map_nodes (tree : Lowering) (depth : Nat) :
    tree.lines depth =
      (tree.nodes depth).map fun n => line n.1 n.2.conversion n.2.result := by
  induction tree generalizing depth with
  | leaf c e => rfl
  | node c e low high ihlow ihhigh =>
    simp only [lines, nodes, List.map_cons, List.map_append, ihlow, ihhigh]
    rfl

/-- An indentation fits on a line. -/
theorem oneLine_pushn (n : Nat) : OneLine ("".pushn ' ' n) := by
  induction n with
  | zero => decide
  | succ n ih =>
    have hpush : "".pushn ' ' (n + 1) = ("".pushn ' ' n).push ' ' := rfl
    rw [hpush]
    simpa [OneLine] using ih

/-- A line of a lowering is a single line if its expression is. -/
theorem oneLine_line {c : Conversion} {e : Expression} (h : OneLine e.text) (depth : Nat) :
    OneLine (line depth c e) := by
  have hname := oneLine_of_isNameChar c.isNameChar_functionName
  have hargument := oneLine_of_isNameChar c.isNameChar_sourceType
  have hindent := oneLine_pushn (2 * depth)
  simp +decide [line, Conversion.signature, h, hname, hargument, hindent]

end Lowering

/-- The conversions whose functions an expression calls, in order. -/
def Expression.called : Expression → List Conversion
  | concat _ low _ high _ => [low, high]
  | _ => []

/-- The functions that an expression calls are those of the conversions it is put together from. -/
theorem Expression.map_functionName_called (e : Expression) :
    e.called.map Conversion.functionName = e.calls := by
  cases e <;> rfl

namespace Plan

variable {p : Plan} {c : Conversion} {tree : Lowering}

/-- A plan has one expression for a conversion at most. -/
theorem LowersTo.unique {e e' : Expression} (h : p.LowersTo c e) (h' : p.LowersTo c e') :
    e = e' :=
  Except.ok.inj ((lower_eq_ok_iff.mpr h).symm.trans (lower_eq_ok_iff.mpr h'))

namespace Spans

/-- A lowering has the conversion at its root that it spans. -/
theorem conversion_eq (h : p.Spans c tree) : tree.conversion = c := by
  cases h <;> rfl

/-- A lowering has the expression at its root that the plan gives the conversion. -/
theorem lowersTo (h : p.Spans c tree) : p.LowersTo c tree.result := by
  cases h with
  | leaf lowers => exact lowers
  | node lowers => exact lowers

/-- Below a node are the conversions that its expression calls. -/
theorem map_conversion_parts (h : p.Spans c tree) :
    tree.parts.map Lowering.conversion = tree.result.called := by
  cases h with
  | @leaf _ e _ ends =>
    cases e with
    | concat => cases ends
    | _ => rfl
  | node _ _ low_spans high_spans =>
    simp only [Lowering.parts, Lowering.result, Conversion.joined, Expression.called,
      List.map_cons, List.map_nil, low_spans.conversion_eq, high_spans.conversion_eq]

/-- Every node is the root of a lowering of the same conversion at some width, and the widths of
nodes stay in the table. -/
theorem of_mem_nodes (h : p.Spans c tree) {depth : Nat} {n : Nat × Lowering}
    (hn : n ∈ tree.nodes depth) :
    ∃ w, p.Spans (c.atWidth w) n.2 ∧ (c.width ∈ p.table.widths → w ∈ p.table.widths) := by
  induction h generalizing depth with
  | leaf lowers ends =>
    obtain rfl := List.mem_singleton.mp hn
    exact ⟨_, .leaf lowers ends, id⟩
  | node lowers splits low_spans high_spans ihlow ihhigh =>
    simp only [Lowering.nodes, List.mem_cons, List.mem_append] at hn
    rcases hn with rfl | hn | hn
    · exact ⟨_, .node lowers splits low_spans high_spans, id⟩
    · obtain ⟨w, hspans, hw⟩ := ihlow hn
      exact ⟨w, hspans, fun hwidth => hw (WidthTable.parts_mem hwidth splits).1⟩
    · obtain ⟨w, hspans, hw⟩ := ihhigh hn
      exact ⟨w, hspans, fun hwidth => hw (WidthTable.parts_mem hwidth splits).2⟩

end Spans

end Plan

/-- The function itself stands unbroken among the lines of its definition. -/
theorem Definition.function_infix (d : Definition) (decorations : List String) :
    [d.signatureLine, "\x7b", "  return " ++ d.result.text ++ ";", "\x7d"] <:+:
      d.lines decorations := by
  have hbody : [d.signatureLine, "\x7b", "  return " ++ d.result.text ++ ";", "\x7d"] <:+:
      d.bodyLines decorations := (List.suffix_append _ _).isInfix
  unfold lines
  split
  · exact hbody
  · next extension _ =>
    exact hbody.trans ⟨[extension.opening], [Extension.closing], rfl⟩

/-- A line shows a node as a definition has it: two blanks for each level of depth, the signature,
and the expression that stands between the words of the line that returns it. -/
def ShowsNode (definitions : List Definition) (n : Nat × Lowering) (line : String) : Prop :=
  ∃ d ∈ definitions, ∃ expression,
    d.conversion = n.2.conversion ∧ d.result = n.2.result ∧
    line = "".pushn ' ' (2 * n.1) ++ d.conversion.signature ++ " = " ++ expression ∧
    ∀ decorations, [d.signatureLine, "\x7b", "  return " ++ expression ++ ";", "\x7d"] <:+:
      d.lines decorations

namespace Plan

variable {p : Plan} {definitions : List Definition} {c : Conversion} {tree : Lowering}

/-- Every node of the lowering of a listed conversion is the root of the lowering of a listed
conversion. -/
theorem spans_of_mem_nodes (hc : c ∈ p.conversions) (h : p.Spans c tree) {depth : Nat}
    {n : Nat × Lowering} (hn : n ∈ tree.nodes depth) :
    ∃ d ∈ p.conversions, p.Spans d n.2 := by
  obtain ⟨hsource, htarget, hwidth⟩ := mem_conversions.mp hc
  obtain ⟨w, hspans, hw⟩ := h.of_mem_nodes hn
  exact ⟨c.atWidth w, mem_conversions.mpr ⟨hsource, htarget, hw hwidth⟩, hspans⟩

/-- The root of the lowering of a listed conversion is one of the definitions. -/
theorem definition_of_spans (h : p.definitions = .ok definitions) (hc : c ∈ p.conversions)
    (hspans : p.Spans c tree) :
    ∃ d ∈ definitions, d.conversion = tree.conversion ∧ d.result = tree.result := by
  obtain ⟨d, hd, rfl⟩ := exists_definition_of_mem h hc
  exact ⟨d, hd, hspans.conversion_eq.symm, (lowersTo_of_mem h hd).unique hspans.lowersTo⟩

/-- No two definitions are of the same conversion, so none repeats another with its expression. -/
theorem nodup_definitions (h : p.definitions = .ok definitions) :
    (definitions.map fun d => (d.conversion, d.result)).Nodup := by
  refine .of_map Prod.fst ?_
  have hconversions : (definitions.map fun d => (d.conversion, d.result)).map Prod.fst =
      p.conversions := by
    rw [← map_conversion_definitions h, List.map_map]
    rfl
  rw [hconversions]
  exact conversions_nodup p.catalog p.table

/-- The nodes of an explanation are shown by its lines. -/
theorem showsNode_of_mem_nodes (h : p.definitions = .ok definitions) (hc : c ∈ p.conversions)
    (hspans : p.Spans c tree) {n : Nat × Lowering} (hn : n ∈ tree.nodes 0) :
    ShowsNode definitions n (Lowering.line n.1 n.2.conversion n.2.result) := by
  obtain ⟨part, hpart, hpartSpans⟩ := spans_of_mem_nodes hc hspans hn
  obtain ⟨d, hd, hconversion, hresult⟩ := definition_of_spans h hpart hpartSpans
  refine ⟨d, hd, d.result.text, hconversion, hresult, ?_, d.function_infix⟩
  rw [Lowering.line, hconversion, hresult]

end Plan

/-- An explanation tells the truth about a library that can be generated. Every listed conversion
is explained, by a tree with the conversion at its root. Each node of the tree is exactly one of the
definitions, and below it are the conversions that its expression calls, in order. Written out,
the tree has one line less than twice its leaves, one for each node in the order of the nodes, and
each line shows its node as the definition has it. -/
theorem explain_agrees {p : Plan} {definitions : List Definition} {c : Conversion}
    (h : p.definitions = .ok definitions) (hc : c ∈ p.conversions) :
    ∃ tree, p.explain c = .ok tree ∧ tree.conversion = c ∧
      (∀ n ∈ tree.nodes 0,
        (∃ d, definitions.filter
          (fun d => (d.conversion, d.result) = (n.2.conversion, n.2.result)) = [d]) ∧
        n.2.parts.map Lowering.conversion = n.2.result.called ∧
        n.2.parts.map (fun part => part.conversion.functionName) = n.2.result.calls) ∧
      (OneLine p.intrinsics.stem → ∃ printed : List String,
        tree.text = joinLines printed ∧
        Text.lines tree.text.toList = printed.map String.toList ∧
        printed.length + 1 = 2 * tree.leaves ∧
        List.Forall₂ (ShowsNode definitions) (tree.nodes 0) printed) := by
  obtain ⟨tree, htree⟩ := Plan.exists_explain_of_definitions ⟨definitions, h⟩ hc
  have hspans := Plan.explain_eq_ok_iff.mp htree
  refine ⟨tree, htree, hspans.conversion_eq, ?_, ?_⟩
  · intro n hn
    obtain ⟨part, hpart, hpartSpans⟩ := Plan.spans_of_mem_nodes hc hspans hn
    obtain ⟨d, hd, hconversion, hresult⟩ := Plan.definition_of_spans h hpart hpartSpans
    have hone := filter_eq_singleton (Plan.nodup_definitions h) hd
    rw [hconversion, hresult] at hone
    have hbelow := hpartSpans.map_conversion_parts
    refine ⟨⟨d, hone⟩, hbelow, ?_⟩
    rw [← Expression.map_functionName_called, ← hbelow, List.map_map]
    rfl
  · intro hstem
    have hlines := tree.lines_eq_map_nodes 0
    have honeLine : ∀ line ∈ tree.lines 0, OneLine line := by
      intro line hline
      rw [hlines] at hline
      obtain ⟨n, hn, rfl⟩ := List.mem_map.mp hline
      obtain ⟨part, -, hpartSpans⟩ := Plan.spans_of_mem_nodes hc hspans hn
      exact Lowering.oneLine_line (hpartSpans.lowersTo.oneLine hstem) n.1
    have hlength : (tree.lines 0).length = (tree.nodes 0).length := by
      rw [hlines, List.length_map]
    refine ⟨tree.lines 0, rfl, lines_joinLines honeLine, ?_, ?_⟩
    · rw [hlength]
      exact tree.length_nodes 0
    · rw [hlines, List.forall₂_map_right_iff, List.forall₂_same]
      exact fun n hn => Plan.showsNode_of_mem_nodes h hc hspans hn

/-- Three lanes without any intrinsic come down to single lanes in two steps, and are written in
five lines. -/
theorem explain_agrees_three :
    let p : Plan := ⟨⟨[.short, .ulong], by decide, by decide⟩,
      ⟨[.scalar, .two, .three], by decide, by decide, by decide⟩, .of "__spirv_" []⟩
    let c : Conversion := ⟨.short, .ulong, .three, .on, .implied, by decide⟩
    ∃ definitions tree, p.definitions = .ok definitions ∧ c ∈ p.conversions ∧
      p.explain c = .ok tree ∧ tree.leaves = 3 ∧
      (∀ n ∈ tree.nodes 0, n.2.parts.map Lowering.conversion = n.2.result.called) ∧
      ∃ printed, tree.text = joinLines printed ∧ printed.length = 5 ∧
        List.Forall₂ (ShowsNode definitions) (tree.nodes 0) printed := by
  intro p c
  obtain ⟨definitions, h⟩ : ∃ definitions, p.definitions = .ok definitions := ⟨_, rfl⟩
  have hc : c ∈ p.conversions := by decide
  obtain ⟨tree, htree, -, hnodes, hprinted⟩ := explain_agrees h hc
  obtain ⟨printed, htext, -, hlength, hshows⟩ := hprinted (by decide)
  have hleaves : (p.explain c).map Lowering.leaves = .ok 3 := by cbv
  rw [htree] at hleaves
  have hthree : tree.leaves = 3 := Except.ok.inj hleaves
  exact ⟨definitions, tree, h, hc, htree, hthree, fun n hn => (hnodes n hn).2.1, printed, htext,
    by omega, hshows⟩

end LaneConvert
