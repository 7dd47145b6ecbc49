import CssRules.Proofs.Document
import CssRules.Proofs.Whitespace

/-! What the layout of a sheet can change. A block on one line and a block on several lines consist of the same
selector, the same braces and the same declarations, and the layout decides only on the white space around them. So
two layouts give the same lines and the same document as soon as the white space is taken out. -/

namespace CssRules

open Text

namespace Layout

variable {blank : Char → Bool} {layout : Layout}

/-- What a declaration begins with. -/
def lead (layout : Layout) : String := if layout.indent = "" then " " else layout.line ++ layout.indent

/-- What stands before the closing brace. -/
def closing (layout : Layout) : String := if layout.indent = "" then " " else layout.line

/-- The blocks on one line and those on several lines have the same shape. -/
theorem block_eq (layout : Layout) (selector : String) (declarations : List String) :
    layout.block selector declarations =
      selector ++ " \x7b" ++ String.join (declarations.map (layout.lead ++ ·)) ++ (layout.closing ++ "\x7d") := by
  by_cases h : layout.indent = ""
  · rw [block_of_no_indent h, singleLineBlock, lead, closing, if_pos h, if_pos h]
    rfl
  · rw [block_of_indent h, multiLineBlock, lead, closing, if_neg h, if_neg h]
    exact String.append_assoc

/-- Lines are separated and indented by white space. -/
structure Spaced (blank : Char → Bool) (layout : Layout) : Prop where
  line : MadeOf blank layout.line
  indent : MadeOf blank layout.indent

theorem madeOf_space (h : blank ' ' = true) : MadeOf blank " " := by
  simp [MadeOf, h]

theorem Spaced.lead (h : layout.Spaced blank) (hspace : blank ' ' = true) : MadeOf blank layout.lead := by
  unfold Layout.lead
  split
  · exact madeOf_space hspace
  · exact madeOf_append.mpr ⟨h.line, h.indent⟩

theorem Spaced.closing (h : layout.Spaced blank) (hspace : blank ' ' = true) : MadeOf blank layout.closing := by
  unfold Layout.closing
  split
  · exact madeOf_space hspace
  · exact h.line

/-- What a block consists of. -/
def bareBlock (selector : String) (declarations : List String) : String :=
  selector ++ "\x7b" ++ String.join declarations ++ "\x7d"

theorem Spaced.condense_block (h : layout.Spaced blank) (hspace : blank ' ' = true) (selector : String)
    (declarations : List String) :
    condense blank (layout.block selector declarations) = condense blank (bareBlock selector declarations) := by
  have hopening : condense blank " \x7b" = condense blank "\x7b" := condense_lead (madeOf_space hspace) "\x7b"
  simp only [block_eq, bareBlock, condense_append, hopening, condense_join_map (h.lead hspace),
    condense_of_blank (h.closing hspace), String.empty_append]

theorem Spaced.condense_join (h : layout.Spaced blank) (blocks : List String) :
    condense blank (layout.join blocks) = String.join (blocks.map (condense blank)) := by
  rw [join, condense_intercalate (madeOf_append.mpr ⟨h.line, h.line⟩), Text.condense_join]

end Layout

namespace RuleGraph

/-- What the block of a rule consists of. -/
def bareBlock (graph : RuleGraph) (handle : Handle) : Except Error String := do
  let rule ← graph.rule handle
  let selector ← graph.selector handle
  return Layout.bareBlock selector (rule.declarations.map Declaration.render)

variable {graph : RuleGraph} {blank : Char → Bool} {layout layout' : Layout}

theorem condense_block (h : layout.Spaced blank) (hspace : blank ' ' = true) (handle : Handle) :
    (graph.block layout handle).map (condense blank) = (graph.bareBlock handle).map (condense blank) := by
  unfold block bareBlock
  cases graph.rule handle with
  | error error => rfl
  | ok rule =>
      cases graph.selector handle with
      | error error => rfl
      | ok selector => exact congrArg Except.ok (h.condense_block hspace selector _)

/-- The blocks of some rules consist of what the rules consist of, whatever the layout is. -/
theorem exists_bareBlocks (h : layout.Spaced blank) (hspace : blank ' ' = true) {handles : List Handle}
    {blocks : List String} (hblocks : handles.mapM (graph.block layout) = .ok blocks) :
    ∃ bare, handles.mapM graph.bareBlock = .ok bare ∧
      blocks.map (condense blank) = bare.map (condense blank) := by
  have hmap : (handles.mapM graph.bareBlock).map (List.map (condense blank)) =
      .ok (blocks.map (condense blank)) := by
    calc (handles.mapM graph.bareBlock).map (List.map (condense blank))
        = handles.mapM fun handle => (graph.bareBlock handle).map (condense blank) := map_mapM ..
      _ = handles.mapM fun handle => (graph.block layout handle).map (condense blank) :=
          mapM_congr fun handle _ => (condense_block h hspace handle).symm
      _ = (handles.mapM (graph.block layout)).map (List.map (condense blank)) := (map_mapM ..).symm
      _ = .ok (blocks.map (condense blank)) := by rw [hblocks]; rfl
  obtain ⟨bare, hbare, heq⟩ := exists_of_map_eq_ok hmap
  exact ⟨bare, hbare, heq.symm⟩

/-- Two layouts of some rules. -/
theorem exists_same_bareBlocks (h : layout.Spaced blank) (h' : layout'.Spaced blank) (hspace : blank ' ' = true)
    {handles : List Handle} {blocks blocks' : List String}
    (hblocks : handles.mapM (graph.block layout) = .ok blocks)
    (hblocks' : handles.mapM (graph.block layout') = .ok blocks') :
    ∃ bare, handles.mapM graph.bareBlock = .ok bare ∧ blocks.map (condense blank) = bare.map (condense blank) ∧
      blocks'.map (condense blank) = bare.map (condense blank) := by
  obtain ⟨bare, hbare, hsame⟩ := exists_bareBlocks h hspace hblocks
  obtain ⟨bare', hbare', hsame'⟩ := exists_bareBlocks h' hspace hblocks'
  obtain rfl : bare = bare' := Except.ok.inj (hbare.symm.trans hbare')
  exact ⟨bare, hbare, hsame, hsame'⟩

end RuleGraph

namespace Publisher

variable {σ : Type} [Sheet σ] {start : Publisher σ} {sheet : σ} {blank : Char → Bool} {layout layout' : Layout}

/-- **The layout changes nothing but white space.** Take any run, any set of characters as white space that has the
space in it, and two layouts whose lines and indents are white space or nothing at all. Without white space, the
document is the same in both of them, and so is each line of a rule, of which there are equally many. What is left
are the selectors and the declarations, each as often as it was made and in the same order, with the braces around
them. A rule that does not exist has no lines in either layout. -/
theorem layout_changes_whitespace (hstart : withSheet sheet = .ok start) (calls : List Call)
    (hspace : blank ' ' = true) (h : layout.Spaced blank) (h' : layout'.Spaced blank)
    (hminify : layout.minify = false) (hminify' : layout'.minify = false) :
    (∃ bare text text', (start.run calls).book.documentOrder.mapM (start.run calls).book.graph.bareBlock = .ok bare ∧
      (start.run calls).document layout = .ok text ∧ (start.run calls).document layout' = .ok text' ∧
      condense blank text = condense blank text' ∧ condense blank text' = condense blank (String.join bare)) ∧
    (∀ handle, handle.index < (start.run calls).book.graph.size → ∃ bare lines lines',
      ((start.run calls).book.graph.walk handle).mapM (start.run calls).book.graph.bareBlock = .ok bare ∧
      (start.run calls).blocks layout handle = .ok lines ∧ (start.run calls).blocks layout' handle = .ok lines' ∧
      lines.length = lines'.length ∧ lines.map (condense blank) = lines'.map (condense blank) ∧
      lines'.map (condense blank) = bare.map (condense blank)) ∧
    ∀ handle, (start.run calls).book.graph.size ≤ handle.index →
      (start.run calls).blocks layout handle = .error (.invalidRule handle) ∧
      (start.run calls).blocks layout' handle = .error (.invalidRule handle) := by
  have hbook := consistent_run hstart calls
  refine ⟨?_, fun handle hlt => ?_, fun handle hmissing => ?_⟩
  · obtain ⟨blocks, hblocks⟩ := hbook.exists_documentBlocks layout
    obtain ⟨blocks', hblocks'⟩ := hbook.exists_documentBlocks layout'
    have hdocument := RuleBook.document_eq_join hblocks hminify
    have hdocument' := RuleBook.document_eq_join hblocks' hminify'
    rw [hbook.documentBlocks_eq] at hblocks hblocks'
    obtain ⟨bare, hbare, hsame, hsame'⟩ := RuleGraph.exists_same_bareBlocks h h' hspace hblocks hblocks'
    refine ⟨bare, _, _, hbare, hdocument, hdocument', ?_, ?_⟩
    · rw [h.condense_join, h'.condense_join, hsame, hsame']
    · rw [h'.condense_join, hsame', condense_join]
  · obtain ⟨lines, hlines⟩ := hbook.ranked.exists_blocks layout (RuleGraph.exists_rule_iff.mpr hlt)
    obtain ⟨lines', hlines'⟩ := hbook.ranked.exists_blocks layout' (RuleGraph.exists_rule_iff.mpr hlt)
    have hwalk := (hbook.ranked.blocks_eq_walk layout handle).symm.trans hlines
    have hwalk' := (hbook.ranked.blocks_eq_walk layout' handle).symm.trans hlines'
    obtain ⟨bare, hbare, hsame, hsame'⟩ := RuleGraph.exists_same_bareBlocks h h' hspace hwalk hwalk'
    have heq := hsame.trans hsame'.symm
    refine ⟨bare, lines, lines', hbare, hlines, hlines', ?_, heq, hsame'⟩
    simpa using congrArg List.length heq
  · have hnone := RuleGraph.rule_eq_error_iff.mpr ⟨hmissing, rfl⟩
    have hblocks (layout : Layout) : (start.run calls).blocks layout handle = .error (.invalidRule handle) := by
      rw [blocks, RuleGraph.blocks, RuleGraph.blocksWithin, hnone]
      rfl
    exact ⟨hblocks layout, hblocks layout'⟩

/-- A rule with declarations inside another one without any. -/
def framedCalls : List Call :=
  [.create, .attach ⟨0⟩ (.literal "box") .back, .attach ⟨0⟩ (.declaration ⟨"zIndex", [.text "1"]⟩) .back,
    .attach ⟨0⟩ (.declaration ⟨"color", [.text "red"]⟩) .back, .finish ⟨0⟩, .create,
    .attach ⟨1⟩ (.literal (Identifier.ofContent "f:box\x00d:z-index: 1;\x00d:color: red;\x00")) .back, .finish ⟨1⟩]

/-- With lines that end in the Windows way and are indented by an ideographic space. -/
def framedLayout : Layout := { line := "\r\n", indent := "\u3000" }

theorem layout_changes_whitespace_framed :
    withSheet ({} : AbsentSheet) = .ok offline ∧ isWhitespace ' ' = true ∧
      Layout.Spaced isWhitespace {} ∧ framedLayout.Spaced isWhitespace ∧
      (offline.run framedCalls).blocks framedLayout ⟨0⟩ =
        .ok [".box \x7b\r\n\u3000z-index: 1;\r\n\u3000color: red;\r\n\x7d"] ∧
      (∃ lines, (offline.run framedCalls).blocks {} ⟨0⟩ = .ok lines ∧
        lines.map (condense isWhitespace) = [".box\x7bz-index:1;color:red;\x7d"]) ∧
      ∃ text text', (offline.run framedCalls).document {} = .ok text ∧
        (offline.run framedCalls).document framedLayout = .ok text' ∧
        condense isWhitespace text = condense isWhitespace text' := by
  have hstart : withSheet ({} : AbsentSheet) = .ok offline := rfl
  have hspaced : Layout.Spaced isWhitespace {} := ⟨by decide, by decide⟩
  have hframed : framedLayout.Spaced isWhitespace := ⟨by decide, by decide⟩
  have hsize : (offline.run framedCalls).book.graph.size = 2 := by decide +kernel
  have hblocks : (offline.run framedCalls).blocks framedLayout ⟨0⟩ =
      .ok [".box \x7b\r\n\u3000z-index: 1;\r\n\u3000color: red;\r\n\x7d"] := by decide +kernel
  obtain ⟨⟨-, text, text', -, htext, htext', hsame, -⟩, hlines, -⟩ :=
    layout_changes_whitespace hstart framedCalls (by decide) hspaced hframed rfl rfl
  obtain ⟨-, lines, lines', -, hok, hok', -, hequal, -⟩ := hlines ⟨0⟩ (by rw [hsize]; decide)
  obtain rfl := Except.ok.inj (hblocks.symm.trans hok')
  exact ⟨hstart, by decide, hspaced, hframed, hblocks, ⟨lines, hok, hequal.trans (by decide)⟩,
    text, text', htext, htext', hsame⟩

end Publisher

end CssRules
