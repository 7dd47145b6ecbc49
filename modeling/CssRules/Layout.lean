import CssRules.Selector

/-!
The written form of rules. Every rule gives one block, and the blocks of its children follow as blocks of
their own. Without an indentation a block stands on one line; with one, every declaration has its own.
-/

namespace CssRules

structure Layout where
  /-- What separates lines. Two of them separate the blocks of a document. -/
  line : String := "\n"
  /-- What a declaration on a line of its own begins with. -/
  indent : String := ""
  /-- Whether a document is minified in the end. -/
  minify : Bool := false
  deriving DecidableEq, Repr, Inhabited

namespace Layout

/-- A block on one line. -/
def singleLineBlock (selector : String) (declarations : List String) : String :=
  selector ++ " \x7b" ++ String.join (declarations.map (" " ++ ·)) ++ " \x7d"

/-- A block with a line for every declaration. -/
def multiLineBlock (layout : Layout) (selector : String) (declarations : List String) : String :=
  selector ++ " \x7b" ++ String.join (declarations.map (layout.line ++ layout.indent ++ ·)) ++
    layout.line ++ "\x7d"

/-- The block of a selector and its declarations. -/
def block (layout : Layout) (selector : String) (declarations : List String) : String :=
  if layout.indent = "" then singleLineBlock selector declarations
  else layout.multiLineBlock selector declarations

/-- The blocks of a document in one text. -/
def join (layout : Layout) (blocks : List String) : String :=
  (layout.line ++ layout.line).intercalate blocks

theorem block_of_no_indent {layout : Layout} (h : layout.indent = "") (selector : String)
    (declarations : List String) :
    layout.block selector declarations = singleLineBlock selector declarations := by
  simp [block, h]

theorem block_of_indent {layout : Layout} (h : layout.indent ≠ "") (selector : String)
    (declarations : List String) :
    layout.block selector declarations = layout.multiLineBlock selector declarations := by
  simp [block, h]

end Layout

namespace RuleGraph

/-- The block of a single rule. -/
def block (graph : RuleGraph) (layout : Layout) (handle : Handle) : Except Error String := do
  let rule ← graph.rule handle
  let selector ← graph.selector handle
  return layout.block selector (rule.declarations.map Declaration.render)

/-- The blocks of a rule with at most `depth` generations. -/
def blocksWithin (graph : RuleGraph) (layout : Layout) : Nat → Handle → Except Error (List String)
  | 0, handle => .error (.cyclicRule handle)
  | depth + 1, handle => do
    let rule ← graph.rule handle
    let own ← graph.block layout handle
    let nested ← rule.children.mapM (graph.blocksWithin layout depth)
    return own :: nested.flatten

/-- The block of a rule and after it the blocks of each of its children. -/
def blocks (graph : RuleGraph) (layout : Layout) (handle : Handle) : Except Error (List String) :=
  graph.blocksWithin layout (graph.size + 1) handle

end RuleGraph

end CssRules
