import CssRules.Catalog
import CssRules.Layout
import CssRules.Minified
import CssRules.Piece

/-!
A rule book is all rules together with the catalog of the registered ones. Pieces are attached to open
rules, a finished rule is registered under its identifier, and the registered rules that no other rule
contains make up a document. An operation that fails leaves the book as it was.
-/

namespace CssRules

structure RuleBook where
  graph : RuleGraph := {}
  catalog : Catalog := {}
  deriving Inhabited

namespace RuleBook

/-- Adds an empty open rule. -/
def create (book : RuleBook) : Handle × RuleBook :=
  (book.graph.create.1, { book with graph := book.graph.create.2 })

/-- A book with the changed rules, unless the change failed. -/
def withGraph (book : RuleBook) (graph : Except Error RuleGraph) : Except Error RuleBook :=
  graph.map fun graph => { book with graph }

/-- Makes one rule a child of another. -/
def adopt (book : RuleBook) (parent child : Handle) (place : Place) : Except Error RuleBook :=
  book.withGraph (book.graph.adopt parent child place)

/-- Attaches a text: the rule registered under it becomes a child, and any other text a fragment. -/
def attachText (book : RuleBook) (owner : Handle) (text : String) (place : Place) :
    Except Error RuleBook :=
  match book.catalog.lookup text with
  | some registered => book.adopt owner registered place
  | none => book.withGraph (book.graph.addFragment owner text place)

/-- Attaches a piece to an open rule. -/
def attach (book : RuleBook) (owner : Handle) (piece : Piece) (place : Place) : Except Error RuleBook :=
  match piece with
  | .index n => book.withGraph (book.graph.addFragment owner (Piece.indexFragment n) place)
  | .literal text => book.attachText owner text place
  | .nested identifier =>
    match book.catalog.lookup identifier with
    | some registered => book.adopt owner registered place
    | none => .error (.unknownRule identifier)
  | .declaration declaration => book.withGraph (book.graph.addDeclaration owner declaration place)
  | .function name => book.attachText owner (Piece.functionFragment name) place

/-- Seals a rule with its identifier and enters it into the catalog, unless an equal rule is there. -/
def register (book : RuleBook) (handle : Handle) : Except Error (String × RuleBook) :=
  match book.graph.identifier handle with
  | .error error => .error error
  | .ok identifier => .ok (identifier, {
      graph := book.graph.update handle fun rule => { rule with identifier := some identifier }
      catalog := book.catalog.insert identifier handle })

/-- The blocks of one entry of the catalog; a rule inside another one has its blocks there. -/
def entryBlocks (book : RuleBook) (layout : Layout) (handle : Handle) : Except Error (List String) := do
  let rule ← book.graph.rule handle
  if rule.isTopLevel then book.graph.blocks layout handle else return []

/-- The blocks of the registered rules at top level, in the order of registration. -/
def documentBlocks (book : RuleBook) (layout : Layout) : Except Error (List String) := do
  let groups ← book.catalog.entries.mapM fun entry => book.entryBlocks layout entry.2
  return groups.flatten

/-- The document of all registered rules. If the layout wants it minified, this is left to the given minifier. -/
def documentWith (book : RuleBook) (minifier : String → Except Error String) (layout : Layout) :
    Except Error String := do
  let css := layout.join (← book.documentBlocks layout)
  if layout.minify then minifier css else return css

/-- The document with the minifier for simple sheets. -/
def document (book : RuleBook) (layout : Layout) : Except Error String :=
  book.documentWith Minified.ofDocument layout

end RuleBook

end CssRules
