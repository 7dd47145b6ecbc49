import CssRules.Feed
import CssRules.RuleBook

/-!
The publisher keeps a rule book and a feed. Its host builds rules piece by piece and finishes each of
them; a finished rule is registered, and while the feed is on its blocks go to the sheet at once. The
registration stays when the sheet fails, and finishing the rule again completes the delivery.
-/

namespace CssRules

structure Publisher (σ : Type) where
  book : RuleBook := {}
  feed : Feed σ

/-- One entry of the contents of a rule. -/
inductive Entry where
  | declaration (declaration : Declaration)
  | rule (handle : Handle)

namespace Publisher

/-- A publisher without a sheet. -/
def offline : Publisher AbsentSheet := { feed := { sheet := {} } }

variable {σ : Type}

/-- Adds an empty open rule. -/
def create (publisher : Publisher σ) : Handle × Publisher σ :=
  (publisher.book.create.1, { publisher with book := publisher.book.create.2 })

/-- Attaches a piece to an open rule. -/
def attach (publisher : Publisher σ) (owner : Handle) (piece : Piece) (place : Place) :
    Except Error (Publisher σ) :=
  (publisher.book.attach owner piece place).map fun book => { publisher with book }

/-- Puts a function around an open rule. -/
def attachFunction (publisher : Publisher σ) (owner : Handle) (name : String) :
    Except Error (Publisher σ) :=
  publisher.attach owner (.function name) .back

/-- A piece cannot be taken away again. -/
def detach (_ : Publisher σ) (_owner : Handle) (_piece : Piece) : Except Error (Publisher σ) :=
  .error (.unsupported .detachPiece)

/-- Two rules cannot change places. -/
def swap (_ : Publisher σ) (_left _right : Handle) : Except Error (Publisher σ) :=
  .error (.unsupported .swapRules)

/-- A rule cannot take the place of another one. -/
def replace (_ : Publisher σ) (_existing _replacement : Handle) : Except Error (Publisher σ) :=
  .error (.unsupported .replaceRule)

/-- Rules have no attributes. -/
def attachAttribute (_ : Publisher σ) (_owner : Handle) (_key _value : String) :
    Except Error (Publisher σ) :=
  .error (.unsupported .attachAttribute)

/-- Rules have no attributes. -/
def detachAttribute (_ : Publisher σ) (_owner : Handle) (_key : String) : Except Error (Publisher σ) :=
  .error (.unsupported .detachAttribute)

/-- Rules are never disposed of. -/
def isDisposed (_ : Publisher σ) (_handle : Handle) : Bool := false

def rule (publisher : Publisher σ) (handle : Handle) : Except Error Rule :=
  publisher.book.graph.rule handle

/-- The rule registered under an identifier. -/
def lookup (publisher : Publisher σ) (identifier : String) : Option Handle :=
  publisher.book.catalog.lookup identifier

def identifier (publisher : Publisher σ) (handle : Handle) : Except Error String :=
  publisher.book.graph.identifier handle

/-- The block of a rule and the blocks of its children. -/
def blocks (publisher : Publisher σ) (layout : Layout) (handle : Handle) :
    Except Error (List String) :=
  publisher.book.graph.blocks layout handle

/-- The document of all registered rules, minified by the given minifier if the layout wants it minified. -/
def documentWith (publisher : Publisher σ) (minifier : String → Except Error String) (layout : Layout) :
    Except Error String :=
  publisher.book.documentWith minifier layout

/-- The document with the minifier for simple sheets. -/
def document (publisher : Publisher σ) (layout : Layout) : Except Error String :=
  publisher.book.document layout

/-- The declarations of a rule and then its children. -/
def contents (publisher : Publisher σ) (handle : Handle) : Except Error (List Entry) :=
  (publisher.rule handle).map fun rule =>
    rule.declarations.map .declaration ++ rule.children.map .rule

def isStreaming (publisher : Publisher σ) : Bool := publisher.feed.isEnabled

variable [Sheet σ]

/-- Switches the feed on or off. Rules that are finished while it is off are not delivered later. -/
def stream (publisher : Publisher σ) (enabled : Bool) : Except Error Unit × Publisher σ :=
  let result := publisher.feed.setEnabled enabled
  (result.1, { publisher with feed := result.2 })

/-- A publisher into a sheet, with the feed switched on. -/
def withSheet (sheet : σ) : Except Error (Publisher σ) :=
  let result := stream { feed := { sheet } } true
  result.1.map fun _ => result.2

/-- Delivers the blocks of a rule and counts those that were new. While the feed is off, the rule is not
looked at. -/
def publish (publisher : Publisher σ) (handle : Handle) : Except Error Nat × Publisher σ :=
  if publisher.isStreaming then
    match publisher.blocks {} handle with
    | .error error => (.error error, publisher)
    | .ok lines =>
      let result := publisher.feed.publish lines
      (result.1, { publisher with feed := result.2 })
  else (.ok 0, publisher)

/-- Registers a rule, delivers the rule that is registered under its identifier, and returns the
identifier. -/
def finish (publisher : Publisher σ) (handle : Handle) : Except Error String × Publisher σ :=
  match publisher.book.register handle with
  | .error error => (.error error, publisher)
  | .ok (identifier, book) =>
    let registered : Publisher σ := { publisher with book }
    match registered.lookup identifier with
    | none => (.error (.unknownRule identifier), registered)
    | some first =>
      let result := registered.publish first
      (result.1.map fun _ => identifier, result.2)

end Publisher

end CssRules
