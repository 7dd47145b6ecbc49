import CssRules.Fingerprint
import CssRules.RuleGraph

/-!
Identifiers of rules. The identifier of an open rule is computed from its content and from nothing else:
its fragments, the text of its declarations and the identifiers of its children. So open rules with the
same content have the same identifier. A sealed rule keeps the identifier it was given.
-/

namespace CssRules

namespace Identifier

/-- One entry of the content: a letter for its kind, its text, and a zero character as its end. -/
def field (kind text : String) : String := kind ++ ":" ++ text ++ "\x00"

/-- The content that an identifier stands for. -/
def content (fragments declarations children : List String) : String :=
  String.join (fragments.map (field "f") ++ declarations.map (field "d") ++ children.map (field "c"))

/-- An identifier begins with a letter, so it can be used as the name of a class. -/
def ofFingerprint (fingerprint : Fingerprint) : String := "r" ++ Number.base36 fingerprint

/-- The identifier of a content. -/
def ofContent (content : String) : String := ofFingerprint (.ofText content)

end Identifier

namespace RuleGraph

/-- The identifier of a rule below which at most `depth` generations are open. -/
def identifierWithin (graph : RuleGraph) : Nat → Handle → Except Error String
  | 0, handle => .error (.cyclicRule handle)
  | depth + 1, handle => do
    let rule ← graph.rule handle
    match rule.identifier with
    | some identifier => return identifier
    | none =>
      let children ← rule.children.mapM (graph.identifierWithin depth)
      return Identifier.ofContent
        (Identifier.content rule.fragments (rule.declarations.map Declaration.render) children)

/-- The identifier of a rule. A chain of distinct rules is never longer than the number of all rules, so
only a rule that contains itself has none. -/
def identifier (graph : RuleGraph) (handle : Handle) : Except Error String :=
  graph.identifierWithin (graph.size + 1) handle

/-- A sealed rule keeps the identifier it was given. -/
theorem identifier_of_sealed {graph : RuleGraph} {handle : Handle} {rule : Rule} {identifier : String}
    (found : graph.rule handle = .ok rule) (isSealed : rule.identifier = some identifier) :
    graph.identifier handle = .ok identifier := by
  simp only [RuleGraph.identifier, identifierWithin, found, bind, Except.bind, isSealed]
  rfl

end RuleGraph

end CssRules
