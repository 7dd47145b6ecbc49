import CssRules.Identifier
import CssRules.Text.Alphanumeric

/-!
Selectors. Words among the fragments become class selectors, and fragments with punctuation of their own
are written as they are. A selector whose first fragment names no element is anchored on the class of
the rule's own identifier.
-/

namespace CssRules

namespace Fragment

/-- The characters that a class name may begin with. -/
def beginsClass (c : Char) : Bool := Text.isAlphanumeric c || c == '-' || c == '_'

/-- The characters with which a fragment selects something by itself. -/
def beginsSubject (c : Char) : Bool := beginsClass c || ['.', '#', '[', '*', '&'].contains c

/-- Whether a fragment is a word, to be marked as a class. -/
def isClass (fragment : String) : Bool := fragment.toList.head?.any beginsClass

/-- Whether a selector that begins with the fragment needs no anchor. -/
def hasSubject (fragment : String) : Bool := fragment.toList.head?.any beginsSubject

/-- The fragment as it is written in a selector. -/
def render (fragment : String) : String := if isClass fragment then "." ++ fragment else fragment

end Fragment

/-- Whether the selector can do without the class of the rule's identifier. -/
def Rule.hasSubject (rule : Rule) : Bool := rule.fragments.head?.any Fragment.hasSubject

/-- The fragments one after the other. -/
def Rule.fragmentText (rule : Rule) : String := String.join (rule.fragments.map Fragment.render)

/-- The full selector of a rule. -/
def RuleGraph.selector (graph : RuleGraph) (handle : Handle) : Except Error String := do
  let rule ← graph.rule handle
  if rule.hasSubject then
    return rule.fragmentText
  else
    let identifier ← graph.identifier handle
    return "." ++ identifier ++ rule.fragmentText

end CssRules
