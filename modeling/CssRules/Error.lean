import CssRules.Rule

/-!
What can go wrong while rules are built, written out or streamed, and the message of each error.
-/

namespace CssRules

/-- Changes that a rule cannot undergo. -/
inductive Change where
  | detachPiece
  | swapRules
  | replaceRule
  | attachAttribute
  | detachAttribute
  deriving DecidableEq, Repr

def Change.name : Change → String
  | .detachPiece => "detach_atomic"
  | .swapRules => "swap_branches"
  | .replaceRule => "replace_branch"
  | .attachAttribute => "attach_attribute"
  | .detachAttribute => "detach_attribute"

/-- The reason for which a sheet refuses to be opened or written, in words of its own. -/
structure SheetError where
  message : String
  deriving DecidableEq, Repr

inductive Error where
  /-- The change is not possible for any rule. -/
  | unsupported (change : Change)
  /-- A reference to an identifier under which no rule is registered. -/
  | unknownRule (identifier : String)
  /-- A handle without a rule. -/
  | invalidRule (handle : Handle)
  /-- The rule has its identifier and no longer changes. -/
  | sealedRule (handle : Handle)
  /-- The rule contains itself, so that it has no finite text. -/
  | cyclicRule (handle : Handle)
  | sheet (cause : SheetError)
  /-- The minifier refuses the document, for a reason in words of its own. -/
  | minifier (reason : String)
  deriving DecidableEq, Repr

def Error.message : Error → String
  | .unsupported change => "operation not supported on style rules: " ++ change.name
  | .unknownRule identifier => "no registered rule with identifier `" ++ identifier ++ "`"
  | .invalidRule handle => "rule handle " ++ handle.render ++ " does not exist"
  | .sealedRule handle => "rule " ++ handle.render ++ " is already registered and cannot be modified"
  | .cyclicRule handle => "rule " ++ handle.render ++ " contains itself"
  | .sheet cause => "failed to write to style sink: " ++ cause.message
  | .minifier reason => "failed to minify emitted css: " ++ reason

end CssRules
