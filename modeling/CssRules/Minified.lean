import CssRules.Error

/-!
Minified documents. The documents are lists of rules whose selectors are classes, each with at most one
pseudo class, and whose declarations have integers and pixel lengths as values. Their minified form has
no white space and no semicolon before a closing brace; rules and declarations all stay, in their order.
-/

namespace CssRules.Minified

/-- White space between the tokens of a sheet. -/
def isBlank (c : Char) : Bool := c == ' ' || c == '\t' || c == '\n' || c == '\r' || c == '\x0c'

/-- Whether a point stands without a class name after it. A class name begins with a small letter. -/
def hasEmptyClass : List Char → Bool
  | [] => false
  | c :: rest => (c == '.' && !rest.head?.any Char.isLower) || hasEmptyClass rest

/-- Drops every semicolon that stands directly before a closing brace. -/
def dropLastSemicolons : List Char → List Char
  | [] => []
  | c :: rest =>
    if c == ';' && rest.head? == some '\x7d' then dropLastSemicolons rest
    else c :: dropLastSemicolons rest

def letters (css : List Char) : List Char := dropLastSemicolons (css.filter fun c => !isBlank c)

/-- Why a document is refused in which a point has no class name after it. -/
def emptyClass : Error := .minifier "empty class name"

/-- The minified form of a document. -/
def ofDocument (css : String) : Except Error String :=
  if hasEmptyClass css.toList then .error emptyClass else .ok (String.ofList (letters css.toList))

end CssRules.Minified
