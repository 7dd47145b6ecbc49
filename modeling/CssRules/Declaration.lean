import CssRules.Value

/-!
Declarations: a camelCase property name and its values. The values are written with spaces between
them, unless all of them are layers, which are separated by commas.
-/

namespace CssRules

structure Declaration where
  name : String
  values : List Value
  deriving Inhabited

namespace Declaration

/-- The property as it is written in a sheet. -/
def property (declaration : Declaration) : String := Text.hyphenated declaration.name

/-- Whether the values are layers, at least one. -/
def isLayered (declaration : Declaration) : Bool :=
  !declaration.values.isEmpty && declaration.values.all Value.isLayer

/-- What stands between two values. -/
def separator (declaration : Declaration) : String := if declaration.isLayered then ", " else " "

/-- The right-hand side. -/
def valueText (declaration : Declaration) : String :=
  declaration.separator.intercalate (declaration.values.map Value.render)

/-- The declaration with its colon and semicolon. -/
def render (declaration : Declaration) : String :=
  declaration.property ++ ": " ++ declaration.valueText ++ ";"

/-- The same name and values as a function call, for use inside another declaration. -/
def toCall (declaration : Declaration) : Value := .call declaration.name declaration.values

theorem render_toCall (declaration : Declaration) : declaration.toCall.render =
    Value.callText declaration.name (declaration.values.map Value.render) := by
  simp [toCall, Value.render, Value.renderAll_eq_map]

end Declaration

end CssRules
