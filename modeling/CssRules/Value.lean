import CssRules.Number.Plain
import CssRules.Text.Hyphenated

/-!
Values on the right-hand side of a declaration, their text and their equality. A value is plain text, a
number, a measure, a function call, or a layer, which is a list of values written with spaces between
them. Calls and layers contain values again, so the functions on values come in pairs, one for a value
and one for a list of values.
-/

namespace CssRules

/-- The dimensions a number can be measured in. -/
inductive Dimension where
  | px | em | rem | percent | vw | vh | vmin | vmax | ch | ex
  | pt | cm | mm | inch | deg | rad | turn | second | millisecond | fraction
  deriving DecidableEq, Repr

/-- What is written directly after the number. -/
def Dimension.suffix : Dimension → String
  | .px => "px"
  | .em => "em"
  | .rem => "rem"
  | .percent => "%"
  | .vw => "vw"
  | .vh => "vh"
  | .vmin => "vmin"
  | .vmax => "vmax"
  | .ch => "ch"
  | .ex => "ex"
  | .pt => "pt"
  | .cm => "cm"
  | .mm => "mm"
  | .inch => "in"
  | .deg => "deg"
  | .rad => "rad"
  | .turn => "turn"
  | .second => "s"
  | .millisecond => "ms"
  | .fraction => "fr"

inductive Value where
  /-- A keyword or other text, written as it is. -/
  | text (content : String)
  | number (x : Float)
  | measure (x : Float) (dimension : Dimension)
  /-- A function with its arguments. The name is in camelCase. -/
  | call (name : String) (arguments : List Value)
  /-- One layer of a value with several layers. -/
  | layer (items : List Value)

namespace Value

instance : Inhabited Value := ⟨.text ""⟩

def ofInt (n : Int32) : Value := .number (Float.ofInt n.toInt)

def px (x : Float) : Value := .measure x .px

def em (x : Float) : Value := .measure x .em

def rem (x : Float) : Value := .measure x .rem

def percent (x : Float) : Value := .measure x .percent

def vw (x : Float) : Value := .measure x .vw

def vh (x : Float) : Value := .measure x .vh

def deg (x : Float) : Value := .measure x .deg

def ms (x : Float) : Value := .measure x .millisecond

def fr (x : Float) : Value := .measure x .fraction

def isLayer : Value → Bool
  | .layer _ => true
  | _ => false

/-- A function call with the texts of its arguments. -/
def callText (name : String) (arguments : List String) : String :=
  Text.hyphenated name ++ "(" ++ ", ".intercalate arguments ++ ")"

mutual

/-- The text of a value. -/
def render : Value → String
  | .text content => content
  | .number x => Number.text x
  | .measure x dimension => Number.text x ++ dimension.suffix
  | .call name arguments => callText name (renderAll arguments)
  | .layer items => " ".intercalate (renderAll items)

/-- The texts of several values. -/
def renderAll : List Value → List String
  | [] => []
  | value :: rest => value.render :: renderAll rest

end

theorem renderAll_eq_map (values : List Value) : renderAll values = values.map render := by
  induction values with
  | nil => rfl
  | cons value rest ih => simp [renderAll, ih]

mutual

/-- Equality of structure, in which numbers are compared as numbers: what is not a number differs from
itself, and the two zeros are the same. -/
def same : Value → Value → Bool
  | .text a, .text b => a == b
  | .number x, .number y => x == y
  | .measure x d, .measure y e => x == y && d == e
  | .call f xs, .call g ys => f == g && sameAll xs ys
  | .layer xs, .layer ys => sameAll xs ys
  | _, _ => false

def sameAll : List Value → List Value → Bool
  | [], [] => true
  | x :: xs, y :: ys => x.same y && sameAll xs ys
  | _, _ => false

end

instance : BEq Value := ⟨same⟩

end Value

end CssRules
