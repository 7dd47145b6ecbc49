import CssRules.Declaration

/-!
The common properties. A property only fixes the name of a declaration; its values are not checked, and
a declaration of any other property can be built from its name.
-/

namespace CssRules

inductive Property where
  | left | right | top | bottom | insetBlockEnd | insetBlockStart | position | display | width
  | height | minWidth | maxWidth | margin | padding | border | borderRadius | color
  | backgroundColor | fontFamily | fontSize | fontWeight | lineHeight | textAlign | opacity | zIndex
  | flexDirection | justifyContent | alignItems | gap | gridTemplateColumns | transform | transition
  | cursor | overflow | boxShadow
  deriving DecidableEq, Repr

namespace Property

/-- All properties, in the order of their definition. -/
def all : List Property := [
  .left, .right, .top, .bottom, .insetBlockEnd, .insetBlockStart, .position, .display, .width,
  .height, .minWidth, .maxWidth, .margin, .padding, .border, .borderRadius, .color,
  .backgroundColor, .fontFamily, .fontSize, .fontWeight, .lineHeight, .textAlign, .opacity, .zIndex,
  .flexDirection, .justifyContent, .alignItems, .gap, .gridTemplateColumns, .transform, .transition,
  .cursor, .overflow, .boxShadow]

/-- The camelCase name. -/
def name : Property → String
  | .left => "left"
  | .right => "right"
  | .top => "top"
  | .bottom => "bottom"
  | .insetBlockEnd => "insetBlockEnd"
  | .insetBlockStart => "insetBlockStart"
  | .position => "position"
  | .display => "display"
  | .width => "width"
  | .height => "height"
  | .minWidth => "minWidth"
  | .maxWidth => "maxWidth"
  | .margin => "margin"
  | .padding => "padding"
  | .border => "border"
  | .borderRadius => "borderRadius"
  | .color => "color"
  | .backgroundColor => "backgroundColor"
  | .fontFamily => "fontFamily"
  | .fontSize => "fontSize"
  | .fontWeight => "fontWeight"
  | .lineHeight => "lineHeight"
  | .textAlign => "textAlign"
  | .opacity => "opacity"
  | .zIndex => "zIndex"
  | .flexDirection => "flexDirection"
  | .justifyContent => "justifyContent"
  | .alignItems => "alignItems"
  | .gap => "gap"
  | .gridTemplateColumns => "gridTemplateColumns"
  | .transform => "transform"
  | .transition => "transition"
  | .cursor => "cursor"
  | .overflow => "overflow"
  | .boxShadow => "boxShadow"

/-- The declaration of the property with the given values. -/
def declare (property : Property) (values : List Value) : Declaration := ⟨property.name, values⟩

/-- The property with a given hyphenated name. -/
def ofHyphenated? (hyphenated : String) : Option Property :=
  all.find? fun property => Text.hyphenated property.name == hyphenated

end Property

end CssRules
