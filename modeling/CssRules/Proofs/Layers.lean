import CssRules.Declaration

/-! Layers within layers. Values are written with a space between them at every depth of a layer, so that nothing of
its nesting is left in its text: it is the text of its leaves, with spaces between them. The arguments of calls are
flattened in the same way, wherever the call stands. Only an empty layer would leave a space too many. -/

namespace CssRules

/-- Rows that are joined in themselves and then with one another are joined as one row, unless one is empty. -/
theorem intercalate_map_intercalate (separator : String) {rows : List (List String)} (h : ∀ row ∈ rows, row ≠ []) :
    separator.intercalate (rows.map separator.intercalate) = separator.intercalate rows.flatten := by
  induction rows with
  | nil => rfl
  | cons row rest ih =>
      have hrest := ih fun other hmem => h other (List.mem_cons_of_mem _ hmem)
      cases rest with
      | nil => simp
      | cons next others =>
          have hflat : (next :: others).flatten ≠ [] := by
            simpa using fun hnext => absurd hnext (h next (by simp))
          rw [List.map_cons, List.map_cons, String.intercalate_cons_cons, ← List.map_cons, hrest,
            ← String.intercalate_append_of_ne_nil (h row List.mem_cons_self) hflat]
          rfl

namespace Value

mutual

/-- Whether no layer in a value is empty, and in the arguments of its calls neither if `inCalls` is set. -/
def isFilled (inCalls : Bool) : Value → Bool
  | .text _ => true
  | .number _ => true
  | .measure _ _ => true
  | .call _ arguments => !inCalls || areFilled inCalls arguments
  | .layer items => !items.isEmpty && areFilled inCalls items

def areFilled (inCalls : Bool) : List Value → Bool
  | [] => true
  | value :: rest => value.isFilled inCalls && areFilled inCalls rest

end

mutual

/-- The values other than layers in a value, from left to right. -/
def leaves : Value → List Value
  | .text content => [.text content]
  | .number x => [.number x]
  | .measure x dimension => [.measure x dimension]
  | .call name arguments => [.call name arguments]
  | .layer items => leavesOf items

def leavesOf : List Value → List Value
  | [] => []
  | value :: rest => value.leaves ++ leavesOf rest

end

/-- The text of the leaves of a value, with spaces between them. -/
def row (value : Value) : String := " ".intercalate (value.leaves.map render)

mutual

/-- The texts of the leaves of a value, without nesting at any depth: in a call each argument is the row of its own
leaves. -/
def leafTexts : Value → List String
  | .text content => [content]
  | .number x => [Number.text x]
  | .measure x dimension => [Number.text x ++ dimension.suffix]
  | .call name arguments => [callText name (rows arguments)]
  | .layer items => leafTextsOf items

def leafTextsOf : List Value → List String
  | [] => []
  | value :: rest => value.leafTexts ++ leafTextsOf rest

/-- Each of several values as the row of its leaves. -/
def rows : List Value → List String
  | [] => []
  | value :: rest => " ".intercalate value.leafTexts :: rows rest

end

variable {inCalls : Bool} {values : List Value}

theorem areFilled_iff : areFilled inCalls values = true ↔ ∀ value ∈ values, value.isFilled inCalls = true := by
  induction values with
  | nil => simp [areFilled]
  | cons value rest ih => simp [areFilled, ih]

theorem isFilled_layer_iff :
    (layer values).isFilled inCalls = true ↔ values ≠ [] ∧ ∀ value ∈ values, value.isFilled inCalls = true := by
  simp [isFilled, areFilled_iff]

theorem isFilled_call_iff {name : String} :
    (call name values).isFilled true = true ↔ ∀ value ∈ values, value.isFilled true = true := by
  simp [isFilled, areFilled_iff]

theorem leavesOf_eq_flatMap (values : List Value) : leavesOf values = values.flatMap leaves := by
  induction values with
  | nil => rfl
  | cons value rest ih => simp [leavesOf, ih]

/-- The first item of a layer has a leaf already. -/
theorem leaves_ne_nil : ∀ value : Value, value.isFilled inCalls = true → value.leaves ≠ []
  | .text _, _ => by simp [leaves]
  | .number _, _ => by simp [leaves]
  | .measure _ _, _ => by simp [leaves]
  | .call _ _, _ => by simp [leaves]
  | .layer [], h => absurd rfl (isFilled_layer_iff.mp h).1
  | .layer (first :: rest), h => by
      have hfirst := leaves_ne_nil first ((isFilled_layer_iff.mp h).2 first List.mem_cons_self)
      rw [leaves, leavesOf]
      exact List.append_ne_nil_of_left_ne_nil hfirst _

/-- The rows of several values make one row of all their leaves. -/
theorem intercalate_map_row (h : ∀ value ∈ values, value.isFilled inCalls = true) :
    " ".intercalate (values.map row) = " ".intercalate ((values.flatMap leaves).map render) := by
  have hrows : ∀ texts ∈ values.map fun value => value.leaves.map render, texts ≠ [] := by
    intro texts htexts
    obtain ⟨value, hvalue, rfl⟩ := List.mem_map.mp htexts
    exact mt List.map_eq_nil_iff.mp (leaves_ne_nil value (h value hvalue))
  have hjoin := intercalate_map_intercalate " " hrows
  rw [List.map_map, ← List.flatMap_def, ← List.map_flatMap] at hjoin
  exact hjoin

mutual

/-- A value is written as the row of its leaves. -/
theorem render_eq_row : ∀ value : Value, value.isFilled inCalls = true → value.render = value.row
  | .text _, _ => by simp [row, leaves]
  | .number _, _ => by simp [row, leaves]
  | .measure _ _, _ => by simp [row, leaves]
  | .call _ _, _ => by simp [row, leaves]
  | .layer items, h => by
      have hitems := (isFilled_layer_iff.mp h).2
      rw [render, renderAll_eq_map_row items hitems, intercalate_map_row hitems, row, leaves, leavesOf_eq_flatMap]

theorem renderAll_eq_map_row : ∀ values : List Value, (∀ value ∈ values, value.isFilled inCalls = true) →
    renderAll values = values.map row
  | [], _ => rfl
  | value :: rest, h => by
      rw [renderAll, List.map_cons, render_eq_row value (h value List.mem_cons_self),
        renderAll_eq_map_row rest fun other hmem => h other (List.mem_cons_of_mem _ hmem)]

end

theorem map_render_eq_map_row (h : ∀ value ∈ values, value.isFilled inCalls = true) :
    values.map render = values.map row :=
  List.map_congr_left fun value hvalue => render_eq_row value (h value hvalue)

mutual

/-- Also in calls the texts of the leaves are what the leaves are written as. -/
theorem leafTexts_eq_map : ∀ value : Value, value.isFilled true = true → value.leafTexts = value.leaves.map render
  | .text _, _ => by simp [leafTexts, leaves, render]
  | .number _, _ => by simp [leafTexts, leaves, render]
  | .measure _ _, _ => by simp [leafTexts, leaves, render]
  | .call name arguments, h => by
      have harguments := isFilled_call_iff.mp h
      simp [leafTexts, leaves, render, rows_eq_map arguments harguments, renderAll_eq_map_row arguments harguments]
  | .layer items, h => leafTextsOf_eq_map items (isFilled_layer_iff.mp h).2

theorem leafTextsOf_eq_map : ∀ values : List Value, (∀ value ∈ values, value.isFilled true = true) →
    leafTextsOf values = (leavesOf values).map render
  | [], _ => rfl
  | value :: rest, h => by
      rw [leafTextsOf, leavesOf, List.map_append, leafTexts_eq_map value (h value List.mem_cons_self),
        leafTextsOf_eq_map rest fun other hmem => h other (List.mem_cons_of_mem _ hmem)]

theorem rows_eq_map : ∀ values : List Value, (∀ value ∈ values, value.isFilled true = true) →
    rows values = values.map row
  | [], _ => rfl
  | value :: rest, h => by
      rw [rows, leafTexts_eq_map value (h value List.mem_cons_self),
        rows_eq_map rest fun other hmem => h other (List.mem_cons_of_mem _ hmem)]
      rfl

end

mutual

theorem isLayer_of_mem_leaves : ∀ value : Value, ∀ leaf ∈ value.leaves, leaf.isLayer = false
  | .text _ => by simp [leaves, isLayer]
  | .number _ => by simp [leaves, isLayer]
  | .measure _ _ => by simp [leaves, isLayer]
  | .call _ _ => by simp [leaves, isLayer]
  | .layer items => isLayer_of_mem_leavesOf items

theorem isLayer_of_mem_leavesOf : ∀ values : List Value, ∀ leaf ∈ leavesOf values, leaf.isLayer = false
  | [] => fun _ hleaf => absurd hleaf List.not_mem_nil
  | value :: rest => fun leaf hleaf => (List.mem_append.mp hleaf).elim
      (isLayer_of_mem_leaves value leaf) (isLayer_of_mem_leavesOf rest leaf)

end

end Value

namespace Declaration

variable {declaration : Declaration}

theorem separator_of_layers (h : ∀ value ∈ declaration.values, value.isLayer = true)
    (hne : declaration.values ≠ []) : declaration.separator = ", " := by
  have hall : declaration.values.all Value.isLayer = true := List.all_eq_true.mpr h
  simp [separator, isLayered, hall, hne]

theorem separator_of_not_isLayer {value : Value} (hvalue : value ∈ declaration.values)
    (h : value.isLayer = false) : declaration.separator = " " := by
  have hall : declaration.values.all Value.isLayer = false := List.all_eq_false.mpr ⟨value, hvalue, by simp [h]⟩
  simp [separator, isLayered, hall]

/-- **Nesting leaves no trace in the text.** A value in which no layer is empty is written as the row of its leaves,
none of which is a layer. The values of a declaration are such rows: with commas between them if all values are
layers, and as a single row of all leaves if one is not. As a call the declaration has the rows as its arguments, with
commas between them. If no layer in the arguments of calls is empty either, the same holds within each leaf that is a
call, at any depth. -/
theorem layers_flattened :
    (∀ value : Value, value.isFilled false = true →
      value.render = " ".intercalate (value.leaves.map Value.render) ∧ ∀ leaf ∈ value.leaves, leaf.isLayer = false) ∧
    (∀ declaration : Declaration, (∀ value ∈ declaration.values, value.isFilled false = true) →
      ((∀ value ∈ declaration.values, value.isLayer = true) →
        declaration.valueText = ", ".intercalate (declaration.values.map Value.row)) ∧
      ((∃ value ∈ declaration.values, value.isLayer = false) → declaration.valueText =
        " ".intercalate ((declaration.values.flatMap Value.leaves).map Value.render)) ∧
      declaration.toCall.render =
        declaration.property ++ "(" ++ ", ".intercalate (declaration.values.map Value.row) ++ ")") ∧
    ∀ value : Value, value.isFilled true = true →
      value.leaves.map Value.render = value.leafTexts ∧ value.render = " ".intercalate value.leafTexts := by
  refine ⟨fun value h => ⟨Value.render_eq_row value h, Value.isLayer_of_mem_leaves value⟩,
    fun declaration h => ⟨fun hlayers => ?_, ?_, ?_⟩, fun value h => ?_⟩
  · rw [valueText, Value.map_render_eq_map_row h]
    by_cases hne : declaration.values = []
    · simp [hne]
    · rw [separator_of_layers hlayers hne]
  · rintro ⟨value, hvalue, hlayer⟩
    rw [valueText, Value.map_render_eq_map_row h, separator_of_not_isLayer hvalue hlayer,
      Value.intercalate_map_row h]
  · rw [render_toCall, Value.map_render_eq_map_row h]
    rfl
  · have htexts := Value.leafTexts_eq_map value h
    exact ⟨htexts.symm, by rw [Value.render_eq_row value h, Value.row, htexts]⟩

/-- Layers with layers in them, and a layer among the arguments of a call. -/
def nestedTransition : Declaration where
  name := "transition"
  values := [.layer [.text "opacity", .layer [.layer [.text "1s"], .text "ease"]],
    .layer [.call "cubicBezier" [.layer [.text "0", .layer [.text "1"]], .text "2"]]]

/-- A layer beside a value that is none. -/
def insetShadow : Declaration where
  name := "boxShadow"
  values := [.text "inset", .layer [.text "0", .layer [.text "1px"]]]

theorem layers_flattened_transition :
    (∀ value ∈ nestedTransition.values, value.isFilled false = true) ∧
      (∀ value ∈ nestedTransition.values, value.isLayer = true) ∧
      nestedTransition.valueText = "opacity 1s ease, cubic-bezier(0 1, 2)" ∧
      (∀ value ∈ insetShadow.values, value.isFilled false = true) ∧
      (∃ value ∈ insetShadow.values, value.isLayer = false) ∧ insetShadow.valueText = "inset 0 1px" ∧
      nestedTransition.toCall.isFilled true = true ∧
      nestedTransition.toCall.render = "transition(opacity 1s ease, cubic-bezier(0 1, 2))" := by
  obtain ⟨-, hdeclarations, hthroughout⟩ := layers_flattened
  have hfilled : ∀ value ∈ nestedTransition.values, value.isFilled false = true := by
    simp [nestedTransition, Value.isFilled, Value.areFilled]
  have hlayers : ∀ value ∈ nestedTransition.values, value.isLayer = true := by
    simp [nestedTransition, Value.isLayer]
  have hshadow : ∀ value ∈ insetShadow.values, value.isFilled false = true := by
    simp [insetShadow, Value.isFilled, Value.areFilled]
  have hmixed : ∃ value ∈ insetShadow.values, value.isLayer = false :=
    ⟨.text "inset", List.mem_cons_self, rfl⟩
  have hcall : nestedTransition.toCall.isFilled true = true := by
    simp [toCall, nestedTransition, Value.isFilled, Value.areFilled]
  refine ⟨hfilled, hlayers, ?_, hshadow, hmixed, ?_, hcall, ?_⟩
  · rw [(hdeclarations nestedTransition hfilled).1 hlayers]
    decide +kernel
  · rw [(hdeclarations insetShadow hshadow).2.1 hmixed]
    decide +kernel
  · rw [(hthroughout nestedTransition.toCall hcall).2]
    decide +kernel

/-- An empty layer is written as nothing, but the space before it is there. -/
example : (Value.layer [.text "a", .layer []]).render = "a " := by decide +kernel

end Declaration

end CssRules
