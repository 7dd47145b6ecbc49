import CssRules.Minified
import CssRules.Proofs.Formatting

/-! Simple sheets and what becomes of them when they are minified. A simple sheet is a text in a small grammar: rules
with classes and at most one pseudo class as their selectors, and with lengths and integers as their values. A
minifier has to take away the white space of such a sheet and the semicolons at the ends of its rules. Here this is
worked out for the blocks of a sheet, one after the other. -/

namespace CssRules.Minified

open Text

/-- The characters of class names, properties and values. -/
def isNameCharacter (c : Char) : Bool := c.isLower || c.isDigit || c == '-'

/-- The characters that minifying leaves alone wherever they stand. -/
def isPlain (c : Char) : Bool := !isBlank c && c != ';' && c != '\x7d'

/-- A class name begins with a small letter. -/
def isWord (text : String) : Bool := text.toList.head?.any Char.isLower && text.toList.all isNameCharacter

def isPseudoClass (text : String) : Bool := text == ":hover" || text == ":focus"

/-- Class names with their markers. -/
def classes (words : List String) : String := String.join (words.map ("." ++ ·))

/-- At least one class, and after the classes at most one pseudo class. -/
inductive IsSelector : String → Prop
  | mk {words : List String} {pseudo : Option String} (hne : words ≠ [])
      (hwords : ∀ word ∈ words, isWord word = true) (hpseudo : pseudo.all isPseudoClass = true) :
      IsSelector (classes words ++ pseudo.getD "")

/-- A property and its value. -/
inductive IsSetting : String → String → Prop
  | length {property : String} (hproperty : property ∈ ["width", "height"]) {n : Nat} (hpositive : 0 < n) :
      IsSetting property (toString n ++ "px")
  | integer {property : String} (hproperty : property ∈ ["z-index", "order"]) (n : Int) :
      IsSetting property (toString n)

/-- All declarations are lengths and integers. -/
def AreSettings (declarations : List Declaration) : Prop :=
  ∀ declaration ∈ declarations, IsSetting declaration.property declaration.valueText

/-- White space that stands between two parts. -/
structure IsGap (text : String) : Prop where
  nonempty : text ≠ ""
  madeOf_blank : MadeOf isBlank text

/-- Declarations, each of them with white space after it. -/
inductive IsBody : String → Prop
  | nil : IsBody ""
  | cons {property value gap rest : String} (hsetting : IsSetting property value) (hgap : IsGap gap)
      (hrest : IsBody rest) : IsBody (property ++ ": " ++ value ++ ";" ++ gap ++ rest)

inductive IsRule : String → Prop
  | mk {selector lead body : String} (hselector : IsSelector selector) (hlead : MadeOf isBlank lead)
      (hbody : IsBody body) : IsRule (selector ++ " \x7b" ++ lead ++ body ++ "\x7d")

/-- At least one rule. -/
inductive IsSheet : String → Prop
  | single {rule : String} (hrule : IsRule rule) : IsSheet rule
  | cons {rule gap rest : String} (hrule : IsRule rule) (hgap : IsGap gap) (hrest : IsSheet rest) :
      IsSheet (rule ++ gap ++ rest)

inductive IsDocument : String → Prop
  | blank {css : String} (h : MadeOf isBlank css) : IsDocument css
  | sheet {css : String} (h : IsSheet css) : IsDocument css

/-- What a minifier has to do with simple sheets. Without an empty class it does not fail. -/
def Faithful (minifier : String → Except Error String) : Prop :=
  ∀ {css}, IsDocument css → minifier css = .ok (String.ofList (letters css.toList))

/-- What holds of every class, of no text and of two texts one after the other holds of all classes together. -/
theorem classes_induction (holds : String → Prop) (hempty : holds "")
    (happend : ∀ {left right : String}, holds left → holds right → holds (left ++ right)) {words : List String}
    (hwords : ∀ word ∈ words, holds ("." ++ word)) : holds (classes words) := by
  induction words with
  | nil => exact hempty
  | cons word rest ih =>
      rw [classes, List.map_cons, String.join_cons]
      exact happend (hwords word List.mem_cons_self) (ih fun word hmem => hwords word (List.mem_cons_of_mem _ hmem))

/-! ### Characters -/

section Characters

variable {c : Char} {text property value : String}

theorem pseudo_cases {pseudo : Option String} (h : pseudo.all isPseudoClass = true) :
    pseudo.getD "" = "" ∨ pseudo.getD "" = ":hover" ∨ pseudo.getD "" = ":focus" := by
  cases pseudo with
  | none => exact Or.inl rfl
  | some text => exact Or.inr (by simpa [isPseudoClass] using h)

theorem ne_of_isNameCharacter (h : isNameCharacter c = true) {other : Char} (hother : isNameCharacter other = false) :
    c ≠ other := by
  rintro rfl
  rw [h] at hother
  cases hother

theorem isPlain_of_isNameCharacter (h : isNameCharacter c = true) : isPlain c = true := by
  have hblank : isBlank c = false := by
    have hspace : c ≠ ' ' := ne_of_isNameCharacter h rfl
    have htab : c ≠ '\t' := ne_of_isNameCharacter h rfl
    have hnewline : c ≠ '\n' := ne_of_isNameCharacter h rfl
    have hreturn : c ≠ '\r' := ne_of_isNameCharacter h rfl
    have hfeed : c ≠ '\x0c' := ne_of_isNameCharacter h rfl
    simp [isBlank, hspace, htab, hnewline, hreturn, hfeed]
  have hsemicolon : c ≠ ';' := ne_of_isNameCharacter h rfl
  have hbrace : c ≠ '\x7d' := ne_of_isNameCharacter h rfl
  simp [isPlain, hblank, hsemicolon, hbrace]

theorem plain_of_name (h : MadeOf isNameCharacter text) : MadeOf isPlain text :=
  fun c hc => isPlain_of_isNameCharacter (h c hc)

theorem condense_of_plain (h : MadeOf isPlain text) : condense isBlank text = text := by
  have hkept : text.toList.filter (fun c => !Minified.isBlank c) = text.toList := by
    refine List.filter_eq_self.mpr fun c hc => ?_
    have hplain := h c hc
    simp only [isPlain, Bool.and_eq_true] at hplain
    exact hplain.1.1
  rw [condense, hkept, String.ofList_toList]

theorem madeOf_of_isWord (h : isWord text = true) : MadeOf isNameCharacter text :=
  List.all_eq_true.mp (Bool.and_eq_true_iff.mp h).2

theorem madeOf_numeral (n : Nat) : MadeOf isNameCharacter (toString n) := by
  intro c hc
  have hdigits : (toString n).toList = Nat.toDigits 10 n := by simp
  rw [hdigits] at hc
  simp [isNameCharacter, Nat.isDigit_of_mem_toDigits (by decide) (by decide) hc]

theorem madeOf_integer (n : Int) : MadeOf isNameCharacter (toString n) := by
  cases n with
  | ofNat n => exact madeOf_numeral n
  | negSucc n => exact madeOf_append.mpr ⟨(by decide : MadeOf isNameCharacter "-"), madeOf_numeral (n + 1)⟩

theorem IsSetting.madeOf_property (h : IsSetting property value) : MadeOf isNameCharacter property := by
  have htable : ∀ property ∈ ["width", "height", "z-index", "order"], MadeOf isNameCharacter property := by decide
  apply htable
  cases h with
  | length hproperty hpositive => exact List.mem_append_left ["z-index", "order"] hproperty
  | integer hproperty n => exact List.mem_append_right ["width", "height"] hproperty

theorem IsSetting.madeOf_value (h : IsSetting property value) : MadeOf isNameCharacter value := by
  cases h with
  | length hproperty hpositive => exact madeOf_append.mpr ⟨madeOf_numeral _, by decide⟩
  | integer hproperty n => exact madeOf_integer n

end Characters

/-! ### Classes -/

section Classes

variable {css left right : List Char} {text : String}

theorem hasEmptyClass_of_not_mem (h : '.' ∉ css) : hasEmptyClass css = false := by
  induction css with
  | nil => rfl
  | cons c rest ih =>
      have hc : c ≠ '.' := fun hc => h (hc ▸ List.mem_cons_self)
      simp [hasEmptyClass, hc, ih fun hmem => h (List.mem_cons_of_mem c hmem)]

/-- A text without an empty class does not end with a point, so that what follows shows its own empty classes only. -/
theorem hasEmptyClass_append (h : hasEmptyClass left = false) :
    hasEmptyClass (left ++ right) = hasEmptyClass right := by
  induction left with
  | nil => rfl
  | cons c rest ih =>
      obtain ⟨hc, hrest⟩ := Bool.or_eq_false_iff.mp h
      have hhead : (c == '.' && !(rest ++ right).head?.any Char.isLower) = false := by
        cases rest with
        | nil => simp_all
        | cons next rest => exact hc
      rw [List.cons_append, hasEmptyClass, hhead, Bool.false_or, ih hrest]

/-- No class in the text is empty. -/
def ClassesNamed (text : String) : Prop := hasEmptyClass text.toList = false

theorem ClassesNamed.append {left right : String} (hleft : ClassesNamed left) (hright : ClassesNamed right) :
    ClassesNamed (left ++ right) := by
  rw [ClassesNamed, String.toList_append, hasEmptyClass_append hleft]
  exact hright

theorem classesNamed_of_name (h : MadeOf isNameCharacter text) : ClassesNamed text :=
  hasEmptyClass_of_not_mem fun hmem => absurd (h '.' hmem) (by decide)

theorem classesNamed_of_blank (h : MadeOf isBlank text) : ClassesNamed text :=
  hasEmptyClass_of_not_mem fun hmem => absurd (h '.' hmem) (by decide)

theorem classesNamed_class (h : isWord text = true) : ClassesNamed ("." ++ text) := by
  have hhead := (Bool.and_eq_true_iff.mp h).1
  have hrest : hasEmptyClass text.toList = false := classesNamed_of_name (madeOf_of_isWord h)
  simp [ClassesNamed, hasEmptyClass, hhead, hrest]

theorem IsSelector.classesNamed (h : IsSelector text) : ClassesNamed text := by
  obtain @⟨words, pseudo, -, hwords, hpseudo⟩ := h
  have hclasses : ClassesNamed (classes words) :=
    classes_induction ClassesNamed rfl .append fun word hmem => classesNamed_class (hwords word hmem)
  refine hclasses.append ?_
  rcases pseudo_cases hpseudo with h | h | h <;> rw [h] <;> rfl

theorem IsBody.classesNamed (h : IsBody text) : ClassesNamed text := by
  induction h with
  | nil => rfl
  | cons hsetting hgap hrest ih =>
      have hcolon : ClassesNamed ": " := rfl
      have hsemicolon : ClassesNamed ";" := rfl
      exact (((((classesNamed_of_name hsetting.madeOf_property).append hcolon).append
        (classesNamed_of_name hsetting.madeOf_value)).append hsemicolon).append
          (classesNamed_of_blank hgap.madeOf_blank)).append ih

theorem IsRule.classesNamed (h : IsRule text) : ClassesNamed text := by
  obtain ⟨hselector, hlead, hbody⟩ := h
  have hopening : ClassesNamed " \x7b" := rfl
  have hclosing : ClassesNamed "\x7d" := rfl
  exact (((hselector.classesNamed.append hopening).append (classesNamed_of_blank hlead)).append
    hbody.classesNamed).append hclosing

theorem IsSheet.classesNamed (h : IsSheet text) : ClassesNamed text := by
  induction h with
  | single hrule => exact hrule.classesNamed
  | cons hrule hgap hrest ih =>
      exact (hrule.classesNamed.append (classesNamed_of_blank hgap.madeOf_blank)).append ih

theorem IsDocument.classesNamed (h : IsDocument text) : ClassesNamed text := by
  cases h with
  | blank h => exact classesNamed_of_blank h
  | sheet h => exact h.classesNamed

theorem faithful_ofDocument : Faithful ofDocument := by
  intro css h
  have hnamed : hasEmptyClass css.toList = false := h.classesNamed
  simp [ofDocument, hnamed]

end Classes

/-! ### Semicolons -/

section Semicolons

variable {text : String}

theorem dropLastSemicolons_append (h : MadeOf isPlain text) (rest : List Char) :
    dropLastSemicolons (text.toList ++ rest) = text.toList ++ dropLastSemicolons rest := by
  unfold MadeOf at h
  generalize text.toList = chars at h ⊢
  induction chars with
  | nil => rfl
  | cons c left ih =>
      have hc : c ≠ ';' := fun hc => absurd (h c List.mem_cons_self) (by rw [hc]; decide)
      simp [dropLastSemicolons, hc, ih fun c hmem => h c (List.mem_cons_of_mem _ hmem)]

theorem dropLastSemicolons_semicolon {c : Char} (h : c ≠ '\x7d') (rest : List Char) :
    dropLastSemicolons (';' :: c :: rest) = ';' :: dropLastSemicolons (c :: rest) := by
  rw [dropLastSemicolons.eq_2]
  simp [h]

theorem dropLastSemicolons_brace (rest : List Char) :
    dropLastSemicolons ('\x7d' :: rest) = '\x7d' :: dropLastSemicolons rest := by
  simp [dropLastSemicolons]

theorem dropLastSemicolons_semicolon_brace (rest : List Char) :
    dropLastSemicolons (';' :: '\x7d' :: rest) = '\x7d' :: dropLastSemicolons rest := by
  simp [dropLastSemicolons]

/-- Only the semicolon of the last declaration stands before the closing brace. -/
theorem dropLastSemicolons_declarations {declarations : List String}
    (h : ∀ text ∈ declarations, text ≠ "" ∧ MadeOf isPlain text) (rest : List Char) :
    dropLastSemicolons ((String.join (declarations.map (· ++ ";"))).toList ++ '\x7d' :: rest) =
      (";".intercalate declarations).toList ++ '\x7d' :: dropLastSemicolons rest := by
  induction declarations with
  | nil => exact dropLastSemicolons_brace rest
  | cons text others ih =>
      have hplain := (h text List.mem_cons_self).2
      have hothers := ih fun other hmem => h other (List.mem_cons_of_mem text hmem)
      cases others with
      | nil => simpa [dropLastSemicolons_append hplain] using dropLastSemicolons_semicolon_brace rest
      | cons next others =>
          -- The next declaration begins with a character that keeps the semicolon before it.
          obtain ⟨hne, hnext⟩ := h next (List.mem_cons_of_mem text List.mem_cons_self)
          obtain ⟨c, tail, hchars⟩ := List.exists_cons_of_ne_nil (mt String.toList_eq_nil_iff.mp hne)
          have hc : c ≠ '\x7d' := fun hc =>
            absurd (hnext c (by rw [hchars]; exact List.mem_cons_self)) (by rw [hc]; decide)
          have hbehind : (String.join ((next :: others).map (· ++ ";"))).toList ++ '\x7d' :: rest =
              c :: (tail ++ ';' :: (String.join (others.map (· ++ ";"))).toList ++ '\x7d' :: rest) := by
            simp [String.join_cons, hchars]
          rw [List.map_cons, String.join_cons, String.toList_append, String.toList_append, List.append_assoc,
            List.append_assoc, dropLastSemicolons_append hplain, String.intercalate_cons_cons,
            String.toList_append, String.toList_append, List.append_assoc, List.append_assoc, ← hothers, hbehind]
          exact congrArg (text.toList ++ ·) (dropLastSemicolons_semicolon hc _)

end Semicolons

/-! ### Blocks -/

/-- The minified form of a block. -/
def compactBlock (selector : String) (declarations : List String) : String :=
  selector ++ "\x7b" ++ ";".intercalate declarations ++ "\x7d"

/-- A block of a simple sheet and its minified form, wherever it stands. -/
structure Shrinks (block part : String) : Prop where
  isRule : IsRule block
  letters_eq : ∀ rest : List Char,
    dropLastSemicolons ((condense isBlank block).toList ++ rest) = part.toList ++ dropLastSemicolons rest

section Blocks

variable {layout : Layout} {selector : String} {declarations : List Declaration}

theorem isGap_lead (h : layout.Spaced isBlank) (hline : layout.line ≠ "") : IsGap layout.lead := by
  refine ⟨?_, h.lead rfl⟩
  unfold Layout.lead
  split
  · decide
  · exact fun hempty => hline (String.append_eq_empty_iff.mp hempty).1

theorem isGap_closing (h : layout.Spaced isBlank) (hline : layout.line ≠ "") : IsGap layout.closing := by
  refine ⟨?_, h.closing rfl⟩
  unfold Layout.closing
  split
  · decide
  · exact hline

/-- White space before each declaration and at the end is also white space at the beginning and after each. -/
theorem exists_body (h : layout.Spaced isBlank) (hline : layout.line ≠ "")
    (hdeclarations : AreSettings declarations) :
    ∃ lead body, IsGap lead ∧ IsBody body ∧
      String.join ((declarations.map Declaration.render).map (layout.lead ++ ·)) ++ layout.closing = lead ++ body := by
  -- The white space after a declaration is what stands before the next one.
  induction declarations with
  | nil => exact ⟨layout.closing, "", isGap_closing h hline, .nil, by simp⟩
  | cons declaration rest ih =>
      obtain ⟨gap, body, hgap, hbody, heq⟩ := ih fun other hmem => hdeclarations other (List.mem_cons_of_mem _ hmem)
      refine ⟨layout.lead, declaration.render ++ gap ++ body, isGap_lead h hline,
        .cons (hdeclarations declaration List.mem_cons_self) hgap hbody, ?_⟩
      rw [List.map_cons, List.map_cons, String.join_cons, String.append_assoc, heq]
      simp only [String.append_assoc]

theorem isRule_block (h : layout.Spaced isBlank) (hline : layout.line ≠ "") (hselector : IsSelector selector)
    (hdeclarations : AreSettings declarations) :
    IsRule (layout.block selector (declarations.map Declaration.render)) := by
  obtain ⟨lead, body, hlead, hbody, heq⟩ := exists_body h hline hdeclarations
  have hblock : layout.block selector (declarations.map Declaration.render) =
      selector ++ " \x7b" ++ lead ++ body ++ "\x7d" :=
    calc layout.block selector (declarations.map Declaration.render)
        = selector ++ " \x7b" ++ (String.join ((declarations.map Declaration.render).map (layout.lead ++ ·)) ++
            layout.closing) ++ "\x7d" := by simp only [Layout.block_eq, String.append_assoc]
      _ = selector ++ " \x7b" ++ lead ++ body ++ "\x7d" := by rw [heq]; simp only [String.append_assoc]
  rw [hblock]
  exact .mk hselector hlead.madeOf_blank hbody

theorem IsSelector.madeOf_plain (h : IsSelector selector) : MadeOf isPlain selector := by
  obtain @⟨words, pseudo, -, hwords, hpseudo⟩ := h
  have hclasses : MadeOf isPlain (classes words) :=
    classes_induction (MadeOf isPlain) (by decide) (fun hleft hright => madeOf_append.mpr ⟨hleft, hright⟩)
      fun word hmem => madeOf_append.mpr ⟨by decide, plain_of_name (madeOf_of_isWord (hwords word hmem))⟩
  refine madeOf_append.mpr ⟨hclasses, ?_⟩
  rcases pseudo_cases hpseudo with h | h | h <;> rw [h] <;> decide

/-- A declaration without the blank after its colon and without its semicolon. -/
def compactText (declaration : Declaration) : String := declaration.property ++ ":" ++ declaration.valueText

theorem compactText_plain {declaration : Declaration}
    (h : IsSetting declaration.property declaration.valueText) :
    compactText declaration ≠ "" ∧ MadeOf isPlain (compactText declaration) := by
  have hproperty := plain_of_name h.madeOf_property
  have hvalue := plain_of_name h.madeOf_value
  refine ⟨fun hempty => ?_, madeOf_append.mpr ⟨madeOf_append.mpr ⟨hproperty, by decide⟩, hvalue⟩⟩
  simpa [compactText] using congrArg String.toList hempty

theorem condense_render {declaration : Declaration} (h : IsSetting declaration.property declaration.valueText) :
    condense isBlank declaration.render = compactText declaration ++ ";" := by
  have hcolon : condense isBlank ": " = ":" := by decide
  have hsemicolon : condense isBlank ";" = ";" := by decide
  rw [Declaration.render, condense_append, condense_append, condense_append, hcolon, hsemicolon,
    condense_of_plain (plain_of_name h.madeOf_property), condense_of_plain (plain_of_name h.madeOf_value), compactText]

theorem condense_block (h : layout.Spaced isBlank) (hselector : IsSelector selector)
    (hdeclarations : AreSettings declarations) :
    condense isBlank (layout.block selector (declarations.map Declaration.render)) =
      selector ++ "\x7b" ++ String.join ((declarations.map compactText).map (· ++ ";")) ++ "\x7d" := by
  have hopening : condense isBlank "\x7b" = "\x7b" := by decide
  have hclosing : condense isBlank "\x7d" = "\x7d" := by decide
  have hrender : (declarations.map Declaration.render).map (condense isBlank) =
      (declarations.map compactText).map (· ++ ";") := by
    rw [List.map_map, List.map_map]
    exact List.map_congr_left fun declaration hmem => condense_render (hdeclarations declaration hmem)
  rw [h.condense_block rfl, Layout.bareBlock, condense_append, condense_append, condense_append, condense_join,
    hrender, hopening, hclosing, condense_of_plain hselector.madeOf_plain]

theorem shrinks_block (h : layout.Spaced isBlank) (hline : layout.line ≠ "") (hselector : IsSelector selector)
    (hdeclarations : AreSettings declarations) :
    Shrinks (layout.block selector (declarations.map Declaration.render))
      (compactBlock selector (declarations.map compactText)) := by
  refine ⟨isRule_block h hline hselector hdeclarations, fun rest => ?_⟩
  have hcompact : ∀ text ∈ declarations.map compactText, text ≠ "" ∧ MadeOf isPlain text := by
    intro text hmem
    obtain ⟨declaration, hdeclaration, rfl⟩ := List.mem_map.mp hmem
    exact compactText_plain (hdeclarations declaration hdeclaration)
  have hopening : MadeOf isPlain "\x7b" := by decide
  rw [condense_block h hselector hdeclarations, compactBlock]
  simp only [String.toList_append, List.append_assoc]
  rw [dropLastSemicolons_append hselector.madeOf_plain, dropLastSemicolons_append hopening]
  exact congrArg (fun text => selector.toList ++ ("\x7b".toList ++ text))
    (dropLastSemicolons_declarations hcompact rest)

theorem isSheet_join (h : layout.Spaced isBlank) (hline : layout.line ≠ "") {block : String} {blocks : List String}
    (hblock : IsRule block) (hblocks : ∀ block ∈ blocks, IsRule block) :
    IsSheet (layout.join (block :: blocks)) := by
  have hgap : IsGap (layout.line ++ layout.line) :=
    ⟨fun hempty => hline (String.append_eq_empty_iff.mp hempty).1, madeOf_append.mpr ⟨h.line, h.line⟩⟩
  unfold Layout.join
  induction blocks generalizing block with
  | nil => simpa using .single hblock
  | cons next rest ih =>
      rw [String.intercalate_cons_cons]
      exact .cons hblock hgap
        (ih (hblocks next List.mem_cons_self) fun other hmem => hblocks other (List.mem_cons_of_mem _ hmem))

theorem isDocument_join (h : layout.Spaced isBlank) (hline : layout.line ≠ "") {blocks : List String}
    (hblocks : ∀ block ∈ blocks, IsRule block) : IsDocument (layout.join blocks) := by
  cases blocks with
  | nil => exact .blank (by decide : MadeOf isBlank "")
  | cons block rest =>
      exact .sheet (isSheet_join h hline (hblocks block List.mem_cons_self) fun other hmem =>
        hblocks other (List.mem_cons_of_mem _ hmem))

/-- Blocks can be minified one by one. -/
theorem dropLastSemicolons_join {blocks parts : List String} (h : List.Forall₂ Shrinks blocks parts) :
    dropLastSemicolons (String.join (blocks.map (condense isBlank))).toList = (String.join parts).toList := by
  induction h with
  | nil => rfl
  | cons hpart _ ih =>
      rw [List.map_cons, String.join_cons, String.join_cons, String.toList_append, String.toList_append,
        hpart.letters_eq, ih]

/-- What a faithful minifier makes of the blocks of a simple sheet. -/
theorem Faithful.join {minifier : String → Except Error String} (hfaithful : Faithful minifier)
    (h : layout.Spaced isBlank) (hline : layout.line ≠ "") {blocks parts : List String}
    (hparts : List.Forall₂ Shrinks blocks parts) : minifier (layout.join blocks) = .ok (String.join parts) := by
  have hrules : ∀ block ∈ blocks, IsRule block :=
    ((List.forall₂_and_left _ _).mp (hparts.imp fun _ _ hpart => ⟨hpart.isRule, hpart⟩)).1
  have hletters : letters (layout.join blocks).toList = (String.join parts).toList := by
    rw [letters, ← toList_condense, h.condense_join, dropLastSemicolons_join hparts]
  rw [hfaithful (isDocument_join h hline hrules), hletters, String.ofList_toList]

end Blocks

end CssRules.Minified
