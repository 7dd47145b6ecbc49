import CssRules.Proofs.Base36
import CssRules.Proofs.ClassMarkers
import CssRules.Proofs.SimpleSheets

/-! Documents that are minified. If the rules of a document are simple, the document is a simple sheet in every layout,
so that no minifier can fail on it that does what it has to do with simple sheets. What it makes of the document are
the selectors and the declarations of the rules, with as little between them as possible. The layout is lost. -/

namespace CssRules

open Text Minified

/-! ### Simple rules -/

/-- The fragments of the rule are words, with at most one pseudo class at the end, and its declarations are lengths
and integers. -/
structure Rule.IsSimple (rule : Rule) : Prop where
  fragments : ∃ (words : List String) (pseudo : Option String), rule.fragments = words ++ pseudo.toList ∧
    (∀ word ∈ words, isWord word = true) ∧ pseudo.all isPseudoClass = true
  declarations : AreSettings rule.declarations

theorem Fragment.beginsClass_of_isLower {c : Char} (h : c.isLower = true) : beginsClass c = true := by
  have hlt : c.toNat < 0x80 := by
    have hbound : c.val ≤ 'z'.val := by simpa using (Bool.and_eq_true_iff.mp h).2
    exact Nat.lt_of_le_of_lt hbound (by decide)
  have halphanum : c.isAlphanum = true := by
    change ((c.isUpper || c.isLower) || c.isDigit) = true
    simp [h]
  simp [beginsClass, isAlphanumeric_of_lt hlt, halphanum]

theorem Fragment.isClass_of_isWord {word : String} (h : isWord word = true) : isClass word = true := by
  have hhead := (Bool.and_eq_true_iff.mp h).1
  unfold isClass
  cases hchars : word.toList with
  | nil => simp [hchars] at hhead
  | cons c rest => simpa [hchars] using beginsClass_of_isLower (by simpa [hchars] using hhead)

theorem Fragment.hasSubject_of_isClass {fragment : String} (h : isClass fragment = true) :
    hasSubject fragment = true := by
  unfold isClass at h
  unfold hasSubject
  cases hchars : fragment.toList <;> simp_all [beginsSubject]

theorem Identifier.isWord_ofFingerprint (fingerprint : Fingerprint) : isWord (ofFingerprint fingerprint) = true := by
  have htable : ∀ value < 36, isNameCharacter (Number.base36Digit value) = true := by decide
  have hdigits : ∀ c ∈ Number.base36Digits 13 fingerprint.toNat, isNameCharacter c = true := by
    intro c hmem
    obtain ⟨value, hvalue, rfl⟩ := Number.exists_of_mem_base36Digits hmem
    exact htable value hvalue
  have hletter : isNameCharacter 'r' = true := by decide
  simpa [isWord, ofFingerprint, hletter] using hdigits

namespace Rule

variable {rule : Rule} {words : List String} {pseudo : Option String}
  (hfragments : rule.fragments = words ++ pseudo.toList) (hwords : ∀ word ∈ words, isWord word = true)
  (hpseudo : pseudo.all isPseudoClass = true)

include hfragments hwords hpseudo

theorem fragmentText_of_words : rule.fragmentText = classes words ++ pseudo.getD "" := by
  have hclasses : words.map Fragment.render = words.map ("." ++ ·) :=
    List.map_congr_left fun word hmem => by
      rw [Fragment.render, Fragment.isClass_of_isWord (hwords word hmem), if_pos rfl]
  have htail : String.join (pseudo.toList.map Fragment.render) = pseudo.getD "" := by
    cases pseudo with
    | none => rfl
    | some text =>
        have htable : ∀ text ∈ [":hover", ":focus"], String.join [Fragment.render text] = text := by decide
        exact htable text (by simpa [isPseudoClass] using hpseudo)
  rw [fragmentText, hfragments, List.map_append, hclasses, String.join_append, htail, classes]

/-- A rule of words needs no anchor if it has a word at all. -/
theorem hasSubject_of_words : rule.hasSubject = true ↔ words ≠ [] := by
  cases words with
  | nil =>
      have hnone : rule.hasSubject = false := by
        cases pseudo with
        | none => simp [hasSubject, hfragments]
        | some text =>
            have htable : ∀ text ∈ [":hover", ":focus"], Fragment.hasSubject text = false := by decide
            simpa [hasSubject, hfragments] using htable text (by simpa [isPseudoClass] using hpseudo)
      simp [hnone]
  | cons word rest =>
      have hword := Fragment.hasSubject_of_isClass (Fragment.isClass_of_isWord (hwords word List.mem_cons_self))
      simp [hasSubject, hfragments, hword]

end Rule

namespace RuleGraph

variable {graph : RuleGraph} {handle : Handle} {rule : Rule}

/-- The selector of a simple rule has a class, if only that of its identifier. -/
theorem NamesHashed.exists_selector (h : graph.NamesHashed) (hrule : graph.rule handle = .ok rule)
    (hsimple : rule.IsSimple) (hname : ∃ name, graph.identifier handle = .ok name) :
    ∃ selector, graph.selector handle = .ok selector ∧ IsSelector selector := by
  obtain ⟨words, pseudo, hfragments, hwords, hpseudo⟩ := hsimple.fragments
  have htext := Rule.fragmentText_of_words hfragments hwords hpseudo
  have hsubject := Rule.hasSubject_of_words hfragments hwords hpseudo
  obtain ⟨anchor, hanchor, hempty, hselector⟩ := exists_anchor hrule (Or.inr hname)
  rw [htext] at hselector
  refine ⟨_, hselector, ?_⟩
  -- Without words the class of the identifier is the only one.
  by_cases hne : words = []
  · obtain ⟨name, hname, rfl⟩ := hanchor.resolve_left fun hnone => hsubject.mp (hempty.mp hnone) hne
    obtain ⟨fingerprint, rfl⟩ := h.identifier hname
    subst hne
    have hword : ∀ word ∈ [Identifier.ofFingerprint fingerprint], isWord word = true := by
      simp [Identifier.isWord_ofFingerprint]
    have hclasses : "." ++ Identifier.ofFingerprint fingerprint ++ (classes [] ++ pseudo.getD "") =
        classes [Identifier.ofFingerprint fingerprint] ++ pseudo.getD "" := by
      simp [classes]
    rw [hclasses]
    exact .mk (by simp) hword hpseudo
  · rw [hempty.mpr (hsubject.mpr hne), String.empty_append]
    exact .mk hne hwords hpseudo

/-- The minified block of a rule. -/
def compactBlock (graph : RuleGraph) (handle : Handle) : Except Error String := do
  let rule ← graph.rule handle
  let selector ← graph.selector handle
  return Minified.compactBlock selector (rule.declarations.map compactText)

theorem NamesHashed.exists_compactBlock (h : graph.NamesHashed) (hrule : graph.rule handle = .ok rule)
    (hsimple : rule.IsSimple) (hname : ∃ name, graph.identifier handle = .ok name) :
    ∃ part, graph.compactBlock handle = .ok part ∧ ∀ layout : Layout, layout.Spaced isBlank → layout.line ≠ "" →
      ∃ block, graph.block layout handle = .ok block ∧ Shrinks block part := by
  obtain ⟨selector, hselector, hgrammar⟩ := h.exists_selector hrule hsimple hname
  refine ⟨Minified.compactBlock selector (rule.declarations.map compactText), ?_, fun layout hspaced hline =>
    ⟨layout.block selector (rule.declarations.map Declaration.render), ?_,
      shrinks_block hspaced hline hgrammar hsimple.declarations⟩⟩
  · simp only [compactBlock, hrule, hselector, bind, Except.bind]
    rfl
  · simp only [block, hrule, hselector, bind, Except.bind]
    rfl

end RuleGraph

namespace RuleBook

variable {book : RuleBook} {layout : Layout} {minifier : String → Except Error String}

theorem documentWith_of_minify {blocks : List String} (hblocks : book.documentBlocks layout = .ok blocks)
    (hminify : layout.minify = true) : book.documentWith minifier layout = minifier (layout.join blocks) := by
  simp only [documentWith, hblocks, bind, Except.bind, hminify]
  rfl

/-- All rules of the document are simple. -/
def IsSimple (book : RuleBook) : Prop :=
  ∀ handle rule, book.InDocument handle → book.graph.rule handle = .ok rule → rule.IsSimple

theorem Consistent.exists_compactBlocks (h : book.Consistent) (hnames : book.graph.NamesHashed)
    (hsimple : book.IsSimple) :
    ∃ parts, book.documentOrder.mapM book.graph.compactBlock = .ok parts ∧
      ∀ layout : Layout, layout.Spaced isBlank → layout.line ≠ "" →
        ∃ blocks, book.documentBlocks layout = .ok blocks ∧ List.Forall₂ Shrinks blocks parts := by
  have hpart : ∀ handle ∈ book.documentOrder, ∃ part, book.graph.compactBlock handle = .ok part ∧
      ∀ layout : Layout, layout.Spaced isBlank → layout.line ≠ "" →
        ∃ block, book.graph.block layout handle = .ok block ∧ Shrinks block part := by
    intro handle hmem
    have hinside := h.mem_documentOrder_iff.mp hmem
    obtain ⟨rule, hrule⟩ := h.exists_rule_of_registered (h.registered_of_inDocument hinside)
    exact hnames.exists_compactBlock hrule (hsimple handle rule hinside hrule) (h.ranked.exists_identifier hrule)
  obtain ⟨parts, hparts⟩ := exists_mapM_eq_ok fun handle hmem => (hpart handle hmem).imp fun _ hpart => hpart.1
  refine ⟨parts, hparts, fun layout hspaced hline => ?_⟩
  rw [h.documentBlocks_eq]
  refine exists_mapM_forall₂ hparts fun handle hmem part hgiven => ?_
  obtain ⟨part', hgiven', hblock⟩ := hpart handle hmem
  obtain rfl := Except.ok.inj (hgiven.symm.trans hgiven')
  exact hblock layout hspaced hline

end RuleBook

namespace Publisher

variable {σ : Type} [Sheet σ] {start : Publisher σ} {sheet : σ} {minifier : String → Except Error String}

/-- **The minified document of simple rules.** Take any run that ends with simple rules in the document, and any
minifier that does what it has to do with simple sheets. There is one text for each rule of the document, its selector
with its declarations between braces, and the minified document joins these texts in the order in which the blocks of
the rules stand in the document. It never fails, and it is the same for all layouts with white space as their lines
and indents, as long as a line is not empty. The minifier for simple sheets is one of those. -/
theorem document_minified (hstart : withSheet sheet = .ok start) (calls : List Call)
    (hsimple : (start.run calls).book.IsSimple) (hfaithful : Faithful minifier) :
    ∃ parts, (start.run calls).book.documentOrder.mapM (start.run calls).book.graph.compactBlock = .ok parts ∧
      ∀ layout : Layout, layout.minify = true → layout.line ≠ "" → layout.Spaced isBlank →
        (start.run calls).book.documentBlocks layout =
          (start.run calls).book.documentOrder.mapM ((start.run calls).book.graph.block layout) ∧
        (start.run calls).book.documentWith minifier layout = .ok (String.join parts) ∧
        (start.run calls).document layout = .ok (String.join parts) := by
  have hbook := consistent_run hstart calls
  obtain ⟨parts, hparts, hlayout⟩ := hbook.exists_compactBlocks (namesHashed_run hstart calls) hsimple
  refine ⟨parts, hparts, fun layout hminify hline hspaced => ⟨hbook.documentBlocks_eq layout, ?_, ?_⟩⟩
  all_goals obtain ⟨blocks, hblocks, hshrinks⟩ := hlayout layout hspaced hline
  · rw [RuleBook.documentWith_of_minify hblocks hminify, hfaithful.join hspaced hline hshrinks]
  · rw [document, RuleBook.document, RuleBook.documentWith_of_minify hblocks hminify,
      faithful_ofDocument.join hspaced hline hshrinks]

/-- The name of a rule with a class and a pseudo class. -/
def hoverName : String := Identifier.ofContent "f:box\x00f::hover\x00d:width: 10px;\x00d:z-index: -1;\x00"

/-- This rule inside one that has nothing else. -/
def simpleCalls : List Call :=
  [.create, .attach ⟨0⟩ (.literal "box") .back, .attach ⟨0⟩ (.literal ":hover") .back,
    .attach ⟨0⟩ (.declaration ⟨"width", [.text "10px"]⟩) .back,
    .attach ⟨0⟩ (.declaration ⟨"zIndex", [.text "-1"]⟩) .back, .finish ⟨0⟩, .create,
    .attach ⟨1⟩ (.literal hoverName) .back, .finish ⟨1⟩]

def simpleLayout : Layout := { line := "\r\n", indent := "\t", minify := true }

/-- What there is to check in a simple rule. -/
def settings (rule : Rule) : List String × List (String × String) :=
  (rule.fragments, rule.declarations.map fun declaration => (declaration.property, declaration.valueText))

theorem isSimple_simpleCalls : (offline.run simpleCalls).book.IsSimple := by
  have hstart : withSheet ({} : AbsentSheet) = .ok offline := rfl
  have horder : (offline.run simpleCalls).book.documentOrder = [⟨1⟩, ⟨0⟩] := by decide +kernel
  have hinner : ((offline.run simpleCalls).book.graph.rule ⟨0⟩).map settings =
      .ok (["box", ":hover"], [("width", "10px"), ("z-index", "-1")]) := by decide +kernel
  have houter : ((offline.run simpleCalls).book.graph.rule ⟨1⟩).map settings = .ok ([], []) := by decide +kernel
  have hwidth : IsSetting "width" "10px" := .length (n := 10) (by decide) (by decide)
  have hindex : IsSetting "z-index" "-1" := .integer (by decide) (-1)
  intro handle rule hinside hrule
  have hmem := (consistent_run hstart simpleCalls).mem_documentOrder_iff.mpr hinside
  rw [horder] at hmem
  rcases List.mem_pair.mp hmem with rfl | rfl
  · rw [hrule] at houter
    obtain ⟨hfragments, hdeclarations⟩ := Prod.mk.inj (Except.ok.inj houter)
    rw [List.map_eq_nil_iff] at hdeclarations
    exact ⟨⟨[], none, hfragments, by simp, rfl⟩, by simp [AreSettings, hdeclarations]⟩
  · rw [hrule] at hinner
    obtain ⟨hfragments, hdeclarations⟩ := Prod.mk.inj (Except.ok.inj hinner)
    refine ⟨⟨["box"], some ":hover", hfragments, by decide, rfl⟩, fun declaration hmem => ?_⟩
    have hsetting : (declaration.property, declaration.valueText) ∈ [("width", "10px"), ("z-index", "-1")] :=
      hdeclarations ▸ List.mem_map_of_mem hmem
    rcases List.mem_pair.mp hsetting with heq | heq <;> obtain ⟨hproperty, hvalue⟩ := Prod.mk.inj heq
    · rw [hproperty, hvalue]
      exact hwidth
    · rw [hproperty, hvalue]
      exact hindex

theorem document_minified_nested :
    withSheet ({} : AbsentSheet) = .ok offline ∧ (offline.run simpleCalls).book.IsSimple ∧ Faithful ofDocument ∧
      (offline.run simpleCalls).document simpleLayout = .ok
        ("." ++ Identifier.ofContent ("c:" ++ hoverName ++ "\x00") ++ "\x7b\x7d" ++
          ".box:hover\x7bwidth:10px;z-index:-1\x7d") := by
  have hstart : withSheet ({} : AbsentSheet) = .ok offline := rfl
  have hparts : (offline.run simpleCalls).book.documentOrder.mapM (offline.run simpleCalls).book.graph.compactBlock =
      .ok ["." ++ Identifier.ofContent ("c:" ++ hoverName ++ "\x00") ++ "\x7b\x7d",
        ".box:hover\x7bwidth:10px;z-index:-1\x7d"] := by decide +kernel
  obtain ⟨parts, hgiven, hlayout⟩ :=
    document_minified hstart simpleCalls isSimple_simpleCalls faithful_ofDocument
  obtain ⟨-, -, hdocument⟩ := hlayout simpleLayout rfl (by decide) ⟨by decide, by decide⟩
  obtain rfl := Except.ok.inj (hparts.symm.trans hgiven)
  exact ⟨hstart, isSimple_simpleCalls, faithful_ofDocument, hdocument⟩

end Publisher

end CssRules
