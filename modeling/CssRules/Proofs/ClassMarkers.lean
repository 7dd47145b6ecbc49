import CssRules.Proofs.Refusal
import CssRules.Proofs.Whitespace

/-! Which fragments of a selector have a marker. The notation for sheets lists the characters that make a fragment
stand as it is, and selectors are written with a list of the characters that make a fragment a class. No character
is on both lists, but many are on neither. A fragment that begins with one of these is stray: it should be a class,
but it is written as it is, and what precedes it runs on into it. -/

namespace CssRules

open Text

namespace Fragment

/-- The punctuation that makes a fragment stand as it is. -/
def punctuation : List Char := [':', '.', '#', '[', '>', '+', '~', '*', '&', ',']

/-- The characters with which a fragment stands as it is. -/
def beginsPlain (c : Char) : Bool := isWhitespace c || punctuation.contains c

/-- The fragment with the marker that the notation asks for. -/
def mark (fragment : String) : String :=
  if fragment.toList.head?.any beginsPlain then fragment else "." ++ fragment

/-- Whether the first character of a fragment is on neither list. -/
def isStray (fragment : String) : Bool := fragment.toList.head?.any fun c => !beginsClass c && !beginsPlain c

theorem beginsClass_of_beginsPlain {c : Char} (h : beginsPlain c = true) : beginsClass c = false := by
  have hwhitespace : whitespaceCodes.all (fun code => !beginsClass (Char.ofNat code)) = true := by decide +kernel
  have hpunctuation : punctuation.all (fun c => !beginsClass c) = true := by decide +kernel
  rcases Bool.or_eq_true_iff.mp h with hc | hc
  · have hcode := List.all_eq_true.mp hwhitespace c.toNat (List.contains_iff_mem.mp hc)
    simpa [Char.ofNat_toNat] using hcode
  · simpa using List.all_eq_true.mp hpunctuation c (List.contains_iff_mem.mp hc)

/-- Only a stray fragment is without the marker that it should have. -/
theorem mark_eq {fragment : String} (h : fragment ≠ "") :
    mark fragment = (if isStray fragment then "." else "") ++ render fragment := by
  cases hchars : fragment.toList with
  | nil => exact absurd (String.toList_eq_nil_iff.mp hchars) h
  | cons c rest =>
      cases hplain : beginsPlain c with
      | true =>
          have hclass := beginsClass_of_beginsPlain hplain
          simp [mark, isStray, render, isClass, hchars, hplain, hclass]
      | false => cases hclass : beginsClass c <;> simp [mark, isStray, render, isClass, hchars, hplain, hclass]

theorem render_eq {fragment : String} (h : fragment ≠ "") :
    render fragment = if isStray fragment then fragment else mark fragment := by
  cases hstray : isStray fragment with
  | false => simp [mark_eq h, hstray]
  | true =>
      have hclass : isClass fragment = false := by
        unfold isStray at hstray
        unfold isClass
        cases hchars : fragment.toList <;> simp_all
      simp [render, hclass]

variable {fragments : List String}

/-- The markers that are missing. -/
theorem length_join_mark (h : ∀ fragment ∈ fragments, fragment ≠ "") :
    (String.join (fragments.map mark)).length =
      (String.join (fragments.map render)).length + fragments.countP isStray := by
  induction fragments with
  | nil => rfl
  | cons fragment rest ih =>
      have hrest := ih fun fragment hmem => h fragment (List.mem_cons_of_mem _ hmem)
      have hpoint : (if isStray fragment then "." else "").length = if isStray fragment then 1 else 0 := by
        split <;> rfl
      rw [List.map_cons, List.map_cons, String.join_cons, String.join_cons, String.length_append, hrest,
        mark_eq (h fragment List.mem_cons_self), List.countP_cons, String.length_append, String.length_append, hpoint]
      omega

/-- Apart from the points, the markers change nothing. -/
theorem condense_join_mark (h : ∀ fragment ∈ fragments, fragment ≠ "") :
    condense (· == '.') (String.join (fragments.map mark)) =
      condense (· == '.') (String.join (fragments.map render)) := by
  rw [condense_join, condense_join, List.map_map, List.map_map]
  refine congrArg String.join (List.map_congr_left fun fragment hmem => ?_)
  rw [Function.comp, Function.comp, mark_eq (h fragment hmem)]
  refine condense_lead ?_ _
  split <;> simp [MadeOf]

theorem join_mark_eq_iff (h : ∀ fragment ∈ fragments, fragment ≠ "") :
    String.join (fragments.map mark) = String.join (fragments.map render) ↔
      ∀ fragment ∈ fragments, isStray fragment = false := by
  constructor
  · intro heq
    have hlength := length_join_mark h
    rw [heq] at hlength
    simpa using List.countP_eq_zero.mp (by omega : fragments.countP isStray = 0)
  · intro hnone
    refine congrArg String.join (List.map_congr_left fun fragment hmem => ?_)
    simp [mark_eq (h fragment hmem), hnone fragment hmem]

end Fragment

namespace RuleGraph

variable {graph : RuleGraph} {handle : Handle} {rule : Rule} {anchor anchor' : String}

/-- What the selector of a rule may begin with: nothing, or the class of its identifier. -/
def Anchors (graph : RuleGraph) (handle : Handle) (anchor : String) : Prop :=
  anchor = "" ∨ ∃ name, graph.identifier handle = .ok name ∧ anchor = "." ++ name

/-- The selector of a rule is what the notation asks for. -/
def AsListed (graph : RuleGraph) (handle : Handle) (fragments : List String) : Prop :=
  ∃ anchor, graph.Anchors handle anchor ∧
    graph.selector handle = .ok (anchor ++ String.join (fragments.map Fragment.mark))

/-- How the selector of a rule is marked. -/
structure Marked (graph : RuleGraph) (handle : Handle) (rule : Rule) : Prop where
  /-- Every fragment that is not stray has its marker. -/
  selector_eq : ∃ anchor, graph.Anchors handle anchor ∧ (anchor = "" ↔ rule.hasSubject = true) ∧
    graph.selector handle = .ok (anchor ++ String.join (rule.fragments.map fun fragment =>
      if Fragment.isStray fragment then fragment else Fragment.mark fragment))
  /-- Nothing but a stray fragment keeps a selector from being what the notation asks for. -/
  asListed_iff : graph.AsListed handle rule.fragments ↔
    ∀ fragment ∈ rule.fragments, Fragment.isStray fragment = false

/-- A name has a character other than the point, so that the anchor can be told from none. -/
theorem NamesHashed.anchors_inj (h : graph.NamesHashed) (hanchor : graph.Anchors handle anchor)
    (hanchor' : graph.Anchors handle anchor')
    (heq : condense (· == '.') anchor = condense (· == '.') anchor') : anchor = anchor' := by
  have hname {name : String} (hname : graph.identifier handle = .ok name) :
      condense (· == '.') ("." ++ name) ≠ "" := by
    obtain ⟨fingerprint, rfl⟩ := h.identifier hname
    intro hempty
    simpa [Identifier.ofFingerprint] using congrArg String.toList hempty
  rcases hanchor with rfl | ⟨name, hgiven, rfl⟩ <;> rcases hanchor' with rfl | ⟨name', hgiven', rfl⟩
  · rfl
  · exact absurd heq.symm (hname hgiven')
  · exact absurd heq (hname hgiven)
  · rw [Except.ok.inj (hgiven.symm.trans hgiven')]

/-- The selector begins with an anchor exactly if the first fragment names no subject. -/
theorem exists_anchor (hrule : graph.rule handle = .ok rule)
    (hnamed : rule.hasSubject = true ∨ ∃ name, graph.identifier handle = .ok name) :
    ∃ anchor, graph.Anchors handle anchor ∧ (anchor = "" ↔ rule.hasSubject = true) ∧
      graph.selector handle = .ok (anchor ++ rule.fragmentText) := by
  cases hsubject : rule.hasSubject with
  | true =>
      refine ⟨"", Or.inl rfl, by simp, ?_⟩
      simp only [selector, hrule, hsubject, bind, Except.bind, ↓reduceIte, String.empty_append]
      rfl
  | false =>
      obtain ⟨name, hname⟩ := hnamed.resolve_left (by simp [hsubject])
      refine ⟨"." ++ name, Or.inr ⟨name, hname, rfl⟩, by simp, ?_⟩
      simp only [selector, hrule, hsubject, hname, bind, Except.bind]
      rfl

theorem NamesHashed.marked (h : graph.NamesHashed) (hrule : graph.rule handle = .ok rule)
    (hfragments : ∀ fragment ∈ rule.fragments, fragment ≠ "")
    (hnamed : rule.hasSubject = true ∨ ∃ name, graph.identifier handle = .ok name) :
    graph.Marked handle rule := by
  obtain ⟨anchor, hanchor, hsubject, hselector⟩ := exists_anchor hrule hnamed
  have hrender : rule.fragments.map (fun fragment =>
      if Fragment.isStray fragment then fragment else Fragment.mark fragment) =
        rule.fragments.map Fragment.render :=
    List.map_congr_left fun fragment hmem => (Fragment.render_eq (hfragments fragment hmem)).symm
  refine ⟨⟨anchor, hanchor, hsubject, hrender ▸ hselector⟩, ?_⟩
  rw [← Fragment.join_mark_eq_iff hfragments]
  constructor
  · -- Without points both selectors have the same fragments, which leaves the same anchor to both of them.
    rintro ⟨anchor', hanchor', hselector'⟩
    have htext := Except.ok.inj (hselector'.symm.trans hselector)
    have hbare := congrArg (condense (· == '.')) htext
    rw [condense_append, condense_append, Fragment.condense_join_mark hfragments] at hbare
    obtain rfl := h.anchors_inj hanchor' hanchor (String.append_left_inj _ |>.mp hbare)
    exact String.append_right_inj _ |>.mp htext
  · intro hmarks
    exact ⟨anchor, hanchor, hmarks ▸ hselector⟩

end RuleGraph

namespace Publisher

variable {σ : Type} [Sheet σ] {start : Publisher σ} {sheet : σ}

/-- **Which fragments have their marker.** Take any book that is assembled by hand, or the book of any publisher,
and a rule whose fragments have at least one character each. Its selector consists of the class of its identifier,
if its first fragment names no subject, and of its fragments. Each fragment has the marker that the notation asks
for, except that stray ones have none. So the selector is what the notation asks for exactly if no fragment is
stray. By hand a rule can be made to contain itself, so that it has no identifier and no selector with an anchor;
every rule of a publisher has one. -/
theorem selectors_marked (hstart : withSheet sheet = .ok start) :
    (∀ operations handle rule, (RuleBook.assemble operations).graph.rule handle = .ok rule →
      (∀ fragment ∈ rule.fragments, fragment ≠ "") →
      (rule.hasSubject = true ∨ ∃ name, (RuleBook.assemble operations).graph.identifier handle = .ok name) →
        (RuleBook.assemble operations).graph.Marked handle rule) ∧
    ∀ calls handle rule, (start.run calls).book.graph.rule handle = .ok rule →
      (∀ fragment ∈ rule.fragments, fragment ≠ "") → (start.run calls).book.graph.Marked handle rule := by
  constructor
  · intro operations handle rule hrule hfragments hnamed
    have hnames : (RuleBook.assemble operations).graph.NamesHashed := RuleBook.namesHashed_assemble operations
    exact hnames.marked hrule hfragments hnamed
  · intro calls handle rule hrule hfragments
    have hname := (consistent_run hstart calls).ranked.exists_identifier hrule
    have hnames : (start.run calls).book.graph.NamesHashed := namesHashed_run hstart calls
    exact hnames.marked hrule hfragments (Or.inr hname)

/-- Words with a pseudo class and a part of another element. -/
def listCalls : List Call :=
  [.create, .attach ⟨0⟩ (.literal "list") .back, .attach ⟨0⟩ (.literal "état") .back,
    .attach ⟨0⟩ (.literal ":nth-child(2)") .back, .attach ⟨0⟩ (.literal "\u3000> li") .back]

theorem selectors_marked_list :
    withSheet ({} : AbsentSheet) = .ok offline ∧
      (offline.run listCalls).book.graph.AsListed ⟨0⟩ ["list", "état", ":nth-child(2)", "\u3000> li"] ∧
      (offline.run listCalls).book.graph.selector ⟨0⟩ = .ok ".list.état:nth-child(2)\u3000> li" := by
  have hstart : withSheet ({} : AbsentSheet) = .ok offline := rfl
  obtain ⟨rule, hrule⟩ : ∃ rule, (offline.run listCalls).book.graph.rule ⟨0⟩ = .ok rule :=
    RuleGraph.exists_rule_iff.mpr (by decide +kernel)
  have hfragments : rule.fragments = ["list", "état", ":nth-child(2)", "\u3000> li"] := by
    have hgiven : ((offline.run listCalls).book.graph.rule ⟨0⟩).map Rule.fragments =
        .ok ["list", "état", ":nth-child(2)", "\u3000> li"] := by decide +kernel
    rw [hrule] at hgiven
    exact Except.ok.inj hgiven
  have hmarked := (selectors_marked hstart).2 listCalls ⟨0⟩ rule hrule (by rw [hfragments]; decide)
  refine ⟨hstart, ?_, by decide +kernel⟩
  rw [← hfragments]
  exact hmarked.asListed_iff.mpr (by rw [hfragments]; decide +kernel)

/-- A word and a picture. -/
def pictureOperations : List Operation :=
  [.create, .attach ⟨0⟩ (.literal "box") .back, .attach ⟨0⟩ (.literal "🎉") .back]

/-- A picture is on neither list, and it runs on into the class before it. -/
theorem selector_of_stray_fragment :
    ((RuleBook.assemble pictureOperations).graph.rule ⟨0⟩).map Rule.fragments = .ok ["box", "🎉"] ∧
      (RuleBook.assemble pictureOperations).graph.selector ⟨0⟩ = .ok ".box🎉" ∧
      ¬ (RuleBook.assemble pictureOperations).graph.AsListed ⟨0⟩ ["box", "🎉"] := by
  have hselector : (RuleBook.assemble pictureOperations).graph.selector ⟨0⟩ = .ok ".box🎉" := by decide +kernel
  refine ⟨by decide +kernel, hselector, ?_⟩
  rintro ⟨anchor, -, hlisted⟩
  have hmarks : String.join (["box", "🎉"].map Fragment.mark) = ".box.🎉" := by decide +kernel
  rw [hselector, hmarks] at hlisted
  have hlength := congrArg String.length (Except.ok.inj hlisted)
  rw [String.length_append] at hlength
  have : ".box🎉".length = 5 ∧ ".box.🎉".length = 6 := by decide +kernel
  omega

end Publisher

end CssRules
