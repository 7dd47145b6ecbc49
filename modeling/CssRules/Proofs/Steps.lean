import CssRules.Proofs.Attachment
import CssRules.Proofs.Consistent
import CssRules.Proofs.ZeroFree

/-! The operations on a rule book one by one: what each of them can do to the rules and the catalog, and
that the book stays consistent. Creating a rule and attaching a piece leave the catalog and all sealed
rules alone; registering a rule seals it and adds at most one entry. Texts without a zero character give
rules without one. -/

namespace CssRules

/-- The fragment that a piece becomes unless it names a registered rule. -/
def Piece.fragment? : Piece → Option String
  | .index n => some (Piece.indexFragment n)
  | .literal text => some text
  | .nested _ => none
  | .declaration _ => none
  | .function name => some (Piece.functionFragment name)

theorem Piece.zeroFree_of_fragment? {piece : Piece} {text : String} (htext : piece.fragment? = some text)
    (hstrings : ∀ text ∈ piece.strings, ZeroFree text) : ZeroFree text := by
  cases piece with
  | index n =>
      cases htext
      exact Piece.zeroFree_indexFragment n
  | literal content =>
      cases htext
      exact hstrings _ List.mem_cons_self
  | nested name => cases htext
  | declaration declaration => cases htext
  | function name =>
      cases htext
      exact Piece.zeroFree_functionFragment (hstrings _ List.mem_cons_self)

/-- What a piece can mean. -/
theorem Catalog.meaning_cases (catalog : Catalog) (piece : Piece) :
    (∃ text, piece.fragment? = some text ∧ catalog.meaning piece = .ok (.fragment text)) ∨
    (∃ declaration, piece = .declaration declaration ∧
      catalog.meaning piece = .ok (.declaration declaration)) ∨
    (∃ name child, catalog.lookup name = some child ∧ catalog.meaning piece = .ok (.child child)) ∨
    ∃ name, catalog.meaning piece = .error (.unknownRule name) := by
  have hread (text : String) : catalog.readText text = .fragment text ∨
      ∃ child, catalog.lookup text = some child ∧ catalog.readText text = .child child := by
    unfold readText
    cases catalog.lookup text with
    | none => exact Or.inl rfl
    | some child => exact Or.inr ⟨child, rfl, rfl⟩
  cases piece with
  | index n => exact Or.inl ⟨_, rfl, rfl⟩
  | declaration declaration => exact Or.inr (Or.inl ⟨declaration, rfl, rfl⟩)
  | nested name =>
      cases hlookup : catalog.lookup name with
      | none => exact Or.inr (Or.inr (Or.inr ⟨name, by simp only [meaning, hlookup]⟩))
      | some child => exact Or.inr (Or.inr (Or.inl ⟨name, child, hlookup, by simp only [meaning, hlookup]⟩))
  | literal text =>
      rcases hread text with htext | ⟨child, hlookup, hchild⟩
      · exact Or.inl ⟨text, rfl, congrArg Except.ok htext⟩
      · exact Or.inr (Or.inr (Or.inl ⟨text, child, hlookup, congrArg Except.ok hchild⟩))
  | function name =>
      rcases hread (Piece.functionFragment name) with htext | ⟨child, hlookup, hchild⟩
      · exact Or.inl ⟨_, rfl, congrArg Except.ok htext⟩
      · exact Or.inr (Or.inr (Or.inl ⟨_, child, hlookup, congrArg Except.ok hchild⟩))

namespace RuleGraph

/-- No text of a rule has a zero character. -/
def ZeroFreeTexts (graph : RuleGraph) : Prop :=
  ∀ handle rule, graph.rule handle = .ok rule → (∀ text ∈ rule.fragments, ZeroFree text) ∧
    ∀ declaration ∈ rule.declarations, ZeroFree declaration.render

theorem zeroFreeTexts_empty : ZeroFreeTexts {} := by
  intro handle rule hrule
  cases hrule

theorem ZeroFreeTexts.create {graph : RuleGraph} (h : graph.ZeroFreeTexts) :
    graph.create.2.ZeroFreeTexts := by
  intro handle rule hrule
  rw [rule_create] at hrule
  split at hrule
  · cases hrule
    simp
  · exact h handle rule hrule

theorem ZeroFreeTexts.update {graph : RuleGraph} {owner : Handle} {change : Rule → Rule}
    (h : graph.ZeroFreeTexts)
    (hfragments : ∀ rule, ∀ text ∈ (change rule).fragments, text ∈ rule.fragments ∨ ZeroFree text)
    (hdeclarations : ∀ rule, ∀ declaration ∈ (change rule).declarations,
      declaration ∈ rule.declarations ∨ ZeroFree declaration.render) :
    (graph.update owner change).ZeroFreeTexts := by
  intro handle rule hrule
  rw [rule_update] at hrule
  split at hrule
  · cases hfound : graph.rule handle with
    | error error => simp [hfound, Except.map] at hrule
    | ok found =>
        rw [hfound] at hrule
        cases hrule
        obtain ⟨hbefore, hbefore'⟩ := h handle found hfound
        exact ⟨fun text htext => (hfragments found text htext).elim (hbefore text) id,
          fun declaration hmem => (hdeclarations found declaration hmem).elim (hbefore' declaration) id⟩
  · exact h handle rule hrule

/-- An update that leaves the texts of rules alone. -/
theorem ZeroFreeTexts.update_of_eq {graph : RuleGraph} {owner : Handle} {change : Rule → Rule}
    (h : graph.ZeroFreeTexts) (hfragments : ∀ rule, (change rule).fragments = rule.fragments)
    (hdeclarations : ∀ rule, (change rule).declarations = rule.declarations) :
    (graph.update owner change).ZeroFreeTexts :=
  h.update (fun rule _ hmem => Or.inl (hfragments rule ▸ hmem)) fun rule _ hmem =>
    Or.inl (hdeclarations rule ▸ hmem)

end RuleGraph

namespace RuleBook

/-- What attaching a piece does to the rules: the owner gets a fragment, a declaration or a child. -/
inductive Attached (book : RuleBook) (owner : Handle) (piece : Piece) (place : Place) : RuleGraph → Prop
  | fragment {text : String} (htext : piece.fragment? = some text) :
      Attached book owner piece place (book.graph.update owner fun rule =>
        { rule with fragments := place.insert text rule.fragments })
  | declaration {declaration : Declaration} (hpiece : piece = .declaration declaration) :
      Attached book owner piece place (book.graph.update owner fun rule =>
        { rule with declarations := place.insert declaration rule.declarations })
  | child {name : String} {child : Handle} (hlookup : book.catalog.lookup name = some child) :
      Attached book owner piece place (book.graph.nest owner child place)

/-- What a successful attachment does to a book: the owner is open, and the catalog stays. -/
structure Attaches (book : RuleBook) (owner : Handle) (piece : Piece) (place : Place)
    (next : RuleBook) : Prop where
  exists_open : ∃ rule, book.graph.rule owner = .ok rule ∧ rule.identifier = none
  catalog_eq : next.catalog = book.catalog
  attached : book.Attached owner piece place next.graph

variable {book next : RuleBook} {owner : Handle} {piece : Piece} {place : Place}

theorem attaches_of_attach (hattach : book.attach owner piece place = .ok next) :
    book.Attaches owner piece place next := by
  obtain ⟨addition, hverdict, rfl⟩ := attach_eq_ok_iff.mp hattach
  obtain ⟨hmeaning, htakes⟩ := verdict_eq_ok_iff.mp hverdict
  obtain ⟨-, hopen⟩ := RuleGraph.takes_eq_ok_iff.mp htakes
  refine ⟨hopen, rfl, ?_⟩
  rcases book.catalog.meaning_cases piece with ⟨text, htext, hmeant⟩ | ⟨declaration, hpiece, hmeant⟩ |
    ⟨name, child, hlookup, hmeant⟩ | ⟨name, hmeant⟩
  all_goals
    rw [hmeant] at hmeaning
    cases hmeaning
  · exact .fragment htext
  · exact .declaration hpiece
  · exact .child hlookup

theorem register_eq_ok_iff {handle : Handle} {identifier : String} :
    book.register handle = .ok (identifier, next) ↔ book.graph.identifier handle = .ok identifier ∧
      next = ⟨book.graph.sealWith handle identifier, book.catalog.insert identifier handle⟩ := by
  unfold register
  cases book.graph.identifier handle with
  | error error => simp
  | ok name =>
      simp only [Except.ok.injEq, Prod.mk.injEq]
      constructor
      · rintro ⟨rfl, rfl⟩
        exact ⟨rfl, rfl⟩
      · rintro ⟨rfl, rfl⟩
        exact ⟨rfl, rfl⟩

/-- Registering a rule again changes nothing and gives the same identifier. -/
theorem register_register {handle : Handle} {identifier : String}
    (hregister : book.register handle = .ok (identifier, next)) :
    next.register handle = .ok (identifier, next) := by
  obtain ⟨hidentifier, rfl⟩ := register_eq_ok_iff.mp hregister
  have hsealed : (book.graph.sealWith handle identifier).SealedAs handle identifier :=
    RuleGraph.sealedAs_sealWith_self (RuleGraph.exists_rule_of_identifier hidentifier)
  apply register_eq_ok_iff.mpr
  rw [RuleGraph.sealWith_sealWith, Catalog.insert_insert]
  exact ⟨hsealed.identifier_eq, rfl⟩

/-- A change of the rules that seals none of them and gives registered children to open rules only. -/
structure Quiet (book : RuleBook) (graph : RuleGraph) : Prop where
  grows : book.graph.Extends graph
  sealedAs_iff : ∀ {handle identifier},
    graph.SealedAs handle identifier ↔ book.graph.SealedAs handle identifier
  new_child : ∀ {parent child}, child ∈ graph.childrenOf parent →
    child ∈ book.graph.childrenOf parent ∨ child ∈ book.catalog.handles ∧
      ∃ rule, book.graph.rule parent = .ok rule ∧ rule.identifier = none
  paired : book.graph.Paired → graph.Paired

theorem quiet_create (book : RuleBook) : book.Quiet book.graph.create.2 where
  grows := .create book.graph
  sealedAs_iff := RuleGraph.sealedAs_create
  new_child h := by
    rw [RuleGraph.childrenOf, RuleGraph.handlesOf_create rfl] at h
    exact Or.inl h
  paired := .create

/-- An edit of an open rule that touches neither its edges nor its identifier is quiet. -/
theorem quiet_update {rule : Rule} {change : Rule → Rule} (hrule : book.graph.rule owner = .ok rule)
    (hopen : rule.identifier = none) (hchildren : ∀ rule, (change rule).children = rule.children)
    (hcontainers : ∀ rule, (change rule).containers = rule.containers)
    (hidentifier : ∀ rule, (change rule).identifier = rule.identifier) :
    book.Quiet (book.graph.update owner change) where
  grows := .update_open hrule hopen
  sealedAs_iff := RuleGraph.sealedAs_update _ fun _ => hidentifier
  new_child h := by
    rw [RuleGraph.childrenOf, RuleGraph.handlesOf_update _ fun _ => hchildren] at h
    exact Or.inl h
  paired h := h.update hchildren hcontainers

theorem quiet_nest {rule : Rule} {name : String} {child : Handle} (h : book.Consistent)
    (hrule : book.graph.rule owner = .ok rule) (hopen : rule.identifier = none)
    (hlookup : book.catalog.lookup name = some child) :
    book.Quiet (book.graph.nest owner child place) where
  grows := .nest hrule hopen place
  sealedAs_iff := RuleGraph.sealedAs_nest
  new_child {parent other} hother := by
    rw [RuleGraph.childrenOf_nest ⟨rule, hrule⟩] at hother
    split at hother
    · rename_i hparent
      subst hparent
      rcases Place.mem_insert.mp hother with rfl | hmem
      · exact Or.inr ⟨Catalog.mem_handles_of_lookup hlookup, rule, hrule, hopen⟩
      · exact Or.inl hmem
    · exact Or.inl hother
  paired hpaired := hpaired.nest ⟨rule, hrule⟩ (h.sealedAs_of_lookup hlookup).exists_rule

theorem Attached.quiet {rule : Rule} {graph : RuleGraph} (h : book.Consistent)
    (hrule : book.graph.rule owner = .ok rule) (hopen : rule.identifier = none)
    (hattached : book.Attached owner piece place graph) : book.Quiet graph := by
  cases hattached with
  | fragment htext => exact quiet_update hrule hopen (fun _ => rfl) (fun _ => rfl) fun _ => rfl
  | declaration hpiece => exact quiet_update hrule hopen (fun _ => rfl) (fun _ => rfl) fun _ => rfl
  | child hlookup => exact quiet_nest h hrule hopen hlookup

theorem Attaches.quiet (h : book.Consistent) (hattaches : book.Attaches owner piece place next) :
    book.Quiet next.graph := by
  obtain ⟨rule, hrule, hopen⟩ := hattaches.exists_open
  exact hattaches.attached.quiet h hrule hopen

/-- A quiet change keeps a book consistent: the new children are registered, and their containers are
open, so that they come later in the order of registration. -/
theorem Consistent.quiet (h : book.Consistent) (hcatalog : next.catalog = book.catalog)
    (hquiet : book.Quiet next.graph) : next.Consistent where
  nodup_keys := hcatalog ▸ h.nodup_keys
  sealedAs_of_mem hmem := hquiet.sealedAs_iff.mpr (h.sealedAs_of_mem (hcatalog ▸ hmem))
  exists_lookup hsealed := hcatalog ▸ h.exists_lookup (hquiet.sealedAs_iff.mp hsealed)
  child_before {parent child} hchild := by
    rw [hcatalog]
    rcases hquiet.new_child hchild with hold | ⟨hregistered, rule, hrule, hopen⟩
    · exact h.child_before hold
    · rw [h.position_of_open hrule hopen]
      exact Catalog.mem_handles_iff_position_lt.mp hregistered
  exists_content hsealed := by
    have hbefore := hquiet.sealedAs_iff.mp hsealed
    obtain ⟨content, hcontent, hidentifier⟩ := h.exists_content hbefore
    refine ⟨content, ?_, hidentifier⟩
    calc next.graph.contentOf _ = book.graph.contentOf _ :=
          hquiet.grows.contentOf_eq hbefore fun _ => h.child_sealed
      _ = .ok content := hcontent
  paired := hquiet.paired h.paired

theorem Attached.zeroFreeTexts {graph : RuleGraph} (h : book.graph.ZeroFreeTexts)
    (hattached : book.Attached owner piece place graph)
    (hstrings : ∀ text ∈ piece.strings, ZeroFree text) : graph.ZeroFreeTexts := by
  cases hattached with
  | fragment htext =>
      refine h.update (fun rule text hmem => ?_) fun _ _ => Or.inl
      rcases Place.mem_insert.mp hmem with rfl | hmem
      · exact Or.inr (Piece.zeroFree_of_fragment? htext hstrings)
      · exact Or.inl hmem
  | declaration hpiece =>
      subst hpiece
      refine h.update (fun _ _ => Or.inl) fun rule other hmem => ?_
      rcases Place.mem_insert.mp hmem with rfl | hmem
      · exact Or.inr (Declaration.zeroFree_render hstrings)
      · exact Or.inl hmem
  | child hlookup =>
      unfold RuleGraph.nest
      apply RuleGraph.ZeroFreeTexts.update_of_eq
      · exact h.update_of_eq (fun _ => rfl) fun _ => rfl
      · exact fun _ => rfl
      · exact fun _ => rfl

/-- The identifier with which a rule is registered: the one it has, or the one its content makes. -/
theorem Consistent.identifier_cases {handle : Handle} {identifier : String} (h : book.Consistent)
    (hidentifier : book.graph.identifier handle = .ok identifier) :
    ∃ rule, book.graph.rule handle = .ok rule ∧ (rule.identifier = some identifier ∨
      rule.identifier = none ∧ ∃ content, book.graph.contentOf handle = .ok content ∧
        identifier = Identifier.ofContent content) := by
  obtain ⟨rule, hrule⟩ := RuleGraph.exists_rule_of_identifier hidentifier
  refine ⟨rule, hrule, ?_⟩
  cases hsealed : rule.identifier with
  | some name =>
      rw [RuleGraph.identifier_of_sealed hrule hsealed] at hidentifier
      exact Or.inl (congrArg some (Except.ok.inj hidentifier))
  | none =>
      obtain ⟨content, hcontent, hname⟩ := h.ranked.current_of_open hrule hsealed
      rw [hname] at hidentifier
      exact Or.inr ⟨rfl, content, hcontent, (Except.ok.inj hidentifier).symm⟩

/-- A rule that is registered again is sealed with the identifier that it has. -/
theorem extends_register {handle : Handle} {identifier : String}
    (hregister : book.register handle = .ok (identifier, next)) : book.graph.Extends next.graph := by
  obtain ⟨hidentifier, rfl⟩ := register_eq_ok_iff.mp hregister
  obtain ⟨rule, hrule⟩ := RuleGraph.exists_rule_of_identifier hidentifier
  refine .sealWith hrule ?_
  cases hsealed : rule.identifier with
  | none => exact Or.inl rfl
  | some name =>
      rw [RuleGraph.identifier_of_sealed hrule hsealed] at hidentifier
      exact Or.inr (congrArg some (Except.ok.inj hidentifier))

theorem Consistent.register {handle : Handle} {identifier : String} (h : book.Consistent)
    (hregister : book.register handle = .ok (identifier, next)) : next.Consistent := by
  have hgrows := extends_register hregister
  obtain ⟨hidentifier, rfl⟩ := register_eq_ok_iff.mp hregister
  obtain ⟨rule, hrule, hcases⟩ := h.identifier_cases hidentifier
  have hsealed {other : Handle} {name : String} :
      (book.graph.sealWith handle identifier).SealedAs other name ↔
        if other = handle then name = identifier else book.graph.SealedAs other name :=
    RuleGraph.sealedAs_sealWith ⟨rule, hrule⟩
  have hself : (book.graph.sealWith handle identifier).SealedAs handle identifier :=
    RuleGraph.sealedAs_sealWith_self ⟨rule, hrule⟩
  constructor
  case nodup_keys => exact Catalog.nodup_keys_insert h.nodup_keys
  case sealedAs_of_mem =>
    intro name other hmem
    rcases Catalog.mem_entries_insert hmem with hold | hnew
    · exact hgrows.sealedAs (h.sealedAs_of_mem hold)
    · cases hnew
      exact hself
  case exists_lookup =>
    intro other name hother
    by_cases hname : name = identifier
    · subst hname
      exact ⟨_, Catalog.lookup_insert_self ..⟩
    · rw [Catalog.lookup_insert_other _ _ hname]
      rw [hsealed] at hother
      split at hother
      · exact absurd hother hname
      · exact h.exists_lookup hother
  case child_before =>
    -- The child keeps its position, and that of the parent can only grow.
    intro parent child hchild
    rw [RuleGraph.childrenOf_sealWith] at hchild
    rw [Catalog.position_insert_of_mem (h.child_mem_handles hchild)]
    exact Nat.lt_of_lt_of_le (h.child_before hchild) (Catalog.position_le_insert parent)
  case exists_content =>
    intro other name hother
    -- The content is taken before the rule is sealed, and sealing does not change it.
    obtain ⟨content, hcontent, hname⟩ : ∃ content, book.graph.contentOf other = .ok content ∧
        name = Identifier.ofContent content := by
      rw [hsealed] at hother
      split at hother
      · subst name other
        rcases hcases with hidentifier | ⟨-, hcontent⟩
        · exact h.exists_content ⟨rule, hrule, hidentifier⟩
        · exact hcontent
      · exact h.exists_content hother
    refine ⟨content, ?_, hname⟩
    calc (book.graph.sealWith handle identifier).contentOf other = book.graph.contentOf other :=
          hgrows.contentOf_sealWith fun _ => h.child_sealed
      _ = .ok content := hcontent
  case paired => exact h.paired.update (fun _ => rfl) fun _ => rfl

end RuleBook

end CssRules
