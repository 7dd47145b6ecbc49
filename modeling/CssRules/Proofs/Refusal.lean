import CssRules.Proofs.Attachment
import CssRules.Proofs.Registration

/-! When a piece is refused and what is written when it is not. A piece is refused because it refers to a rule that
is not registered, or because its owner does not exist or is sealed, and the first of these reasons is the one that
is given. This rests on two facts on all books: what the catalog names exists, and names are made of fingerprints,
so that the fragment of a function is never one. -/

namespace CssRules

namespace Identifier

/-- A fragment of a function begins with a space and a name with a letter. -/
theorem functionFragment_ne_ofFingerprint (name : String) (fingerprint : Fingerprint) :
    Piece.functionFragment name ≠ ofFingerprint fingerprint := by
  intro h
  have hchars : ' ' :: (Text.uppercase name).toList = 'r' :: (Number.base36 fingerprint).toList := by
    simpa [Piece.functionFragment, ofFingerprint] using congrArg String.toList h
  exact absurd (List.cons.inj hchars).1 (by decide)

end Identifier

namespace RuleGraph

/-- Every rule that is sealed has a name that is made of a fingerprint. -/
def NamesHashed (graph : RuleGraph) : Prop :=
  ∀ {handle name}, graph.SealedAs handle name → ∃ fingerprint, name = Identifier.ofFingerprint fingerprint

/-- Also the rules that are still open have identifiers of this form. -/
theorem NamesHashed.identifier {graph : RuleGraph} {handle : Handle} {name : String} (h : graph.NamesHashed)
    (hname : graph.identifier handle = .ok name) :
    ∃ fingerprint, name = Identifier.ofFingerprint fingerprint := by
  obtain ⟨rule, hrule⟩ := exists_rule_of_identifier hname
  cases hidentifier : rule.identifier with
  | some given =>
      have hsealed : graph.SealedAs handle given := ⟨rule, hrule, hidentifier⟩
      obtain rfl : given = name := Except.ok.inj (hsealed.identifier_eq.symm.trans hname)
      exact h hsealed
  | none =>
      simp only [RuleGraph.identifier, identifierWithin, hrule, hidentifier, bind, Except.bind] at hname
      cases hchildren : rule.children.mapM (graph.identifierWithin graph.size) with
      | error error =>
          rw [hchildren] at hname
          cases hname
      | ok children =>
          rw [hchildren] at hname
          exact ⟨_, (Except.ok.inj hname).symm⟩

end RuleGraph

namespace RuleBook

theorem Advances.namesHashed {book next : RuleBook} (h : book.Advances next)
    (hnames : book.graph.NamesHashed) : next.graph.NamesHashed := by
  intro handle name hsealed
  cases h with
  | still hcatalog hsame => exact hnames (hsame.mp hsealed)
  | @register registered given _ hregister =>
      obtain ⟨hgiven, rfl⟩ := register_eq_ok_iff.mp hregister
      have hcases := (RuleGraph.sealedAs_sealWith (RuleGraph.exists_rule_of_identifier hgiven)).mp hsealed
      split at hcases
      · rw [hcases]
        exact hnames.identifier hgiven
      · exact hnames hcases

theorem namesHashed_assemble (operations : List Operation) : (assemble operations).graph.NamesHashed := by
  induction operations using List.reverseRecOn with
  | nil =>
      intro handle name hsealed
      obtain ⟨rule, hrule, -⟩ := hsealed
      cases hrule
  | append_singleton operations operation ih =>
      rw [assemble_concat]
      exact ((intact_assemble operations).advances_perform operation).namesHashed ih

/-- No rule is registered under the fragment of a function. -/
theorem lookup_functionFragment (operations : List Operation) (name : String) :
    (assemble operations).catalog.lookup (Piece.functionFragment name) = none := by
  refine Option.eq_none_iff_forall_ne_some.mpr fun handle hlookup => ?_
  have hsealed := (recorded_assemble operations).sealedAs_of_mem (Catalog.mem_entries_of_lookup hlookup)
  obtain ⟨fingerprint, hfingerprint⟩ := namesHashed_assemble operations hsealed
  exact Identifier.functionFragment_ne_ofFingerprint name fingerprint hfingerprint

end RuleBook

namespace RuleGraph

/-! The same operations as they write into the rules. When one of them fails, what it wrote before stays. -/

/-- Goes on with the changed rules, unless the change failed. -/
def andThen (outcome : Except Error Unit × RuleGraph)
    (next : RuleGraph → Except Error Unit × RuleGraph) : Except Error Unit × RuleGraph :=
  match outcome with
  | (.ok (), graph) => next graph
  | (.error error, graph) => (.error error, graph)

/-- Writes into the rule under a handle. -/
def write (graph : RuleGraph) (handle : Handle) (change : Rule → Rule) : Except Error Unit × RuleGraph :=
  match graph.rule handle with
  | .error error => (.error error, graph)
  | .ok _ => (.ok (), graph.update handle change)

/-- Writes into the rule under a handle, if it can still change. -/
def writeOpen (graph : RuleGraph) (handle : Handle) (change : Rule → Rule) :
    Except Error Unit × RuleGraph :=
  match graph.openRule handle with
  | .error error => (.error error, graph)
  | .ok _ => (.ok (), graph.update handle change)

/-- Writes an edge, first into the parent and then into the child. -/
def writeEdge (graph : RuleGraph) (parent child : Handle) (place : Place) : Except Error Unit × RuleGraph :=
  match graph.rule child with
  | .error error => (.error error, graph)
  | .ok _ =>
    andThen (graph.writeOpen parent fun rule => { rule with children := place.insert child rule.children })
      fun graph => graph.write child fun rule => { rule with containers := rule.containers ++ [parent] }

/-- Writes a text, or an edge to the rule that is registered under it. -/
def writeText (graph : RuleGraph) (catalog : Catalog) (owner : Handle) (text : String) (place : Place) :
    Except Error Unit × RuleGraph :=
  match catalog.lookup text with
  | some registered => graph.writeEdge owner registered place
  | none => graph.writeOpen owner fun rule => { rule with fragments := place.insert text rule.fragments }

/-- Writes a piece into its owner. -/
def writePiece (graph : RuleGraph) (catalog : Catalog) (owner : Handle) (piece : Piece) (place : Place) :
    Except Error Unit × RuleGraph :=
  match piece with
  | .index n => graph.writeOpen owner fun rule =>
      { rule with fragments := place.insert (Piece.indexFragment n) rule.fragments }
  | .literal text => graph.writeText catalog owner text place
  | .nested identifier =>
    match catalog.lookup identifier with
    | some registered => graph.writeEdge owner registered place
    | none => (.error (.unknownRule identifier), graph)
  | .declaration declaration => graph.writeOpen owner fun rule =>
      { rule with declarations := place.insert declaration rule.declarations }
  | .function name => graph.writeText catalog owner (Piece.functionFragment name) place

/-- The outcome of a change that writes everything or nothing. -/
def settle (graph : RuleGraph) : Except Error RuleGraph → Except Error Unit × RuleGraph
  | .ok next => (.ok (), next)
  | .error error => (.error error, graph)

variable {graph : RuleGraph} {handle : Handle}

theorem openRule_eq_error_iff {error : Error} : graph.openRule handle = .error error ↔
    (graph.size ≤ handle.index ∧ error = .invalidRule handle) ∨
      (∃ name, graph.SealedAs handle name) ∧ error = .sealedRule handle := by
  unfold openRule
  cases hrule : graph.rule handle with
  | error missing =>
      obtain ⟨hmissing, rfl⟩ := rule_eq_error_iff.mp hrule
      simp [hmissing, SealedAs, hrule, eq_comm]
  | ok rule =>
      have hlt := Nat.not_le_of_lt (exists_rule_iff.mp ⟨rule, hrule⟩)
      cases hidentifier : rule.identifier <;>
        simp [Rule.isSealed, hidentifier, hlt, SealedAs, hrule, eq_comm]

theorem writeOpen_eq_settle (change : Rule → Rule) :
    graph.writeOpen handle change = graph.settle (graph.edit handle change) := by
  unfold writeOpen edit
  cases graph.openRule handle <;> rfl

theorem write_of_rule (hrule : ∃ rule, graph.rule handle = .ok rule) (change : Rule → Rule) :
    graph.write handle change = (.ok (), graph.update handle change) := by
  obtain ⟨rule, hrule⟩ := hrule
  rw [write, hrule]

/-- The second end of an edge is always written, since a rule that was there at first is there still. -/
theorem writeEdge_eq_settle (parent child : Handle) (place : Place) :
    graph.writeEdge parent child place = graph.settle (graph.adopt parent child place) := by
  unfold writeEdge adopt edit
  cases hchild : graph.rule child with
  | error error => rfl
  | ok rule =>
      simp only [writeOpen]
      cases hopen : graph.openRule parent with
      | error error => rfl
      | ok found =>
          exact write_of_rule (exists_rule_update.mpr ⟨rule, hchild⟩) _

theorem writePiece_eq_settle (catalog : Catalog) (owner : Handle) (piece : Piece) (place : Place) :
    graph.writePiece catalog owner piece place =
      graph.settle (((RuleBook.mk graph catalog).attach owner piece place).map RuleBook.graph) := by
  have hgraph (result : Except Error RuleGraph) :
      ((RuleBook.mk graph catalog).withGraph result).map RuleBook.graph = result := by
    cases result <;> rfl
  have htext (text : String) : graph.writeText catalog owner text place =
      graph.settle (((RuleBook.mk graph catalog).attachText owner text place).map RuleBook.graph) := by
    unfold writeText RuleBook.attachText
    cases catalog.lookup text with
    | some registered => simp only [RuleBook.adopt, hgraph, writeEdge_eq_settle]
    | none => simp only [addFragment, hgraph, writeOpen_eq_settle]
  cases piece with
  | index n =>
      rw [RuleBook.attach, hgraph]
      exact writeOpen_eq_settle _
  | literal text => exact htext text
  | nested identifier =>
      simp only [writePiece, RuleBook.attach]
      cases catalog.lookup identifier with
      | some registered => simp only [RuleBook.adopt, hgraph, writeEdge_eq_settle]
      | none => rfl
  | declaration declaration =>
      rw [RuleBook.attach, hgraph]
      exact writeOpen_eq_settle _
  | function name => exact htext (Piece.functionFragment name)

end RuleGraph

namespace Catalog

/-- The piece does not refer to a rule that is not registered. -/
def Resolves (catalog : Catalog) (piece : Piece) : Prop :=
  ∀ identifier, piece = .nested identifier → ∃ registered, catalog.lookup identifier = some registered

/-- What a piece adds to its owner. A reference and a literal can stand for a registered rule, and nothing else
can, whatever is registered. -/
inductive StandsFor (catalog : Catalog) : Piece → Addition → Prop
  | index (n : Int64) : StandsFor catalog (.index n) (.fragment (Piece.indexFragment n))
  | function (name : String) : StandsFor catalog (.function name) (.fragment (Piece.functionFragment name))
  | declaration (declaration : Declaration) :
      StandsFor catalog (.declaration declaration) (.declaration declaration)
  | reference {identifier : String} {registered : Handle}
      (hlookup : catalog.lookup identifier = some registered) :
      StandsFor catalog (.nested identifier) (.child registered)
  | name {text : String} {registered : Handle} (hlookup : catalog.lookup text = some registered) :
      StandsFor catalog (.literal text) (.child registered)
  | text {text : String} (hlookup : catalog.lookup text = none) :
      StandsFor catalog (.literal text) (.fragment text)

variable {catalog : Catalog} {piece : Piece} {addition : Addition}

theorem StandsFor.nests_iff (h : catalog.StandsFor piece addition) {child : Handle} :
    addition.child? = some child ↔
      ∃ name, (piece = .nested name ∨ piece = .literal name) ∧ catalog.lookup name = some child := by
  cases h <;> simp_all [Addition.child?]

theorem readText_of_lookup_eq_none {text : String} (h : catalog.lookup text = none) :
    catalog.readText text = .fragment text := by
  rw [readText, h]

theorem standsFor_readText (text : String) : catalog.StandsFor (.literal text) (catalog.readText text) := by
  unfold readText
  cases hlookup : catalog.lookup text with
  | none => exact .text hlookup
  | some registered => exact .name hlookup

theorem standsFor_of_meaning (hfunction : ∀ name, catalog.lookup (Piece.functionFragment name) = none)
    (h : catalog.meaning piece = .ok addition) : catalog.StandsFor piece addition := by
  cases piece with
  | index n =>
      cases h
      exact .index n
  | literal text =>
      cases h
      exact standsFor_readText text
  | nested identifier =>
      cases hlookup : catalog.lookup identifier with
      | none => simp [meaning, hlookup] at h
      | some registered =>
          simp only [meaning, hlookup, Except.ok.injEq] at h
          exact h ▸ .reference hlookup
  | declaration declaration =>
      cases h
      exact .declaration declaration
  | function name =>
      simp only [meaning, readText_of_lookup_eq_none (hfunction name), Except.ok.injEq] at h
      exact h ▸ .function name

theorem meaning_eq_error_iff {error : Error} : catalog.meaning piece = .error error ↔
    ∃ identifier, piece = .nested identifier ∧ catalog.lookup identifier = none ∧
      error = .unknownRule identifier := by
  cases piece with
  | nested identifier => cases hlookup : catalog.lookup identifier <;> simp [meaning, hlookup, eq_comm]
  | _ => simp [meaning]

theorem resolves_iff : catalog.Resolves piece ↔ ∃ addition, catalog.meaning piece = .ok addition := by
  cases piece with
  | nested identifier => cases hlookup : catalog.lookup identifier <;> simp [Resolves, meaning, hlookup]
  | _ => simp [Resolves, meaning]

end Catalog

namespace RuleBook

/-- The reason for which a piece cannot be attached. One that comes first keeps the later ones from being given. -/
inductive Objection (book : RuleBook) (owner : Handle) (piece : Piece) : Error → Prop
  | unknownRule {identifier : String} (hpiece : piece = .nested identifier)
      (hunknown : book.catalog.lookup identifier = none) :
      Objection book owner piece (.unknownRule identifier)
  | invalidRule (hresolves : book.catalog.Resolves piece) (hmissing : book.graph.size ≤ owner.index) :
      Objection book owner piece (.invalidRule owner)
  | sealedRule (hresolves : book.catalog.Resolves piece) {name : String}
      (hsealed : book.graph.SealedAs owner name) : Objection book owner piece (.sealedRule owner)

/-- The outcome of attaching a piece. -/
structure Settled (book : RuleBook) (owner : Handle) (piece : Piece) (place : Place) : Prop where
  error_iff : ∀ {error}, book.attach owner piece place = .error error ↔ book.Objection owner piece error
  ok_iff : (∃ next, book.attach owner piece place = .ok next) ↔ book.catalog.Resolves piece ∧
    ∃ rule, book.graph.rule owner = .ok rule ∧ rule.identifier = none
  /-- A piece that is refused leaves nothing behind. -/
  nothing_written : ∀ {error}, book.attach owner piece place = .error error →
    book.graph.writePiece book.catalog owner piece place = (.error error, book.graph)
  /-- A piece that is taken adds one entry to its owner, and one container to the rule that it stands for. -/
  written : ∀ {next}, book.attach owner piece place = .ok next →
    book.graph.writePiece book.catalog owner piece place = (.ok (), next.graph) ∧
    next.catalog = book.catalog ∧ ∃ addition, book.catalog.StandsFor piece addition ∧
      (∀ child, addition.child? = some child ↔ ∃ name, (piece = .nested name ∨ piece = .literal name) ∧
        book.catalog.lookup name = some child) ∧
      ∀ index, next.graph.rules[index]? =
        book.graph.rules[index]?.map (Rule.undergo index owner addition place)

variable {book : RuleBook} {owner : Handle} {piece : Piece} {place : Place} {addition : Addition}

theorem objection_iff {error : Error} : book.Objection owner piece error ↔
    book.catalog.meaning piece = .error error ∨
      book.catalog.Resolves piece ∧ book.graph.openRule owner = .error error := by
  rw [Catalog.meaning_eq_error_iff, RuleGraph.openRule_eq_error_iff]
  constructor
  · rintro (⟨rfl, hunknown⟩ | ⟨hresolves, hmissing⟩ | ⟨hresolves, hsealed⟩)
    · exact Or.inl ⟨_, rfl, hunknown, rfl⟩
    · exact Or.inr ⟨hresolves, Or.inl ⟨hmissing, rfl⟩⟩
    · exact Or.inr ⟨hresolves, Or.inr ⟨⟨_, hsealed⟩, rfl⟩⟩
  · rintro (⟨identifier, rfl, hunknown, rfl⟩ | ⟨hresolves, ⟨hmissing, rfl⟩ | ⟨⟨name, hsealed⟩, rfl⟩⟩)
    · exact .unknownRule rfl hunknown
    · exact .invalidRule hresolves hmissing
    · exact .sealedRule hresolves hsealed

/-- A piece stands for rules that exist, so that only its owner can be at fault. -/
theorem Intact.takes_eq (h : book.Intact) (hstands : book.catalog.StandsFor piece addition) :
    book.graph.takes owner addition = (book.graph.openRule owner).map fun _ => () := by
  cases hnested : addition.child? with
  | none => exact RuleGraph.takes_of_no_child hnested
  | some child =>
      obtain ⟨name, -, hlookup⟩ := hstands.nests_iff.mp hnested
      obtain ⟨rule, hrule⟩ :=
        RuleGraph.exists_rule_iff.mpr (h.registered_exists (Catalog.mem_entries_of_lookup hlookup))
      rw [RuleGraph.takes_of_child hnested, hrule, Except.bind]

theorem Intact.verdict_eq (h : book.Intact)
    (hfunction : ∀ name, book.catalog.lookup (Piece.functionFragment name) = none) (owner : Handle)
    (piece : Piece) : book.verdict owner piece = (book.catalog.meaning piece).bind fun addition =>
      (book.graph.openRule owner).map fun _ => addition := by
  cases hmeaning : book.catalog.meaning piece with
  | error error => rw [verdict, hmeaning, Except.bind, Except.bind]
  | ok addition =>
      rw [verdict_of_meaning hmeaning, h.takes_eq (Catalog.standsFor_of_meaning hfunction hmeaning),
        Except.bind]
      cases book.graph.openRule owner <;> rfl

theorem Intact.settled (h : book.Intact)
    (hfunction : ∀ name, book.catalog.lookup (Piece.functionFragment name) = none) (owner : Handle)
    (piece : Piece) (place : Place) : book.Settled owner piece place where
  error_iff {error} := by
    rw [objection_iff, Catalog.resolves_iff, attach_eq, h.verdict_eq hfunction]
    cases book.catalog.meaning piece with
    | error unknown => simp [Except.bind, Except.map]
    | ok addition => cases book.graph.openRule owner <;> simp [Except.bind, Except.map]
  ok_iff := by
    simp only [Catalog.resolves_iff, ← RuleGraph.openRule_eq_ok_iff]
    rw [attach_eq, h.verdict_eq hfunction]
    cases book.catalog.meaning piece with
    | error unknown => simp [Except.bind, Except.map]
    | ok addition => cases book.graph.openRule owner <;> simp [Except.bind, Except.map]
  nothing_written {error} herror := by
    rw [RuleGraph.writePiece_eq_settle, herror]
    rfl
  written {next} hattach := by
    obtain ⟨addition, hverdict, hnext⟩ := attach_eq_ok_iff.mp hattach
    have hstands := Catalog.standsFor_of_meaning hfunction (verdict_eq_ok_iff.mp hverdict).1
    refine ⟨?_, by rw [hnext, extend], addition, hstands, fun _ => hstands.nests_iff, fun index => ?_⟩
    · rw [RuleGraph.writePiece_eq_settle, hattach]
      rfl
    · rw [hnext]
      exact RuleGraph.getElem?_extend index

theorem settled_assemble (operations : List Operation) (owner : Handle) (piece : Piece) (place : Place) :
    (assemble operations).Settled owner piece place :=
  (intact_assemble operations).settled (lookup_functionFragment operations) owner piece place

end RuleBook

namespace Publisher

variable {σ : Type} [Sheet σ] {start : Publisher σ} {sheet : σ}

theorem namesHashed_run (hstart : withSheet sheet = .ok start) (calls : List Call) :
    (start.run calls).book.graph.NamesHashed := by
  rw [book_run_eq_assemble hstart]
  exact RuleBook.namesHashed_assemble _

/-- **What attaching a piece does, and when it fails.** This holds of every book that is assembled by hand and of
the book of every publisher, for every owner, piece and place. A reference to a name that is not registered is
refused as such. Otherwise the owner is refused if it does not exist, or if it is sealed. Otherwise the piece is
taken. A refused piece leaves nothing behind, although an edge is written into one rule after the other. A piece
that is taken adds one entry to one list of its owner, and a container to the rule that it nests if it nests one.
These are the references and the literals that are registered names, and no other rule changes, nor the catalog. -/
theorem attach_settled (hstart : withSheet sheet = .ok start) :
    (∀ operations owner piece place, (RuleBook.assemble operations).Settled owner piece place) ∧
      ∀ calls owner piece place, (start.run calls).book.Settled owner piece place := by
  refine ⟨RuleBook.settled_assemble, fun calls => ?_⟩
  rw [book_run_eq_assemble hstart]
  exact RuleBook.settled_assemble _

/-- A finished rule and an open one. -/
def nestCalls : List Call := [.create, .attach ⟨0⟩ (.literal "box") .back, .finish ⟨0⟩, .create]

/-- The open rule takes the finished one under its name. The finished one takes nothing, and the name is looked at
before the owner. -/
theorem attach_settled_nest :
    withSheet ({} : AbsentSheet) = .ok offline ∧
      (∃ next, (offline.run nestCalls).book.attach ⟨1⟩ (.nested (Identifier.ofContent "f:box\x00")) .front =
        .ok next ∧ next.graph.rules[0]?.map Rule.containers = some [⟨1⟩]) ∧
      (offline.run nestCalls).book.attach ⟨0⟩ (.function "hover") .back = .error (.sealedRule ⟨0⟩) ∧
      (offline.run nestCalls).book.attach ⟨7⟩ (.nested "box") .back = .error (.unknownRule "box") := by
  have hstart : withSheet ({} : AbsentSheet) = .ok offline := rfl
  have hnamed : (offline.run nestCalls).book.catalog.lookup (Identifier.ofContent "f:box\x00") = some ⟨0⟩ := by
    decide +kernel
  have hunknown : (offline.run nestCalls).book.catalog.lookup "box" = none := by decide +kernel
  have hfinished : ((offline.run nestCalls).rule ⟨0⟩).map Rule.identifier =
      .ok (some (Identifier.ofContent "f:box\x00")) := by decide +kernel
  have hopen : ((offline.run nestCalls).rule ⟨1⟩).map Rule.identifier = .ok none := by decide +kernel
  have halone : (offline.run nestCalls).book.graph.rules[0]?.map Rule.containers = some [] := by decide +kernel
  have hsettled := (attach_settled hstart).2 nestCalls
  refine ⟨hstart, ?_, ?_, (hsettled _ _ _).error_iff.mpr (.unknownRule rfl hunknown)⟩
  · obtain ⟨next, hnext⟩ := (hsettled ⟨1⟩ (.nested (Identifier.ofContent "f:box\x00")) .front).ok_iff.mpr
      ⟨fun name hname => ⟨⟨0⟩, Piece.nested.inj hname ▸ hnamed⟩, exists_of_map_eq_ok hopen⟩
    obtain ⟨-, -, addition, -, hnests, hrules⟩ := (hsettled _ _ _).written hnext
    have hchild := (hnests ⟨0⟩).mpr ⟨_, Or.inl rfl, hnamed⟩
    refine ⟨next, hnext, ?_⟩
    obtain ⟨rule, hrule, hcontainers⟩ := Option.map_eq_some_iff.mp halone
    rw [hrules, hrule]
    simp [Rule.undergo, hchild, Rule.addContainer, hcontainers, Handle.index]
  · have hresolves : (offline.run nestCalls).book.catalog.Resolves (.function "hover") := by
      intro name hname
      cases hname
    exact (hsettled _ _ _).error_iff.mpr (.sealedRule hresolves (exists_of_map_eq_ok hfinished))

end Publisher

end CssRules
