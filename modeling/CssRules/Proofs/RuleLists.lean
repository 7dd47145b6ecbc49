import CssRules.Proofs.Interleaving
import CssRules.Proofs.Refusal

/-! The lists of a rule from what was attached to it. Each of the three lists has first what was attached at its
front, the latest first, and then what was attached at its back, the earliest first. A piece counts as what it means
when it is attached, so that one name can stand for a fragment at first and for a child later. -/

namespace CssRules

section Lists

variable {α : Type}

/-- What was added at one end. -/
def addedAt (place : Place) (added : List (α × Place)) : List α :=
  (added.filter (·.2 = place)).map Prod.fst

/-- The list that came about by additions at its ends. -/
def arrange (added : List (α × Place)) : List α :=
  (addedAt .front added).reverse ++ addedAt .back added

@[simp] theorem addedAt_concat (added : List (α × Place)) (item : α) (place other : Place) :
    addedAt other (added ++ [(item, place)]) =
      if place = other then addedAt other added ++ [item] else addedAt other added := by
  by_cases hplace : place = other <;> simp [addedAt, List.filter_append, hplace]

/-- One more addition goes to its end of the list. -/
theorem arrange_concat (added : List (α × Place)) (item : α) (place : Place) :
    arrange (added ++ [(item, place)]) = place.insert item (arrange added) := by
  cases place with
  | front => simp [arrange]
  | back => simp [arrange]

end Lists

namespace Addition

/-- Which list an addition goes to. -/
inductive Kind where
  | fragment
  | declaration
  | child
  deriving DecidableEq

def kind : Addition → Kind
  | .fragment _ => .fragment
  | .declaration _ => .declaration
  | .child _ => .child

def fragment? : Addition → Option String
  | .fragment text => some text
  | _ => none

def declaration? : Addition → Option Declaration
  | .declaration given => some given
  | _ => none

/-- The additions of one kind, each with the end at which it was added. -/
def only {α : Type} (item? : Addition → Option α) (added : List (Addition × Place)) : List (α × Place) :=
  added.filterMap fun entry => (item? entry.1).map (·, entry.2)

/-- The list of one kind takes an addition of this kind at its end, and no other. -/
theorem arrange_only_concat {α : Type} (item? : Addition → Option α) (added : List (Addition × Place))
    (addition : Addition) (place : Place) :
    arrange (only item? (added ++ [(addition, place)])) = match item? addition with
      | some item => place.insert item (arrange (only item? added))
      | none => arrange (only item? added) := by
  rw [only, List.filterMap_append]
  cases hitem : item? addition with
  | none => simp [only, hitem]
  | some item => simpa [only, hitem] using arrange_concat (only item? added) item place

end Addition

namespace Rule

/-- What was attached to a rule, without what came from other rules and from its registration. -/
def body (rule : Rule) : Rule := { rule with containers := [], identifier := none }

/-- An open rule to which this was attached. -/
def built (added : List (Addition × Place)) : Rule :=
  added.foldl (fun rule entry => rule.add entry.1 entry.2) {}

theorem built_concat (added : List (Addition × Place)) (addition : Addition) (place : Place) :
    built (added ++ [(addition, place)]) = (built added).add addition place := by
  simp [built]

theorem body_add (rule : Rule) (addition : Addition) (place : Place) :
    (rule.add addition place).body = rule.body.add addition place := by
  cases addition <;> rfl

@[simp] theorem body_addContainer (rule : Rule) (owner : Handle) : (rule.addContainer owner).body = rule.body := rfl

theorem body_undergo (rule : Rule) (index : Nat) (owner : Handle) (addition : Addition) (place : Place) :
    (rule.undergo index owner addition place).body =
      if index = owner.index then rule.body.add addition place else rule.body := by
  unfold undergo
  split <;> split <;> simp only [body_addContainer, body_add]

/-- The three lists of a rule that is built, each by the additions of its kind alone. -/
theorem lists_built (added : List (Addition × Place)) :
    (built added).fragments = arrange (Addition.only Addition.fragment? added) ∧
    (built added).declarations = arrange (Addition.only Addition.declaration? added) ∧
    (built added).children = arrange (Addition.only Addition.child? added) := by
  induction added using List.reverseRecOn with
  | nil => exact ⟨rfl, rfl, rfl⟩
  | append_singleton added entry ih =>
      obtain ⟨addition, place⟩ := entry
      obtain ⟨hfragments, hdeclarations, hchildren⟩ := ih
      rw [built_concat, Addition.arrange_only_concat, Addition.arrange_only_concat,
        Addition.arrange_only_concat, ← hfragments, ← hdeclarations, ← hchildren]
      cases addition <;> exact ⟨rfl, rfl, rfl⟩

section

variable {addition addition' : Addition} {place place' : Place}

/-- Additions of different kinds go to different lists, so that their order does not matter. -/
theorem add_comm_of_kind (hkind : addition.kind ≠ addition'.kind) (rule : Rule) :
    (rule.add addition place).add addition' place' = (rule.add addition' place').add addition place := by
  cases addition <;> cases addition' <;> first | rfl | exact absurd rfl hkind

theorem undergo_comm_of_kind (hkind : addition.kind ≠ addition'.kind) (index : Nat) (owner : Handle)
    (rule : Rule) :
    (rule.undergo index owner addition place).undergo index owner addition' place' =
      (rule.undergo index owner addition' place').undergo index owner addition place := by
  unfold undergo
  by_cases hindex : index = owner.index
  · simp only [if_pos hindex]
    split <;> split <;> simp only [add_addContainer, add_comm_of_kind hkind]
  · simp only [if_neg hindex]
    split <;> split <;> rfl

end

end Rule

namespace Catalog

/-- What a piece counts as while these rules are registered: a function and a position are always fragments. -/
def classify (catalog : Catalog) : Piece → Option Addition
  | .index n => some (.fragment (Piece.indexFragment n))
  | .function name => some (.fragment (Piece.functionFragment name))
  | .declaration declaration => some (.declaration declaration)
  | .nested identifier => (catalog.lookup identifier).map .child
  | .literal text => match catalog.lookup text with
    | some registered => some (.child registered)
    | none => some (.fragment text)

theorem classify_of_standsFor {catalog : Catalog} {piece : Piece} {addition : Addition}
    (h : catalog.StandsFor piece addition) : catalog.classify piece = some addition := by
  cases h with
  | index n => rfl
  | function name => rfl
  | declaration declaration => rfl
  | reference hlookup => simp only [classify, hlookup, Option.map_some]
  | name hlookup => simp only [classify, hlookup]
  | text hlookup => simp only [classify, hlookup]

end Catalog

namespace RuleGraph

/-- What was attached to the rule under a handle. Without a rule it is nothing. -/
def bodyOf (graph : RuleGraph) (handle : Handle) : Rule :=
  match graph.rule handle with
  | .ok rule => rule.body
  | .error _ => {}

variable {graph : RuleGraph} {owner handle : Handle}

theorem bodyOf_eq {rule : Rule} (hrule : graph.rule handle = .ok rule) : graph.bodyOf handle = rule.body := by
  rw [bodyOf, hrule]

theorem bodyOf_create (handle : Handle) : graph.create.2.bodyOf handle = graph.bodyOf handle := by
  unfold bodyOf
  rw [rule_create]
  by_cases hnew : handle.index = graph.size
  · have hnone : graph.rule handle = .error (.invalidRule handle) :=
      rule_eq_error_iff.mpr ⟨Nat.le_of_eq hnew.symm, rfl⟩
    rw [if_pos hnew, hnone]
    rfl
  · rw [if_neg hnew]

theorem bodyOf_sealWith (name : String) : (graph.sealWith owner name).bodyOf handle = graph.bodyOf handle := by
  unfold bodyOf sealWith
  rw [rule_update]
  by_cases hhandle : handle = owner
  · rw [if_pos hhandle]
    cases graph.rule handle <;> rfl
  · rw [if_neg hhandle]

theorem bodyOf_extend {addition : Addition} {place : Place} (howner : ∃ rule, graph.rule owner = .ok rule) :
    (graph.extend owner addition place).bodyOf handle =
      if owner = handle then (graph.bodyOf handle).add addition place else graph.bodyOf handle := by
  unfold bodyOf
  rw [rule_extend]
  by_cases hhandle : owner = handle
  · subst hhandle
    obtain ⟨rule, hrule⟩ := howner
    rw [hrule, if_pos rfl]
    exact (Rule.body_undergo ..).trans (if_pos rfl)
  · have hindex : handle.index ≠ owner.index := fun h => hhandle (Handle.index_inj.mp h).symm
    rw [if_neg hhandle]
    cases graph.rule handle with
    | error error => rfl
    | ok rule => exact (Rule.body_undergo ..).trans (if_neg hindex)

end RuleGraph

namespace RuleBook

/-- What an operation adds to the rule under a handle, and at which end. One that fails adds nothing. -/
def additionsBy (book : RuleBook) (handle : Handle) : Operation → List (Addition × Place)
  | .create | .register _ => []
  | .attach owner piece place =>
      match book.attach owner piece place, book.catalog.classify piece with
      | .ok _, some addition => if owner = handle then [(addition, place)] else []
      | _, _ => []
  | .adopt parent child place =>
      match book.adopt parent child place with
      | .ok _ => if parent = handle then [(.child child, place)] else []
      | .error _ => []

/-- What several operations, one after the other, add to the rule under a handle. -/
def additions (handle : Handle) : RuleBook → List Operation → List (Addition × Place)
  | _, [] => []
  | book, operation :: rest =>
      book.additionsBy handle operation ++ additions handle (book.perform operation) rest

variable {book : RuleBook} {handle : Handle}

theorem additions_concat (operations : List Operation) (operation : Operation) :
    additions handle book (operations ++ [operation]) =
      additions handle book operations ++ (operations.foldl perform book).additionsBy handle operation := by
  induction operations generalizing book with
  | nil => simp [additions]
  | cons first rest ih => rw [List.cons_append, additions, additions, ih, List.append_assoc, List.foldl_cons]

/-- What an operation does to a rule: it adds to it what it adds, and nothing else is changed. -/
theorem built_perform (hfunction : ∀ name, book.catalog.lookup (Piece.functionFragment name) = none)
    {added : List (Addition × Place)} (hbuilt : book.graph.bodyOf handle = Rule.built added)
    (operation : Operation) : (book.perform operation).graph.bodyOf handle =
      Rule.built (added ++ book.additionsBy handle operation) := by
  have hextend (owner : Handle) (addition : Addition) (place : Place)
      (howner : ∃ rule, book.graph.rule owner = .ok rule) :
      (book.extend owner addition place).graph.bodyOf handle =
        Rule.built (added ++ if owner = handle then [(addition, place)] else []) := by
    rw [extend, RuleGraph.bodyOf_extend howner, hbuilt]
    split
    · exact (Rule.built_concat ..).symm
    · rw [List.append_nil]
  cases operation with
  | create =>
      rw [additionsBy, List.append_nil, ← hbuilt]
      exact RuleGraph.bodyOf_create handle
  | attach owner piece place =>
      rw [additionsBy, perform]
      cases hattach : book.attach owner piece place with
      | error error => simpa using hbuilt
      | ok next =>
          obtain ⟨addition, hverdict, rfl⟩ := attach_eq_ok_iff.mp hattach
          obtain ⟨hmeaning, htakes⟩ := verdict_eq_ok_iff.mp hverdict
          obtain ⟨-, rule, hrule, -⟩ := RuleGraph.takes_eq_ok_iff.mp htakes
          rw [Catalog.classify_of_standsFor (Catalog.standsFor_of_meaning hfunction hmeaning)]
          exact hextend owner addition place ⟨rule, hrule⟩
  | adopt parent child place =>
      rw [additionsBy, perform]
      cases hadopt : book.adopt parent child place with
      | error error => simpa using hbuilt
      | ok next =>
          obtain ⟨-, ⟨rule, hrule, -⟩, rfl⟩ := adopt_eq_ok_iff.mp hadopt
          exact hextend parent (.child child) place ⟨rule, hrule⟩
  | register registered =>
      rw [additionsBy, perform, List.append_nil]
      cases hregister : book.register registered with
      | error error => exact hbuilt
      | ok result =>
          obtain ⟨name, next⟩ := result
          obtain ⟨-, rfl⟩ := register_eq_ok_iff.mp hregister
          exact (RuleGraph.bodyOf_sealWith name).trans hbuilt

/-- A rule has been built from what all operations added to it. -/
theorem built_assemble (operations : List Operation) (handle : Handle) :
    (assemble operations).graph.bodyOf handle = Rule.built (additions handle {} operations) := by
  induction operations using List.reverseRecOn with
  | nil => rfl
  | append_singleton operations operation ih =>
      rw [assemble_concat, additions_concat]
      exact built_perform (lookup_functionFragment operations) ih operation

theorem lists_assemble (operations : List Operation) {rule : Rule}
    (hrule : (assemble operations).graph.rule handle = .ok rule) :
    rule.fragments = arrange (Addition.only Addition.fragment? (additions handle {} operations)) ∧
    rule.declarations = arrange (Addition.only Addition.declaration? (additions handle {} operations)) ∧
    rule.children = arrange (Addition.only Addition.child? (additions handle {} operations)) := by
  have hbody : rule.body = Rule.built (additions handle {} operations) := by
    rw [← RuleGraph.bodyOf_eq hrule, built_assemble]
  have hlists := Rule.lists_built (additions handle {} operations)
  rw [← hbody] at hlists
  exact hlists

theorem extend_comm_of_kind {addition addition' : Addition} (hkind : addition.kind ≠ addition'.kind)
    (book : RuleBook) (owner : Handle) (place place' : Place) :
    (book.extend owner addition place).extend owner addition' place' =
      (book.extend owner addition' place').extend owner addition place := by
  have hrules : ((book.graph.extend owner addition place).extend owner addition' place').rules =
      ((book.graph.extend owner addition' place').extend owner addition place).rules := by
    apply Array.ext_getElem?
    intro index
    rw [RuleGraph.getElem?_extend, RuleGraph.getElem?_extend, RuleGraph.getElem?_extend,
      RuleGraph.getElem?_extend, Option.map_map, Option.map_map]
    exact congrArg (Option.map · _) (funext (Rule.undergo_comm_of_kind hkind index owner))
  exact congrArg (fun rules => RuleBook.mk ⟨rules⟩ book.catalog) hrules

end RuleBook

namespace Publisher

variable {σ : Type} [Sheet σ] {start : Publisher σ} {sheet : σ}

/-- What the calls of a run attach to the rule under a handle, in their order. -/
def additions (publisher : Publisher σ) (calls : List Call) (handle : Handle) : List (Addition × Place) :=
  RuleBook.additions handle publisher.book (calls.filterMap Call.operation?)

/-- Pieces that count as additions of different kinds can be attached to a rule in either order. -/
theorem perform_comm_of_kind (publisher : Publisher σ)
    (hfunction : ∀ name, publisher.book.catalog.lookup (Piece.functionFragment name) = none)
    {first second : Attachment} {addition addition' : Addition} (howner : first.owner = second.owner)
    (hfirst : publisher.book.catalog.classify first.piece = some addition)
    (hsecond : publisher.book.catalog.classify second.piece = some addition')
    (hkind : addition.kind ≠ addition'.kind) :
    (publisher.perform first.call).perform second.call =
      (publisher.perform second.call).perform first.call := by
  have hmeant {piece : Piece} {given counted : Addition} {owner : Handle}
      (hcounted : publisher.book.catalog.classify piece = some counted)
      (hverdict : publisher.book.verdict owner piece = .ok given) : counted = given := by
    have hstands := Catalog.standsFor_of_meaning hfunction (RuleBook.verdict_eq_ok_iff.mp hverdict).1
    exact Option.some.inj (hcounted.symm.trans (Catalog.classify_of_standsFor hstands))
  refine publisher.perform_swap (fun _ => rfl) fun {given given'} hverdict hverdict' => ?_
  obtain rfl := hmeant hfirst hverdict
  obtain rfl := hmeant hsecond hverdict'
  rw [howner, RuleBook.extend_comm_of_kind hkind]

/-- **What a rule contains.** Take any run over any sheet and a rule that was made in it, and read off the run what
was attached to this rule, each piece by what it meant at its own moment. Then each list of the rule has what was
attached at the front, the latest first, and after it what was attached at the back, the earliest first, whatever
else was called in between and whatever failed. Each list depends on the additions of its own kind only: pieces of
different kinds can be attached in either order, and neither changes the answer to the other. -/
theorem lists_arranged (hstart : withSheet sheet = .ok start) (calls : List Call) {handle : Handle} {rule : Rule}
    (hrule : (start.run calls).rule handle = .ok rule) :
    rule.fragments = arrange (Addition.only Addition.fragment? (start.additions calls handle)) ∧
    rule.declarations = arrange (Addition.only Addition.declaration? (start.additions calls handle)) ∧
    rule.children = arrange (Addition.only Addition.child? (start.additions calls handle)) ∧
    ∀ (first second : Attachment) addition addition', first.owner = handle → second.owner = handle →
      (start.run calls).book.catalog.classify first.piece = some addition →
      (start.run calls).book.catalog.classify second.piece = some addition' →
      addition.kind ≠ addition'.kind →
        ((start.run calls).perform first.call).perform second.call =
          ((start.run calls).perform second.call).perform first.call ∧
        ((start.run calls).perform first.call).answer second.call = (start.run calls).answer second.call := by
  have hfunction : ∀ name, (start.run calls).book.catalog.lookup (Piece.functionFragment name) = none := by
    rw [book_run_eq_assemble hstart]
    exact RuleBook.lookup_functionFragment _
  rw [Publisher.rule, book_run_eq_assemble hstart] at hrule
  obtain ⟨hfragments, hdeclarations, hchildren⟩ := RuleBook.lists_assemble _ hrule
  rw [← book_withSheet hstart] at hfragments hdeclarations hchildren
  refine ⟨hfragments, hdeclarations, hchildren,
    fun first second addition addition' hfirst hsecond hcounted hcounted' hkind => ⟨?_, ?_⟩⟩
  · exact perform_comm_of_kind _ hfunction (hfirst.trans hsecond.symm) hcounted hcounted' hkind
  · rw [answer_attachment, answer_attachment, verdict_perform]

/-- A rule with pieces of all kinds at both ends, one of which fails. The name of the other rule is attached before
that rule is finished and again after it. -/
def mixedCalls : List Call :=
  [.create, .attach ⟨0⟩ (.literal "box") .back, .create,
    .attach ⟨1⟩ (.literal (Identifier.ofContent "f:box\x00")) .back, .attach ⟨1⟩ (.nested "box") .front,
    .finish ⟨0⟩, .attach ⟨1⟩ (.literal (Identifier.ofContent "f:box\x00")) .front, .attach ⟨1⟩ (.index 3) .front,
    .attach ⟨1⟩ (.declaration ⟨"color", [.text "red"]⟩) .back,
    .attach ⟨1⟩ (.declaration ⟨"zIndex", [.text "1"]⟩) .front, .attachFunction ⟨1⟩ "hover"]

theorem lists_arranged_mixed :
    withSheet ({} : AbsentSheet) = .ok offline ∧
      (∃ rule, (offline.run mixedCalls).rule ⟨1⟩ = .ok rule ∧
        rule.fragments = [":nth-child(2)", Identifier.ofContent "f:box\x00", " HOVER"] ∧
        rule.declarations.map Declaration.render = ["z-index: 1;", "color: red;"] ∧ rule.children = [⟨0⟩]) ∧
      ((offline.run mixedCalls).perform (.attach ⟨1⟩ (.index 1) .front)).perform
          (.attach ⟨1⟩ (.nested (Identifier.ofContent "f:box\x00")) .front) =
        ((offline.run mixedCalls).perform (.attach ⟨1⟩ (.nested (Identifier.ofContent "f:box\x00")) .front)).perform
          (.attach ⟨1⟩ (.index 1) .front) := by
  have hstart : withSheet ({} : AbsentSheet) = .ok offline := rfl
  have hsize : (offline.run mixedCalls).book.graph.size = 2 := by decide +kernel
  have hnamed : (offline.run mixedCalls).book.catalog.classify (.nested (Identifier.ofContent "f:box\x00")) =
      some (.child ⟨0⟩) := by
    have hlookup : (offline.run mixedCalls).book.catalog.lookup (Identifier.ofContent "f:box\x00") = some ⟨0⟩ := by
      decide +kernel
    rw [Catalog.classify, hlookup, Option.map_some]
  obtain ⟨rule, hrule⟩ : ∃ rule, (offline.run mixedCalls).rule ⟨1⟩ = .ok rule :=
    RuleGraph.exists_rule_iff.mpr (by rw [hsize]; decide)
  obtain ⟨hfragments, hdeclarations, hchildren, hcomm⟩ := lists_arranged hstart mixedCalls hrule
  refine ⟨hstart, ⟨rule, hrule, hfragments.trans ?_, ?_, hchildren.trans ?_⟩, ?_⟩
  · decide +kernel
  · rw [hdeclarations]
    decide +kernel
  · decide +kernel
  · exact (hcomm ⟨⟨1⟩, .index 1, .front⟩ ⟨⟨1⟩, .nested (Identifier.ofContent "f:box\x00"), .front⟩ _ _ rfl rfl rfl
      hnamed (by decide)).1

end Publisher

end CssRules
