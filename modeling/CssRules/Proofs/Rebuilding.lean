import CssRules.Proofs.Edges
import CssRules.Proofs.Independence
import CssRules.Proofs.SheetContacts

/-! Building a finished rule for a second time. The copy adopts the children of the original, which have a
container already, so that no rule comes to the top level of the document or leaves it, also while the copy is half
built. When the copy is finished it gets the name of the original, the catalog has that name, and the lines of the
rule that is registered under it are all that the sheet could get. -/

namespace CssRules

namespace RuleBook

/-- An operation that makes a rule or attaches a piece to the owner. -/
def Builds (owner : Handle) (operation : Operation) : Prop :=
  operation = .create ∨ ∃ piece place, operation = .attach owner piece place

variable {book next : RuleBook} {owner original handle : Handle} {operation : Operation}
  {operations more : List Operation} {layout : Layout}

theorem Builds.catalog_perform (h : Builds owner operation) (book : RuleBook) :
    (book.perform operation).catalog = book.catalog := by
  rcases h with rfl | ⟨piece, place, rfl⟩
  · rfl
  · rw [perform]
    cases hattach : book.attach owner piece place with
    | error error => rfl
    | ok next => exact (attaches_of_attach hattach).catalog_eq

theorem Builds.parent_of_adoption (h : Builds owner operation) {edge : Edge}
    (hedge : edge ∈ book.adoption operation) : edge.parent = owner := by
  rcases h with rfl | ⟨piece, place, rfl⟩
  · cases hedge
  · rw [adoption] at hedge
    split at hedge
    · rw [List.mem_singleton.mp hedge]
    · cases hedge

theorem catalog_foldl (h : ∀ operation ∈ operations, Builds owner operation) (book : RuleBook) :
    (operations.foldl perform book).catalog = book.catalog := by
  induction operations generalizing book with
  | nil => rfl
  | cons operation rest ih =>
      obtain ⟨hfirst, hrest⟩ := List.forall_mem_cons.mp h
      rw [List.foldl_cons, ih hrest, hfirst.catalog_perform]

theorem parent_of_adoptions (h : ∀ operation ∈ operations, Builds owner operation) {edge : Edge}
    (hedge : edge ∈ adoptions book operations) : edge.parent = owner := by
  induction operations generalizing book with
  | nil => cases hedge
  | cons operation rest ih =>
      obtain ⟨hfirst, hrest⟩ := List.forall_mem_cons.mp h
      rcases List.mem_append.mp hedge with hnow | hlater
      · exact hfirst.parent_of_adoption hnow
      · exact ih hrest hlater

theorem adoptions_append (book : RuleBook) (operations more : List Operation) :
    adoptions book (operations ++ more) =
      adoptions book operations ++ adoptions (operations.foldl perform book) more := by
  induction operations generalizing book with
  | nil => rfl
  | cons operation rest ih =>
      rw [List.cons_append, adoptions, adoptions, ih, List.append_assoc]
      rfl

theorem adoptions_mono (book : RuleBook) (h : operations <+: more) :
    adoptions book operations <+: adoptions book more := by
  obtain ⟨rest, rfl⟩ := h
  rw [adoptions_append]
  exact List.prefix_append _ _

/-- Registering a rule makes no edge. -/
theorem adoptions_concat_register (book : RuleBook) (operations : List Operation) (handle : Handle) :
    adoptions book (operations ++ [.register handle]) = adoptions book operations := by
  rw [adoptions_append]
  exact List.append_nil _

/-- What the owner adopted while it was built is among its children in the end. -/
theorem child_of_adoptions (h : ∀ operation ∈ operations, Builds owner operation) {edge : Edge}
    (hedge : edge ∈ adoptions book operations) :
    edge.child ∈ (operations.foldl perform book).graph.childrenOf owner := by
  refine (childrenOf_foldl book operations owner).mem_iff.mpr (List.mem_append_right _ ?_)
  have hparent := parent_of_adoptions h hedge
  exact List.mem_map.mpr ⟨edge, List.mem_filter.mpr ⟨hedge, decide_eq_true hparent⟩, rfl⟩

/-- Adopting what has a container already brings no rule to the top level and removes none from there. -/
theorem top_level_stays (hpaired : book.graph.Paired)
    (hedges : ∀ edge ∈ adoptions book operations, edge.child ∈ book.graph.childrenOf original)
    (handle : Handle) : ((operations.foldl perform book).graph.containersOf handle).isEmpty =
      (book.graph.containersOf handle).isEmpty := by
  rw [containersOf_foldl]
  by_cases hadopted : ∃ edge ∈ adoptions book operations, edge.child = handle
  · obtain ⟨edge, hedge, rfl⟩ := hadopted
    have hcontainer := hpaired.mem_containersOf_iff.mpr (hedges edge hedge)
    have hnonempty := List.ne_nil_of_mem hcontainer
    rw [List.isEmpty_eq_false_iff.mpr hnonempty, List.isEmpty_eq_false_iff.mpr]
    exact List.append_ne_nil_of_left_ne_nil hnonempty _
  · have hnone : Edge.parentsIn (adoptions book operations) handle = [] := by
      rw [Edge.parentsIn, List.filter_eq_nil_iff.mpr fun edge hedge heq =>
        hadopted ⟨edge, hedge, of_decide_eq_true heq⟩, List.map_nil]
    rw [hnone, List.append_nil]

theorem entryBlocks_congr (hrule : ∃ rule, book.graph.rule handle = .ok rule)
    (hrule' : ∃ rule, next.graph.rule handle = .ok rule)
    (htop : (next.graph.containersOf handle).isEmpty = (book.graph.containersOf handle).isEmpty)
    (hblocks : next.graph.blocks layout handle = book.graph.blocks layout handle) :
    next.entryBlocks layout handle = book.entryBlocks layout handle := by
  obtain ⟨rule, hrule⟩ := hrule
  obtain ⟨rule', hrule'⟩ := hrule'
  rw [RuleGraph.containersOf, RuleGraph.containersOf, RuleGraph.handlesOf_eq hrule,
    RuleGraph.handlesOf_eq hrule'] at htop
  have hlevel : rule'.isTopLevel = rule.isTopLevel := htop
  simp only [entryBlocks, hrule, hrule', bind, Except.bind, hlevel, hblocks]

theorem documentWith_congr (minifier : String → Except Error String) (hcatalog : next.catalog = book.catalog)
    (hentries : ∀ entry ∈ book.catalog.entries,
      next.entryBlocks layout entry.2 = book.entryBlocks layout entry.2) :
    next.documentWith minifier layout = book.documentWith minifier layout := by
  simp only [documentWith, documentBlocks, hcatalog, mapM_congr hentries]

/-- The identifier of a rule depends on its shape only. -/
theorem Consistent.identifier_eq_of_shape (h : book.Consistent) {copy : Handle}
    (hrule : ∃ rule, book.graph.rule original = .ok rule)
    (hsame : (book.graph.rule copy).map Rule.shape = (book.graph.rule original).map Rule.shape) :
    book.graph.identifier copy = book.graph.identifier original := by
  obtain ⟨rule, hrule⟩ := hrule
  rw [hrule] at hsame
  obtain ⟨twin, htwin, hshape⟩ := exists_of_map_eq_ok hsame
  obtain ⟨hfragments, hdeclarations, hchildren⟩ := by simpa only [Rule.shape, Prod.mk.injEq] using hshape
  apply (h.current htwin).identifier_eq (h.current hrule)
  exact RuleGraph.contentOf_congr htwin hrule hfragments hdeclarations (by rw [hchildren])

/-- Registering a rule under a name that is in use seals the rule and does nothing else. -/
theorem register_of_lookup {identifier : String} {first : Handle}
    (hidentifier : book.graph.identifier handle = .ok identifier)
    (hlookup : book.catalog.lookup identifier = some first) :
    book.register handle = .ok (identifier, { book with graph := book.graph.sealWith handle identifier }) := by
  refine register_eq_ok_iff.mpr ⟨hidentifier, ?_⟩
  have hcontains : book.catalog.contains identifier = true := by
    rw [Catalog.contains, hlookup, Option.isSome_some]
  rw [Catalog.insert, if_pos hcontains]

end RuleBook

namespace Publisher

variable {σ : Type} [Sheet σ] {publisher start : Publisher σ} {sheet : σ} {calls more : List Call}
  {original copy first : Handle} {name : String} {pieces : List (Piece × Place)} {lines : List String}

/-- The calls that make a rule out of pieces. -/
def buildCalls (owner : Handle) (pieces : List (Piece × Place)) : List Call :=
  .create :: pieces.map fun piece => .attach owner piece.1 piece.2

theorem cases_of_mem_buildCalls {call : Call} (h : call ∈ buildCalls copy pieces) :
    call = .create ∨ ∃ piece place, call = .attach copy piece place := by
  rcases List.mem_cons.mp h with rfl | hattach
  · exact Or.inl rfl
  · obtain ⟨⟨piece, place⟩, -, rfl⟩ := List.mem_map.mp hattach
    exact Or.inr ⟨piece, place, rfl⟩

theorem builds_of_front (hmore : more <+: buildCalls copy pieces) :
    ∀ operation ∈ more.filterMap Call.operation?, RuleBook.Builds copy operation := by
  intro operation hoperation
  obtain ⟨call, hcall, hasks⟩ := List.mem_filterMap.mp hoperation
  rcases cases_of_mem_buildCalls (hmore.subset hcall) with rfl | ⟨piece, place, rfl⟩
  · exact Or.inl (Option.some.inj hasks).symm
  · exact Or.inr ⟨piece, place, (Option.some.inj hasks).symm⟩

theorem feed_run_of_front (publisher : Publisher σ) (hmore : more <+: buildCalls copy pieces) :
    (publisher.run more).feed = publisher.feed := by
  induction more using List.reverseRecOn with
  | nil => rfl
  | append_singleton before call ih =>
      have hcall : call ∈ buildCalls copy pieces := hmore.subset (List.mem_append_right _ List.mem_cons_self)
      rw [run_concat, ← ih ((List.prefix_append _ _).trans hmore)]
      rcases cases_of_mem_buildCalls hcall with rfl | ⟨piece, place, rfl⟩
      · rfl
      · exact feed_attach

theorem book_run_append (calls more : List Call) : (start.run (calls ++ more)).book =
    (more.filterMap Call.operation?).foldl RuleBook.perform (start.run calls).book := by
  rw [run_append, book_run]

theorem extends_run_append (hstart : withSheet sheet = .ok start) (calls more : List Call) :
    (start.run calls).book.graph.Extends (start.run (calls ++ more)).book.graph := by
  rw [run_append]
  exact extends_run hstart calls more

/-- The document depends on the catalog and on the rules at top level, as the lines of sealed rules stay. -/
theorem documentWith_run (hstart : withSheet sheet = .ok start)
    (hcatalog : (start.run (calls ++ more)).book.catalog = (start.run calls).book.catalog)
    (htop : ∀ handle, ((start.run (calls ++ more)).book.graph.containersOf handle).isEmpty =
      ((start.run calls).book.graph.containersOf handle).isEmpty)
    (minifier : String → Except Error String) (layout : Layout) :
    (start.run (calls ++ more)).documentWith minifier layout = (start.run calls).documentWith minifier layout := by
  refine RuleBook.documentWith_congr minifier hcatalog fun entry hentry => ?_
  have hsealed := (consistent_run hstart calls).sealedAs_of_mem hentry
  have hlater := (extends_run_append hstart calls more).sealedAs hsealed
  exact RuleBook.entryBlocks_congr hsealed.exists_rule hlater.exists_rule
    (htop entry.2) (blocks_run_of_sealed hstart hsealed more layout)

/-- Finishing a rule whose lines are all recorded brings nothing into the sheet. -/
theorem finish_of_recorded {handle : Handle} {book : RuleBook}
    (hregister : publisher.book.register handle = .ok (name, book))
    (hlookup : book.catalog.lookup name = some first) (hlines : book.graph.blocks {} first = .ok lines)
    (hseen : ∀ line ∈ lines, Fingerprint.ofText line ∈ publisher.feed.seen.recorded) :
    publisher.finish handle = (.ok name, { publisher with book }) := by
  cases hstreaming : publisher.isStreaming with
  | true =>
      have hdeliver : publisher.feed.deliver lines = (.ok 0, publisher.feed) := by
        rw [← List.append_nil lines, Feed.deliver_append_of_seen hseen, Feed.deliver_nil]
      rw [finish_eq_deliver hstreaming hregister hlookup hlines, hdeliver]
      rfl
  | false =>
      have hoff : publisher.feed.isEnabled = false := hstreaming
      simp only [finish, hregister, lookup, hlookup, publish, isStreaming, hoff, Bool.false_eq_true,
        ↓reduceIte]
      rfl

section

variable (hstart : withSheet sheet = .ok start)
  (hsealed : (start.run calls).book.graph.SealedAs original name)
  (hsame : ((start.run (calls ++ buildCalls copy pieces)).rule copy).map Rule.shape =
    ((start.run (calls ++ buildCalls copy pieces)).rule original).map Rule.shape)
include hstart hsealed hsame

/-- The copy adopts children of the original. -/
theorem child_of_copy {edge : Edge} (hedge : edge ∈ RuleBook.adoptions (start.run calls).book
      ((buildCalls copy pieces).filterMap Call.operation?)) :
    edge.child ∈ (start.run calls).book.graph.childrenOf original := by
  have hchild := RuleBook.child_of_adoptions (builds_of_front List.prefix_rfl) hedge
  rw [← book_run_append] at hchild
  obtain ⟨found, hrule, hidentifier⟩ := hsealed
  obtain ⟨containers, hlater⟩ :=
    (extends_run_append hstart calls (buildCalls copy pieces)).frozen hrule hidentifier
  rw [rule, rule, hlater] at hsame
  obtain ⟨twin, htwin, hshape⟩ := exists_of_map_eq_ok hsame
  have hchildren : twin.children = found.children := congrArg (fun shape => shape.2.2) hshape
  rw [RuleGraph.childrenOf, RuleGraph.handlesOf_eq htwin, hchildren] at hchild
  rwa [RuleGraph.childrenOf, RuleGraph.handlesOf_eq hrule]

/-- Finishing the copy gives the name of the original, and the catalog stays. -/
theorem register_copy : (start.run (calls ++ buildCalls copy pieces)).book.register copy = .ok (name,
    { (start.run (calls ++ buildCalls copy pieces)).book with
      graph := (start.run (calls ++ buildCalls copy pieces)).book.graph.sealWith copy name }) := by
  have h := consistent_run hstart (calls ++ buildCalls copy pieces)
  have hlater := (extends_run_append hstart calls (buildCalls copy pieces)).sealedAs hsealed
  obtain ⟨first, hlookup⟩ := h.exists_lookup hlater
  refine RuleBook.register_of_lookup ?_ hlookup
  rw [h.identifier_eq_of_shape hlater.exists_rule hsame, hlater.identifier_eq]

/-- Neither the calls that build the copy nor the one that finishes it change the catalog. -/
theorem catalog_run_copy (hmore : more <+: buildCalls copy pieces ++ [.finish copy]) :
    (start.run (calls ++ more)).book.catalog = (start.run calls).book.catalog := by
  have hbuild {more : List Call} (hmore : more <+: buildCalls copy pieces) :
      (start.run (calls ++ more)).book.catalog = (start.run calls).book.catalog := by
    rw [book_run_append, RuleBook.catalog_foldl (builds_of_front hmore)]
  rcases List.prefix_concat_iff.mp hmore with rfl | hmore
  · rw [← List.append_assoc, run_concat, perform, book_finish, register_copy hstart hsealed hsame]
    exact hbuild List.prefix_rfl
  · exact hbuild hmore

/-- No rule comes to the top level or leaves it, also before the copy is complete. -/
theorem top_level_run_copy (hmore : more <+: buildCalls copy pieces ++ [.finish copy]) (handle : Handle) :
    ((start.run (calls ++ more)).book.graph.containersOf handle).isEmpty =
      ((start.run calls).book.graph.containersOf handle).isEmpty := by
  have hoperations : (buildCalls copy pieces ++ [Call.finish copy]).filterMap Call.operation? =
      (buildCalls copy pieces).filterMap Call.operation? ++ [.register copy] := List.filterMap_append
  have hfront := RuleBook.adoptions_mono (start.run calls).book (hmore.filterMap Call.operation?)
  rw [hoperations, RuleBook.adoptions_concat_register] at hfront
  have hedges (edge : Edge) (hedge : edge ∈ RuleBook.adoptions (start.run calls).book
      (more.filterMap Call.operation?)) : edge.child ∈ (start.run calls).book.graph.childrenOf original :=
    child_of_copy hstart hsealed hsame (hfront.subset hedge)
  rw [book_run_append]
  exact RuleBook.top_level_stays (consistent_run hstart calls).paired hedges handle

/-- If the sheet has all lines that finishing the copy delivers, the feed is not touched. -/
theorem feed_run_copy (hlookup : (start.run calls).lookup name = some first)
    (hlines : (start.run calls).blocks {} first = .ok lines)
    (hseen : ∀ line ∈ lines, Fingerprint.ofText line ∈ (start.run calls).feed.seen.recorded) :
    ((start.run (calls ++ buildCalls copy pieces)).finish copy).1 = .ok name ∧
      ∀ more, more <+: buildCalls copy pieces ++ [.finish copy] →
        (start.run (calls ++ more)).feed = (start.run calls).feed := by
  have hbuild {more : List Call} (hmore : more <+: buildCalls copy pieces) :
      (start.run (calls ++ more)).feed = (start.run calls).feed := by
    rw [run_append, feed_run_of_front _ hmore]
  have hregister := register_copy hstart hsealed hsame
  have hend : start.run (calls ++ (buildCalls copy pieces ++ [.finish copy])) =
      ((start.run (calls ++ buildCalls copy pieces)).finish copy).2 := by
    rw [← List.append_assoc, run_concat, perform]
  have hbook : ((start.run (calls ++ buildCalls copy pieces)).finish copy).2.book = _ := book_finish copy
  rw [hregister, ← hend] at hbook
  -- The rule that is registered under the name is the same as before, and so are its lines.
  have hlookup' : (start.run (calls ++ (buildCalls copy pieces ++ [.finish copy]))).book.catalog.lookup name =
      some first := by
    rw [catalog_run_copy hstart hsealed hsame List.prefix_rfl]
    exact hlookup
  have hlines' : (start.run (calls ++ (buildCalls copy pieces ++ [.finish copy]))).book.graph.blocks {} first =
      .ok lines := by
    rw [← hlines]
    exact blocks_run_of_sealed hstart ((consistent_run hstart calls).sealedAs_of_lookup hlookup) _ {}
  rw [hbook] at hlookup' hlines'
  rw [← hbuild List.prefix_rfl] at hseen
  have hfinish := finish_of_recorded hregister hlookup' hlines' hseen
  refine ⟨by rw [hfinish], fun more hmore => ?_⟩
  rcases List.prefix_concat_iff.mp hmore with rfl | hmore
  · rw [hend, hfinish]
    exact hbuild List.prefix_rfl
  · exact hbuild hmore

end

/-- **Building a finished rule again changes nothing that can be seen.** Take any run over any sheet, and a rule
that is sealed by then. Make a new rule, attach any pieces to it, and suppose that it ends up with the same
fragments, the same text of declarations and the same children. Finishing it gives the identifier of the original
whenever it gives one. After each of these calls the catalog is the same and so is the document in every layout,
whatever minifies it. If the sheet had accepted all lines of the rule that stands in the catalog under the
identifier, and this is the original unless an equal one was finished before it, then finishing succeeds, and the
feed and its sheet are the same after each of these calls too. -/
theorem rebuilding_changes_nothing (hstart : withSheet sheet = .ok start)
    (hcopy : (start.run calls).create.1 = copy)
    (hsealed : (start.run calls).book.graph.SealedAs original name)
    (hsame : ((start.run (calls ++ buildCalls copy pieces)).rule copy).map Rule.shape =
      ((start.run (calls ++ buildCalls copy pieces)).rule original).map Rule.shape) :
    (∀ result, ((start.run (calls ++ buildCalls copy pieces)).finish copy).1 = .ok result → result = name) ∧
    (∀ more, more <+: buildCalls copy pieces ++ [.finish copy] →
      (start.run (calls ++ more)).book.catalog = (start.run calls).book.catalog ∧
      ∀ minifier layout, (start.run (calls ++ more)).documentWith minifier layout =
        (start.run calls).documentWith minifier layout) ∧
    ∀ (transcript : Transcript σ) first lines shown, (start.run calls).lookup name = some first →
      (start.run calls).blocks {} first = .ok lines →
      transcript.lines (start.run calls).feed.sheet = transcript.lines sheet ++ shown →
      (∀ line ∈ lines, line ∈ shown) →
      ((start.run (calls ++ buildCalls copy pieces)).finish copy).1 = .ok name ∧
      ∀ more, more <+: buildCalls copy pieces ++ [.finish copy] →
        (start.run (calls ++ more)).feed = (start.run calls).feed := by
  subst hcopy
  have hregister := register_copy hstart hsealed hsame
  refine ⟨fun result hresult => ?_, fun more hmore => ?_, fun transcript first lines shown hlookup hlines hsheet
    hshown => ?_⟩
  · have hrule := RuleGraph.exists_rule_of_identifier (RuleBook.register_eq_ok_iff.mp hregister).1
    have h := consistent_run hstart (calls ++ buildCalls (start.run calls).create.1 pieces)
    obtain ⟨given, hgiven, houtcome⟩ := finish_of_rule h hrule
    obtain rfl : name = given := (Prod.mk.inj (Except.ok.inj (hregister.symm.trans hgiven))).1
    rcases houtcome with hok | ⟨cause, hcause⟩
    · exact Except.ok.inj (hresult.symm.trans hok)
    · rw [hcause] at hresult
      cases hresult
  · have hcatalog := catalog_run_copy hstart hsealed hsame hmore
    exact ⟨hcatalog, documentWith_run hstart hcatalog (top_level_run_copy hstart hsealed hsame hmore)⟩
  · obtain ⟨accepted, haccepted⟩ := shows_run (shows_withSheet hstart transcript) calls
    obtain rfl : accepted = shown := List.append_cancel_left (haccepted.lines_eq.symm.trans hsheet)
    have hseen (line : String) (hline : line ∈ lines) :
        Fingerprint.ofText line ∈ (start.run calls).feed.seen.recorded := by
      rw [haccepted.recorded_eq]
      exact List.mem_map_of_mem (hshown line hline)
    exact feed_run_copy hstart hsealed hsame hlookup hlines hseen

/-- A publisher into a sheet with a log, which refuses the first line. -/
def loggedRefused : Publisher (LoggedSheet ScriptedSheet) where
  feed := {
    sheet := ⟨{ failsAppend := (· == 0), starts := 1 }, [.start (.ok ())]⟩
    enabled := true
    started := true }

/-- The inner rule is refused at first and comes into the sheet together with the rule around it. -/
def outerCalls : List Call := nestingCalls ++ [.finish ⟨1⟩]

/-- The outer rule once more, with the name of the inner one as a literal. -/
def outerPieces : List (Piece × Place) := [(.literal (Identifier.ofContent "f:box\x00"), .front)]

theorem rebuilding_changes_nothing_nested :
    withSheet (⟨{ failsAppend := (· == 0) }, []⟩ : LoggedSheet ScriptedSheet) = .ok loggedRefused ∧
      (loggedRefused.run outerCalls).create.1 = ⟨2⟩ ∧
      (loggedRefused.run outerCalls).book.graph.SealedAs ⟨1⟩ "r1bdonijvwyunu" ∧
      ((loggedRefused.run (outerCalls ++ buildCalls ⟨2⟩ outerPieces)).rule ⟨2⟩).map Rule.shape =
        .ok ([], [], [⟨0⟩]) ∧
      ((loggedRefused.run (outerCalls ++ buildCalls ⟨2⟩ outerPieces)).finish ⟨2⟩).1 =
        .ok "r1bdonijvwyunu" ∧
      ∀ more, more <+: buildCalls ⟨2⟩ outerPieces ++ [.finish ⟨2⟩] →
        (loggedRefused.run (outerCalls ++ more)).feed = (loggedRefused.run outerCalls).feed ∧
        ∀ minifier layout, (loggedRefused.run (outerCalls ++ more)).documentWith minifier layout =
          (loggedRefused.run outerCalls).documentWith minifier layout := by
  have hstart : withSheet (⟨{ failsAppend := (· == 0) }, []⟩ : LoggedSheet ScriptedSheet) =
      .ok loggedRefused := rfl
  have hcopy : (loggedRefused.run outerCalls).create.1 = ⟨2⟩ := by decide +kernel
  have hname : ((loggedRefused.run outerCalls).rule ⟨1⟩).map Rule.identifier =
      .ok (some "r1bdonijvwyunu") := by decide +kernel
  have hsealed : (loggedRefused.run outerCalls).book.graph.SealedAs ⟨1⟩ "r1bdonijvwyunu" :=
    exists_of_map_eq_ok hname
  have hshape : ((loggedRefused.run (outerCalls ++ buildCalls ⟨2⟩ outerPieces)).rule ⟨2⟩).map Rule.shape =
      .ok ([], [], [⟨0⟩]) := by decide +kernel
  have hshape' : ((loggedRefused.run (outerCalls ++ buildCalls ⟨2⟩ outerPieces)).rule ⟨1⟩).map Rule.shape =
      .ok ([], [], [⟨0⟩]) := by decide +kernel
  have hlookup : (loggedRefused.run outerCalls).lookup "r1bdonijvwyunu" = some ⟨1⟩ := by decide +kernel
  have hlines : (loggedRefused.run outerCalls).blocks {} ⟨1⟩ =
      .ok (LoggedSheet.transcript.lines (loggedRefused.run outerCalls).feed.sheet) := by decide +kernel
  obtain ⟨-, hstays, hsheet⟩ :=
    rebuilding_changes_nothing hstart hcopy hsealed (hshape.trans hshape'.symm)
  obtain ⟨hok, hfeed⟩ :=
    hsheet LoggedSheet.transcript _ _ _ hlookup hlines (List.nil_append _).symm fun _ hline => hline
  exact ⟨hstart, hcopy, hsealed, hshape, hok, fun more hmore => ⟨hfeed more hmore, (hstays more hmore).2⟩⟩

end Publisher

end CssRules
