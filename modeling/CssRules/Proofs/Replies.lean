import CssRules.Proofs.Frozen

/-! Everything a host can see of a publisher. Each request and each inquiry is answered, and a dialogue is a list of
both with the answers to all of them. -/

namespace CssRules

/-- What a host can ask without changing anything. -/
inductive Inquiry where
  | rule (handle : Handle)
  | lookup (identifier : String)
  | identifier (handle : Handle)
  | blocks (layout : Layout) (handle : Handle)
  /-- The document, minified by the given minifier if the layout wants it minified. -/
  | document (minifier : String → Except Error String) (layout : Layout)
  | contents (handle : Handle)
  | catalog
  | isStreaming
  | isDisposed (handle : Handle)

/-- What a host is answered. -/
inductive Response where
  | created (handle : Handle)
  | done (result : Except Error Unit)
  | text (result : Except Error String)
  | count (result : Except Error Nat)
  | rule (result : Except Error Rule)
  | found (result : Option Handle)
  | lines (result : Except Error (List String))
  | contents (result : Except Error (List Entry))
  | entries (entries : List (String × Handle))
  | flag (value : Bool)

/-- One turn of a dialogue. -/
inductive Message where
  | request (request : Request)
  | inquiry (inquiry : Inquiry)

namespace Publisher

variable {σ : Type}

/-- The answer to an inquiry. -/
def inquire (publisher : Publisher σ) : Inquiry → Response
  | .rule handle => .rule (publisher.rule handle)
  | .lookup identifier => .found (publisher.lookup identifier)
  | .identifier handle => .text (publisher.identifier handle)
  | .blocks layout handle => .lines (publisher.blocks layout handle)
  | .document minifier layout => .text (publisher.documentWith minifier layout)
  | .contents handle => .contents (publisher.contents handle)
  | .catalog => .entries publisher.book.catalog.entries
  | .isStreaming => .flag publisher.isStreaming
  | .isDisposed handle => .flag (publisher.isDisposed handle)

variable [Sheet σ]

/-- The answer to a call. -/
def answer (publisher : Publisher σ) : Call → Response
  | .create => .created publisher.create.1
  | .attach owner piece place => .done ((publisher.attach owner piece place).map fun _ => ())
  | .attachFunction owner name => .done ((publisher.attachFunction owner name).map fun _ => ())
  | .finish handle => .text (publisher.finish handle).1
  | .stream enabled => .done (publisher.stream enabled).1
  | .publish handle => .count (publisher.publish handle).1

/-- The answer to a request. -/
def reply (publisher : Publisher σ) : Request → Response
  | .call call => publisher.answer call
  | .detach owner piece => .done ((publisher.detach owner piece).map fun _ => ())
  | .swap left right => .done ((publisher.swap left right).map fun _ => ())
  | .replace existing replacement => .done ((publisher.replace existing replacement).map fun _ => ())
  | .attachAttribute owner key value => .done ((publisher.attachAttribute owner key value).map fun _ => ())
  | .detachAttribute owner key => .done ((publisher.detachAttribute owner key).map fun _ => ())

/-- The answer to a message and the publisher after it. -/
def respond (publisher : Publisher σ) : Message → Response × Publisher σ
  | .request request => (publisher.reply request, publisher.serve request)
  | .inquiry inquiry => (publisher.inquire inquiry, publisher)

/-- The answers to several messages and the publisher after them. -/
def converse (publisher : Publisher σ) : List Message → List Response × Publisher σ
  | [] => ([], publisher)
  | message :: rest =>
      let later := (publisher.respond message).2.converse rest
      ((publisher.respond message).1 :: later.1, later.2)

end Publisher

end CssRules
