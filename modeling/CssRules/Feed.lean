import CssRules.Fingerprint
import CssRules.Sheet.Basic

/-!
The feed of lines into a sheet. It can be switched on and off, opens the sheet when it is switched on for
the first time, and appends no line twice: the fingerprint of every line that the sheet has accepted is
recorded. When the sheet fails, the lines it accepted before stay recorded, so that a second attempt
continues where the first one stopped.
-/

namespace CssRules

structure Feed (σ : Type) where
  sheet : σ
  /-- What the last successful switch asked for. -/
  enabled : Bool := false
  /-- Whether the sheet has been opened. -/
  started : Bool := false
  /-- The fingerprints of the accepted lines. -/
  seen : Fingerprints := {}

namespace Feed

variable {σ : Type} [Sheet σ]

def isEnabled (feed : Feed σ) : Bool := feed.enabled && feed.started

/-- Opens the sheet, unless it is open already. -/
def ensureStarted (feed : Feed σ) : Except Error Unit × Feed σ :=
  if feed.started then (.ok (), feed)
  else match Sheet.start feed.sheet with
    | (.error cause, sheet) => (.error (.sheet cause), { feed with sheet })
    | (.ok (), sheet) => (.ok (), { feed with sheet, started := true })

/-- Switches the feed on or off. Without a live sheet nothing happens. -/
def setEnabled (feed : Feed σ) (enabled : Bool) : Except Error Unit × Feed σ :=
  if !Sheet.isLive feed.sheet then (.ok (), feed)
  else if enabled then
    match feed.ensureStarted with
    | (.error error, feed) => (.error error, feed)
    | (.ok (), feed) => (.ok (), { feed with enabled := true })
  else (.ok (), { feed with enabled := false })

/-- Appends each line whose fingerprint is not recorded, up to the first failure, and counts them. -/
def deliver (feed : Feed σ) : List String → Except Error Nat × Feed σ
  | [] => (.ok 0, feed)
  | line :: rest =>
    if feed.seen.contains (.ofText line) then feed.deliver rest
    else match Sheet.append feed.sheet line with
      | (.error cause, sheet) => (.error (.sheet cause), { feed with sheet })
      | (.ok (), sheet) =>
        let next := deliver { feed with sheet, seen := feed.seen.record (.ofText line) } rest
        (next.1.map (· + 1), next.2)

/-- Delivers the lines if the feed is on. -/
def publish (feed : Feed σ) (lines : List String) : Except Error Nat × Feed σ :=
  if feed.isEnabled then feed.deliver lines else (.ok 0, feed)

@[simp] theorem deliver_nil (feed : Feed σ) : feed.deliver [] = (.ok 0, feed) := rfl

theorem deliver_cons_of_seen {feed : Feed σ} {line : String} {rest : List String}
    (h : feed.seen.contains (.ofText line) = true) :
    feed.deliver (line :: rest) = feed.deliver rest := by
  simp [deliver, h]

theorem publish_of_disabled {feed : Feed σ} {lines : List String} (h : feed.isEnabled = false) :
    feed.publish lines = (.ok 0, feed) := by
  simp [publish, h]

end Feed

end CssRules
