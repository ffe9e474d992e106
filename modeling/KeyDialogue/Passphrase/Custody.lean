/-
  Key dialogue — where secrets come from, and who asks for them.

  * A `Source` has no secret, one stored secret, or someone to ask.  Who is
    asked may answer differently each time, so the reply depends on all
    requests made so far;
  * `Custody` is a source together with the record of the key.
    `Custody.supply` obtains a secret: the source is consulted unless it
    declined before in the session, and a refusal yields the empty secret;
  * `Custody.respond?` answers the events that concern a passphrase on behalf of
    any edit that does not change it.
-/
import KeyDialogue.Note

namespace KeyDialogue

/-- Where secrets come from. -/
inductive Source where
  /-- There is none: every request is declined. -/
  | absent
  /-- One secret, given whenever it is asked for. -/
  | stored (secret : String)
  /-- Someone is asked.  The reply to a request depends on the requests before
      it, the oldest first; `none` declines. -/
  | callbacks (reply : List Request → Request → Option String) (asked : List Request)

namespace Source

/-- Different secrets can be had for different purposes. -/
def isInteractive : Source → Bool
  | callbacks .. => true
  | _ => false

/-- Asks for a secret. -/
def obtain : Source → Request → Option String × Source
  | absent, _ => (none, absent)
  | stored secret, _ => (some secret, stored secret)
  | callbacks reply asked, request =>
    (reply asked request, callbacks reply (asked ++ [request]))

/-- Someone who has a fixed list of replies, and declines once it is used up. -/
def scripted (replies : List (Option String)) : Source :=
  callbacks (fun asked _ => replies[asked.length]?.join) []

@[simp] theorem isInteractive_obtain (s : Source) (r : Request) :
    (s.obtain r).2.isInteractive = s.isInteractive := by
  cases s <;> rfl

end Source

/-- The passphrase side of a session. -/
structure Custody where
  record : Record
  source : Source

namespace Custody

/-- A secret, and what obtaining it took. -/
structure Supply where
  custody : Custody
  secret : String
  consulted : Option Request
  notes : List Note

/-- Obtains a secret. -/
def supply (c : Custody) (purpose : Purpose) : Supply :=
  if c.record.declined then ⟨c, "", none, []⟩
  else
    let request := c.record.request purpose
    match c.source.obtain request with
    | (some secret, source) => ⟨{ c with source }, secret, some request, []⟩
    | (none, source) =>
      ⟨⟨{ c.record with declined := true }, source⟩, "", some request, [.requestDeclined]⟩

/-- Takes in an event. -/
def observe (c : Custody) (e : Event) : Custody := { c with record := c.record.observe e }

/-- What is noted of an event that concerns a passphrase. -/
def notesOf (e : Event) : List Note :=
  if e.status = .badPassphrase then [.passphraseRejected] else []

/-- The reply to an event that concerns a passphrase, for an edit that does not
    change it; none for every other event. -/
def respond? (c : Custody) (e : Event) : Option (Custody × Reply) :=
  if e.status.isAdvisory then
    some (c.observe e, { outcome := .ok .nothing, notes := notesOf e })
  else if e.asksPassphrase then
    let s := c.supply .unlock
    some (s.custody,
      { outcome := .ok (.secret s.secret), consulted := s.consulted, notes := s.notes })
  else none

end Custody

end KeyDialogue
