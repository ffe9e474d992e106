/-
  Key dialogue — one session: an edit, the passphrase side, and their turns.

  * `Session.respond` replies to one event.  In a plain edit, events that
    concern a passphrase are kept from the edit (`Custody.respond?`); a change
    of passphrase sees all of them;
  * `Session.run` replies to events in order and stops at the first failure;
    `Session.runAll` goes on;
  * a `Turn` is an event with its reply, and `Turn.notes` is what the log shows
    of it.
-/
import KeyDialogue.Edit

namespace KeyDialogue

/-- A session under way. -/
structure Session where
  progress : Progress
  custody : Custody

/-- An event and the reply to it. -/
structure Turn where
  event : Event
  reply : Reply

namespace Turn

/-- The failure that a turn ends the session with. -/
def failure? (t : Turn) : Option Failure := t.reply.failure?

/-- What is noted of a turn: the event, what happened on the way, and the
    outcome. -/
def notes (kind : EditKind) (t : Turn) : List Note :=
  .received kind t.event :: t.reply.notes ++
    Note.ofOutcome t.event.question? t.reply.outcome

end Turn

namespace Session

/-- The reply to an event. -/
def respond (s : Session) (e : Event) : Session × Reply :=
  match s.progress with
  | .passphrase p =>
    let (p, custody, reply) := p.respond s.custody e
    (⟨.passphrase p, custody⟩, reply)
  | .plain p =>
    match s.custody.respond? e with
    | some (custody, reply) => ({ s with custody }, reply)
    | none =>
      let (p, reply) := p.respond e
      ({ s with progress := .plain p }, reply)

/-- The reply to an event, as a turn. -/
def turn (s : Session) (e : Event) : Turn := ⟨e, (s.respond e).2⟩

/-- Replies to events up to the first failure. -/
def run (s : Session) : List Event → Session × List Turn
  | [] => (s, [])
  | e :: rest =>
    let s' := (s.respond e).1
    if (s.turn e).failure?.isSome then (s', [s.turn e])
    else
      let (last, turns) := s'.run rest
      (last, s.turn e :: turns)

/-- Replies to all events. -/
def runAll (s : Session) : List Event → Session × List Turn
  | [] => (s, [])
  | e :: rest =>
    let (last, turns) := (s.respond e).1.runAll rest
    (last, s.turn e :: turns)

end Session

/-- How a session went. -/
structure Course where
  /-- The session at its end. -/
  session : Session
  turns : List Turn
  /-- How it ended. -/
  outcome : Except Failure Unit

/-- The first failure among turns, or else how the session ends without one. -/
def outcomeOf (turns : List Turn) (ending : Except Failure Unit) : Except Failure Unit :=
  match turns.findSome? Turn.failure? with
  | some f => .error f
  | none => ending

/-- A session of which the events are known beforehand. -/
structure Rehearsal where
  events : List Event
  /-- How the session ends if no turn fails. -/
  ending : Except Failure Unit := .ok ()
  /-- The events after a failure are replied to as well. -/
  keepGoing : Bool := false

/-- Conducts a rehearsal. -/
def Rehearsal.conduct (r : Rehearsal) (s : Session) : Course :=
  let (last, turns) := if r.keepGoing then s.runAll r.events else s.run r.events
  ⟨last, turns, outcomeOf turns r.ending⟩

end KeyDialogue
