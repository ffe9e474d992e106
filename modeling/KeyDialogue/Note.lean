/-
  Key dialogue — the notes that a session leaves in the log, and replies.

  * A `Note` is one thing worth noting; `Note.level` and `Note.message` say how
    the log shows it.  No note holds a secret;
  * a `Reply` is what a session makes of one event: its answer or failure, the
    request for a secret that it made on the way, and its notes.
-/
import KeyDialogue.Answer
import KeyDialogue.Passphrase.Record
import KeyDialogue.Text.Quoted

namespace KeyDialogue

/-- The eight kinds of edit. -/
inductive EditKind where
  | sign
  | passphrase
  | revokeSignature
  | deleteSignature
  | enableDisable
  | trust
  | addSubkey
  | expire
  deriving DecidableEq, Repr

/-- The name of a kind in the log. -/
def EditKind.label : EditKind → String
  | sign => "Sign"
  | passphrase => "Passphrase"
  | revokeSignature => "RevokeSignature"
  | deleteSignature => "DeleteSignature"
  | enableDisable => "EnableDisable"
  | trust => "Trust"
  | addSubkey => "AddSubkey"
  | expire => "Expire"

/-- How important a note is. -/
inductive Level where
  | info
  | warn
  | debug
  | trace
  deriving DecidableEq, Repr

/-- Something worth noting. -/
inductive Note where
  /-- An edit of a key begins. -/
  | editing (fingerprint : String) (kind : EditKind)
  /-- An edit of a key failed. -/
  | editFailed (fingerprint : String) (failure : Failure)
  /-- An event came in. -/
  | received (kind : EditKind) (event : Event)
  /-- A question was answered by a line. -/
  | answered (question : Option Question) (line : String)
  /-- A question was answered by a secret. -/
  | answeredSecret (question : Option Question)
  /-- A question was answered by breaking off. -/
  | answeredAbort (question : Option Question)
  /-- An event made the session fail. -/
  | eventFailed (question : Option Question) (failure : Failure)
  /-- The backend rejected a passphrase. -/
  | passphraseRejected
  /-- A request for a passphrase was declined. -/
  | requestDeclined
  /-- The backend asked for an algorithm again. -/
  | algorithmRejected (algorithm : Nat)
  /-- Too many passphrases were missing. -/
  | gaveUp (requests : Nat)
  deriving DecidableEq, Repr

namespace Note

/-- The level of a note. -/
def level : Note → Level
  | editing .. => .info
  | requestDeclined | algorithmRejected _ | gaveUp _ => .warn
  | received .. => .trace
  | _ => .debug

/-- The wording of a note. -/
def message : Note → String
  | editing fingerprint kind => "Editing key " ++ fingerprint ++ " (" ++ kind.label ++ ")"
  | editFailed fingerprint failure =>
    "Editing key " ++ fingerprint ++ " failed: " ++ failure.message
  | received kind e =>
    kind.label ++ ": " ++ e.status.label ++ " " ++ Text.quoteOption e.args
  | answered q line => Question.labelOption q ++ " -> " ++ line
  | answeredSecret q => Question.labelOption q ++ " -> <secret>"
  | answeredAbort q => Question.labelOption q ++ " -> abort"
  | eventFailed q failure => Question.labelOption q ++ " failed: " ++ failure.message
  | passphraseRejected => "Backend rejected the passphrase"
  | requestDeclined => "Passphrase request was canceled"
  | algorithmRejected algorithm =>
    "Backend rejected algorithm " ++ Text.numeral algorithm ++ "; expert mode is required"
  | gaveUp requests =>
    "No passphrase after " ++ Text.numeral requests ++ " requests; giving up"

/-- What is noted of the outcome of an event. -/
def ofOutcome (q : Option Question) : Except Failure Answer → List Note
  | .ok .nothing => []
  | .ok (.line text) => [answered q text]
  | .ok (.secret _) => [answeredSecret q]
  | .ok .abort => [answeredAbort q]
  | .error failure => [eventFailed q failure]

end Note

/-- What a session makes of one event. -/
structure Reply where
  outcome : Except Failure Answer
  /-- The request for which the source of secrets was consulted. -/
  consulted : Option Request := none
  notes : List Note := []

namespace Reply

/-- A reply that only answers. -/
def answer (a : Answer) : Reply := { outcome := .ok a }

/-- A reply without an answer. -/
def nothing : Reply := answer .nothing

/-- A reply by a line of text. -/
def line (text : String) : Reply := answer (.line text)

/-- A reply that fails. -/
def failed (f : Failure) : Reply := { outcome := .error f }

/-- The failure that ends the session: breaking off is one too. -/
def failure? (r : Reply) : Option Failure :=
  match r.outcome with
  | .error f => some f
  | .ok .abort => some .aborted
  | .ok _ => none

end Reply

end KeyDialogue
