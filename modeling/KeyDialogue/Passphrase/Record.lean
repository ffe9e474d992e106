/-
  Key dialogue — what is known about the passphrase of a key.

  A `Record` is kept for each key from one session to the next.  It holds what
  the backend announced last, whether it rejected the last passphrase, and
  whether the user declined to give one.

  * `Record.observe` takes in one event.  Six kinds of status concern a
    passphrase (`Status.isAdvisory`); every other event leaves the record as it
    is (`observe_of_not_isAdvisory`);
  * `Record.begin` starts a session: a refusal lasts only for the session in
    which it was made;
  * `Record.request` is what is shown to whoever is asked for a secret.
-/
import KeyDialogue.Passphrase.Announcement
import KeyDialogue.Status.Event

namespace KeyDialogue

/-- The statuses that concern a passphrase and want no answer. -/
def Status.isAdvisory : Status → Bool
  | goodPassphrase | badPassphrase | missingPassphrase
  | userIdHint | needPassphrase | needPassphraseSym => true
  | _ => false

theorem Status.asks_of_isAdvisory {s : Status} (h : s.isAdvisory = true) : s.asks = false := by
  cases s <;> simp_all [isAdvisory, asks]

/-- What a secret is wanted for. -/
inductive Purpose where
  /-- Unlocking the key so that it can be edited. -/
  | unlock
  /-- The present passphrase, when it is about to be changed. -/
  | current
  /-- The replacement. -/
  | new
  deriving DecidableEq, Repr

/-- A request for a secret. -/
structure Request where
  purpose : Purpose
  /-- The user id of the key, if it was announced. -/
  userId : Option String
  /-- The key, if it was announced in full. -/
  key : Option KeyAnnouncement
  /-- The backend rejected the secret given before. -/
  previousWasBad : Bool
  deriving DecidableEq, Repr

/-- The passphrase record of a key. -/
structure Record where
  /-- The last user id hint, as announced. -/
  userIdHint : Option String := none
  /-- The last key announcement, as announced. -/
  announcement : Option String := none
  previousWasBad : Bool := false
  /-- A request was declined in the session. -/
  declined : Bool := false
  deriving DecidableEq, Repr

namespace Record

/-- The record at the start of a session. -/
def begin (r : Record) : Record := { r with declined := false }

/-- The record after an event. -/
def observe (r : Record) (e : Event) : Record :=
  match e.status with
  | .goodPassphrase => { r with previousWasBad := false }
  | .badPassphrase => { r with previousWasBad := true }
  | .userIdHint => { r with userIdHint := e.args }
  | .needPassphrase | .needPassphraseSym => { r with announcement := e.args }
  | _ => r

theorem observe_of_not_isAdvisory (r : Record) {e : Event} (h : e.status.isAdvisory = false) :
    r.observe e = r := by
  unfold observe
  cases hs : e.status <;> simp_all [Status.isAdvisory]

@[simp] theorem declined_observe (r : Record) (e : Event) :
    (r.observe e).declined = r.declined := by
  unfold observe; split <;> rfl

/-- The request to make for a purpose. -/
def request (r : Record) (purpose : Purpose) : Request where
  purpose := purpose
  userId := r.userIdHint.map userIdOfHint
  key := r.announcement.bind KeyAnnouncement.ofText?
  previousWasBad := r.previousWasBad

end Record

end KeyDialogue
