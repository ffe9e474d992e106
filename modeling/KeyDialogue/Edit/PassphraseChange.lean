/-
  Key dialogue — changing the passphrase of a key.

  The backend asks for the present passphrase until it accepts one; from then
  on every request for a passphrase means the replacement.  So this edit sees
  to its passphrases itself.  A refusal breaks the session off: it must never
  turn into an empty replacement.

  The backend may also report that a passphrase is missing.  At the third such
  report since the start, or since a passphrase was last given or accepted, the
  edit gives up.  The reports are counted in 32 bits, so that the count comes
  back to zero after `2 ^ 32` of them.
-/
import KeyDialogue.Edit.Menu
import KeyDialogue.Passphrase.Custody

namespace KeyDialogue

/-- How a passphrase is to be changed. -/
structure PassphraseOptions where
  /-- The replacement; it is asked for if there is none. -/
  newPassphrase : Option String := none
  /-- An empty passphrase is accepted. -/
  allowEmpty : Bool := false
  deriving DecidableEq, Repr

namespace PassphraseOptions

/-- The fault of the options: without a replacement, someone must be there to
    ask. -/
def fault? (o : PassphraseOptions) (source : Source) : Option OptionFault :=
  if o.newPassphrase.isNone && !source.isInteractive then some .newPassphraseMissing else none

/-- All menu commands of a change of passphrase. -/
def agenda (_ : PassphraseOptions) : Agenda := [.passwd, .save]

end PassphraseOptions

/-- A change of passphrase under way. -/
structure PassphraseChange where
  options : PassphraseOptions
  agenda : Agenda
  /-- The present passphrase was accepted. -/
  unlocked : Bool
  /-- The reports of a missing passphrase that count. -/
  missing : UInt32
  deriving DecidableEq, Repr

namespace PassphraseChange

/-- A change that has not begun. -/
def start (o : PassphraseOptions) : PassphraseChange := ⟨o, o.agenda, false, 0⟩

/-- The reports of a missing passphrase at which the edit gives up. -/
def missingLimit : UInt32 := 3

/-- Obtains the passphrase that is asked for: the present one, or the
    replacement. -/
def obtain (p : PassphraseChange) (c : Custody) : Custody.Supply :=
  if p.unlocked then
    match p.options.newPassphrase with
    | some secret => ⟨c, secret, none, []⟩
    | none => c.supply .new
  else c.supply .current

/-- The reply to a request for a passphrase. -/
def enter (p : PassphraseChange) (c : Custody) : PassphraseChange × Custody × Reply :=
  if c.record.declined then (p, c, .answer .abort)
  else
    let s := p.obtain c
    if s.custody.record.declined then
      (p, s.custody, { outcome := .ok .abort, consulted := s.consulted, notes := s.notes })
    else
      ({ p with missing := 0 }, s.custody,
        { outcome := .ok (.secret s.secret), consulted := s.consulted, notes := s.notes })

/-- The reply to an event that concerns a passphrase. -/
def advise (p : PassphraseChange) (e : Event) : PassphraseChange × Reply :=
  match e.status with
  | .goodPassphrase => ({ p with unlocked := true, missing := 0 }, .nothing)
  | .missingPassphrase =>
    let p := { p with missing := p.missing + 1 }
    if missingLimit ≤ p.missing then
      (p, { outcome := .error .missingPassphrase, notes := [.gaveUp p.missing.toNat] })
    else (p, .nothing)
  | _ => (p, { outcome := .ok .nothing, notes := Custody.notesOf e })

/-- The reply to a question other than that for the passphrase. -/
def answer (p : PassphraseChange) (e : Event) : PassphraseChange × Reply :=
  match e.question? with
  | some .menu =>
    let (command, rest) := p.agenda.next
    ({ p with agenda := rest }, .line command.text)
  | some .emptyPassphraseOkay => (p, .answer (.yesNo p.options.allowEmpty))
  | some .saveOkay => (p, .answer .yes)
  | _ => (p, .nothing)

/-- The reply to an event. -/
def respond (p : PassphraseChange) (c : Custody) (e : Event) :
    PassphraseChange × Custody × Reply :=
  if e.status.isAdvisory then
    let (p, reply) := p.advise e
    (p, c.observe e, reply)
  else if e.asksPassphrase then p.enter c
  else
    let (p, reply) := p.answer e
    (p, c, reply)

end PassphraseChange

end KeyDialogue
