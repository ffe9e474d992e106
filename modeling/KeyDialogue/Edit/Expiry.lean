/-
  Key dialogue — changing when a key or its subkeys expire.

  The backend asks for the validity period in days (`validity`); 0 means that
  the key never expires.  When the menu comes up again after saving, the edit
  quits and no longer agrees to save.
-/
import KeyDialogue.Calendar.Date
import KeyDialogue.Edit.Menu

namespace KeyDialogue

open KeyDialogue.Text

/-- The days from today until the expiration; 0 if there is none, or none in
    the future. -/
def validity (today : Date) (expiration : Option Date) : Nat :=
  match expiration with
  | some d => today.daysUntil d
  | none => 0

/-- Which keys are to expire, and when. -/
structure ExpiryOptions where
  /-- The subkeys, counted from 1; the primary key if none is given. -/
  subkeys : List Nat := []
  /-- The key never expires if there is none. -/
  expiration : Option Date := none
  deriving DecidableEq

namespace ExpiryOptions

/-- The first fault of the options. -/
def fault? (o : ExpiryOptions) : Option OptionFault := zeroFault? o.subkeys .subkeyZero

/-- All menu commands of a change of expiry. -/
def agenda (o : ExpiryOptions) : Agenda := o.subkeys.map .key ++ [.expire, .save]

end ExpiryOptions

/-- A change of expiry under way. -/
structure Expiry where
  options : ExpiryOptions
  today : Date
  agenda : Agenda
  /-- The menu was left. -/
  quitting : Bool
  deriving DecidableEq

namespace Expiry

/-- A change of expiry that has not begun. -/
def start (today : Date) (o : ExpiryOptions) : Expiry := ⟨o, today, o.agenda, false⟩

/-- The reply to an event. -/
def respond (x : Expiry) (e : Event) : Expiry × Reply :=
  match e.question? with
  | some .menu =>
    let (command, rest) := x.agenda.next
    ({ x with agenda := rest, quitting := x.quitting || command == .quit }, .line command.text)
  | some .keyValidity => (x, .line (numeral (validity x.today x.options.expiration)))
  | some .saveOkay => (x, .answer (.yesNo !x.quitting))
  | _ => (x, .nothing)

end Expiry

end KeyDialogue
