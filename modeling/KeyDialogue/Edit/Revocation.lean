/-
  Key dialogue — revoking signatures of one user id.

  The backend asks for a reason, and for its explanation line by line until it
  reads an empty one.  So the explanation is given without its blank lines and
  without blanks at line ends (`reasonLines`), and is followed by a single
  space, which the backend reads as an empty line.
-/
import KeyDialogue.Edit.Menu
import KeyDialogue.Text.Blank
import KeyDialogue.Text.Pieces

namespace KeyDialogue

open KeyDialogue.Text

/-- Why a signature is revoked. -/
inductive RevocationReason where
  | noReason
  | compromised
  | superseded
  | noLongerUsed
  | userIdInvalid
  deriving DecidableEq, Repr

/-- The number of a reason in the backend's list. -/
def RevocationReason.code : RevocationReason → Nat
  | noReason => 0
  | compromised => 1
  | superseded => 2
  | noLongerUsed => 3
  | userIdInvalid => 4

/-- Which signatures are to be revoked, and why. -/
structure RevocationOptions where
  /-- The user id that bears the signatures, counted from 1. -/
  userId : Nat := 1
  /-- The signatures, counted from 1. -/
  signatures : List Nat := []
  reason : RevocationReason := .noReason
  description : String := ""
  deriving DecidableEq, Repr

namespace RevocationOptions

/-- The first fault of the options. -/
def fault? (o : RevocationOptions) : Option OptionFault :=
  if o.userId = 0 then some .userIdZero
  else if o.signatures = [] then some .noSignatures
  else zeroFault? o.signatures .signatureZero

/-- All menu commands of a revocation. -/
def agenda (o : RevocationOptions) : Agenda := [.userId o.userId, .revsig, .save]

end RevocationOptions

/-- The lines of an explanation, without trailing blanks and blank lines. -/
def reasonLines (description : String) : List String :=
  (((pieces (· == '\n') description.toList).map trimEnd).filter (· ≠ [])).map String.ofList

/-- Ends the explanation. -/
def endOfReason : String := " "

/-- A revocation under way. -/
structure Revocation where
  options : RevocationOptions
  agenda : Agenda
  walk : SignatureWalk
  /-- The lines of the explanation that are still to be given. -/
  reason : List String
  deriving DecidableEq, Repr

namespace Revocation

/-- A revocation that has not begun. -/
def start (o : RevocationOptions) : Revocation :=
  ⟨o, o.agenda, ⟨o.signatures, 0⟩, reasonLines o.description⟩

/-- The reply to an event. -/
def respond (r : Revocation) (e : Event) : Revocation × Reply :=
  match e.question? with
  | some .menu =>
    let (command, rest) := r.agenda.next
    ({ r with agenda := rest }, .line command.text)
  | some .revokeOne | some .revokeExpired =>
    let (taken, walk) := r.walk.next
    ({ r with walk }, .answer (.yesNo taken))
  | some .reasonCode => (r, .line (numeral r.options.reason.code))
  | some .reasonText =>
    match r.reason with
    | [] => (r, .line endOfReason)
    | line :: rest => ({ r with reason := rest }, .line line)
  | some .revokeOkay | some .reasonOkay | some .saveOkay => (r, .answer .yes)
  | _ => (r, .nothing)

end Revocation

end KeyDialogue
