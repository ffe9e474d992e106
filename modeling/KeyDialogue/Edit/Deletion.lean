/-
  Key dialogue — deleting signatures of one user id.

  The backend visits the signatures one by one, whatever their state, and asks
  once more before it deletes a self-signature.
-/
import KeyDialogue.Edit.Menu

namespace KeyDialogue

/-- Which signatures are to be deleted. -/
structure DeletionOptions where
  /-- The user id that bears the signatures, counted from 1. -/
  userId : Nat := 1
  /-- The signatures, counted from 1. -/
  signatures : List Nat := []
  /-- A selected self-signature is deleted too. -/
  selfSignatures : Bool := false
  deriving DecidableEq, Repr

namespace DeletionOptions

/-- The first fault of the options. -/
def fault? (o : DeletionOptions) : Option OptionFault :=
  if o.userId = 0 then some .userIdZero
  else if o.signatures = [] then some .noSignatures
  else zeroFault? o.signatures .signatureZero

/-- All menu commands of a deletion. -/
def agenda (o : DeletionOptions) : Agenda := [.userId o.userId, .delsig, .save]

end DeletionOptions

/-- A deletion under way. -/
structure Deletion where
  options : DeletionOptions
  agenda : Agenda
  walk : SignatureWalk
  deriving DecidableEq, Repr

namespace Deletion

/-- A deletion that has not begun. -/
def start (o : DeletionOptions) : Deletion := ⟨o, o.agenda, ⟨o.signatures, 0⟩⟩

/-- The reply to an event. -/
def respond (d : Deletion) (e : Event) : Deletion × Reply :=
  match e.question? with
  | some .menu =>
    let (command, rest) := d.agenda.next
    ({ d with agenda := rest }, .line command.text)
  | some .deleteValid | some .deleteInvalid | some .deleteUnknown =>
    let (taken, walk) := d.walk.next
    ({ d with walk }, .answer (.yesNo taken))
  | some .deleteSelfSignature => (d, .answer (.yesNo d.options.selfSignatures))
  | some .saveOkay => (d, .answer .yes)
  | _ => (d, .nothing)

end Deletion

end KeyDialogue
