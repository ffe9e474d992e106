/-
  Key dialogue — enabling and disabling a key, and setting its owner trust.

  Both are recorded in the trust database at once, so these edits give their
  command and then quit: there is nothing to save.
-/
import KeyDialogue.Edit.Menu

namespace KeyDialogue

open KeyDialogue.Text

/-- An enabling or disabling under way. -/
structure Switching where
  agenda : Agenda
  deriving DecidableEq, Repr

namespace Switching

/-- An enabling, or disabling, that has not begun. -/
def start (enable : Bool) : Switching := ⟨[if enable then .enable else .disable]⟩

/-- The reply to an event. -/
def respond (s : Switching) (e : Event) : Switching × Reply :=
  match e.question? with
  | some .menu =>
    let (command, rest) := s.agenda.next
    ({ s with agenda := rest }, .line command.text)
  | some .saveOkay => (s, .answer .yes)
  | _ => (s, .nothing)

end Switching

/-- How far the owner of a key is trusted to certify others. -/
inductive OwnerTrust where
  | undefined
  | never
  | marginal
  | full
  | ultimate
  deriving DecidableEq, Repr

/-- The number of a trust in the backend's menu. -/
def OwnerTrust.value : OwnerTrust → Nat
  | undefined => 1
  | never => 2
  | marginal => 3
  | full => 4
  | ultimate => 5

/-- A setting of owner trust under way. -/
structure Trusting where
  trust : OwnerTrust
  agenda : Agenda
  deriving DecidableEq, Repr

namespace Trusting

/-- A setting of owner trust that has not begun. -/
def start (trust : OwnerTrust) : Trusting := ⟨trust, [.trust]⟩

/-- The reply to an event. -/
def respond (t : Trusting) (e : Event) : Trusting × Reply :=
  match e.question? with
  | some .menu =>
    let (command, rest) := t.agenda.next
    ({ t with agenda := rest }, .line command.text)
  | some .ownerTrustValue => (t, .line (numeral t.trust.value))
  | some .ownerTrustUltimateOkay | some .saveOkay => (t, .answer .yes)
  | _ => (t, .nothing)

end Trusting

end KeyDialogue
