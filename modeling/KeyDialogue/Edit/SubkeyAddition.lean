/-
  Key dialogue — adding a subkey.

  Outside expert mode the backend refuses most algorithms by asking again.  The
  edit then falls back on an algorithm that is always allowed and gives up
  saving: the subkey is not the one that was asked for.

  Every answer to the question for capabilities flips one of them, starting
  from the backend's default, so the edit answers with the letter of each
  capability that differs from the default, and then finishes.
-/
import KeyDialogue.Edit.Expiry

namespace KeyDialogue

open KeyDialogue.Text

/-- What a subkey may be used for. -/
structure Capabilities where
  sign : Bool
  encrypt : Bool
  authenticate : Bool
  deriving DecidableEq, Repr

namespace Capabilities

/-- What the backend offers first. -/
def default : Capabilities := ⟨true, true, false⟩

/-- The letters that turn the default into the wanted capabilities. -/
def toggles (c : Capabilities) : List String :=
  (if c.authenticate ≠ default.authenticate then ["A"] else []) ++
    (if c.sign ≠ default.sign then ["S"] else []) ++
    (if c.encrypt ≠ default.encrypt then ["E"] else [])

end Capabilities

/-- What subkey is to be added. -/
structure SubkeyOptions where
  /-- The number of the algorithm in the backend's menu. -/
  algorithm : Nat
  /-- The length of the key in bits. -/
  length : Nat
  expiration : Option Date := none
  capabilities : Capabilities := .default
  deriving DecidableEq

namespace SubkeyOptions

/-- The first fault of the options. -/
def fault? (o : SubkeyOptions) : Option OptionFault :=
  if o.length = 0 then some .keyLengthZero else none

/-- All menu commands of an addition. -/
def agenda (_ : SubkeyOptions) : Agenda := [.addkey, .save]

end SubkeyOptions

/-- The number of an algorithm that is always allowed. -/
def fallbackAlgorithm : Nat := 2

/-- An addition of a subkey under way. -/
structure SubkeyAddition where
  options : SubkeyOptions
  today : Date
  agenda : Agenda
  /-- The algorithm was given. -/
  algorithmGiven : Bool
  /-- The algorithm was refused. -/
  refused : Bool
  /-- The capabilities that are still to be flipped. -/
  toggles : List String
  deriving DecidableEq

namespace SubkeyAddition

/-- An addition that has not begun. -/
def start (today : Date) (o : SubkeyOptions) : SubkeyAddition :=
  ⟨o, today, o.agenda, false, false, o.capabilities.toggles⟩

/-- Gives the algorithm.  Asked again, the edit gives up saving. -/
def giveAlgorithm (a : SubkeyAddition) : SubkeyAddition × Reply :=
  if a.algorithmGiven then
    ({ a with refused := true, agenda := a.agenda.filter (· ≠ .save) },
      { outcome := .ok (.line (numeral fallbackAlgorithm))
        notes := [.algorithmRejected a.options.algorithm] })
  else ({ a with algorithmGiven := true }, .line (numeral a.options.algorithm))

/-- The reply to an event. -/
def respond (a : SubkeyAddition) (e : Event) : SubkeyAddition × Reply :=
  match e.question? with
  | some .menu =>
    let (command, rest) := a.agenda.next
    ({ a with agenda := rest }, .line command.text)
  | some .keyAlgorithm => a.giveAlgorithm
  | some .keyFlags =>
    match a.toggles with
    | [] => (a, .line "Q")
    | letter :: rest => ({ a with toggles := rest }, .line letter)
  | some .keySize => (a, .line (numeral a.options.length))
  | some .keyValidity => (a, .line (numeral (validity a.today a.options.expiration)))
  | some .saveOkay => (a, .answer (.yesNo !a.refused))
  | _ => (a, .nothing)

end SubkeyAddition

end KeyDialogue
