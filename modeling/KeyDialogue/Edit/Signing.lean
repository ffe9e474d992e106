/-
  Key dialogue — signing user ids.

  The selected user ids are chosen one by one, then the sign command is given,
  then the key is saved.  With no selection all user ids are signed.
-/
import KeyDialogue.Calendar.Iso
import KeyDialogue.Edit.Menu

namespace KeyDialogue

open KeyDialogue.Text

/-- What makes a signature a trust signature. -/
structure TrustSignature where
  /-- 1 is marginal trust, 2 is full trust. -/
  level : Nat
  /-- How far trust extends beyond the signed key. -/
  depth : Nat
  /-- Restricts trust to the user ids of a domain. -/
  regexp : Option String := none
  deriving DecidableEq, Repr

/-- How user ids are to be signed. -/
structure SigningOptions where
  /-- The user ids to sign, counted from 1; all of them if none is given. -/
  userIds : List Nat := []
  /-- The signature is never exported. -/
  isLocal : Bool := false
  nonRevocable : Bool := false
  trust : Option TrustSignature := none
  /-- How carefully the identity was verified, from 0 to 3. -/
  certificationLevel : Nat := 0
  expiration : Option Date := none
  /-- An existing local signature is made exportable. -/
  promoteLocal : Bool := true
  deriving DecidableEq

namespace SigningOptions

/-- The sign command, with a flag for each variant. -/
def command (o : SigningOptions) : MenuCommand := .sign o.isLocal o.trust.isSome o.nonRevocable

/-- All menu commands of a signing. -/
def agenda (o : SigningOptions) : Agenda := o.userIds.map .userId ++ [o.command, .save]

/-- The first fault of the options. -/
def fault? (o : SigningOptions) : Option OptionFault :=
  (zeroFault? o.userIds .userIdZero).or <|
    if 3 < o.certificationLevel then some .certificationLevel
    else
      match o.trust with
      | some t => if t.level = 1 ∨ t.level = 2 then none else some .trustLevel
      | none => none

end SigningOptions

/-- A signing under way. -/
structure Signing where
  options : SigningOptions
  agenda : Agenda
  deriving DecidableEq

namespace Signing

/-- A signing that has not begun. -/
def start (o : SigningOptions) : Signing := ⟨o, o.agenda⟩

/-- The answer to a question about the trust signature; empty if there is none. -/
def trustAnswer (s : Signing) (answer : TrustSignature → String) : Answer :=
  .line ((s.options.trust.map answer).getD "")

/-- The answer to a question other than the menu's. -/
def answerTo (s : Signing) : Question → Answer
  | .signClass => .line (numeral s.options.certificationLevel)
  | .signExpires => .yesNo s.options.expiration.isSome
  | .signValidity => .line ((s.options.expiration.map Date.text).getD "0")
  | .trustValue => s.trustAnswer fun t => numeral t.level
  | .trustDepth => s.trustAnswer fun t => numeral t.depth
  | .trustRegexp => s.trustAnswer fun t => t.regexp.getD ""
  | .signPromoteLocal => .yesNo s.options.promoteLocal
  | .signOkay | .signAllOkay | .saveOkay => .yes
  | _ => .nothing

/-- The reply to an event. -/
def respond (s : Signing) (e : Event) : Signing × Reply :=
  if e.status = .alreadySigned then (s, .failed (.alreadySigned (e.args.getD "")))
  else
    match e.question? with
    | some .menu =>
      let (command, rest) := s.agenda.next
      ({ s with agenda := rest }, .line command.text)
    | some q => (s, .answer (s.answerTo q))
    | none => (s, .nothing)

end Signing

end KeyDialogue
