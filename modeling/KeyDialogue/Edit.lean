/-
  Key dialogue — the eight edits.

  * An `Edit` is what a caller wants done to a key.  Seven edits leave their
    passphrases to the session (`PlainEdit`); changing the passphrase does not;
  * `Edit.fault?` finds fault with its options before any session is started;
  * `Progress` is an edit under way.  It is built afresh for every session, so
    the same edit replies to the same events alike.
-/
import KeyDialogue.Edit.Deletion
import KeyDialogue.Edit.PassphraseChange
import KeyDialogue.Edit.Revocation
import KeyDialogue.Edit.Signing
import KeyDialogue.Edit.SubkeyAddition
import KeyDialogue.Edit.Trusting

namespace KeyDialogue

/-- An edit that leaves its passphrases to the session. -/
inductive PlainEdit where
  | sign (options : SigningOptions)
  | revokeSignature (options : RevocationOptions)
  | deleteSignature (options : DeletionOptions)
  | setEnabled (enable : Bool)
  | setOwnerTrust (trust : OwnerTrust)
  | setExpiration (options : ExpiryOptions)
  | addSubkey (options : SubkeyOptions)
  deriving DecidableEq

/-- An edit of a key. -/
inductive Edit where
  | plain (edit : PlainEdit)
  | changePassphrase (options : PassphraseOptions)
  deriving DecidableEq

/-- The kind of a plain edit. -/
def PlainEdit.kind : PlainEdit → EditKind
  | sign _ => .sign
  | revokeSignature _ => .revokeSignature
  | deleteSignature _ => .deleteSignature
  | setEnabled _ => .enableDisable
  | setOwnerTrust _ => .trust
  | setExpiration _ => .expire
  | addSubkey _ => .addSubkey

/-- The first fault in the options of a plain edit. -/
def PlainEdit.fault? : PlainEdit → Option OptionFault
  | sign o => o.fault?
  | revokeSignature o => o.fault?
  | deleteSignature o => o.fault?
  | setEnabled _ => none
  | setOwnerTrust _ => none
  | setExpiration o => o.fault?
  | addSubkey o => o.fault?

/-- The kind of an edit. -/
def Edit.kind : Edit → EditKind
  | plain e => e.kind
  | changePassphrase _ => .passphrase

/-- The first fault in the options of an edit, given where its passphrases
    would come from. -/
def Edit.fault? (e : Edit) (source : Source) : Option OptionFault :=
  match e with
  | plain e => e.fault?
  | changePassphrase o => o.fault? source

/-! ## Edits under way -/

/-- A plain edit under way. -/
inductive PlainProgress where
  | signing (s : Signing)
  | revocation (r : Revocation)
  | deletion (d : Deletion)
  | switching (s : Switching)
  | trusting (t : Trusting)
  | expiry (x : Expiry)
  | subkeyAddition (a : SubkeyAddition)
  deriving DecidableEq

namespace PlainProgress

/-- The kind of a plain edit under way. -/
def kind : PlainProgress → EditKind
  | signing _ => .sign
  | revocation _ => .revokeSignature
  | deletion _ => .deleteSignature
  | switching _ => .enableDisable
  | trusting _ => .trust
  | expiry _ => .expire
  | subkeyAddition _ => .addSubkey

/-- The reply to an event. -/
def respond (p : PlainProgress) (e : Event) : PlainProgress × Reply :=
  match p with
  | signing s => (s.respond e).map signing id
  | revocation r => (r.respond e).map revocation id
  | deletion d => (d.respond e).map deletion id
  | switching s => (s.respond e).map switching id
  | trusting t => (t.respond e).map trusting id
  | expiry x => (x.respond e).map expiry id
  | subkeyAddition a => (a.respond e).map subkeyAddition id

@[simp] theorem kind_respond (p : PlainProgress) (e : Event) : (p.respond e).1.kind = p.kind := by
  cases p <;> rfl

end PlainProgress

/-- A plain edit that has not begun; `today` is the day of the session. -/
def PlainEdit.start (today : Date) : PlainEdit → PlainProgress
  | sign o => .signing (.start o)
  | revokeSignature o => .revocation (.start o)
  | deleteSignature o => .deletion (.start o)
  | setEnabled enable => .switching (.start enable)
  | setOwnerTrust trust => .trusting (.start trust)
  | setExpiration o => .expiry (.start today o)
  | addSubkey o => .subkeyAddition (.start today o)

@[simp] theorem PlainEdit.kind_start (today : Date) (e : PlainEdit) :
    (e.start today).kind = e.kind := by
  cases e <;> rfl

/-- An edit under way. -/
inductive Progress where
  | plain (p : PlainProgress)
  | passphrase (p : PassphraseChange)
  deriving DecidableEq

/-- An edit that has not begun. -/
def Edit.start (today : Date) : Edit → Progress
  | plain e => .plain (e.start today)
  | changePassphrase o => .passphrase (.start o)

namespace Progress

/-- The kind of an edit under way. -/
def kind : Progress → EditKind
  | plain p => p.kind
  | passphrase _ => .passphrase

/-- The backend refused what was asked for, so nothing is saved. -/
def refused : Progress → Bool
  | plain (.subkeyAddition a) => a.refused
  | _ => false

end Progress

@[simp] theorem Edit.kind_start (today : Date) (e : Edit) : (e.start today).kind = e.kind := by
  cases e <;> simp [Edit.start, Progress.kind, Edit.kind]

end KeyDialogue
