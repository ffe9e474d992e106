/-
  Key dialogue — the questions of the key menu.

  The backend names each question by an identifier.  `Question` lists those that
  some edit answers; `Question.ofId?` recognises them, and every other
  identifier is no question of this library.

  * `ofId?_eq_some_iff`: a question is recognised by its identifier alone.
-/
namespace KeyDialogue

/-- A question that the backend asks while a key is edited. -/
inductive Question where
  /-- Which command of the key menu comes next. -/
  | menu
  | signClass | signExpires | signOkay | signPromoteLocal | signValidity
  | trustValue | trustDepth | trustRegexp
  | signAllOkay
  | saveOkay
  | deleteUnknown | deleteValid | deleteInvalid | deleteSelfSignature
  | revokeOne | revokeExpired | revokeOkay
  | reasonOkay | reasonCode | reasonText
  | ownerTrustUltimateOkay | ownerTrustValue
  | keyAlgorithm | keyFlags | keySize | keyValidity
  | emptyPassphraseOkay
  /-- The passphrase itself. -/
  | passphrase
  deriving DecidableEq, Repr

namespace Question

/-- All questions. -/
def all : List Question :=
  [.menu, .signClass, .signExpires, .signOkay, .signPromoteLocal, .signValidity,
    .trustValue, .trustDepth, .trustRegexp, .signAllOkay, .saveOkay,
    .deleteUnknown, .deleteValid, .deleteInvalid, .deleteSelfSignature,
    .revokeOne, .revokeExpired, .revokeOkay, .reasonOkay, .reasonCode, .reasonText,
    .ownerTrustUltimateOkay, .ownerTrustValue,
    .keyAlgorithm, .keyFlags, .keySize, .keyValidity, .emptyPassphraseOkay, .passphrase]

/-- The identifier by which the backend asks. -/
def id : Question → String
  | menu => "keyedit.prompt"
  | signClass => "sign_uid.class"
  | signExpires => "sign_uid.expire"
  | signOkay => "sign_uid.okay"
  | signPromoteLocal => "sign_uid.local_promote_okay"
  | signValidity => "siggen.valid"
  | trustValue => "trustsig_prompt.trust_value"
  | trustDepth => "trustsig_prompt.trust_depth"
  | trustRegexp => "trustsig_prompt.trust_regexp"
  | signAllOkay => "keyedit.sign_all.okay"
  | saveOkay => "keyedit.save.okay"
  | deleteUnknown => "keyedit.delsig.unknown"
  | deleteValid => "keyedit.delsig.valid"
  | deleteInvalid => "keyedit.delsig.invalid"
  | deleteSelfSignature => "keyedit.delsig.selfsig"
  | revokeOne => "ask_revoke_sig.one"
  | revokeExpired => "ask_revoke_sig.expired"
  | revokeOkay => "ask_revoke_sig.okay"
  | reasonOkay => "ask_revocation_reason.okay"
  | reasonCode => "ask_revocation_reason.code"
  | reasonText => "ask_revocation_reason.text"
  | ownerTrustUltimateOkay => "edit_ownertrust.set_ultimate.okay"
  | ownerTrustValue => "edit_ownertrust.value"
  | keyAlgorithm => "keygen.algo"
  | keyFlags => "keygen.flags"
  | keySize => "keygen.size"
  | keyValidity => "keygen.valid"
  | emptyPassphraseOkay => "change_passwd.empty.okay"
  | passphrase => "passphrase.enter"

/-- The name of a question in trace messages. -/
def label : Question → String
  | menu => "KeyeditPrompt"
  | signClass => "SignUidClass"
  | signExpires => "SignUidExpire"
  | signOkay => "SignUidOkay"
  | signPromoteLocal => "SignUidLocalPromoteOkay"
  | signValidity => "SiggenValid"
  | trustValue => "TrustsigTrustValue"
  | trustDepth => "TrustsigTrustDepth"
  | trustRegexp => "TrustsigTrustRegexp"
  | signAllOkay => "KeyeditSignAllOkay"
  | saveOkay => "KeyeditSaveOkay"
  | deleteUnknown => "DelsigUnknown"
  | deleteValid => "DelsigValid"
  | deleteInvalid => "DelsigInvalid"
  | deleteSelfSignature => "DelsigSelfsig"
  | revokeOne => "AskRevokeSigOne"
  | revokeExpired => "AskRevokeSigExpired"
  | revokeOkay => "AskRevokeSigOkay"
  | reasonOkay => "AskRevocationReasonOkay"
  | reasonCode => "AskRevocationReasonCode"
  | reasonText => "AskRevocationReasonText"
  | ownerTrustUltimateOkay => "OwnertrustSetUltimateOkay"
  | ownerTrustValue => "OwnertrustValue"
  | keyAlgorithm => "KeygenAlgo"
  | keyFlags => "KeygenFlags"
  | keySize => "KeygenSize"
  | keyValidity => "KeygenValid"
  | emptyPassphraseOkay => "ChangePasswdEmptyOkay"
  | passphrase => "PassphraseEnter"

/-- The name in trace messages of a question that may be unknown. -/
def labelOption : Option Question → String
  | some q => q.label
  | none => "Unknown"

/-- The question with the given identifier. -/
def ofId? (s : String) : Option Question := all.find? fun q => q.id == s

@[simp] theorem ofId?_id (q : Question) : ofId? q.id = some q := by cases q <;> rfl

theorem ofId?_eq_some_iff {s : String} {q : Question} : ofId? s = some q ↔ q.id = s := by
  constructor
  · intro h
    simpa using List.find?_some h
  · rintro rfl
    exact ofId?_id q

/-- No two questions share an identifier. -/
theorem id_injective {p q : Question} (h : p.id = q.id) : p = q := by
  simpa [h] using (ofId?_id p).symm

end Question

end KeyDialogue
