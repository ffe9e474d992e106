/-
  Key dialogue — answers, and the ways in which an edit fails.

  * An `Answer` is what a session gives back for one event;
  * a `Failure` is a cause for which a session, or a whole edit, fails, and
    `Failure.message` is its wording;
  * an `OptionFault` is a fault in what was asked for, found before any session
    is started.
-/
import KeyDialogue.Text.Numeral

namespace KeyDialogue

/-- The answer to an event. -/
inductive Answer where
  /-- The event needs none. -/
  | nothing
  /-- A line of text. -/
  | line (text : String)
  /-- A passphrase. -/
  | secret (text : String)
  /-- The session is to be broken off. -/
  | abort
  deriving DecidableEq, Repr

/-- The answer to a question for yes or no. -/
def Answer.yesNo (yes : Bool) : Answer := .line (if yes then "Y" else "N")

/-- The answer yes. -/
def Answer.yes : Answer := .yesNo true

/-- A fault in the options of an edit. -/
inductive OptionFault where
  | userIdZero
  | certificationLevel
  | trustLevel
  | noSignatures
  | signatureZero
  | subkeyZero
  | keyLengthZero
  | newPassphraseMissing
  deriving DecidableEq, Repr

/-- The wording of an option fault. -/
def OptionFault.message : OptionFault → String
  | userIdZero => "user ID indices start at 1"
  | certificationLevel => "certification level must be between 0 and 3"
  | trustLevel => "trust signature level must be 1 or 2"
  | noSignatures => "no signatures selected"
  | signatureZero => "signature indices start at 1"
  | subkeyZero => "subkey indices start at 1"
  | keyLengthZero => "key length must not be zero"
  | newPassphraseMissing => "a new passphrase is required without passphrase callbacks"

/-- Why an edit fails. -/
inductive Failure where
  /-- A user id already bears the signature. -/
  | alreadySigned (which : String)
  /-- The backend rejected the passphrase. -/
  | badPassphrase (userId keyId : Option String)
  /-- A request for a passphrase was declined. -/
  | canceled
  /-- The backend refused the algorithm of a subkey, which is only allowed in
      expert mode. -/
  | customizationIgnored
  | invalidOptions (fault : OptionFault)
  /-- The backend asked for a passphrase again and again. -/
  | missingPassphrase
  /-- The session was broken off. -/
  | aborted
  /-- The backend ended with a status other than 0, or by a signal. -/
  | backend (code : Option Int)
  /-- No backend is installed. -/
  | backendNotFound
  /-- The system could not start the backend or reach it. -/
  | io (cause : String)
  deriving DecidableEq, Repr

/-- The wording of a failure. -/
def Failure.message : Failure → String
  | alreadySigned which => "User ID is already signed (" ++ which ++ ")"
  | badPassphrase (some userId) _ => "Bad passphrase for " ++ userId
  | badPassphrase none (some keyId) => "Bad passphrase for key " ++ keyId
  | badPassphrase none none => "Bad passphrase"
  | canceled => "Passphrase entry was canceled"
  | customizationIgnored =>
    "Subkey algorithm not supported by the backend (expert mode is required)"
  | invalidOptions fault => "Invalid options: " ++ fault.message
  | missingPassphrase => "No passphrase was provided"
  | aborted => "Edit session was aborted"
  | backend (some code) => "Backend failed with exit code " ++ toString code
  | backend none => "Backend was terminated by a signal"
  | backendNotFound => "Could not find the gpg binary"
  | io cause => cause

end KeyDialogue
