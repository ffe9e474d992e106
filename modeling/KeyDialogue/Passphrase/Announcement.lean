/-
  Key dialogue — what the backend announces before it asks for a passphrase.

  * `KeyAnnouncement.ofText?` reads `<key id> <main key id> <algorithm> <length>`,
    separated by spaces or tabs; more may follow.  The four parts are read
    together or not at all;
  * `userIdOfHint` reads `<key id> <user id>`.  The user id is everything after
    the first space, and a hint of another form counts as a user id as a whole.
-/
import KeyDialogue.Text.Numeral

namespace KeyDialogue

open KeyDialogue.Text

/-- The longest nonempty run of characters of a class, and what follows it. -/
def word? (isPart : Char → Bool) (s : List Char) : Option (List Char × List Char) :=
  if s.takeWhile isPart = [] then none else some (s.takeWhile isPart, s.dropWhile isPart)

/-- Separates the parts of an announcement. -/
def isGap (c : Char) : Bool := c == ' ' || c == '\t'

/-- The key that a secret unlocks. -/
structure KeyAnnouncement where
  /-- The key itself, which may be a subkey. -/
  keyId : String
  mainKeyId : String
  algorithm : Nat
  keyLength : Nat
  deriving DecidableEq, Repr

namespace KeyAnnouncement

/-- The greatest algorithm number. -/
def maxAlgorithm : Nat := 255

/-- The greatest key length. -/
def maxKeyLength : Nat := 4294967295

/-- Reads a gap, and then a nonempty run of characters of a class. -/
def nextWord? (isPart : Char → Bool) (s : List Char) : Option (List Char × List Char) :=
  (word? isGap s).bind fun (_, rest) => word? isPart rest

/-- The announcement that a text holds. -/
def ofText? (s : String) : Option KeyAnnouncement := do
  let (keyId, afterKey) ← word? isHexDigit s.toList
  let (mainKeyId, afterMain) ← nextWord? isHexDigit afterKey
  let (algorithm, afterAlgorithm) ← nextWord? isDigit afterMain
  let (keyLength, _) ← nextWord? isDigit afterAlgorithm
  if digitsValue algorithm ≤ maxAlgorithm ∧ digitsValue keyLength ≤ maxKeyLength then
    some ⟨String.ofList keyId, String.ofList mainKeyId, digitsValue algorithm,
      digitsValue keyLength⟩
  else none

end KeyAnnouncement

/-- The user id that a hint announces. -/
def userIdOfHint (hint : String) : String :=
  match word? isHexDigit hint.toList with
  | some (_, ' ' :: userId) => String.ofList userId
  | _ => hint

end KeyDialogue
