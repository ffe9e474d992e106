/-
  Key dialogue — the values that command line options take.

  Dates, capabilities, reasons and degrees of trust are read from text; what
  cannot be read is a `CommandFault`, and `CommandFault.message` is its wording.
-/
import KeyDialogue.Calendar.Iso
import KeyDialogue.Edit.Revocation
import KeyDialogue.Edit.SubkeyAddition
import KeyDialogue.Edit.Trusting

namespace KeyDialogue.CommandLine

/-- A misuse of a command. -/
inductive UsageFault where
  | unknownReason (text : String)
  | unknownTrust (text : String)
  | trustMissing
  | unknownCapability (letter : Char)
  | emptyPassphrase
  deriving DecidableEq, Repr

/-- The wording of a misuse. -/
def UsageFault.message : UsageFault → String
  | unknownReason text => "Unknown revocation reason '" ++ text ++ "'"
  | unknownTrust text => "Unknown trust level '" ++ text ++ "'"
  | trustMissing => "Missing --level"
  | unknownCapability letter => "Unknown capability '" ++ String.ofList [letter] ++ "'"
  | emptyPassphrase => "New passphrase is empty (use --allow-empty)"

/-- Why a command fails. -/
inductive CommandFault where
  | date (text : String)
  /-- An environment variable is not set. -/
  | env (name : String)
  | missingCommand
  | missingKey
  | usage (fault : UsageFault)
  | failure (failure : Failure)
  deriving DecidableEq, Repr

/-- The wording of a command's fault. -/
def CommandFault.message : CommandFault → String
  | date text => "Invalid date '" ++ text ++ "' (expected YYYY-MM-DD)"
  | env name => "Environment variable " ++ name ++ " is not set"
  | missingCommand => "Missing command (try --help)"
  | missingKey => "Expected exactly one key fingerprint"
  | usage fault => fault.message
  | failure f => f.message

/-- Reads an optional date. -/
def readDate : Option String → Except CommandFault (Option Date)
  | none => .ok none
  | some text =>
    match Date.ofText? text with
    | some d => .ok (some d)
    | none => .error (.date text)

/-- Reads a reason for a revocation; there need not be one. -/
def readReason (text : Option String) : Except CommandFault RevocationReason :=
  match text.getD "none" with
  | "none" => .ok .noReason
  | "compromised" => .ok .compromised
  | "superseded" => .ok .superseded
  | "retired" => .ok .noLongerUsed
  | "uid-invalid" => .ok .userIdInvalid
  | other => .error (.usage (.unknownReason other))

/-- Reads a degree of trust. -/
def readTrust (text : Option String) : Except CommandFault OwnerTrust :=
  match text with
  | none => .error (.usage .trustMissing)
  | some "undefined" => .ok .undefined
  | some "never" => .ok .never
  | some "marginal" => .ok .marginal
  | some "full" => .ok .full
  | some "ultimate" => .ok .ultimate
  | some other => .error (.usage (.unknownTrust other))

/-- An ASCII capital as a small letter; other characters as they are. -/
def toLower (c : Char) : Char :=
  if 'A' ≤ c ∧ c ≤ 'Z' then Char.ofNat (c.toNat + 32) else c

/-- Adds the capabilities that letters stand for. -/
def addCapabilities (c : Capabilities) : List Char → Except CommandFault Capabilities
  | [] => .ok c
  | letter :: rest =>
    match toLower letter with
    | 's' => addCapabilities { c with sign := true } rest
    | 'e' => addCapabilities { c with encrypt := true } rest
    | 'a' => addCapabilities { c with authenticate := true } rest
    | other => .error (.usage (.unknownCapability other))

/-- Reads the capabilities of a subkey, which have a default. -/
def readCapabilities : Option String → Except CommandFault Capabilities
  | none => .ok .default
  | some letters => addCapabilities ⟨false, false, false⟩ letters.toList

end KeyDialogue.CommandLine
