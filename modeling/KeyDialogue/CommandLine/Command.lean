/-
  Key dialogue — the commands of the command line.

  Each command has its own values and options, and every command takes the
  fingerprint of a key as its free argument.

  * `Invocation.ofArguments` reads a whole command line: the options for all
    commands, the name of the command, and then the command's own arguments;
  * `Command.edit` turns the values of a command into an edit.
-/
import KeyDialogue.CommandLine.Grammar
import KeyDialogue.CommandLine.Value
import KeyDialogue.Edit

namespace KeyDialogue.CommandLine

/-- The bound of an index. -/
def maxIndex : Nat := 18446744073709551615

/-- The bound of a small number. -/
def maxSmall : Nat := 255

/-- The bound of a key length. -/
def maxLength : Nat := 4294967295

/-! ## Values and options -/

/-- The values for all commands. -/
structure Globals where
  /-- The backend to run; it is looked for if none is given. -/
  program : Option String := none
  homedir : Option String := none
  expert : Bool := false
  /-- The environment variable that holds the passphrase. -/
  passphraseEnv : Option String := none
  deriving DecidableEq, Repr

/-- The options for all commands. -/
def Globals.options : Options Globals :=
  [("gpg", .text fun s v => { v with program := some s }),
    ("homedir", .text fun s v => { v with homedir := some s }),
    ("expert", .flag fun v => { v with expert := true }),
    ("passphrase-env", .text fun s v => { v with passphraseEnv := some s })]

/-- The values of the command that signs. -/
structure SignValues where
  userIds : List Nat := []
  isLocal : Bool := false
  nonRevocable : Bool := false
  level : Option Nat := none
  expire : Option String := none
  trustLevel : Option Nat := none
  trustDepth : Option Nat := none
  trustRegexp : Option String := none
  noPromote : Bool := false
  deriving DecidableEq, Repr

/-- The options of the command that signs. -/
def SignValues.options : Options SignValues :=
  [("uid", .number maxIndex fun n v => { v with userIds := v.userIds ++ [n] }),
    ("local", .flag fun v => { v with isLocal := true }),
    ("non-revocable", .flag fun v => { v with nonRevocable := true }),
    ("level", .number maxSmall fun n v => { v with level := some n }),
    ("expire", .text fun s v => { v with expire := some s }),
    ("trust-level", .number maxSmall fun n v => { v with trustLevel := some n }),
    ("trust-depth", .number maxSmall fun n v => { v with trustDepth := some n }),
    ("trust-regexp", .text fun s v => { v with trustRegexp := some s }),
    ("no-promote", .flag fun v => { v with noPromote := true })]

/-- The values of the command that revokes signatures. -/
structure RevsigValues where
  userId : Nat := 0
  signatures : List Nat := []
  reason : Option String := none
  description : Option String := none
  deriving DecidableEq, Repr

/-- The options of the command that revokes signatures. -/
def RevsigValues.options : Options RevsigValues :=
  [("uid", .number maxIndex fun n v => { v with userId := n }),
    ("sig", .number maxIndex fun n v => { v with signatures := v.signatures ++ [n] }),
    ("reason", .text fun s v => { v with reason := some s }),
    ("description", .text fun s v => { v with description := some s })]

/-- The values of the command that deletes signatures. -/
structure DelsigValues where
  userId : Nat := 0
  signatures : List Nat := []
  selfSignatures : Bool := false
  deriving DecidableEq, Repr

/-- The options of the command that deletes signatures. -/
def DelsigValues.options : Options DelsigValues :=
  [("uid", .number maxIndex fun n v => { v with userId := n }),
    ("sig", .number maxIndex fun n v => { v with signatures := v.signatures ++ [n] }),
    ("self-sig", .flag fun v => { v with selfSignatures := true })]

/-- The values of the command that sets owner trust. -/
structure TrustValues where
  level : Option String := none
  deriving DecidableEq, Repr

/-- The options of the command that sets owner trust. -/
def TrustValues.options : Options TrustValues :=
  [("level", .text fun s v => { v with level := some s })]

/-- The values of the command that changes the expiration. -/
structure ExpireValues where
  subkeys : List Nat := []
  date : Option String := none
  deriving DecidableEq, Repr

/-- The options of the command that changes the expiration. -/
def ExpireValues.options : Options ExpireValues :=
  [("subkey", .number maxIndex fun n v => { v with subkeys := v.subkeys ++ [n] }),
    ("date", .text fun s v => { v with date := some s })]

/-- The values of the command that adds a subkey. -/
structure AddkeyValues where
  algorithm : Option Nat := none
  length : Option Nat := none
  expire : Option String := none
  usage : Option String := none
  deriving DecidableEq, Repr

/-- The options of the command that adds a subkey. -/
def AddkeyValues.options : Options AddkeyValues :=
  [("algo", .number maxSmall fun n v => { v with algorithm := some n }),
    ("length", .number maxLength fun n v => { v with length := some n }),
    ("expire", .text fun s v => { v with expire := some s }),
    ("usage", .text fun s v => { v with usage := some s })]

/-- The values of the command that changes the passphrase. -/
structure PasswdValues where
  /-- The environment variable that holds the replacement. -/
  newPassphraseEnv : Option String := none
  allowEmpty : Bool := false
  deriving DecidableEq, Repr

/-- The options of the command that changes the passphrase. -/
def PasswdValues.options : Options PasswdValues :=
  [("new-passphrase-env", .text fun s v => { v with newPassphraseEnv := some s }),
    ("allow-empty", .flag fun v => { v with allowEmpty := true })]

/-! ## Commands -/

/-- A command with its values. -/
inductive Command where
  | sign (values : SignValues)
  | revsig (values : RevsigValues)
  | delsig (values : DelsigValues)
  | enable
  | disable
  | trust (values : TrustValues)
  | expire (values : ExpireValues)
  | addkey (values : AddkeyValues)
  | passwd (values : PasswdValues)
  deriving DecidableEq, Repr

/-- A command as it was given. -/
structure Given where
  /-- The name it was given by. -/
  name : String
  command : Command
  /-- The free arguments. -/
  keys : List String
  help : Bool
  deriving DecidableEq, Repr

/-- Reads the arguments of a command.  `ended` says whether the options had
    ended before its name. -/
def Given.read {σ : Type} (name : String) (ended : Bool) (start : σ) (options : Options σ)
    (make : σ → Command) (args : List String) : Except ArgumentFault Given :=
  (({ values := start, ended } : Reading σ).readAll options args).map fun r =>
    ⟨name, make r.values, r.free, r.help⟩

/-- Reads the command with the given name. -/
def Given.ofName (name : String) (ended : Bool) (args : List String) :
    Except ArgumentFault Given :=
  match name with
  | "sign" => Given.read name ended {} SignValues.options .sign args
  | "revsig" => Given.read name ended {} RevsigValues.options .revsig args
  | "delsig" => Given.read name ended {} DelsigValues.options .delsig args
  | "enable" => Given.read name ended () [] (fun _ => .enable) args
  | "disable" => Given.read name ended () [] (fun _ => .disable) args
  | "trust" => Given.read name ended {} TrustValues.options .trust args
  | "expire" => Given.read name ended {} ExpireValues.options .expire args
  | "addkey" => Given.read name ended {} AddkeyValues.options .addkey args
  | "passwd" => Given.read name ended {} PasswdValues.options .passwd args
  | _ => .error (.unknownCommand name)

/-- A command line. -/
structure Invocation where
  globals : Globals
  help : Bool
  given : Option Given
  deriving DecidableEq, Repr

/-- The command line that arguments make up. -/
def Invocation.ofArguments (args : List String) : Except ArgumentFault Invocation :=
  match ({ values := {} } : Reading Globals).readCommand Globals.options args with
  | .error fault => .error fault
  | .ok (r, none) => .ok ⟨r.values, r.help, none⟩
  | .ok (r, some (name, rest)) =>
    (Given.ofName name r.ended rest).map fun g => ⟨r.values, r.help, some g⟩

/-- Help was asked for, in general or for the command. -/
def Invocation.wantsHelp (i : Invocation) : Bool := i.help || i.given.any (·.help)

/-- The environment variable that a command refers to. -/
def Command.variableName : Command → Option String
  | passwd values => values.newPassphraseEnv
  | _ => none

/-- The environment variables that a command line refers to. -/
def Invocation.variableNames (i : Invocation) : List String :=
  i.globals.passphraseEnv.toList ++ (i.given.bind (·.command.variableName)).toList

/-- The only key among the free arguments. -/
def singleKey : List String → Except CommandFault String
  | [fingerprint] => .ok fingerprint
  | _ => .error .missingKey

/-! ## Edits -/

/-- The algorithm of a subkey for which none is given. -/
def defaultAlgorithm : Nat := 1

/-- The length of a subkey for which none is given. -/
def defaultLength : Nat := 3072

/-- The value of an environment variable. -/
def lookupVariable (environment : List (String × String)) (name : String) :
    Except CommandFault String :=
  match environment.lookup name with
  | some value => .ok value
  | none => .error (.env name)

/-- How the values of the signing command sign. -/
def SignValues.edit (v : SignValues) : Except CommandFault Edit :=
  (readDate v.expire).map fun expiration =>
    .plain (.sign
      { userIds := v.userIds
        isLocal := v.isLocal
        nonRevocable := v.nonRevocable
        trust := v.trustLevel.map fun level => ⟨level, v.trustDepth.getD 1, v.trustRegexp⟩
        certificationLevel := v.level.getD 0
        expiration := expiration
        promoteLocal := !v.noPromote })

/-- What subkey the values of the adding command add. -/
def AddkeyValues.edit (v : AddkeyValues) : Except CommandFault Edit :=
  (readDate v.expire).bind fun expiration =>
    (readCapabilities v.usage).map fun capabilities =>
      .plain (.addSubkey
        { algorithm := v.algorithm.getD defaultAlgorithm
          length := v.length.getD defaultLength
          expiration := expiration
          capabilities := capabilities })

/-- How the values of the passphrase command change it.  An empty replacement
    has to be allowed. -/
def PasswdValues.edit (v : PasswdValues) (environment : List (String × String)) :
    Except CommandFault Edit :=
  match v.newPassphraseEnv with
  | none => .ok (.changePassphrase ⟨none, v.allowEmpty⟩)
  | some name =>
    (lookupVariable environment name).bind fun secret =>
      if secret.isEmpty && !v.allowEmpty then .error (.usage .emptyPassphrase)
      else .ok (.changePassphrase ⟨some secret, v.allowEmpty⟩)

/-- The edit that a command asks for. -/
def Command.edit (c : Command) (environment : List (String × String)) : Except CommandFault Edit :=
  match c with
  | sign v => v.edit
  | revsig v =>
    (readReason v.reason).map fun reason =>
      .plain (.revokeSignature ⟨v.userId, v.signatures, reason, v.description.getD ""⟩)
  | delsig v => .ok (.plain (.deleteSignature ⟨v.userId, v.signatures, v.selfSignatures⟩))
  | enable => .ok (.plain (.setEnabled true))
  | disable => .ok (.plain (.setEnabled false))
  | trust v => (readTrust v.level).map fun t => .plain (.setOwnerTrust t)
  | expire v =>
    (readDate v.date).map fun expiration => .plain (.setExpiration ⟨v.subkeys, expiration⟩)
  | addkey v => v.edit
  | passwd v => v.edit environment

end KeyDialogue.CommandLine
