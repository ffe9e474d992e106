/-
  Key dialogue — asking the user for passphrases.

  A passphrase is asked for in a pinentry window, or on the terminal if there is
  no pinentry, or not at all.  A new passphrase has to be confirmed: pinentry
  sees to that itself, and on the terminal two lines have to agree.

  * `Dialogs.source` is the user as a source of secrets;
  * `Dialogs.pinentryCommands` and `Dialogs.shown` are what a series of requests
    sends to pinentry and shows on the terminal.
-/
import KeyDialogue.Passphrase.Custody

namespace KeyDialogue.CommandLine

/-- What the user is asked. -/
def description (r : Request) : String :=
  (if r.previousWasBad then "Bad passphrase, try again. " else "") ++
    (match r.purpose with
      | .unlock => "Enter the passphrase to unlock"
      | .current => "Enter the current passphrase of"
      | .new => "Enter a new passphrase for") ++
    (match r.userId, r.key with
      | some userId, _ => " \"" ++ userId ++ "\""
      | none, some key => " key " ++ key.keyId
      | none, none => " the key")

/-- The passphrase that is asked for has to be confirmed. -/
def isConfirmed (r : Request) : Bool := r.purpose == .new

/-- How a confirmation is asked for. -/
def confirmation : String := "Confirm passphrase"

/-- The ways in which the user can be reached, and what the user does there. -/
structure Dialogs where
  /-- The entries made in pinentry windows, `none` where one is canceled; none
      at all if there is no pinentry. -/
  pinentry : Option (List (Option String)) := none
  /-- The lines typed on the terminal; none at all if there is no terminal. -/
  terminal : Option (List String) := none
  deriving DecidableEq, Repr

/-- How many lines a request takes from the terminal. -/
def linesTaken (r : Request) : Nat := if isConfirmed r then 2 else 1

/-- How many lines requests take from the terminal. -/
def linesTakenBy : List Request → Nat
  | [] => 0
  | r :: rest => linesTaken r + linesTakenBy rest

/-- The entry in a pinentry window, after windows for other requests; canceled
    if there are no more entries. -/
def enterPin (entries : List (Option String)) (asked : List Request) (_ : Request) :
    Option String :=
  entries[asked.length]?.join

/-- What is typed on the terminal, after other requests; lines past the last
    one are empty. -/
def typeLine (lines : List String) (asked : List Request) (r : Request) : Option String :=
  let position := linesTakenBy asked
  let passphrase := lines[position]?.getD ""
  if isConfirmed r && lines[position + 1]?.getD "" != passphrase then none else some passphrase

namespace Dialogs

/-- The user as a source of secrets. -/
def source (d : Dialogs) : Source :=
  match d.pinentry, d.terminal with
  | some entries, _ => .callbacks (enterPin entries) []
  | none, some lines => .callbacks (typeLine lines) []
  | none, none => .callbacks (fun _ _ => none) []

/-- The commands that a request sends to pinentry. -/
def commandsFor (r : Request) : List String :=
  ["SETDESC " ++ description r, "SETPROMPT Passphrase"] ++
    (if isConfirmed r then
      ["SETREPEAT " ++ confirmation, "SETREPEATERROR Passphrases do not match"]
    else []) ++
    ["GETPIN"]

/-- The commands that requests send to pinentry. -/
def pinentryCommands (d : Dialogs) (requests : List Request) : List String :=
  if d.pinentry.isSome then requests.flatMap commandsFor else []

/-- What a request shows on the terminal. -/
def promptsFor (r : Request) : String :=
  description r ++ ": " ++ (if isConfirmed r then confirmation ++ ": " else "")

/-- What requests show on the terminal, if there is one. -/
def shown (d : Dialogs) (requests : List Request) : Option String :=
  d.terminal.map fun _ =>
    if d.pinentry.isSome then "" else String.join (requests.map promptsFor)

end Dialogs

end KeyDialogue.CommandLine
