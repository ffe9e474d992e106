/-
  Key dialogue — the grammar of command lines.

  An argument is an option, a group of short options, the separator `--`, or
  free (`Argument.ofText`).  A long option may have its argument attached after
  an equals sign; otherwise the next argument of the command line is taken,
  whatever it looks like.  After the separator every argument is free.

  * `Setting` is what an option does to the values that a command line gives;
    an option given again overrides or adds to the earlier one, as its setting
    says;
  * `readAll` reads all arguments and collects the free ones;
  * `readCommand` stops at the first free argument, which names a command;
  * `ArgumentFault.message` is the wording of what is wrong.
-/
import KeyDialogue.Text.Numeral

namespace KeyDialogue.CommandLine

open KeyDialogue.Text

/-- One argument of a command line. -/
inductive Argument where
  /-- Ends the options. -/
  | separator
  | long (name : String) (attached : Option String)
  | short (letters : List Char)
  | free (text : String)
  deriving DecidableEq, Repr

/-- What follows the first equals sign. -/
def attachedTo (s : List Char) : Option String :=
  match s.dropWhile (· ≠ '=') with
  | [] => none
  | _ :: value => some (String.ofList value)

/-- The argument that a text is. -/
def Argument.ofText (s : String) : Argument :=
  match s.toList with
  | ['-'] => .free s
  | ['-', '-'] => .separator
  | '-' :: '-' :: rest => .long (String.ofList (rest.takeWhile (· ≠ '='))) (attachedTo rest)
  | '-' :: letters => .short letters
  | _ => .free s

/-- Why a command line cannot be read. -/
inductive ArgumentFault where
  | unknownOption (option : String)
  | missingArgument (option : String)
  | unexpectedArgument (option : String)
  | badArgument (option : String) (fault : NumeralFault)
  | unknownCommand (name : String)
  deriving DecidableEq, Repr

/-- The wording of an argument fault. -/
def ArgumentFault.message : ArgumentFault → String
  | unknownOption o => "unrecognized option `" ++ o ++ "`"
  | missingArgument o => "missing argument to option `" ++ o ++ "`"
  | unexpectedArgument o => "option `" ++ o ++ "` does not accept an argument"
  | badArgument o fault => "invalid argument to option `" ++ o ++ "`: " ++ fault.message
  | unknownCommand name => "unrecognized command `" ++ name ++ "`"

/-- What an option does to values of type `σ`. -/
inductive Setting (σ : Type) where
  /-- It takes no argument. -/
  | flag (set : σ → σ)
  /-- It takes any text. -/
  | text (set : String → σ → σ)
  /-- It takes a number up to a bound. -/
  | number (bound : Nat) (set : Nat → σ → σ)

/-- The long options of a command. -/
abbrev Options (σ : Type) := List (String × Setting σ)

/-- How far a command line has been read. -/
structure Reading (σ : Type) where
  values : σ
  /-- Help was asked for. -/
  help : Bool := false
  /-- The free arguments. -/
  free : List String := []
  /-- The options have ended. -/
  ended : Bool := false
  /-- An option whose argument comes next. -/
  awaiting : Option (String × Setting σ) := none

namespace Reading

variable {σ : Type}

/-- Gives an option its argument. -/
def supply (r : Reading σ) (option : String) (setting : Setting σ) (arg : String) :
    Except ArgumentFault (Reading σ) :=
  match setting with
  | .flag _ => .error (.unexpectedArgument option)
  | .text set => .ok { r with values := set arg r.values, awaiting := none }
  | .number bound set =>
    match readBounded bound arg with
    | .ok n => .ok { r with values := set n r.values, awaiting := none }
    | .error fault => .error (.badArgument option fault)

/-- Reads a long option. -/
def long (options : Options σ) (r : Reading σ) (name : String) (attached : Option String) :
    Except ArgumentFault (Reading σ) :=
  let option := "--" ++ name
  let setting? : Option (Setting σ) :=
    if name = "help" then some (.flag id) else options.lookup name
  match setting?, attached with
  | none, _ => .error (.unknownOption option)
  | some setting, some arg => r.supply option setting arg
  | some (.flag set), none =>
    .ok { r with values := set r.values, help := r.help || name == "help" }
  | some setting, none => .ok { r with awaiting := some (option, setting) }

/-- Reads short options.  The only one asks for help. -/
def short (r : Reading σ) : List Char → Except ArgumentFault (Reading σ)
  | [] => .ok r
  | c :: rest =>
    if c = 'h' then short { r with help := true } rest
    else .error (.unknownOption (String.ofList ['-', c]))

/-- Reads one argument; gives it back if it is free. -/
def step (options : Options σ) (r : Reading σ) (arg : String) :
    Except ArgumentFault (Reading σ × Option String) :=
  match r.awaiting with
  | some (option, setting) => (r.supply option setting arg).map (·, none)
  | none =>
    if r.ended then .ok (r, some arg)
    else
      match Argument.ofText arg with
      | .separator => .ok ({ r with ended := true }, none)
      | .long name attached => (r.long options name attached).map (·, none)
      | .short letters => (r.short letters).map (·, none)
      | .free text => .ok (r, some text)

/-- Ends reading: no option may be left without its argument. -/
def finish (r : Reading σ) : Except ArgumentFault (Reading σ) :=
  match r.awaiting with
  | some (option, _) => .error (.missingArgument option)
  | none => .ok r

/-- Reads all arguments. -/
def readAll (options : Options σ) (r : Reading σ) :
    List String → Except ArgumentFault (Reading σ)
  | [] => r.finish
  | arg :: rest =>
    match r.step options arg with
    | .error fault => .error fault
    | .ok (r, none) => r.readAll options rest
    | .ok (r, some free) => { r with free := r.free ++ [free] }.readAll options rest

/-- Reads arguments up to the first free one; gives it back with those after it. -/
def readCommand (options : Options σ) (r : Reading σ) :
    List String → Except ArgumentFault (Reading σ × Option (String × List String))
  | [] => r.finish.map (·, none)
  | arg :: rest =>
    match r.step options arg with
    | .error fault => .error fault
    | .ok (r, none) => r.readCommand options rest
    | .ok (r, some name) => .ok (r, some (name, rest))

end Reading

end KeyDialogue.CommandLine
