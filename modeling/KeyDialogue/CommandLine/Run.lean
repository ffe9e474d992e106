/-
  Key dialogue — running a command line.

  The steps come in a fixed order, and the first that fails decides: the
  arguments are read, help is given if it is asked for, the command and then the
  backend are looked up, the source of secrets, the key, the values of the
  command, and the options of the edit.  Only then is the backend started.
-/
import KeyDialogue.Backend.Exchange
import KeyDialogue.CommandLine.Command
import KeyDialogue.CommandLine.Dialog

namespace KeyDialogue.CommandLine

/-- What a command line finds around it. -/
structure Surroundings where
  /-- The environment variables. -/
  environment : List (String × String)
  /-- A program of this name is found. -/
  finds : String → Bool
  /-- What runs as a program, if it can be started. -/
  launch : String → Option Child
  dialogs : Dialogs
  today : Date

/-- How a command line ends. -/
inductive Verdict where
  | done
  /-- Help was given, for a command or in general. -/
  | help (command : Option String)
  | badArguments (fault : ArgumentFault)
  | failed (fault : CommandFault)
  deriving DecidableEq, Repr

/-- What came of a command line. -/
structure Outcome where
  verdict : Verdict
  /-- What passed between the library and the backend. -/
  contact : Option Contact := none
  /-- The requests that were made to the user. -/
  requests : List Request := []

/-- What a command line prepares: an edit of a key, and the means for it. -/
structure Plan where
  program : String
  backend : Backend
  source : Source
  fingerprint : String
  edit : Edit

/-- The program to run as the backend. -/
def Surroundings.program (w : Surroundings) (g : Globals) : Except CommandFault String :=
  match g.program with
  | some program => .ok program
  | none =>
    match Backend.programNames.find? w.finds with
    | some name => .ok name
    | none => .error (.failure .backendNotFound)

/-- The source of secrets. -/
def Surroundings.source (w : Surroundings) (g : Globals) : Except CommandFault Source :=
  match g.passphraseEnv with
  | some name => (lookupVariable w.environment name).map .stored
  | none => .ok w.dialogs.source

/-- Prepares the edit that a command line asks for. -/
def Surroundings.plan (w : Surroundings) (i : Invocation) : Except CommandFault Plan :=
  match i.given with
  | none => .error .missingCommand
  | some given =>
    (w.program i.globals).bind fun program =>
    (w.source i.globals).bind fun source =>
    (singleKey given.keys).bind fun fingerprint =>
    (given.command.edit w.environment).map fun edit =>
      ⟨program, ⟨i.globals.homedir, i.globals.expert⟩, source, fingerprint, edit⟩

/-- Carries out a plan. -/
def Surroundings.carryOut (w : Surroundings) (p : Plan) : Outcome :=
  let ed : Editor := { source := p.source, today := w.today }
  let (_, report, contact) := p.backend.edit (w.launch p.program) ed p.fingerprint p.edit
  let verdict :=
    match report.result with
    | .ok () => .done
    | .error f => .failed (.failure f)
  ⟨verdict, contact, report.requests.map (·.2)⟩

/-- Runs a command line. -/
def Surroundings.run (w : Surroundings) (args : List String) : Outcome :=
  match Invocation.ofArguments args with
  | .error fault => { verdict := .badArguments fault }
  | .ok i =>
    if i.wantsHelp then { verdict := .help (i.given.map (·.name)) }
    else
      match w.plan i with
      | .error fault => { verdict := .failed fault }
      | .ok p => w.carryOut p

end KeyDialogue.CommandLine
