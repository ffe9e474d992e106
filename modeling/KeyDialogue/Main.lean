/-
  Key dialogue — the program.

  The program reads its command line and then speaks with the backend over its
  standard streams: status lines come in, answers go out.  Whoever starts it
  starts the backend at the other end, with the arguments that the program
  shows first on standard error.  Passphrases come from environment variables;
  there is nobody to ask.

  Only reading, writing, the environment and the clock are dealt with here.
-/
import KeyDialogue.CommandLine.Run
import Std.Time.Date.PlainDate
import Std.Time.DateTime.Timestamp

namespace KeyDialogue.Program

open KeyDialogue.CommandLine

/-- The present day in universal time. -/
def today : IO Date := do
  let now ← Std.Time.Timestamp.now
  let d := Std.Time.PlainDate.ofEpochDay now.toDaysSinceUnixEpoch
  match Date.ofParts? d.year.toInt d.month.toNat d.day.toNat with
  | some d => pure d
  | none => throw (IO.userError "the clock shows no date")

/-- The environment variables that a command line refers to. -/
def environment (i : Invocation) : IO (List (String × String)) := do
  let values ← i.variableNames.mapM fun name => do
    pure ((← IO.getEnv name).map fun value => (name, value))
  pure (values.filterMap id)

/-- Reads one line of bytes, with its terminator; empty at the end. -/
partial def readLine (input : IO.FS.Stream) (line : List UInt8) : IO (List UInt8) := do
  match (← input.read 1).toList with
  | [] => pure line.reverse
  | b :: _ => if b == Wire.newline then pure (b :: line).reverse else readLine input (b :: line)

/-- Converses to the end of the input or the first failure. -/
partial def converse (input output : IO.FS.Stream) (s : Session) :
    IO (Session × Except Failure Unit) := do
  let line ← readLine input []
  if line.isEmpty then return (s, .ok ())
  match s.hear line with
  | none => converse input output s
  | some (next, turn) =>
    match turn.reply? with
    | .error f => return (next, .error f)
    | .ok reply =>
      output.write ⟨reply.toArray⟩
      output.flush
      converse input output next

/-- Carries out a plan with the backend on the standard streams. -/
def carryOut (day : Date) (p : Plan) : IO (Except Failure Unit) := do
  let ed : Editor := { source := p.source, today := day }
  match p.edit.fault? ed.source with
  | some fault => return .error (.invalidOptions fault)
  | none =>
    IO.eprintln (" ".intercalate (p.program :: p.backend.arguments p.fingerprint))
    let (last, outcome) ←
      converse (← IO.getStdin) (← IO.getStdout) (ed.session p.fingerprint p.edit)
    let course : Course := ⟨last, [], outcome⟩
    return (ed.conclude p.fingerprint p.edit.kind course).2.result

/-- Runs the program. -/
def run (args : List String) : IO UInt32 := do
  match Invocation.ofArguments args with
  | .error fault =>
    IO.eprintln fault.message
    return 2
  | .ok i =>
    if i.wantsHelp then
      IO.eprintln "Usage: [OPTIONS] COMMAND [OPTIONS] KEY"
      return 0
    let day ← today
    let w : Surroundings :=
      { environment := ← environment i
        finds := fun name => Backend.programNames.contains name
        launch := fun _ => none
        dialogs := {}
        today := day }
    match w.plan i with
    | .error fault =>
      IO.eprintln fault.message
      return 1
    | .ok p =>
      match ← carryOut day p with
      | .ok () => return 0
      | .error f =>
        IO.eprintln f.message
        return 1

end KeyDialogue.Program

/-- The program's entry point. -/
def main (args : List String) : IO UInt32 := KeyDialogue.Program.run args
