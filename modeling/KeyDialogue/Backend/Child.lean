/-
  Key dialogue — the child process at the other end of the pipes.

  * A `Child` is known by what it writes, by whether it takes more input after
    what it was given, by the lines it has read then, and by how it ends;
  * its `Fate` tells whether it came to that end;
  * a `Script` is a child that does fixed steps.  It goes on by itself until it
    has to wait for a line, and its input is closed when it says so or ends.
-/
import KeyDialogue.Backend.Wire

namespace KeyDialogue

/-- How a child ends. -/
inductive Ending where
  | exit (code : Int)
  /-- It is killed by a signal. -/
  | signal
  deriving DecidableEq, Repr

/-- What an ending means for the session. -/
def Ending.outcome : Ending → Except Failure Unit
  | exit code => if code = 0 then .ok () else .error (.backend (some code))
  | signal => .error (.backend none)

/-- What becomes of a child. -/
inductive Fate where
  /-- It is never started. -/
  | neverStarted
  /-- It is killed, wherever it has come to. -/
  | killed
  /-- Its input is closed, and it is waited for until it ends. -/
  | awaited (ending : Ending)
  deriving DecidableEq, Repr

/-- A child process. -/
structure Child where
  /-- All it writes. -/
  output : List UInt8
  /-- It takes more input after the given bytes. -/
  takes : List UInt8 → Bool
  /-- The lines it has read of the given bytes. -/
  received : List UInt8 → List String
  ending : Ending

/-- What a scripted child does next. -/
inductive Step where
  | write (bytes : List UInt8)
  | readLine
  | close
  deriving DecidableEq, Repr

/-- A child that does fixed steps. -/
structure Script where
  steps : List Step
  ending : Ending := .exit 0

namespace Script

/-- The bytes that a step writes. -/
def written : Step → List UInt8
  | .write bytes => bytes
  | _ => []

/-- After `n` lines of input the child waits for another one. -/
def waits : Nat → List Step → Bool
  | _, [] => false
  | _, .close :: _ => false
  | n, .write _ :: rest => waits n rest
  | 0, .readLine :: _ => true
  | n + 1, .readLine :: rest => waits n rest

/-- How many of `n` lines of input the child reads. -/
def reads : Nat → List Step → Nat
  | _, [] => 0
  | _, .close :: _ => 0
  | n, .write _ :: rest => reads n rest
  | 0, .readLine :: _ => 0
  | n + 1, .readLine :: rest => reads n rest + 1

/-- The child that does the steps of a script. -/
def child (s : Script) : Child where
  output := s.steps.flatMap written
  takes input := waits (Wire.endedLines input).length s.steps
  received input :=
    let lines := Wire.endedLines input
    (lines.take (reads lines.length s.steps)).map Text.Utf8.decode
  ending := s.ending

end Script

end KeyDialogue
