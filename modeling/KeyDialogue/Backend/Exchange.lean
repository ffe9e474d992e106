/-
  Key dialogue — a session conducted with the backend over pipes.

  * `Backend.arguments` are the arguments the backend is started with;
  * `converse` feeds the lines of an output to a session and writes its answers
    back, up to the first failure;
  * `Exchange.fate`: a conversation that fails gets the backend killed, and after
    any other one the backend is waited for;
  * `Backend.conduct` starts the backend, converses with it to the end of its
    output or up to a failure, and then waits for it or kills it.
-/
import KeyDialogue.Backend.Child
import KeyDialogue.Editor

namespace KeyDialogue

/-- How the backend is to be run. -/
structure Backend where
  /-- The directory of the keyrings. -/
  homedir : Option String := none
  /-- Subkeys of any algorithm are allowed. -/
  expert : Bool := false
  deriving DecidableEq, Repr

namespace Backend

/-- The names under which the backend is looked for, the preferred one first. -/
def programNames : List String := ["gpg", "gpg2"]

/-- The arguments for a session on a key. -/
def arguments (b : Backend) (fingerprint : String) : List String :=
  ["--batch", "--no-tty", "--status-fd", "1", "--command-fd", "0", "--pinentry-mode", "loopback"]
    ++ (match b.homedir with
      | some dir => ["--homedir", dir]
      | none => [])
    ++ (if b.expert then ["--expert"] else [])
    ++ ["--edit-key", fingerprint]

/-- Arguments can be handed to a program only if none holds the null character. -/
def canPass (arguments : List String) : Bool := arguments.all fun a => !a.toList.contains '\x00'

end Backend

/-- What a conversation over pipes came to. -/
structure Exchange where
  /-- The session at the end. -/
  session : Session
  turns : List Turn
  /-- All that was written to the backend. -/
  written : List UInt8
  /-- What broke the conversation off before the output ended. -/
  failure : Option Failure

/-- The failure of writing to a child that takes no more input. -/
def brokenPipe : Failure := .io "the backend does not take the answer"

/-- The failure of starting a child. -/
def notStarted : Failure := .io "the backend cannot be started"

/-- Hears one line: the session after it and the turn, if it is a status line. -/
def Session.hear (s : Session) (line : List UInt8) : Option (Session × Turn) :=
  (Wire.eventOf? line).map fun e => ((s.respond e).1, s.turn e)

/-- What is to be written for a turn, or the failure that it ends the session
    with. -/
def Turn.reply? (t : Turn) : Except Failure (List UInt8) :=
  match t.reply.outcome with
  | .error f => .error f
  | .ok .abort => .error .aborted
  | .ok answer => .ok (Wire.replyBytes t.event answer)

/-- Converses over the given lines, after some bytes were written before.
    `takes` says whether the other end takes more after those. -/
def converse (takes : List UInt8 → Bool) (s : Session) (written : List UInt8) :
    List (List UInt8) → Exchange
  | [] => ⟨s, [], written, none⟩
  | line :: rest =>
    match s.hear line with
    | none => converse takes s written rest
    | some (next, turn) =>
      match turn.reply? with
      | .error f => ⟨next, [turn], written, some f⟩
      | .ok reply =>
        if !reply.isEmpty && !takes written then ⟨next, [turn], written, some brokenPipe⟩
        else
          let x := converse takes next (written ++ reply) rest
          { x with turns := turn :: x.turns }

/-- What becomes of the child after a conversation: a failure kills it at once,
    and it is waited for otherwise. -/
def Exchange.fate (x : Exchange) (child : Child) : Fate :=
  match x.failure with
  | some _ => .killed
  | none => .awaited child.ending

/-- What passed between the library and a backend in one session. -/
structure Contact where
  course : Course
  /-- The arguments of the child; none if it was never started. -/
  arguments : Option (List String)
  /-- All that was written to the child. -/
  written : List UInt8
  /-- The lines that the child read. -/
  received : List String
  /-- What became of the child. -/
  fate : Fate

/-- The contact with a backend that cannot be started. -/
def Contact.unstarted (s : Session) : Contact where
  course := ⟨s, [], .error notStarted⟩
  arguments := none
  written := []
  received := []
  fate := .neverStarted

@[simp] theorem Contact.course_unstarted (s : Session) :
    (unstarted s).course = ⟨s, [], .error notStarted⟩ := rfl

@[simp] theorem Contact.arguments_unstarted (s : Session) : (unstarted s).arguments = none := rfl

/-- Conducts a session with the backend, which runs as the given child, or
    cannot be run. -/
def Backend.conduct (b : Backend) (child : Option Child) (fingerprint : String) (s : Session) :
    Contact :=
  let arguments := b.arguments fingerprint
  match child with
  | none => .unstarted s
  | some child =>
    if !canPass arguments then .unstarted s
    else
      let x := converse child.takes s [] (Wire.lines child.output)
      let outcome :=
        match x.failure with
        | some f => .error f
        | none => child.ending.outcome
      ⟨⟨x.session, x.turns, outcome⟩, some arguments, x.written, child.received x.written,
        x.fate child⟩

/-- Carries out an edit through the backend.  Nothing passes between them if the
    options have a fault. -/
def Backend.edit (b : Backend) (child : Option Child) (ed : Editor) (fingerprint : String)
    (edit : Edit) : Editor × Report × Option Contact :=
  match edit.fault? ed.source with
  | some fault => (ed, ed.rejection fingerprint fault, none)
  | none =>
    let contact := b.conduct child fingerprint (ed.session fingerprint edit)
    let (ed, report) := ed.conclude fingerprint edit.kind contact.course
    (ed, report, some contact)

/-- An edit through the backend is an edit with the backend as its engine. -/
theorem Backend.edit_eq (b : Backend) (child : Option Child) (ed : Editor) (fingerprint : String)
    (edit : Edit) :
    ((b.edit child ed fingerprint edit).1, (b.edit child ed fingerprint edit).2.1) =
      ed.edit (fun s => (b.conduct child fingerprint s).course) fingerprint edit := by
  cases h : edit.fault? ed.source <;> simp [Backend.edit, Editor.edit, h]

end KeyDialogue
