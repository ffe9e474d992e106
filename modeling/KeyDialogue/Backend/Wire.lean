/-
  Key dialogue — status lines and answers as bytes on a pipe.

  * `lineText` is the text of a line that was read, `eventOf?` the event it
    tells of, if it is a status line;
  * `eventsOf` is all events of an output: the lines are read one by one, and
    the last one counts even if it lacks its terminator;
  * `replyBytes` is what is written back for an event.  Each question is given
    exactly one line, and an empty one if there is no answer to it, because the
    backend waits for it.
-/
import KeyDialogue.Note
import KeyDialogue.Status.Line
import KeyDialogue.Text.Pieces
import KeyDialogue.Text.Utf8

namespace KeyDialogue.Wire

open KeyDialogue.Text

/-- The byte that ends a line. -/
def newline : UInt8 := 10

/-- The lines of a sequence of bytes, with their terminators. -/
def lines (bytes : List UInt8) : List (List UInt8) := pieces (· == newline) bytes

/-- A character that may end a line. -/
def isTerminator (c : Char) : Bool := c == '\r' || c == '\n'

/-- The text of a line, without the characters that end it. -/
def lineText (line : List UInt8) : String :=
  String.ofList ((Utf8.decodeChars line).reverse.dropWhile isTerminator).reverse

/-- The event that a line tells of. -/
def eventOf? (line : List UInt8) : Option Event :=
  (StatusLine.ofText? (lineText line)).map StatusLine.event

/-- The events that an output tells of. -/
def eventsOf (output : List UInt8) : List Event := (lines output).filterMap eventOf?

/-- A text as a line of bytes. -/
def lineBytes (text : String) : List UInt8 := Utf8.encode text ++ [newline]

/-- What is written for an answer to an event. -/
def replyBytes (e : Event) : Answer → List UInt8
  | .nothing => if e.status.asks then [newline] else []
  | .line text => lineBytes text
  | .secret text => lineBytes text
  | .abort => []

/-- The lines without their terminators; a last line that is not ended does
    not count. -/
def endedLines (bytes : List UInt8) : List (List UInt8) :=
  ((lines bytes).filter fun l => l.getLast? == some newline).map List.dropLast

end KeyDialogue.Wire
