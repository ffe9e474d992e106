/-
  Key dialogue — what the backend tells: status events.

  * `Status` is the kind of a status line; three kinds ask for an answer, all
    others only inform;
  * an `Event` is a status with its argument text, and `Event.question?` is the
    question it asks.  Only the three asking kinds carry a question: the
    arguments of the others are key and user ids, whatever they look like.
-/
import KeyDialogue.Status.Question

namespace KeyDialogue

/-- The kind of a status line. -/
inductive Status where
  /-- A line of text is wanted. -/
  | getLine
  /-- Yes or no is wanted. -/
  | getBool
  /-- A secret is wanted. -/
  | getHidden
  | goodPassphrase
  | badPassphrase
  | missingPassphrase
  | userIdHint
  | needPassphrase
  | needPassphraseSym
  | alreadySigned
  /-- Any other kind. -/
  | other
  deriving DecidableEq, Repr

namespace Status

/-- The status with the given keyword. -/
def ofKeyword (keyword : String) : Status :=
  match keyword with
  | "GET_LINE" => getLine
  | "GET_BOOL" => getBool
  | "GET_HIDDEN" => getHidden
  | "GOOD_PASSPHRASE" => goodPassphrase
  | "BAD_PASSPHRASE" => badPassphrase
  | "MISSING_PASSPHRASE" => missingPassphrase
  | "USERID_HINT" => userIdHint
  | "NEED_PASSPHRASE" => needPassphrase
  | "NEED_PASSPHRASE_SYM" => needPassphraseSym
  | "ALREADY_SIGNED" => alreadySigned
  | _ => other

/-- The backend waits for an answer. -/
def asks : Status → Bool
  | getLine | getBool | getHidden => true
  | _ => false

/-- The name of a status in trace messages. -/
def label : Status → String
  | getLine => "GetLine"
  | getBool => "GetBool"
  | getHidden => "GetHidden"
  | goodPassphrase => "GoodPassphrase"
  | badPassphrase => "BadPassphrase"
  | missingPassphrase => "MissingPassphrase"
  | userIdHint => "UseridHint"
  | needPassphrase => "NeedPassphrase"
  | needPassphraseSym => "NeedPassphraseSym"
  | alreadySigned => "AlreadySigned"
  | other => "Other"

end Status

/-- One status line as the library sees it. -/
structure Event where
  status : Status
  args : Option String := none
  deriving DecidableEq, Repr

namespace Event

/-- The question that an event asks. -/
def question? (e : Event) : Option Question :=
  if e.status.asks then e.args.bind Question.ofId? else none

/-- The event asks for a passphrase, and in the way that keeps it hidden. -/
def asksPassphrase (e : Event) : Bool :=
  e.status == .getHidden && e.question? == some .passphrase

theorem question?_of_not_asks {e : Event} (h : e.status.asks = false) : e.question? = none := by
  simp [question?, h]

theorem asks_of_question? {e : Event} {q : Question} (h : e.question? = some q) :
    e.status.asks = true := by
  by_cases ha : e.status.asks = true
  · exact ha
  · simp [question?, ha] at h

/-- An event asks for a passphrase exactly when it is the hidden request with
    the identifier of that question. -/
theorem asksPassphrase_iff {e : Event} :
    e.asksPassphrase = true ↔ e = ⟨.getHidden, some Question.passphrase.id⟩ := by
  obtain ⟨status, args⟩ := e
  cases args with
  | none => simp [asksPassphrase, question?]
  | some id =>
    simp only [asksPassphrase, question?, Bool.and_eq_true, beq_iff_eq]
    constructor
    · rintro ⟨rfl, h⟩
      simp only [Status.asks, if_true, Option.bind_some, Question.ofId?_eq_some_iff] at h
      rw [h]
    · rintro ⟨⟩
      simp [Status.asks]

end Event

end KeyDialogue
