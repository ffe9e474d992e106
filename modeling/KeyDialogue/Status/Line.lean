/-
  Key dialogue — status lines.

  A status line is the mark `[GNUPG:] `, a keyword of capital letters, digits
  and underscores, and, after one space, an argument text that runs to the end
  of the line.

  * `StatusLine.text` writes a line, without its terminator;
  * `StatusLine.ofText?` reads one.  It looks no further than the keyword when
    no space follows it: whatever else stands there is dropped, and the line
    has no argument;
  * `ofText?_text`: a line that is written is read back.
-/
import KeyDialogue.Status.Event
import KeyDialogue.Text.Pieces

namespace KeyDialogue

/-- The parts of a status line. -/
structure StatusLine where
  keyword : String
  args : Option String := none
  deriving DecidableEq, Repr

namespace StatusLine

/-- What every status line begins with. -/
def mark : String := "[GNUPG:] "

/-- A character of a keyword. -/
def isKeywordChar (c : Char) : Bool :=
  ('A' ≤ c && c ≤ 'Z') || ('0' ≤ c && c ≤ '9') || c == '_'

/-- A nonempty text of keyword characters. -/
def isKeyword (s : String) : Bool := !s.toList.isEmpty && s.toList.all isKeywordChar

/-- The line as text. -/
def text (l : StatusLine) : String :=
  match l.args with
  | none => mark ++ l.keyword
  | some args => mark ++ l.keyword ++ " " ++ args

/-- What follows a given beginning. -/
def after? : List Char → List Char → Option (List Char)
  | [], s => some s
  | _ :: _, [] => none
  | b :: rest, c :: s => if b = c then after? rest s else none

/-- The argument that follows a keyword. -/
def argsOf : List Char → Option String
  | ' ' :: args => some (String.ofList args)
  | _ => none

/-- The parts of a text that is a status line. -/
def ofText? (s : String) : Option StatusLine :=
  match after? mark.toList s.toList with
  | none => none
  | some rest =>
    let keyword := rest.takeWhile isKeywordChar
    if keyword = [] then none
    else some ⟨String.ofList keyword, argsOf (rest.dropWhile isKeywordChar)⟩

/-- The event that a status line tells of. -/
def event (l : StatusLine) : Event := ⟨Status.ofKeyword l.keyword, l.args⟩

/-- What follows a beginning is found again. -/
@[simp] theorem after?_append (b s : List Char) : after? b (b ++ s) = some s := by
  induction b with
  | nil => simp [after?]
  | cons c b ih => simp [after?, ih]

theorem eq_append_of_after? {b s r : List Char} (h : after? b s = some r) : s = b ++ r := by
  induction b generalizing s with
  | nil => simpa [after?] using h
  | cons c b ih =>
    cases s with
    | nil => simp [after?] at h
    | cons d s =>
      simp only [after?] at h
      split at h
      · next hcd => rw [hcd, ih h, List.cons_append]
      · cases h

/-- A line that is written is read back. -/
theorem ofText?_text (l : StatusLine) (h : isKeyword l.keyword = true) : ofText? l.text = some l := by
  obtain ⟨keyword, args⟩ := l
  have hne : keyword.toList ≠ [] := by rintro h'; simp [isKeyword, h'] at h
  have hk : ∀ c ∈ keyword.toList, isKeywordChar c = true := by
    simpa [isKeyword, hne] using h
  cases args with
  | none =>
    have hr : ∀ c ∈ ([] : List Char).head?, isKeywordChar c = false := by simp
    have := Text.takeWhile_append_of_run hk hr
    simp only [List.append_nil] at this
    simp [ofText?, text, after?_append, this, hne, argsOf]
  | some args =>
    have hr : ∀ c ∈ (' ' :: args.toList).head?, isKeywordChar c = false := by
      simp [isKeywordChar]
    have := Text.takeWhile_append_of_run hk hr
    simp only [ofText?, text, String.toList_append, List.append_assoc, after?_append]
    have hs : " ".toList = [' '] := rfl
    simp [hs, this, hne, argsOf]

end StatusLine

end KeyDialogue
