/-
  Key dialogue — dates as text, year-month-day.

  * `Date.text` writes a date: the year has four digits, or a sign and at least
    four when it is negative or above 9999; month and day have two;
  * `Date.ofText?` reads a date.  It is more lenient than the writer: blanks may
    precede each number, numbers may be shorter, and the year may have a sign,
    after which it takes any number of digits.  A year out of `Date.yearRange`
    is no date.
-/
import KeyDialogue.Calendar.Date
import KeyDialogue.Text.Blank
import KeyDialogue.Text.Numeral

namespace KeyDialogue

open KeyDialogue.Text

namespace Date

/-- The least and the greatest year that can be read. -/
def yearRange : Int × Int := (-262143, 262142)

/-! ## Writing -/

/-- The digits of a number, filled up with leading zeros. -/
def padded (width n : Nat) : List Char :=
  let digits := Nat.toDigits 10 n
  List.replicate (width - digits.length) '0' ++ digits

/-- The year as text. -/
def yearText (year : Int) : List Char :=
  if year < 0 then '-' :: padded 4 year.natAbs
  else if 9999 < year then '+' :: padded 4 year.natAbs
  else padded 4 year.natAbs

/-- The date as text. -/
def text (d : Date) : String :=
  String.ofList (yearText d.year ++ '-' :: padded 2 d.month ++ '-' :: padded 2 d.day)

/-! ## Reading -/

/-- Reads a number of at least one digit and at most `width`; gives the number
    and the rest of the text. -/
def readNumber (width : Nat) (s : List Char) : Option (Nat × List Char) :=
  let digits := (s.take width).takeWhile isDigit
  if digits = [] then none else some (digitsValue digits, s.drop digits.length)

/-- Reads the year. -/
def readYear (s : List Char) : Option (Int × List Char) :=
  match trimStart s with
  | '-' :: rest => (readNumber rest.length rest).map fun (n, r) => (-(n : Int), r)
  | '+' :: rest => (readNumber rest.length rest).map fun (n, r) => ((n : Int), r)
  | rest => (readNumber 4 rest).map fun (n, r) => ((n : Int), r)

/-- Reads a hyphen and then a number of one or two digits. -/
def readPart : List Char → Option (Nat × List Char)
  | '-' :: rest => readNumber 2 (trimStart rest)
  | _ => none

/-- The date that a text writes. -/
def ofText? (s : String) : Option Date :=
  match readYear s.toList with
  | none => none
  | some (year, afterYear) =>
    match readPart afterYear with
    | none => none
    | some (month, afterMonth) =>
      match readPart afterMonth with
      | some (day, []) =>
        if yearRange.1 ≤ year ∧ year ≤ yearRange.2 then ofParts? year month day else none
      | _ => none

end Date

end KeyDialogue
