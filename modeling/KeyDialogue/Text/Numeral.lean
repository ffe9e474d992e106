/-
  Key dialogue — decimal numerals in ASCII digits.

  * `numeral` writes a natural number, and `digitsValue` is what digits stand
    for, however many;
  * `readBounded` reads the numeral of a bounded unsigned number, with one
    optional plus sign, and says why a text is none: the first character that
    is no digit or makes the number too large decides;
  * `isDigit` and `isHexDigit` are the ASCII classes that announcements use.
-/
namespace KeyDialogue.Text

/-- An ASCII digit. -/
def isDigit (c : Char) : Bool := '0' ≤ c && c ≤ '9'

/-- An ASCII hexadecimal digit of either case. -/
def isHexDigit (c : Char) : Bool :=
  isDigit c || ('a' ≤ c && c ≤ 'f') || ('A' ≤ c && c ≤ 'F')

/-- The value of an ASCII digit. -/
def digitValue (c : Char) : Nat := c.toNat - '0'.toNat

/-- The number that a sequence of digits stands for. -/
def digitsValue (s : List Char) : Nat := s.foldl (fun n c => 10 * n + digitValue c) 0

/-- A natural number in decimal, without leading zeros. -/
def numeral (n : Nat) : String := String.ofList (Nat.toDigits 10 n)

/-- Why a text is not the numeral of a bounded number. -/
inductive NumeralFault where
  /-- There is no text at all. -/
  | empty
  /-- A character is no digit, or a sign stands alone. -/
  | invalidDigit
  /-- The number exceeds its bound. -/
  | tooLarge
  deriving DecidableEq, Repr

/-- The wording of a numeral's fault. -/
def NumeralFault.message : NumeralFault → String
  | .empty => "cannot parse integer from empty string"
  | .invalidDigit => "invalid digit found in string"
  | .tooLarge => "number too large to fit in target type"

/-- Continues to read a number that has reached `n`, up to `bound`. -/
def readDigits (bound : Nat) : Nat → List Char → Except NumeralFault Nat
  | n, [] => .ok n
  | n, c :: rest =>
    if !isDigit c then .error .invalidDigit
    else
      let m := 10 * n + digitValue c
      if m ≤ bound then readDigits bound m rest else .error .tooLarge

/-- The number that a text writes, if it is at most `bound`; a single plus
    sign may precede the digits. -/
def readBounded (bound : Nat) (s : String) : Except NumeralFault Nat :=
  match s.toList with
  | [] => .error .empty
  | ['+'] => .error .invalidDigit
  | '+' :: rest => readDigits bound 0 rest
  | chars => readDigits bound 0 chars

/-- No two numbers share a numeral. -/
theorem numeral_inj {m n : Nat} : numeral m = numeral n ↔ m = n := by
  refine ⟨fun h => ?_, fun h => h ▸ rfl⟩
  have hdigits : Nat.toDigits 10 m = Nat.toDigits 10 n := String.ofList_injective h
  calc
    m = Nat.ofDigitChars 10 (Nat.toDigits 10 m) 0 := Nat.ofDigitChars_ten_toDigits.symm
    _ = Nat.ofDigitChars 10 (Nat.toDigits 10 n) 0 := by rw [hdigits]
    _ = n := Nat.ofDigitChars_ten_toDigits

end KeyDialogue.Text
