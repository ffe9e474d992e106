/-
  Key dialogue — quoted text, as trace messages show it.

  A quoted text stands between double quotes.  Inside, a quote, a backslash,
  and the characters that do not show are escaped; all else is written as it
  is, the apostrophe included.
-/
import KeyDialogue.Text.Graphic

namespace KeyDialogue.Text

/-- One character inside quotes. -/
def escape (c : Char) : String :=
  match c with
  | '"' => "\\\""
  | '\\' => "\\\\"
  | '\n' => "\\n"
  | '\t' => "\\t"
  | '\r' => "\\r"
  | '\x00' => "\\0"
  | c =>
    if shows c then String.ofList [c]
    else "\\u\x7b" ++ String.ofList (Nat.toDigits 16 c.toNat) ++ "\x7d"

/-- A text between double quotes. -/
def quote (s : String) : String := "\"" ++ String.join (s.toList.map escape) ++ "\""

/-- A text that may be absent, as trace messages show it. -/
def quoteOption : Option String → String
  | none => "None"
  | some s => "Some(" ++ quote s ++ ")"

end KeyDialogue.Text
