/-
  Key dialogue — blanks: the characters with the Unicode property `White_Space`,
  and the removal of blanks at either end of a text.

  * `isBlank` is the property itself, given by its ranges;
  * `trimStart` and `trimEnd` remove the blanks before and after a text, and
    nothing else: what they leave starts, or ends, with no blank.
-/
namespace KeyDialogue.Text

/-- The property `White_Space`: the ASCII blanks, next line, no-break space,
    and the spaces and separators of the other blocks. -/
def isBlank (c : Char) : Bool :=
  let n := c.toNat
  (0x09 ≤ n && n ≤ 0x0D) || n == 0x20 || n == 0x85 || n == 0xA0 || n == 0x1680 ||
    (0x2000 ≤ n && n ≤ 0x200A) || n == 0x2028 || n == 0x2029 || n == 0x202F ||
    n == 0x205F || n == 0x3000

/-- The text without its leading blanks. -/
def trimStart (s : List Char) : List Char := s.dropWhile isBlank

/-- The text without its trailing blanks. -/
def trimEnd (s : List Char) : List Char := (s.reverse.dropWhile isBlank).reverse

@[simp] theorem trimEnd_nil : trimEnd [] = [] := rfl

/-- A trailing blank is dropped. -/
theorem trimEnd_concat_of_isBlank (s : List Char) {c : Char} (h : isBlank c = true) :
    trimEnd (s ++ [c]) = trimEnd s := by
  simp [trimEnd, h]

/-- A text that ends in no blank is left alone. -/
theorem trimEnd_concat_of_not_isBlank (s : List Char) {c : Char} (h : isBlank c = false) :
    trimEnd (s ++ [c]) = s ++ [c] := by
  simp [trimEnd, h]

end KeyDialogue.Text
