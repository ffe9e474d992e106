/-
  Key dialogue — text as UTF-8 bytes.

  * `encode` writes a text;
  * `decode` reads any sequence of bytes: what is no UTF-8 becomes the
    replacement character, one for each maximal invalid part, that is, for each
    longest run of bytes that begins a character but is broken off, and for
    each byte that can begin none.

  The reader is a machine (`Decoder`) that consumes one byte at a time, so a
  sequence can be read in parts: `Decoder.run_append`.
-/
namespace KeyDialogue.Text.Utf8

/-- The bytes of a text. -/
def encode (s : String) : List UInt8 := s.toList.flatMap String.utf8EncodeChar

/-- Stands for bytes that are no character. -/
def replacement : Char := '\ufffd'

/-- Where the reader stands between two bytes: between characters, or inside
    one that still needs `missing + 1` bytes, the next of them from `low` to
    `high`, after leading bytes worth `value`. -/
inductive Decoder where
  | start
  | inside (missing : Nat) (low high : UInt8) (value : Nat)
  deriving DecidableEq, Repr

namespace Decoder

/-- Reads a byte between characters. -/
def first (b : UInt8) : Decoder × List Char :=
  if b < 0x80 then (.start, [Char.ofNat b.toNat])
  else if 0xC2 ≤ b ∧ b ≤ 0xDF then (.inside 0 0x80 0xBF (b.toNat - 0xC0), [])
  else if b = 0xE0 then (.inside 1 0xA0 0xBF 0, [])
  else if b = 0xED then (.inside 1 0x80 0x9F 0xD, [])
  else if 0xE1 ≤ b ∧ b ≤ 0xEF then (.inside 1 0x80 0xBF (b.toNat - 0xE0), [])
  else if b = 0xF0 then (.inside 2 0x90 0xBF 0, [])
  else if 0xF1 ≤ b ∧ b ≤ 0xF3 then (.inside 2 0x80 0xBF (b.toNat - 0xF0), [])
  else if b = 0xF4 then (.inside 2 0x80 0x8F 4, [])
  else (.start, [replacement])

/-- Reads one byte.  A byte that cannot continue a character ends it as an
    invalid part, and is then read on its own. -/
def step : Decoder → UInt8 → Decoder × List Char
  | .start, b => first b
  | .inside missing low high value, b =>
    if low ≤ b ∧ b ≤ high then
      let value := 64 * value + (b.toNat - 0x80)
      match missing with
      | 0 => (.start, [Char.ofNat value])
      | n + 1 => (.inside n 0x80 0xBF value, [])
    else
      let (d, out) := first b
      (d, replacement :: out)

/-- What the end of the input adds: a character broken off is an invalid part. -/
def finish : Decoder → List Char
  | .start => []
  | .inside .. => [replacement]

/-- Reads bytes in order. -/
def run : Decoder → List UInt8 → Decoder × List Char
  | d, [] => (d, [])
  | d, b :: rest =>
    let (d₁, out₁) := d.step b
    let (d₂, out₂) := d₁.run rest
    (d₂, out₁ ++ out₂)

/-- Reading in two parts is reading in one. -/
theorem run_append (d : Decoder) (s t : List UInt8) :
    d.run (s ++ t) = (((d.run s).1.run t).1, (d.run s).2 ++ ((d.run s).1.run t).2) := by
  induction s generalizing d with
  | nil => simp [run]
  | cons b rest ih => simp [run, ih]

end Decoder

/-- The characters that bytes stand for. -/
def decodeChars (bytes : List UInt8) : List Char :=
  let (d, out) := Decoder.start.run bytes
  out ++ d.finish

/-- The text that bytes stand for. -/
def decode (bytes : List UInt8) : String := String.ofList (decodeChars bytes)

end KeyDialogue.Text.Utf8
