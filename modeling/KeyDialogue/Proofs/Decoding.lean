/-
  Key dialogue — what bytes are read as.

  * The reader never waits for an ASCII byte inside a character
    (`Decoder.Waits`), so such a byte stands for itself wherever it comes, and
    breaks off a character that is not complete (`Decoder.step_of_ascii`).  So
    bytes can be cut at it: `decodeChars_append_cons`;
  * `Decoder.run_two`, `run_three`, `run_four`: the reader over the bytes of one
    character, by their number.  The bounds of the second byte rule out overlong
    forms and surrogates; a character has neither (`continues_three`,
    `continues_four`);
  * `decodeChars_encode`: a text that is written is read back.
-/
import KeyDialogue.Text.Utf8
import Mathlib.Tactic.SplitIfs

namespace KeyDialogue.Text.Utf8

/-! ## ASCII bytes -/

namespace Decoder

/-- The reader waits for a byte that is not ASCII, if it waits at all. -/
def Waits : Decoder → Prop
  | start => True
  | inside _ low _ _ => 0x80 ≤ low

theorem waits_start : start.Waits := trivial

theorem waits_first (b : UInt8) : (first b).1.Waits := by
  unfold first
  split_ifs <;> simp [Waits]

theorem waits_step (d : Decoder) (b : UInt8) : (d.step b).1.Waits := by
  cases d with
  | start => exact waits_first b
  | inside missing low high value =>
    simp only [step]
    split
    · split <;> simp [Waits]
    · exact waits_first b

theorem waits_run {d : Decoder} (h : d.Waits) (s : List UInt8) : (d.run s).1.Waits := by
  induction s generalizing d with
  | nil => exact h
  | cons b rest ih => exact ih (d.waits_step b)

/-- An ASCII byte stands for itself. -/
theorem first_of_ascii {b : UInt8} (h : b < 0x80) : first b = (start, [Char.ofNat b.toNat]) := by
  simp [first, h]

/-- An ASCII byte breaks off a character, as the end of the input does, and stands
    for itself. -/
theorem step_of_ascii {d : Decoder} (hd : d.Waits) {b : UInt8} (h : b < 0x80) :
    d.step b = (start, d.finish ++ [Char.ofNat b.toNat]) := by
  cases d with
  | start => exact first_of_ascii h
  | inside missing low high value =>
    have hlow : ¬ low ≤ b := UInt8.not_le.2 (UInt8.lt_of_lt_of_le h hd)
    simp [step, hlow, first_of_ascii h, finish]

end Decoder

/-- Bytes can be cut at an ASCII byte. -/
theorem decodeChars_append_cons (s t : List UInt8) {b : UInt8} (h : b < 0x80) :
    decodeChars (s ++ b :: t) = decodeChars s ++ Char.ofNat b.toNat :: decodeChars t := by
  have hwaits := Decoder.waits_run Decoder.waits_start s
  simp [decodeChars, Decoder.run_append, Decoder.run, Decoder.step_of_ascii hwaits h]

@[simp] theorem decodeChars_nil : decodeChars [] = [] := rfl

/-- ASCII bytes at the end stand for themselves. -/
theorem decodeChars_append_of_ascii (s : List UInt8) {t : List UInt8} (h : ∀ b ∈ t, b < 0x80) :
    decodeChars (s ++ t) = decodeChars s ++ t.map fun b => Char.ofNat b.toNat := by
  induction t generalizing s with
  | nil => simp
  | cons b rest ih =>
    have hb : b < 0x80 := h b (List.mem_cons_self ..)
    have hrest := ih [] fun b' hb' => h b' (List.mem_cons_of_mem _ hb')
    rw [decodeChars_append_cons s rest hb, List.map_cons]
    simpa using hrest

/-! ## The bytes of a character -/

namespace Decoder
variable {n m k l value : Nat} {low high : UInt8}

theorem run_cons_of_step {d d' : Decoder} {b : UInt8} {out : List Char}
    (h : d.step b = (d', out)) (rest : List UInt8) :
    d.run (b :: rest) = ((d'.run rest).1, out ++ (d'.run rest).2) := by
  simp only [run, h]

/-! ### The first byte -/

theorem step_of_two (hlo : 2 ≤ n) (hhi : n < 32) :
    start.step (UInt8.ofNat (n + 192)) = (inside 0 0x80 0xBF n, []) := by
  have h : ∀ n < 32, 2 ≤ n → start.step (UInt8.ofNat (n + 192)) = (inside 0 0x80 0xBF n, []) := by
    decide
  exact h n hhi hlo

/-- The least and the greatest byte after the first one of three. -/
def boundsOfThree (n : Nat) : UInt8 × UInt8 :=
  (if n = 0 then 0xA0 else 0x80, if n = 13 then 0x9F else 0xBF)

theorem step_of_three (h : n < 16) :
    start.step (UInt8.ofNat (n + 224)) =
      (inside 1 (boundsOfThree n).1 (boundsOfThree n).2 n, []) := by
  revert n; decide

/-- The least and the greatest byte after the first one of four. -/
def boundsOfFour (n : Nat) : UInt8 × UInt8 :=
  (if n = 0 then 0x90 else 0x80, if n = 4 then 0x8F else 0xBF)

theorem step_of_four (h : n < 5) :
    start.step (UInt8.ofNat (n + 240)) =
      (inside 2 (boundsOfFour n).1 (boundsOfFour n).2 n, []) := by
  revert n; decide

/-! ### The bytes after it -/

/-- Six bits make a byte within bounds that continues a character. -/
structure Continues (low high : UInt8) (m : Nat) : Prop where
  lt : m < 64
  low_le : low.toNat ≤ m + 128
  le_high : m + 128 ≤ high.toNat

theorem continues_of_lt (h : m < 64) : Continues 0x80 0xBF m where
  lt := h
  low_le := Nat.le_add_left 128 m
  le_high := Nat.le_of_lt_succ (Nat.add_lt_add_right h 128)

section
variable (h : Continues low high m)
include h

theorem toNat_continuation : (UInt8.ofNat (m + 128)).toNat = m + 128 := by
  have := h.lt
  rw [UInt8.toNat_ofNat']; omega

theorem continuation_within : low ≤ UInt8.ofNat (m + 128) ∧ UInt8.ofNat (m + 128) ≤ high := by
  rw [UInt8.le_iff_toNat_le, UInt8.le_iff_toNat_le, toNat_continuation h]
  exact ⟨h.low_le, h.le_high⟩

theorem step_more (missing : Nat) :
    (inside (missing + 1) low high value).step (UInt8.ofNat (m + 128)) =
      (inside missing 0x80 0xBF (64 * value + m), []) := by
  simp only [step, continuation_within h, and_self, if_true, toNat_continuation h,
    Nat.add_sub_cancel]

theorem step_last :
    (inside 0 low high value).step (UInt8.ofNat (m + 128)) =
      (start, [Char.ofNat (64 * value + m)]) := by
  simp only [step, continuation_within h, and_self, if_true, toNat_continuation h,
    Nat.add_sub_cancel]

end

/-! ### All bytes -/

theorem run_two (hlo : 2 ≤ n) (hhi : n < 32) (hm : m < 64) :
    start.run [UInt8.ofNat (n + 192), UInt8.ofNat (m + 128)] =
      (start, [Char.ofNat (64 * n + m)]) := by
  rw [run_cons_of_step (step_of_two hlo hhi), run_cons_of_step (step_last (continues_of_lt hm))]
  rfl

theorem run_three (hn : n < 16) (hm : Continues (boundsOfThree n).1 (boundsOfThree n).2 m)
    (hk : k < 64) :
    start.run [UInt8.ofNat (n + 224), UInt8.ofNat (m + 128), UInt8.ofNat (k + 128)] =
      (start, [Char.ofNat (64 * (64 * n + m) + k)]) := by
  rw [run_cons_of_step (step_of_three hn), run_cons_of_step (step_more hm 0),
    run_cons_of_step (step_last (continues_of_lt hk))]
  rfl

theorem run_four (hn : n < 5) (hm : Continues (boundsOfFour n).1 (boundsOfFour n).2 m)
    (hk : k < 64) (hl : l < 64) :
    start.run [UInt8.ofNat (n + 240), UInt8.ofNat (m + 128), UInt8.ofNat (k + 128),
        UInt8.ofNat (l + 128)] =
      (start, [Char.ofNat (64 * (64 * (64 * n + m) + k) + l)]) := by
  rw [run_cons_of_step (step_of_four hn), run_cons_of_step (step_more hm 1),
    run_cons_of_step (step_more (continues_of_lt hk) 0),
    run_cons_of_step (step_last (continues_of_lt hl))]
  rfl

/-! ### Neither overlong nor a surrogate -/

section
variable {v : Nat} (hv : v.isValidChar)
include hv

theorem continues_three (hlo : 0x7FF < v) (hhi : v ≤ 0xFFFF) :
    Continues (boundsOfThree (v / 4096)).1 (boundsOfThree (v / 4096)).2 (v / 64 % 64) where
  lt := Nat.mod_lt _ (by decide)
  low_le := by
    simp only [boundsOfThree]
    split
    · change 160 ≤ _; omega
    · exact Nat.le_add_left 128 _
  le_high := by
    have hv : v < 0xD800 ∨ 0xDFFF < v ∧ v < 0x110000 := hv
    simp only [boundsOfThree]
    split
    · change _ ≤ 159; omega
    · change _ ≤ 191; omega

theorem continues_four (hlo : 0xFFFF < v) :
    Continues (boundsOfFour (v / 262144)).1 (boundsOfFour (v / 262144)).2 (v / 4096 % 64) where
  lt := Nat.mod_lt _ (by decide)
  low_le := by
    simp only [boundsOfFour]
    split
    · change 144 ≤ _; omega
    · exact Nat.le_add_left 128 _
  le_high := by
    have hv : v < 0xD800 ∨ 0xDFFF < v ∧ v < 0x110000 := hv
    simp only [boundsOfFour]
    split
    · change _ ≤ 143; omega
    · change _ ≤ 191; omega

end

/-- The bytes of a character are read as that character. -/
theorem run_utf8EncodeChar (c : Char) : start.run (String.utf8EncodeChar c) = (start, [c]) := by
  have hvalid : c.toNat.isValidChar := c.valid
  have hbound : c.toNat < 0xD800 ∨ 0xDFFF < c.toNat ∧ c.toNat < 0x110000 := hvalid
  have hc : Char.ofNat c.toNat = c := Char.ofNat_toNat c
  have hcode : c.val.toNat = c.toNat := rfl
  simp only [String.utf8EncodeChar, hcode]
  generalize c.toNat = v at hvalid hbound hc
  split_ifs with hone htwo hthree
  · have hb : (UInt8.ofNat v).toNat = v := by rw [UInt8.toNat_ofNat']; omega
    have hascii : UInt8.ofNat v < 0x80 := by
      rw [UInt8.lt_iff_toNat_lt, hb]; exact Nat.lt_succ_of_le hone
    rw [run_cons_of_step (step_of_ascii waits_start hascii), hb, hc]
    rfl
  · have hn : v / 64 % 32 = v / 64 := by omega
    have hv : 64 * (v / 64) + v % 64 = v := by omega
    rw [hn, run_two (by omega) (by omega) (by omega), hv, hc]
  · have hn : v / 4096 % 16 = v / 4096 := by omega
    have hv : 64 * (64 * (v / 4096) + v / 64 % 64) + v % 64 = v := by omega
    rw [hn, run_three (by omega) (continues_three hvalid (by omega) hthree) (by omega), hv, hc]
  · have hn : v / 262144 % 8 = v / 262144 := by omega
    have hv : 64 * (64 * (64 * (v / 262144) + v / 4096 % 64) + v / 64 % 64) + v % 64 = v := by
      omega
    rw [hn, run_four (by omega) (continues_four hvalid (by omega)) (by omega) (by omega), hv, hc]

end Decoder

/-! ## Texts -/

theorem run_encode (s : List Char) :
    Decoder.start.run (s.flatMap String.utf8EncodeChar) = (.start, s) := by
  induction s with
  | nil => rfl
  | cons c rest ih =>
    rw [List.flatMap_cons, Decoder.run_append, Decoder.run_utf8EncodeChar, ih]
    rfl

/-- A text that is written is read back. -/
theorem decodeChars_encode (s : String) : decodeChars (encode s) = s.toList := by
  simp [decodeChars, encode, run_encode, Decoder.finish]

/-- An ASCII byte of a written text is a character of the text. -/
theorem mem_toList_of_mem_encode {s : String} {b : UInt8} (hb : b ∈ encode s) (h : b < 0x80) :
    Char.ofNat b.toNat ∈ s.toList := by
  obtain ⟨before, after, heq⟩ := List.append_of_mem hb
  -- what is read back can be cut at the byte
  rw [← decodeChars_encode, heq, decodeChars_append_cons before after h]
  simp

end KeyDialogue.Text.Utf8
