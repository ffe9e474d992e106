/-
  Key dialogue — what becomes of bytes that are no text.

  * `Begins`, `InvalidPart`: which bytes begin a character, and which part of a sequence
    is invalid.  `Reads` says from these, and from nothing else, what a sequence of bytes
    is read as;
  * `encode_two`, `encode_three`, `encode_four`: within their bounds, bytes are those of
    some character.  So the reader can go on to a character from wherever it is inside
    one (`Completes`), and it goes on as long as what it has read begins one
    (`begins_append_iff`);
  * `reads_iff`: the reader puts one replacement character for every maximal invalid part;
  * `flatMap_lines`: lines end at an ASCII byte, so they can be read one by one;
  * `decoding_by_lines_loses_nothing`: both together.
-/
import KeyDialogue.Proofs.Transmission
import Mathlib.Data.List.Basic
import Mathlib.Data.List.Induction
import Mathlib.Data.Nat.Find

namespace KeyDialogue.Text.Utf8

/-! ## Characters and invalid parts -/

/-- The bytes begin a character. -/
def Begins (p : List UInt8) : Prop := ∃ c, p <+: String.utf8EncodeChar c

/-- No character stands at the front of a sequence.  What stands there is the longest
    part that begins one, or a single byte if none does. -/
structure InvalidPart (part rest : List UInt8) : Prop where
  ne_nil : part ≠ []
  no_char : ∀ c, ¬ String.utf8EncodeChar c <+: part ++ rest
  begins : Begins part ∨ part.length = 1
  maximal : ∀ p, p <+: part ++ rest → Begins p → p.length ≤ part.length

/-- What a sequence of bytes is read as: characters, and one replacement for every
    invalid part. -/
inductive Reads : List UInt8 → List Char → Prop
  | nil : Reads [] []
  | char {rest text} (c : Char) (h : Reads rest text) :
      Reads (String.utf8EncodeChar c ++ rest) (c :: text)
  | invalid {part rest text} (hpart : InvalidPart part rest) (h : Reads rest text) :
      Reads (part ++ rest) (replacement :: text)

theorem Begins.shorten {p q : List UInt8} (h : Begins q) (hp : p <+: q) : Begins p := by
  obtain ⟨c, hc⟩ := h
  exact ⟨c, hp.trans hc⟩

/-! ## Bytes of a character -/

section
variable {b₀ b₁ b₂ b₃ : UInt8}

/-- A byte after the first one of a character, unless the first one rules it out. -/
def IsContinuation (b : UInt8) : Prop := 0x80 ≤ b ∧ b ≤ 0xBF

theorem IsContinuation.toNat_bounds {b : UInt8} (h : IsContinuation b) :
    128 ≤ b.toNat ∧ b.toNat ≤ 191 :=
  ⟨UInt8.le_iff_toNat_le.1 h.1, UInt8.le_iff_toNat_le.1 h.2⟩

theorem val_ofNat {v : Nat} (h : v.isValidChar) : (Char.ofNat v).val.toNat = v := by
  rw [Char.ofNat, dif_pos h]
  rfl

theorem encode_one (h : b₀ < 0x80) : String.utf8EncodeChar (Char.ofNat b₀.toNat) = [b₀] := by
  have hlt : b₀.toNat < 128 := UInt8.lt_iff_toNat_lt.1 h
  simp only [String.utf8EncodeChar, val_ofNat (v := b₀.toNat) (.inl (by omega))]
  rw [if_pos (by omega), UInt8.ofNat_toNat]

theorem encode_two (h₀ : 0xC2 ≤ b₀ ∧ b₀ ≤ 0xDF) (h₁ : IsContinuation b₁) :
    ∃ c, String.utf8EncodeChar c = [b₀, b₁] := by
  have hlo : 194 ≤ b₀.toNat := UInt8.le_iff_toNat_le.1 h₀.1
  have hhi : b₀.toNat ≤ 223 := UInt8.le_iff_toNat_le.1 h₀.2
  have hb₁ := h₁.toNat_bounds
  let v := 64 * (b₀.toNat - 192) + (b₁.toNat - 128)
  have hv : v.isValidChar := .inl (by omega)
  refine ⟨Char.ofNat v, ?_⟩
  simp only [String.utf8EncodeChar, val_ofNat hv]
  rw [if_neg (by omega), if_pos (by omega)]
  simp only [List.cons.injEq, and_true, ← UInt8.toNat_inj, UInt8.toNat_ofNat']
  omega

/-- Three bytes are those of a character unless they are overlong or a surrogate. -/
theorem encode_three (h₀ : 0xE0 ≤ b₀ ∧ b₀ ≤ 0xEF) (h₁ : IsContinuation b₁)
    (h₂ : IsContinuation b₂) (hlong : b₀ = 0xE0 → 0xA0 ≤ b₁) (hsurrogate : b₀ = 0xED → b₁ ≤ 0x9F) :
    ∃ c, String.utf8EncodeChar c = [b₀, b₁, b₂] := by
  have hlo : 224 ≤ b₀.toNat := UInt8.le_iff_toNat_le.1 h₀.1
  have hhi : b₀.toNat ≤ 239 := UInt8.le_iff_toNat_le.1 h₀.2
  have hb₁ := h₁.toNat_bounds
  have hb₂ := h₂.toNat_bounds
  have hleast : b₀.toNat = 224 → 160 ≤ b₁.toNat := fun h =>
    UInt8.le_iff_toNat_le.1 (hlong (UInt8.toNat_inj.1 h))
  have hgreatest : b₀.toNat = 237 → b₁.toNat ≤ 159 := fun h =>
    UInt8.le_iff_toNat_le.1 (hsurrogate (UInt8.toNat_inj.1 h))
  let v := 64 * (64 * (b₀.toNat - 224) + (b₁.toNat - 128)) + (b₂.toNat - 128)
  have hv : v.isValidChar := by
    change v < 0xD800 ∨ 0xDFFF < v ∧ v < 0x110000
    omega
  refine ⟨Char.ofNat v, ?_⟩
  simp only [String.utf8EncodeChar, val_ofNat hv]
  rw [if_neg (by omega), if_neg (by omega), if_pos (by omega)]
  simp only [List.cons.injEq, and_true, ← UInt8.toNat_inj, UInt8.toNat_ofNat']
  omega

/-- Four bytes are those of a character unless they are overlong or too large. -/
theorem encode_four (h₀ : 0xF0 ≤ b₀ ∧ b₀ ≤ 0xF4) (h₁ : IsContinuation b₁)
    (h₂ : IsContinuation b₂) (h₃ : IsContinuation b₃) (hlong : b₀ = 0xF0 → 0x90 ≤ b₁)
    (hlarge : b₀ = 0xF4 → b₁ ≤ 0x8F) : ∃ c, String.utf8EncodeChar c = [b₀, b₁, b₂, b₃] := by
  have hlo : 240 ≤ b₀.toNat := UInt8.le_iff_toNat_le.1 h₀.1
  have hhi : b₀.toNat ≤ 244 := UInt8.le_iff_toNat_le.1 h₀.2
  have hb₁ := h₁.toNat_bounds
  have hb₂ := h₂.toNat_bounds
  have hb₃ := h₃.toNat_bounds
  have hleast : b₀.toNat = 240 → 144 ≤ b₁.toNat := fun h =>
    UInt8.le_iff_toNat_le.1 (hlong (UInt8.toNat_inj.1 h))
  have hgreatest : b₀.toNat = 244 → b₁.toNat ≤ 143 := fun h =>
    UInt8.le_iff_toNat_le.1 (hlarge (UInt8.toNat_inj.1 h))
  let v := 64 * (64 * (64 * (b₀.toNat - 240) + (b₁.toNat - 128)) + (b₂.toNat - 128)) +
    (b₃.toNat - 128)
  have hv : v.isValidChar := .inr (by omega)
  refine ⟨Char.ofNat v, ?_⟩
  simp only [String.utf8EncodeChar, val_ofNat hv]
  rw [if_neg (by omega), if_neg (by omega), if_neg (by omega)]
  simp only [List.cons.injEq, and_true, ← UInt8.toNat_inj, UInt8.toNat_ofNat']
  omega

end

/-! ## The reader inside a character -/

/-- After some bytes of a character, any byte within bounds and then as many
    continuations as are missing complete one. -/
structure Completes (p : List UInt8) (missing : Nat) (low high : UInt8) : Prop where
  low_le_high : low ≤ high
  complete : ∀ b q, low ≤ b → b ≤ high → q.length = missing → (∀ x ∈ q, IsContinuation x) →
    ∃ c, String.utf8EncodeChar c = p ++ b :: q

section
variable {p : List UInt8} {missing : Nat} {low high b : UInt8}

theorem Completes.begins_append (h : Completes p missing low high) (hlow : low ≤ b)
    (hhigh : b ≤ high) : Begins (p ++ [b]) := by
  obtain ⟨c, hc⟩ := h.complete b (List.replicate missing 0x80) hlow hhigh List.length_replicate
    fun x hx => by rw [List.eq_of_mem_replicate hx]; exact ⟨by decide, by decide⟩
  exact ⟨c, List.replicate missing 0x80, by rw [hc, List.append_assoc]; rfl⟩

theorem Completes.begins (h : Completes p missing low high) : Begins p :=
  (h.begins_append (UInt8.le_refl low) h.low_le_high).shorten (List.prefix_append p _)

/-- A byte within bounds leaves one less to be read. -/
theorem Completes.append (h : Completes p (missing + 1) low high) (hlow : low ≤ b)
    (hhigh : b ≤ high) : Completes (p ++ [b]) missing 0x80 0xBF where
  low_le_high := by decide
  complete := fun b' q hb hb' hq hcont => by
    obtain ⟨c, hc⟩ := h.complete b (b' :: q) hlow hhigh (by rw [List.length_cons, hq])
      (List.forall_mem_cons.2 ⟨⟨hb, hb'⟩, hcont⟩)
    exact ⟨c, by rw [hc, List.append_assoc]; rfl⟩

end

namespace Decoder
variable {p q : List UInt8} {missing value : Nat} {low high b : UInt8}

theorem completes_two (h : 0xC2 ≤ b ∧ b ≤ 0xDF) : Completes [b] 0 0x80 0xBF where
  low_le_high := by decide
  complete := fun b₁ q hlow hhigh hq _ => by
    obtain rfl := List.length_eq_zero_iff.1 hq
    exact encode_two h ⟨hlow, hhigh⟩

section
variable (hbounds : 0x80 ≤ low ∧ low ≤ high ∧ high ≤ 0xBF)
include hbounds

theorem completes_three (h : 0xE0 ≤ b ∧ b ≤ 0xEF) (hlong : b = 0xE0 → 0xA0 ≤ low)
    (hsurrogate : b = 0xED → high ≤ 0x9F) : Completes [b] 1 low high where
  low_le_high := hbounds.2.1
  complete := fun b₁ q hlow hhigh hq hcont => by
    obtain ⟨b₂, rfl⟩ := List.length_eq_one_iff.1 hq
    have hb₁ : IsContinuation b₁ :=
      ⟨UInt8.le_trans hbounds.1 hlow, UInt8.le_trans hhigh hbounds.2.2⟩
    exact encode_three h hb₁ (hcont b₂ (by simp)) (fun hb => UInt8.le_trans (hlong hb) hlow)
      fun hb => UInt8.le_trans hhigh (hsurrogate hb)

theorem completes_four (h : 0xF0 ≤ b ∧ b ≤ 0xF4) (hlong : b = 0xF0 → 0x90 ≤ low)
    (hlarge : b = 0xF4 → high ≤ 0x8F) : Completes [b] 2 low high where
  low_le_high := hbounds.2.1
  complete := fun b₁ q hlow hhigh hq hcont => by
    obtain ⟨b₂, b₃, rfl⟩ := List.length_eq_two.1 hq
    have hb₁ : IsContinuation b₁ :=
      ⟨UInt8.le_trans hbounds.1 hlow, UInt8.le_trans hhigh hbounds.2.2⟩
    exact encode_four h hb₁ (hcont b₂ (by simp)) (hcont b₃ (by simp))
      (fun hb => UInt8.le_trans (hlong hb) hlow) fun hb => UInt8.le_trans hhigh (hlarge hb)

end

/-- The bounds that the reader sets after a first byte are met only by characters. -/
theorem completes_first {out : List Char} (h : first b = (inside missing low high value, out)) :
    Completes [b] missing low high := by
  unfold first at h
  split_ifs at h with hone htwo hE0 hED hthree hF0 hfour hF4 <;> cases h
  · exact completes_two htwo
  · subst hE0
    exact completes_three (by decide) (by decide) (fun _ => by decide) (by simp)
  · subst hED
    exact completes_three (by decide) (by decide) (by simp) (fun _ => by decide)
  · exact completes_three (by decide) ⟨UInt8.le_trans (by decide) hthree.1, hthree.2⟩
      (fun hb => absurd hb hE0) fun hb => absurd hb hED
  · subst hF0
    exact completes_four (by decide) (by decide) (fun _ => by decide) (by simp)
  · refine completes_four (by decide)
      ⟨UInt8.le_trans (by decide) hfour.1, UInt8.le_trans hfour.2 (by decide)⟩
      (fun hb => absurd hb hF0) fun hb => ?_
    exact absurd (hb ▸ hfour.2) (by decide)
  · subst hF4
    exact completes_four (by decide) (by decide) (by simp) (fun _ => by decide)

/-- Between characters the reader has given something for what it read last. -/
theorem first_ne_nil (h : (first b).1 = start) : (first b).2 ≠ [] := by
  unfold first at h ⊢
  split_ifs at h ⊢ <;> simp_all

theorem step_ne_nil {d : Decoder} (h : (d.step b).1 = start) : (d.step b).2 ≠ [] := by
  cases d with
  | start => exact first_ne_nil h
  | inside missing low high value =>
    simp only [step] at h ⊢
    split_ifs at h ⊢
    · cases missing with
      | zero => exact List.cons_ne_nil _ _
      | succ n => cases h
    · exact List.cons_ne_nil _ _

theorem run_ne_nil {d : Decoder} {s : List UInt8} (h : (d.run s).1 = start) (hs : s ≠ []) :
    (d.run s).2 ≠ [] := by
  induction s generalizing d with
  | nil => exact absurd rfl hs
  | cons b rest ih =>
    cases rest with
    | nil => simpa [run] using step_ne_nil h
    | cons b' rest => exact List.append_ne_nil_of_right_ne_nil _ (ih h (List.cons_ne_nil _ _))

/-- A byte out of bounds breaks a character off, and is then read on its own. -/
theorem run_of_out_of_bounds (h : ¬ (low ≤ b ∧ b ≤ high)) (rest : List UInt8) :
    (inside missing low high value).run (b :: rest) =
      ((start.run (b :: rest)).1, replacement :: (start.run (b :: rest)).2) := by
  simp only [run, step, if_neg h, List.cons_append]

/-- Inside a character the reader has given nothing for it. -/
theorem run_of_broken_off {c : Char} (h : p ++ q = String.utf8EncodeChar c) (hp : p ≠ [])
    (hq : q ≠ []) : ∃ missing low high value, start.run p = (inside missing low high value, []) := by
  have hrun := run_utf8EncodeChar c
  rw [← h, run_append] at hrun
  obtain ⟨hend, hout⟩ := Prod.mk.inj hrun
  have hlater := run_ne_nil hend hq
  rcases List.append_eq_singleton_iff.1 hout with ⟨hnone, -⟩ | ⟨-, hnil⟩
  · cases hd : (start.run p).1 with
    | start => exact absurd hnone (run_ne_nil hd hp)
    | inside missing low high value => exact ⟨missing, low, high, value, Prod.ext hd hnone⟩
  · exact absurd hnil hlater

/-- From inside a character the reader can go on to the end of one. -/
theorem completes_run (h : start.run p = (inside missing low high value, [])) :
    Completes p missing low high := by
  induction p using List.reverseRecOn generalizing missing low high value with
  | nil => cases h
  | append_singleton p b ih =>
    rw [run_append] at h
    obtain ⟨hend, hout⟩ := Prod.mk.inj h
    obtain ⟨hbefore, hlast⟩ := List.append_eq_nil_iff.1 hout
    cases hd : (start.run p).1 with
    | start =>
      obtain rfl : p = [] := by
        by_contra hp
        exact run_ne_nil hd hp hbefore
      have hfirst : (first b).1 = inside missing low high value := hend
      exact completes_first (Prod.ext hfirst rfl)
    | inside missing' low' high' value' =>
      have hcompletes := ih (Prod.ext hd hbefore)
      rw [hd] at hend hlast
      by_cases hwithin : low' ≤ b ∧ b ≤ high'
      · cases missing' with
        | zero => simp [run, step, hwithin] at hlast
        | succ n =>
          simp only [run, step, hwithin, and_self, if_true] at hend
          cases hend
          exact hcompletes.append hwithin.1 hwithin.2
      · rw [run_of_out_of_bounds hwithin] at hlast
        cases hlast

/-- What the reader has read of a character goes on with the bytes within bounds. -/
theorem begins_append_iff (h : start.run p = (inside missing low high value, [])) :
    Begins (p ++ [b]) ↔ low ≤ b ∧ b ≤ high := by
  constructor
  · rintro ⟨c, q, hq⟩
    by_contra hout
    have hrun := run_utf8EncodeChar c
    rw [← hq, List.append_assoc, run_append, h, List.singleton_append,
      run_of_out_of_bounds hout] at hrun
    obtain ⟨hend, hc⟩ := Prod.mk.inj hrun
    have hnil : (start.run (b :: q)).2 = [] := (List.cons.inj hc).2
    exact run_ne_nil hend (List.cons_ne_nil _ _) hnil
  · rintro ⟨hlow, hhigh⟩
    exact (completes_run h).begins_append hlow hhigh

/-- A byte that begins no character is replaced. -/
theorem first_of_not_begins (h : ¬ Begins [b]) : first b = (start, [replacement]) := by
  have hascii : ¬ b < 0x80 := fun hb =>
    h ⟨Char.ofNat b.toNat, [], by rw [encode_one hb, List.append_nil]⟩
  rcases hfirst : first b with ⟨d, out⟩
  cases d with
  | inside missing low high value => exact absurd (completes_first hfirst).begins h
  | start =>
    unfold first at hfirst
    split_ifs at hfirst <;> simp_all

end Decoder

/-! ## What the reader puts for bytes -/

theorem decodeChars_char_append (c : Char) (rest : List UInt8) :
    decodeChars (String.utf8EncodeChar c ++ rest) = c :: decodeChars rest := by
  simp [decodeChars, Decoder.run_append, Decoder.run_utf8EncodeChar]

/-- For an invalid part the reader puts a replacement, and it starts afresh after it. -/
theorem decodeChars_invalid_append {part rest : List UInt8} (h : InvalidPart part rest) :
    decodeChars (part ++ rest) = replacement :: decodeChars rest := by
  by_cases hbegins : Begins part
  · obtain ⟨c, q, hq⟩ := hbegins
    have hq_ne : q ≠ [] := by
      rintro rfl
      exact h.no_char c ⟨rest, by rw [← hq, List.append_nil]⟩
    obtain ⟨missing, low, high, value, hrun⟩ := Decoder.run_of_broken_off hq h.ne_nil hq_ne
    cases rest with
    | nil =>
      rw [List.append_nil, decodeChars, hrun]
      rfl
    | cons b rest =>
      have hout : ¬ (low ≤ b ∧ b ≤ high) := fun hwithin => by
        have hlonger := h.maximal (part ++ [b]) ⟨rest, List.append_assoc ..⟩
          ((Decoder.begins_append_iff hrun).2 hwithin)
        rw [List.length_append, List.length_singleton] at hlonger
        omega
      simp [decodeChars, Decoder.run_append, hrun, Decoder.run_of_out_of_bounds hout]
  · obtain ⟨b, rfl⟩ := List.length_eq_one_iff.1 (h.begins.resolve_left hbegins)
    have hfirst := Decoder.first_of_not_begins hbegins
    simp [decodeChars, Decoder.run, Decoder.step, hfirst]

/-- Of all that begins a character at the front of bytes, one part is the longest. -/
theorem exists_longest (bytes : List UInt8) :
    ∃ part rest, bytes = part ++ rest ∧ Begins part ∧
      ∀ p, p <+: bytes → Begins p → p.length ≤ part.length := by
  classical
  let n := Nat.findGreatest (fun n => Begins (bytes.take n)) bytes.length
  have hle : n ≤ bytes.length := Nat.findGreatest_le _
  have hbegins : Begins (bytes.take n) :=
    Nat.findGreatest_spec (P := fun n => Begins (bytes.take n)) (Nat.zero_le _)
      ⟨replacement, List.nil_prefix⟩
  refine ⟨bytes.take n, bytes.drop n, (List.take_append_drop n _).symm, hbegins, ?_⟩
  intro p hp hbegins
  rw [List.prefix_iff_eq_take.1 hp] at hbegins
  rw [List.length_take_of_le hle]
  exact Nat.le_findGreatest hp.length_le hbegins

/-- A character or an invalid part stands at the front of any bytes. -/
theorem exists_part {bytes : List UInt8} (h : bytes ≠ []) :
    (∃ c rest, bytes = String.utf8EncodeChar c ++ rest) ∨
      ∃ part rest, bytes = part ++ rest ∧ InvalidPart part rest := by
  by_cases hchar : ∃ c, String.utf8EncodeChar c <+: bytes
  · obtain ⟨c, rest, hrest⟩ := hchar
    exact .inl ⟨c, rest, hrest.symm⟩
  · right
    have hno : ∀ c, ¬ String.utf8EncodeChar c <+: bytes := fun c hc => hchar ⟨c, hc⟩
    obtain ⟨part, rest, rfl, hbegins, hmax⟩ := exists_longest bytes
    by_cases hpart : part = []
    · -- nothing begins a character here, so the first byte is on its own
      subst hpart
      obtain ⟨b, rest, rfl⟩ := List.exists_cons_of_ne_nil h
      exact ⟨[b], rest, rfl, List.cons_ne_nil b [], hno, .inr rfl,
        fun p hp hbegins => Nat.le_succ_of_le (hmax p hp hbegins)⟩
    · exact ⟨part, rest, rfl, hpart, hno, .inl hbegins, hmax⟩

theorem reads_decodeChars (bytes : List UInt8) : Reads bytes (decodeChars bytes) := by
  induction hn : bytes.length using Nat.strong_induction_on generalizing bytes with
  | _ n ih =>
    by_cases hnil : bytes = []
    · subst hnil
      exact .nil
    · rcases exists_part hnil with ⟨c, rest, rfl⟩ | ⟨part, rest, rfl, hpart⟩
      · rw [decodeChars_char_append]
        have hlt : rest.length < n := by
          have hpos := c.utf8Size_pos
          rw [← hn, List.length_append, String.length_utf8EncodeChar]
          omega
        exact .char c (ih _ hlt rest rfl)
      · rw [decodeChars_invalid_append hpart]
        have hlt : rest.length < n := by
          have hpos := List.length_pos_of_ne_nil hpart.ne_nil
          rw [← hn, List.length_append]
          omega
        exact .invalid hpart (ih _ hlt rest rfl)

/-- The reader puts one character for every character, and one replacement for every
    maximal invalid part. -/
theorem reads_iff {bytes : List UInt8} {text : List Char} :
    Reads bytes text ↔ decodeChars bytes = text := by
  constructor
  · intro h
    induction h with
    | nil => rfl
    | char c _ ih => rw [decodeChars_char_append, ih]
    | invalid hpart _ ih => rw [decodeChars_invalid_append hpart, ih]
  · rintro rfl
    exact reads_decodeChars bytes

/-- A character that is broken off, by a line feed or by the end, is a single part. -/
example : decodeChars [0xE2, 0x82, 0x0A, 0x41, 0xF0, 0x9F, 0x98] =
    [replacement, '\n', 'A', replacement] := rfl

/-! ## Reading line by line -/

/-- Lines can be read one by one. -/
theorem flatMap_lines (bytes : List UInt8) :
    (Wire.lines bytes).flatMap decodeChars = decodeChars bytes := by
  induction hn : bytes.length using Nat.strong_induction_on generalizing bytes with
  | _ n ih =>
    by_cases hmem : Wire.newline ∈ bytes
    · obtain ⟨line, rest, rfl, hline⟩ := List.eq_append_cons_of_mem hmem
      have hlt : rest.length < n := by
        rw [← hn, List.length_append, List.length_cons]
        omega
      have hcut : Wire.lines (line ++ Wire.newline :: rest) =
          (line ++ [Wire.newline]) :: Wire.lines rest :=
        pieces_append_cons (Wire.isEnd_newline_of_not_mem hline) rfl rest
      have hascii : Wire.newline < 0x80 := by decide
      rw [hcut, List.flatMap_cons, ih _ hlt rest rfl, decodeChars_append_cons _ _ hascii,
        decodeChars_append_cons _ _ hascii, List.append_assoc]
      rfl
    · by_cases hnil : bytes = []
      · subst hnil
        rfl
      · have hone : Wire.lines bytes = [bytes] :=
          pieces_of_run (Wire.isEnd_newline_of_not_mem hmem) hnil
        rw [hone, List.flatMap_singleton]

/-- **Decoding by lines loses nothing.**  Whatever the bytes, cutting them after every
    line feed and reading each line for itself gives what reading them as a whole gives.
    This is one character for every character that the bytes encode and one replacement
    for every maximal invalid part, be it at the end of a line or of all.  What encodes a
    text is read as that text. -/
theorem decoding_by_lines_loses_nothing (bytes : List UInt8) :
    String.join ((Wire.lines bytes).map decode) = decode bytes ∧
      (∀ text, Reads bytes text ↔ decodeChars bytes = text) ∧
      ∀ text : String, decode (encode text) = text := by
  refine ⟨?_, fun text => reads_iff, fun text => ?_⟩
  · rw [← String.toList_inj, String.toList_join, List.flatMap_map]
    simp only [decode, String.toList_ofList]
    exact flatMap_lines bytes
  · rw [decode, decodeChars_encode, String.ofList_toList]

end KeyDialogue.Text.Utf8
