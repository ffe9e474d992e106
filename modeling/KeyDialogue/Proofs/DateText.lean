/-
  Key dialogue — dates as they are read and as they are sent.

  * `Date.Spells`: the form of a date as text is three numbers with hyphens between them,
    blanks before each number, and perhaps a sign before the year.  A year without a sign
    has at most four digits, a month and a day have at most two;
  * `Date.ofText?_eq_some_iff`: what is read of a text is the date that it spells, if its
    year is not out of range; a text of any other form, or of no date, is not read;
  * `Date.spells_text`: what is written spells the date, so it is read as that date;
  * `dates_are_read_as_sent`: so the command line and the backend understand each other.
-/
import KeyDialogue.CommandLine.Value
import KeyDialogue.Proofs.Announcement
import KeyDialogue.Proofs.Progress

namespace KeyDialogue

open KeyDialogue.Text KeyDialogue.CommandLine

namespace Text

/-- A text of blanks only; it may be empty. -/
def Blanks (gap : List Char) : Prop := ∀ c ∈ gap, isBlank c = true

/-- Blanks before a text that begins with none are taken away. -/
theorem trimStart_append {gap s : List Char} (hgap : Blanks gap) (hs : Stops isBlank s) :
    trimStart (gap ++ s) = s :=
  (takeWhile_append_of_run hgap hs).2

theorem exists_append_trimStart (s : List Char) : ∃ gap, s = gap ++ trimStart s ∧ Blanks gap :=
  ⟨s.takeWhile isBlank, List.takeWhile_append_dropWhile.symm, fun _ => List.mem_takeWhile_imp⟩

theorem toNat_of_isDigit {c : Char} (h : isDigit c = true) : 48 ≤ c.toNat ∧ c.toNat ≤ 57 := by
  simpa [isDigit, Char.le_def, UInt32.le_iff_toNat_le] using h

theorem isDigit_apart_isBlank : Apart isDigit isBlank := by
  intro c h
  have hcode := toNat_of_isDigit h
  simp only [isBlank, Bool.or_eq_false_iff, Bool.and_eq_false_iff, decide_eq_false_iff_not,
    beq_eq_false_iff_ne]
  omega

end Text

namespace Date

/-! ## The form of a date -/

/-- A text writes a year: a word of digits, with or without a sign.  Without a sign it has at
    most four of them. -/
inductive YearText (year : Int) : List Char → Prop where
  | unsigned {digits : List Char} (hword : Word isDigit digits) (hlength : digits.length ≤ 4)
    (hvalue : digitsValue digits = year) : YearText year digits
  | plus {digits : List Char} (hword : Word isDigit digits)
    (hvalue : digitsValue digits = year) : YearText year ('+' :: digits)
  | minus {digits : List Char} (hword : Word isDigit digits)
    (hvalue : -(digitsValue digits : Int) = year) : YearText year ('-' :: digits)

/-- A text writes a month or a day: a word of one or two digits. -/
structure PartText (n : Nat) (digits : List Char) : Prop where
  word : Word isDigit digits
  length_le : digits.length ≤ 2
  value : digitsValue digits = n

/-- A text spells a date: year, month and day with hyphens between them, and blanks before
    each. -/
def Spells (d : Date) (text : String) : Prop :=
  ∃ gap₁ year gap₂ month gap₃ day : List Char,
    text.toList = gap₁ ++ (year ++ '-' :: (gap₂ ++ (month ++ '-' :: (gap₃ ++ day)))) ∧
    (Blanks gap₁ ∧ Blanks gap₂ ∧ Blanks gap₃) ∧
    YearText d.year year ∧ PartText d.month month ∧ PartText d.day day

/-- The year of a date can be read. -/
def InRange (d : Date) : Prop := yearRange.1 ≤ d.year ∧ d.year ≤ yearRange.2

/-! ## Reading -/

section
variable {width n : Nat} {year : Int} {s digits rest : List Char}

theorem of_readNumber (h : readNumber width s = some (n, rest)) :
    ∃ digits, s = digits ++ rest ∧ Word isDigit digits ∧ digits.length ≤ width ∧
      digitsValue digits = n := by
  simp only [readNumber] at h
  split at h
  · cases h
  · next hne =>
    obtain ⟨rfl, rfl⟩ := Prod.mk.inj (Option.some.inj h)
    have hprefix : (s.take width).takeWhile isDigit <+: s :=
      (List.takeWhile_prefix _).trans (List.take_prefix _ _)
    refine ⟨_, (List.prefix_iff_eq_append.1 hprefix).symm,
      ⟨hne, fun _ => List.mem_takeWhile_imp⟩, ?_, rfl⟩
    exact (List.takeWhile_prefix _).length_le.trans (List.length_take_le ..)

/-- A word of digits is read as a whole, if it is not too long and the text does not go on
    with a digit. -/
theorem readNumber_append (hword : Word isDigit digits) (hlength : digits.length ≤ width)
    (hrest : Stops isDigit rest) :
    readNumber width (digits ++ rest) = some (digitsValue digits, rest) := by
  obtain ⟨hne, hdigits⟩ := hword
  have hstops : Stops isDigit (rest.take (width - digits.length)) := by
    intro c hc
    rw [List.head?_take] at hc
    split at hc
    · cases hc
    · exact hrest c hc
  have htake : ((digits ++ rest).take width).takeWhile isDigit = digits := by
    rw [List.take_append, List.take_of_length_le hlength]
    exact (takeWhile_append_of_run hdigits hstops).1
  simp [readNumber, htake, hne]

theorem of_readPart (h : readPart s = some (n, rest)) :
    ∃ gap digits, s = '-' :: (gap ++ (digits ++ rest)) ∧ Blanks gap ∧ PartText n digits := by
  unfold readPart at h
  split at h
  · next rest' =>
    obtain ⟨digits, htrim, hword, hlength, hvalue⟩ := of_readNumber h
    obtain ⟨gap, hgap, hblank⟩ := exists_append_trimStart rest'
    exact ⟨gap, digits, by rw [← htrim, ← hgap], hblank, hword, hlength, hvalue⟩
  · cases h

theorem readPart_append {gap : List Char} (hgap : Blanks gap) (hpart : PartText n digits)
    (hrest : Stops isDigit rest) :
    readPart ('-' :: (gap ++ (digits ++ rest))) = some (n, rest) := by
  rw [readPart, trimStart_append hgap (hpart.word.stops isDigit_apart_isBlank rest),
    readNumber_append hpart.word hpart.length_le hrest, hpart.value]

theorem of_readYear (h : readYear s = some (year, rest)) :
    ∃ gap text, s = gap ++ (text ++ rest) ∧ Blanks gap ∧ YearText year text := by
  obtain ⟨gap, hgap, hblank⟩ := exists_append_trimStart s
  unfold readYear at h
  split at h
  · next r hr =>
    obtain ⟨⟨n, _⟩, hnumber, hpair⟩ := Option.map_eq_some_iff.1 h
    obtain ⟨rfl, rfl⟩ := Prod.mk.inj hpair
    obtain ⟨digits, rfl, hword, -, rfl⟩ := of_readNumber hnumber
    exact ⟨gap, '-' :: digits, by rw [hgap, hr]; rfl, hblank, .minus hword rfl⟩
  · next r hr =>
    obtain ⟨⟨n, _⟩, hnumber, hpair⟩ := Option.map_eq_some_iff.1 h
    obtain ⟨rfl, rfl⟩ := Prod.mk.inj hpair
    obtain ⟨digits, rfl, hword, -, rfl⟩ := of_readNumber hnumber
    exact ⟨gap, '+' :: digits, by rw [hgap, hr]; rfl, hblank, .plus hword rfl⟩
  · obtain ⟨⟨n, _⟩, hnumber, hpair⟩ := Option.map_eq_some_iff.1 h
    obtain ⟨rfl, rfl⟩ := Prod.mk.inj hpair
    obtain ⟨digits, htrim, hword, hlength, rfl⟩ := of_readNumber hnumber
    exact ⟨gap, digits, by rw [← htrim, ← hgap], hblank, .unsigned hword hlength rfl⟩

theorem readYear_append {gap text : List Char} (hgap : Blanks gap) (hyear : YearText year text)
    (hrest : Stops isDigit rest) :
    readYear (gap ++ (text ++ rest)) = some (year, rest) := by
  cases hyear with
  | unsigned hword hlength hvalue =>
    have hsign : ∀ c r, text ++ rest = c :: r → isDigit c = true := by
      intro c r h
      obtain ⟨hne, hdigits⟩ := hword
      obtain ⟨d, digits, rfl⟩ := List.exists_cons_of_ne_nil hne
      obtain ⟨rfl, -⟩ := List.cons.inj h
      exact hdigits _ (List.mem_cons_self ..)
    rw [readYear, trimStart_append hgap (hword.stops isDigit_apart_isBlank rest)]
    split
    · next r h => exact absurd (hsign _ _ h) (by decide)
    · next r h => exact absurd (hsign _ _ h) (by decide)
    · rw [readNumber_append hword hlength hrest, ← hvalue]
      rfl
  | @plus digits hword hvalue =>
    have hnumber : readNumber (digits ++ rest).length (digits ++ rest) =
        some (digitsValue digits, rest) := readNumber_append hword (by simp) hrest
    rw [readYear, trimStart_append hgap (by simp [Stops, isBlank])]
    simp only [List.cons_append, hnumber, ← hvalue]
    rfl
  | @minus digits hword hvalue =>
    have hnumber : readNumber (digits ++ rest).length (digits ++ rest) =
        some (digitsValue digits, rest) := readNumber_append hword (by simp) hrest
    rw [readYear, trimStart_append hgap (by simp [Stops, isBlank])]
    simp only [List.cons_append, hnumber, ← hvalue]
    rfl

end

/-- What is read of a text is the date that it spells, if its year can be read. -/
theorem ofText?_eq_some_iff {text : String} {d : Date} :
    ofText? text = some d ↔ d.Spells text ∧ d.InRange := by
  constructor
  · intro h
    unfold ofText? at h
    split at h
    · cases h
    · next year afterYear hyear =>
      split at h
      · cases h
      · next month afterMonth hmonth =>
        split at h
        · next day hday =>
          split at h
          · next hrange =>
            obtain ⟨rfl, rfl, rfl⟩ := ofParts?_eq_some_iff.1 h
            obtain ⟨gap₁, y, hs, hgap₁, hy⟩ := of_readYear hyear
            obtain ⟨gap₂, m, rfl, hgap₂, hm⟩ := of_readPart hmonth
            obtain ⟨gap₃, n, rfl, hgap₃, hn⟩ := of_readPart hday
            exact ⟨⟨gap₁, y, gap₂, m, gap₃, n, by simpa using hs, ⟨hgap₁, hgap₂, hgap₃⟩,
              hy, hm, hn⟩, hrange⟩
          · cases h
        · cases h
  · rintro ⟨⟨gap₁, y, gap₂, m, gap₃, n, hs, ⟨hgap₁, hgap₂, hgap₃⟩, hy, hm, hn⟩, hrange⟩
    have hhyphen : ∀ rest, Stops isDigit ('-' :: rest) := by simp [Stops, isDigit]
    have hend : Stops isDigit [] := by simp [Stops]
    have hlast : readPart ('-' :: (gap₃ ++ n)) = some (d.day, []) := by
      simpa using readPart_append hgap₃ hn hend
    simp only [ofText?, hs, readYear_append hgap₁ hy (hhyphen _),
      readPart_append hgap₂ hm (hhyphen _), hlast]
    exact (if_pos hrange).trans (ofParts?_self d)

/-- A leap day is read in a leap year only. -/
example : ofText? "2023-02-29" = none ∧
    (ofText? " +02024- 2-29").map text = some "2024-02-29" := by
  decide

/-! ## Writing -/

theorem digitsValue_padded (width n : Nat) : digitsValue (padded width n) = n := by
  calc
    digitsValue (padded width n) = Nat.ofDigitChars 10 (padded width n) 0 := rfl
    _ = Nat.ofDigitChars 10 (Nat.toDigits 10 n) 0 := by
      rw [padded, Nat.ofDigitChars_append, Nat.ofDigitChars_replicate_zero]
      simp
    _ = n := Nat.ofDigitChars_ten_toDigits

theorem word_padded (width n : Nat) : Word isDigit (padded width n) := by
  refine ⟨by simp [padded, Nat.toDigits_ne_nil], fun c hc => ?_⟩
  rcases List.mem_append.1 hc with hzero | hdigit
  · rw [List.eq_of_mem_replicate hzero]
    rfl
  · simpa [isDigit, Char.isDigit, Char.le_def] using
      Nat.isDigit_of_mem_toDigits (by decide) (by decide) hdigit

/-- Zeros do not make a number longer than the width. -/
theorem length_padded_le {width n : Nat} (h : (Nat.toDigits 10 n).length ≤ width) :
    (padded width n).length ≤ width := by
  rw [padded, List.length_append, List.length_replicate]
  omega

theorem yearText_yearText (year : Int) : YearText year (yearText year) := by
  unfold yearText; split
  · exact .minus (word_padded ..) (by rw [digitsValue_padded]; omega)
  · split
    · exact .plus (word_padded ..) (by rw [digitsValue_padded]; omega)
    · have hdigits : (Nat.toDigits 10 year.natAbs).length ≤ 4 :=
        (Nat.length_toDigits_le_iff (by decide) (by decide)).2 (by omega)
      exact .unsigned (word_padded ..) (length_padded_le hdigits)
        (by rw [digitsValue_padded]; omega)

theorem partText_padded {n : Nat} (h : n < 100) : PartText n (padded 2 n) where
  word := word_padded ..
  length_le := length_padded_le ((Nat.length_toDigits_le_iff (by decide) (by decide)).2 h)
  value := digitsValue_padded ..

theorem daysInMonth_le (year : Int) (month : Nat) : daysInMonth year month ≤ 31 := by
  unfold daysInMonth; split <;> (try split) <;> omega

/-- What is written spells the date. -/
theorem spells_text (d : Date) : d.Spells d.text := by
  have hmonth := d.month_le
  have hday := d.day_le.trans (daysInMonth_le d.year d.month)
  exact ⟨[], yearText d.year, [], padded 2 d.month, [], padded 2 d.day, by simp [text],
    by simp [Blanks], yearText_yearText d.year, partText_padded (by omega),
    partText_padded (by omega)⟩

end Date

/-! ## The command line and the backend -/

namespace CommandLine
variable {text : String}

/-- A date is read of a text exactly if the text spells it and its year can be read. -/
theorem readDate_eq_ok_some_iff {d : Date} :
    readDate (some text) = .ok (some d) ↔ d.Spells text ∧ d.InRange := by
  rw [← Date.ofText?_eq_some_iff, readDate]
  cases Date.ofText? text <;> simp

/-- If a text is given, a date is read or nothing is. -/
theorem exists_of_readDate {result : Option Date} (h : readDate (some text) = .ok result) :
    ∃ d, result = some d := by
  simp only [readDate] at h
  split at h
  · next d _ => exact ⟨d, (Except.ok.inj h).symm⟩
  · cases h

end CommandLine

/-- A signing answers the question how long it is valid by the date of its expiration. -/
theorem Session.outcome_signValidity (o : SigningOptions) (d : Date) (today : Date) (c : Custody)
    (before : List Event) {e : Event} (h : e.question? = some .signValidity) :
    ((((Edit.plain (.sign { o with expiration := some d })).session today c).after before).turn
      e).reply.outcome = .ok (.line d.text) := by
  have hs : e.status ≠ .alreadySigned := Event.status_ne_of_question? h rfl
  rw [outcome_after_plain today c _ before h (by decide)]
  simp only [PlainEdit.reached, PlainProgress.respond, Signing.respond, hs, h, if_false]
  rfl

/-- **Dates are read as they are sent.**  For every date whose year can be read, a signing
    answers a text that the command line reads as the same date, and no two dates have the
    same text.  A text is read exactly if it spells a date of the calendar whose year is in
    range: so its month and day exist in that year, and a signing with it answers a text that
    is read as the same date again. -/
theorem dates_are_read_as_sent (o : SigningOptions) (today : Date) (c : Custody) :
    let answer := fun expiration before e =>
      ((((Edit.plain (.sign { o with expiration })).session today c).after before).turn
        e).reply.outcome
    (∀ d : Date, d.InRange → readDate (some d.text) = .ok (some d) ∧
      ∀ before e, e.question? = some .signValidity →
        answer (some d) before e = .ok (.line d.text)) ∧
    (∀ d d' : Date, d.InRange → d'.InRange → d.text = d'.text → d = d') ∧
    (∀ text d, readDate (some text) = .ok (some d) ↔ d.Spells text ∧ d.InRange) ∧
    ∀ text result, readDate (some text) = .ok result → ∃ d, result = some d ∧
      (1 ≤ d.month ∧ d.month ≤ 12 ∧ 1 ≤ d.day ∧ d.day ≤ daysInMonth d.year d.month) ∧
      readDate (some d.text) = .ok result ∧
      ∀ before e, e.question? = some .signValidity →
        answer result before e = .ok (.line d.text) := by
  intro answer
  have hanswer : ∀ (d : Date) before e, e.question? = some .signValidity →
      answer (some d) before e = .ok (.line d.text) := fun d before e h =>
    Session.outcome_signValidity o d today c before h
  have hread : ∀ d : Date, d.InRange → readDate (some d.text) = .ok (some d) := fun d hd =>
    readDate_eq_ok_some_iff.2 ⟨d.spells_text, hd⟩
  refine ⟨fun d hd => ⟨hread d hd, hanswer d⟩, fun d d' hd hd' htext => ?_,
    fun text d => readDate_eq_ok_some_iff, fun text result h => ?_⟩
  · have hsame : (.ok (some d) : Except CommandFault (Option Date)) = .ok (some d') := by
      rw [← hread d hd, htext, hread d' hd']
    cases hsame
    rfl
  · obtain ⟨d, rfl⟩ := exists_of_readDate h
    obtain ⟨-, hrange⟩ := readDate_eq_ok_some_iff.1 h
    exact ⟨d, rfl, ⟨d.month_pos, d.month_le, d.day_pos, d.day_le⟩, hread d hrange, hanswer d⟩

end KeyDialogue
