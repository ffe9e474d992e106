/-
  Key dialogue — which lines are read as status lines.

  * `StatusLine.Spells`: the form of a status line is the mark, a keyword, and nothing
    more or a space and an argument.  It is not insisted on: if something else
    follows the keyword, that is cut off (`StatusLine.IsCutFrom`);
  * `StatusLine.ofText?_eq_some_iff`, `StatusLine.ofText?_eq_none_iff`: what is read of a
    text, and when nothing is;
  * `converse_filter`: a conversation goes by the lines that are read;
  * `lines_are_read_up_to_the_keyword`: the statement for lines and conversations;
    `malformed_lines_are_answered`: a line with a tab in place of the space is taken
    for a status line.
-/
import KeyDialogue.Proofs.Announcement
import KeyDialogue.Proofs.Transmission

namespace KeyDialogue

namespace StatusLine

/-! ## Texts -/

variable (l : StatusLine)

/-- A text has the form of a status line, with the given parts. -/
def Spells (text : String) : Prop := isKeyword l.keyword = true ∧ text = l.text

/-- A text goes on after a keyword, and not with a space.  What goes on there is cut
    off. -/
def IsCutFrom (text : String) : Prop :=
  isKeyword l.keyword = true ∧ l.args = none ∧
    ∃ c rest, isKeywordChar c = false ∧ c ≠ ' ' ∧ text = l.text ++ String.ofList (c :: rest)

variable {l}

/-- A text from which something is cut off has not the form of what is left. -/
theorem IsCutFrom.not_spells {text : String} (h : l.IsCutFrom text) : ¬ l.Spells text := by
  obtain ⟨-, -, c, rest, -, -, htext⟩ := h
  rintro ⟨-, hform⟩
  have hlength := congrArg (·.toList.length) (hform.symm.trans htext)
  simp at hlength

theorem after?_eq_some_iff {b s r : List Char} : after? b s = some r ↔ s = b ++ r :=
  ⟨eq_append_of_after?, fun h => h ▸ after?_append b r⟩

theorem isKeyword_iff {s : String} : isKeyword s = true ↔ Word isKeywordChar s.toList := by
  simp [isKeyword, Word]

theorem argsOf_of_ne_space {c : Char} (h : c ≠ ' ') (rest : List Char) :
    argsOf (c :: rest) = none := by
  unfold argsOf
  split
  · next heq => exact absurd (List.cons.inj heq).1 h
  · rfl

/-- After the mark, a keyword is cut out as a word, and the argument is looked for in
    what follows it. -/
theorem ofText?_eq_bind (s : String) :
    ofText? s = (after? mark.toList s.toList).bind fun rest =>
      (word? isKeywordChar rest).map fun p => ⟨String.ofList p.1, argsOf p.2⟩ := by
  unfold ofText? word?
  cases after? mark.toList s.toList with
  | none => rfl
  | some rest => simp only [Option.bind_some]; split <;> rfl

theorem ofText?_eq_some_iff_word {s : String} :
    ofText? s = some l ↔ ∃ tail, s.toList = mark.toList ++ (l.keyword.toList ++ tail) ∧
      isKeyword l.keyword = true ∧ Stops isKeywordChar tail ∧ l.args = argsOf tail := by
  obtain ⟨keyword, args⟩ := l
  simp only [ofText?_eq_bind, Option.bind_eq_some_iff, Option.map_eq_some_iff, Prod.exists,
    after?_eq_some_iff, word?_eq_some_iff, isKeyword_iff]
  constructor
  · rintro ⟨_, hs, w, tail, ⟨rfl, hw, htail⟩, hl⟩
    obtain ⟨rfl, rfl⟩ := StatusLine.mk.inj hl
    exact ⟨tail, by simpa using hs, by simpa using hw, htail, rfl⟩
  · rintro ⟨tail, hs, hw, htail, rfl⟩
    exact ⟨_, hs, keyword.toList, tail, ⟨rfl, hw, htail⟩, by simp⟩

/-- What is read of a text. -/
theorem ofText?_eq_some_iff {s : String} :
    ofText? s = some l ↔ l.Spells s ∨ l.IsCutFrom s := by
  constructor
  · rw [ofText?_eq_some_iff_word]
    obtain ⟨keyword, args⟩ := l
    rintro ⟨tail, hs, hk, htail, rfl⟩
    -- what follows the keyword: nothing, a space and an argument, or something else
    cases tail with
    | nil => exact Or.inl ⟨hk, String.toList_inj.1 (by simp [hs, toList_text, argsOf])⟩
    | cons c rest =>
      by_cases hspace : c = ' '
      · rw [hspace] at hs
        exact Or.inl ⟨hk, String.toList_inj.1 (by simp [hs, hspace, toList_text, argsOf])⟩
      · have hargs := argsOf_of_ne_space hspace rest
        exact Or.inr ⟨hk, hargs, c, rest, htail c rfl, hspace,
          String.toList_inj.1 (by simp [hs, hargs, toList_text])⟩
  · rintro (⟨hk, rfl⟩ | ⟨hk, hargs, c, rest, hend, hspace, rfl⟩)
    · exact ofText?_text l hk
    · refine ofText?_eq_some_iff_word.2 ⟨c :: rest, by simp [toList_text, hargs], hk, ?_, ?_⟩
      · simpa [Stops] using hend
      · rw [hargs, argsOf_of_ne_space hspace]

/-- Nothing is read of a text exactly if it does not begin with the mark and a character
    of a keyword. -/
theorem ofText?_eq_none_iff {s : String} :
    ofText? s = none ↔ ∀ c, isKeywordChar c = true → ¬ mark.toList ++ [c] <+: s.toList := by
  constructor
  · rintro h c hc ⟨rest, hs⟩
    -- the longest run of such characters is read as a keyword
    obtain ⟨w, tail, hword⟩ : ∃ w tail, word? isKeywordChar (c :: rest) = some (w, tail) := by
      simp [word?, hc]
    have hafter : after? mark.toList s.toList = some (c :: rest) :=
      after?_eq_some_iff.2 (by simp [← hs])
    rw [ofText?_eq_bind, hafter, Option.bind_some, hword] at h
    cases h
  · intro h
    rw [Option.eq_none_iff_forall_ne_some]
    intro l hl
    obtain ⟨tail, hs, hk, -, -⟩ := ofText?_eq_some_iff_word.1 hl
    obtain ⟨hne, hchars⟩ := isKeyword_iff.1 hk
    obtain ⟨c, rest, hkeyword⟩ := List.exists_cons_of_ne_nil hne
    exact h c (hchars c (by simp [hkeyword])) ⟨rest ++ tail, by simp [hs, hkeyword]⟩

end StatusLine

/-! ## Lines -/

/-- A conversation goes by the lines that are read. -/
theorem converse_filter (takes : List UInt8 → Bool) (s : Session) (written : List UInt8)
    (lines : List (List UInt8)) :
    converse takes s written (lines.filter fun line => (Wire.eventOf? line).isSome) =
      converse takes s written lines := by
  induction lines generalizing s written with
  | nil => rfl
  | cons line rest ih =>
    cases he : Wire.eventOf? line with
    | none =>
      rw [converse_cons_of_no_status takes s written rest he, ← ih, List.filter_cons, he]
      rfl
    | some e =>
      simp only [List.filter_cons, he, Option.isSome_some, if_true, converse, ih]

/-- A line of which nothing is read can be left out. -/
theorem converse_append_cons_of_no_status (takes : List UInt8 → Bool) (s : Session)
    (written : List UInt8) (earlier later : List (List UInt8)) {line : List UInt8}
    (h : Wire.eventOf? line = none) :
    converse takes s written (earlier ++ line :: later) =
      converse takes s written (earlier ++ later) := by
  rw [← converse_filter takes s written (earlier ++ line :: later),
    ← converse_filter takes s written (earlier ++ later)]
  simp [h]

/-- **Lines are read up to the keyword.**  A text that has the form of a status line is
    read as exactly its parts.  Of any other text, nothing is read unless it begins with
    the mark and a keyword; then the keyword is read, the whole of it, and what follows
    it is cut off.  So exactly the texts of the form are read, save those from which
    something is cut off.  A line tells of an event exactly if something is read of it,
    and any other can be left out of a conversation: it is not answered, and makes no
    difference. -/
theorem lines_are_read_up_to_the_keyword (text : String) :
    (∀ l, StatusLine.ofText? text = some l ↔ l.Spells text ∨ l.IsCutFrom text) ∧
    ((∀ l, StatusLine.ofText? text = some l ↔ l.Spells text) ↔
      ∀ l : StatusLine, ¬ l.IsCutFrom text) ∧
    (StatusLine.ofText? text = none ↔ ∀ c, StatusLine.isKeywordChar c = true →
      ¬ StatusLine.mark.toList ++ [c] <+: text.toList) ∧
    ∀ line, Wire.lineText line = text →
      (∀ e, Wire.eventOf? line = some e ↔
        ∃ l : StatusLine, (l.Spells text ∨ l.IsCutFrom text) ∧ l.event = e) ∧
      (StatusLine.ofText? text = none → ∀ takes s written earlier later,
        converse takes s written (earlier ++ line :: later) =
          converse takes s written (earlier ++ later)) := by
  refine ⟨fun l => StatusLine.ofText?_eq_some_iff, ⟨fun hform l hcut => ?_, fun hcut l => ?_⟩,
    StatusLine.ofText?_eq_none_iff, ?_⟩
  · exact hcut.not_spells ((hform l).1 (StatusLine.ofText?_eq_some_iff.2 (Or.inr hcut)))
  · rw [StatusLine.ofText?_eq_some_iff, or_iff_left (hcut l)]
  · rintro line rfl
    refine ⟨fun e => ?_, fun hnone takes s written earlier later => ?_⟩
    · simp only [Wire.eventOf?, Option.map_eq_some_iff, StatusLine.ofText?_eq_some_iff]
    · have hevent : Wire.eventOf? line = none := by rw [Wire.eventOf?, hnone]; rfl
      exact converse_append_cons_of_no_status takes s written earlier later hevent

/-- With a tab in place of the space, a text has not the form of a status line.  But a
    report with a tab is an event without its argument, and a question is answered
    by an empty line. -/
theorem malformed_lines_are_answered :
    let report := "[GNUPG:] BAD_PASSPHRASE\t1111222233334444"
    let question := "[GNUPG:] GET_LINE\tkeyedit.prompt"
    let s : Session := ⟨.plain (.trusting (.start .full)), ⟨{}, .absent⟩⟩
    (∀ l : StatusLine, ¬ l.Spells report ∧ ¬ l.Spells question) ∧
    StatusLine.ofText? report = some ⟨"BAD_PASSPHRASE", none⟩ ∧
    Wire.eventOf? (Wire.lineBytes report) = some ⟨.badPassphrase, none⟩ ∧
    (converse (fun _ => true) s [] [Wire.lineBytes question]).written = Wire.lineBytes "" := by
  intro report question s
  have hreport : StatusLine.ofText? report = some ⟨"BAD_PASSPHRASE", none⟩ := by decide +kernel
  have hquestion : StatusLine.ofText? question = some ⟨"GET_LINE", none⟩ := by decide +kernel
  refine ⟨fun l => ⟨?_, ?_⟩, hreport, by decide +kernel, by decide +kernel⟩
  -- if a text had this form, it would be read as its parts, and these lack the tab
  · rintro ⟨hk, h⟩
    rw [h, StatusLine.ofText?_text l hk] at hreport
    rw [Option.some.inj hreport] at h
    exact absurd h (by decide)
  · rintro ⟨hk, h⟩
    rw [h, StatusLine.ofText?_text l hk] at hquestion
    rw [Option.some.inj hquestion] at h
    exact absurd h (by decide)

end KeyDialogue
