/-
  Key dialogue — answers of more than one line.

  The backend reads one line for each question, so an answer that holds a line
  feed would be read as the answers to several.

  * Numerals, dates, menu commands, the letters of capabilities and the lines of
    an explanation hold none (`IsLine`);
  * so no edit answers more than one line, but for one question
    (`Session.reply_isLine`): the regular expression of a trust signature is
    answered as it was given (`Session.eq_of_line_trustRegexp`,
    `Session.line_trustRegexp`);
  * `line_feeds_come_from_trustRegexp`: the answers of a session are single lines
    exactly if that expression is;
  * `trustRegexp_line_feed`: no fault is found with an expression of two lines.
-/
import KeyDialogue.Proofs.Progress

namespace KeyDialogue

open KeyDialogue.Text

/-- The text is a single line. -/
def IsLine (text : String) : Prop := '\n' ∉ text.toList

instance (text : String) : Decidable (IsLine text) :=
  inferInstanceAs (Decidable ('\n' ∉ text.toList))

/-! ## Texts of one line -/

theorem isLine_ofList {s : List Char} (h : '\n' ∉ s) : IsLine (String.ofList s) := by
  simpa [IsLine] using h

theorem IsLine.append {a b : String} (ha : IsLine a) (hb : IsLine b) : IsLine (a ++ b) := by
  simpa [IsLine] using And.intro ha hb

theorem not_mem_toDigits (n : Nat) : '\n' ∉ Nat.toDigits 10 n := by
  intro h
  have hdigit := Nat.isDigit_of_mem_toDigits (by decide) (by decide) h
  cases hdigit

theorem isLine_numeral (n : Nat) : IsLine (numeral n) := isLine_ofList (not_mem_toDigits n)

theorem Date.isLine_text (d : Date) : IsLine d.text := by
  have hpadded : ∀ width n, '\n' ∉ padded width n := fun width n => by
    simp [padded, not_mem_toDigits]
  have hyear : '\n' ∉ yearText d.year := by
    unfold yearText; split
    · simp [hpadded]
    · split <;> simp [hpadded]
  exact isLine_ofList (by simp [hyear, hpadded])

theorem MenuCommand.isLine_text (c : MenuCommand) : IsLine c.text := by
  cases c with
  | userId index => exact IsLine.append (by decide) (isLine_numeral index)
  | key index => exact IsLine.append (by decide) (isLine_numeral index)
  | sign l t nr => cases l <;> cases t <;> cases nr <;> decide
  | _ => decide

theorem Capabilities.isLine_of_mem_toggles {c : Capabilities} {letter : String}
    (h : letter ∈ c.toggles) : IsLine letter := by
  have hletter : letter = "A" ∨ letter = "S" ∨ letter = "E" := by
    simp only [toggles, List.mem_append] at h
    rcases h with (h | h) | h <;> split at h <;> simp_all
  rcases hletter with rfl | rfl | rfl <;> decide

/-! ### The lines of an explanation -/

namespace Text

/-- Only the last element of a piece is a terminator. -/
theorem not_isEnd_of_mem_dropLast {α : Type} {isEnd : α → Bool} {s p : List α}
    (h : p ∈ pieces isEnd s) : ∀ a ∈ p.dropLast, isEnd a = false := by
  induction s generalizing p with
  | nil => simp at h
  | cons a rest ih =>
    simp only [pieces] at h
    split at h
    · rcases List.mem_cons.1 h with rfl | h
      · simp
      · exact ih h
    · next ha =>
      split at h
      · rw [List.mem_singleton.1 h]; simp
      · next q qs hq =>
        rcases List.mem_cons.1 h with rfl | h
        · have hmem : q ∈ pieces isEnd rest := hq ▸ List.mem_cons_self ..
          rw [List.dropLast_cons_of_ne_nil (ne_nil_of_mem_pieces hmem)]
          simpa [ha] using ih hmem
        · exact ih (hq ▸ List.mem_cons_of_mem _ h)

/-- A blank that is left by the removal of trailing blanks is not the last
    character. -/
theorem mem_dropLast_of_mem_trimEnd {s : List Char} {c : Char} (hc : isBlank c = true)
    (h : c ∈ trimEnd s) : c ∈ s.dropLast := by
  rcases List.eq_nil_or_concat s with rfl | ⟨t, d, rfl⟩
  · simp at h
  · rw [List.concat_eq_append] at h ⊢
    cases hd : isBlank d with
    | true =>
      rw [trimEnd_concat_of_isBlank t hd] at h
      simpa using (List.dropWhile_sublist isBlank).subset (List.mem_reverse.1 h)
    | false =>
      rw [trimEnd_concat_of_not_isBlank t hd] at h
      rcases List.mem_append.1 h with h | h
      · simpa using h
      · rw [List.mem_singleton.1 h, hd] at hc; cases hc

end Text

theorem isLine_of_mem_reasonLines {description line : String}
    (h : line ∈ reasonLines description) : IsLine line := by
  obtain ⟨s, hs, rfl⟩ := List.mem_map.1 h
  obtain ⟨p, hp, rfl⟩ := List.mem_map.1 (List.mem_filter.1 hs).1
  refine isLine_ofList fun hmem => ?_
  have hlast := mem_dropLast_of_mem_trimEnd (by decide) hmem
  have hend := not_isEnd_of_mem_dropLast hp _ hlast
  cases hend

/-! ## Replies of one line -/

/-- If a reply is by a line, it is a single one. -/
def Reply.IsLine (r : Reply) : Prop :=
  ∀ text, r.outcome = .ok (.line text) → KeyDialogue.IsLine text

namespace Reply

theorem isLine_line {text : String} (h : KeyDialogue.IsLine text) : (line text).IsLine :=
  fun _ ht => by cases ht; exact h

theorem isLine_yesNo (yes : Bool) : (answer (.yesNo yes)).IsLine :=
  isLine_line (by cases yes <;> decide)

theorem isLine_nothing : nothing.IsLine := fun _ h => by cases h

theorem isLine_failed (f : Failure) : (failed f).IsLine := fun _ h => by cases h

end Reply

/-! ### The edits reply by single lines -/

theorem Signing.respond_isLine (s : Signing) {e : Event}
    (h : e.question? ≠ some .trustRegexp) : (s.respond e).2.IsLine := by
  unfold respond; split
  · exact Reply.isLine_failed _
  · split
    · exact Reply.isLine_line (MenuCommand.isLine_text _)
    · next q _ hq =>
      cases q
      case trustRegexp => exact absurd hq h
      case signExpires | signPromoteLocal | signOkay | signAllOkay | saveOkay =>
        exact Reply.isLine_yesNo _
      case signClass => exact Reply.isLine_line (isLine_numeral _)
      case signValidity =>
        refine Reply.isLine_line ?_
        cases s.options.expiration with
        | none => decide
        | some d => exact d.isLine_text
      case trustValue | trustDepth =>
        refine Reply.isLine_line ?_
        cases s.options.trust with
        | none => decide
        | some t => exact isLine_numeral _
      all_goals exact Reply.isLine_nothing
    · exact Reply.isLine_nothing

theorem Revocation.respond_isLine (r : Revocation) (h : ∀ line ∈ r.reason, IsLine line)
    (e : Event) : (r.respond e).2.IsLine := by
  unfold respond; split
  · exact Reply.isLine_line (MenuCommand.isLine_text _)
  · exact Reply.isLine_yesNo _
  · exact Reply.isLine_yesNo _
  · exact Reply.isLine_line (isLine_numeral _)
  · split
    · exact Reply.isLine_line (by decide)
    · next line _ hr => exact Reply.isLine_line (h line (by simp [hr]))
  · exact Reply.isLine_yesNo _
  · exact Reply.isLine_yesNo _
  · exact Reply.isLine_yesNo _
  · exact Reply.isLine_nothing

theorem Deletion.respond_isLine (d : Deletion) (e : Event) : (d.respond e).2.IsLine := by
  unfold respond; split
  · exact Reply.isLine_line (MenuCommand.isLine_text _)
  · exact Reply.isLine_yesNo _
  · exact Reply.isLine_yesNo _
  · exact Reply.isLine_yesNo _
  · exact Reply.isLine_yesNo _
  · exact Reply.isLine_yesNo _
  · exact Reply.isLine_nothing

theorem Switching.respond_isLine (s : Switching) (e : Event) : (s.respond e).2.IsLine := by
  unfold respond; split
  · exact Reply.isLine_line (MenuCommand.isLine_text _)
  · exact Reply.isLine_yesNo _
  · exact Reply.isLine_nothing

theorem Trusting.respond_isLine (t : Trusting) (e : Event) : (t.respond e).2.IsLine := by
  unfold respond; split
  · exact Reply.isLine_line (MenuCommand.isLine_text _)
  · exact Reply.isLine_line (isLine_numeral _)
  · exact Reply.isLine_yesNo _
  · exact Reply.isLine_yesNo _
  · exact Reply.isLine_nothing

theorem Expiry.respond_isLine (x : Expiry) (e : Event) : (x.respond e).2.IsLine := by
  unfold respond; split
  · exact Reply.isLine_line (MenuCommand.isLine_text _)
  · exact Reply.isLine_line (isLine_numeral _)
  · exact Reply.isLine_yesNo _
  · exact Reply.isLine_nothing

theorem SubkeyAddition.respond_isLine (a : SubkeyAddition)
    (h : ∀ letter ∈ a.toggles, IsLine letter) (e : Event) : (a.respond e).2.IsLine := by
  unfold respond; split
  · exact Reply.isLine_line (MenuCommand.isLine_text _)
  · unfold giveAlgorithm; split
    · exact Reply.isLine_line (isLine_numeral _)
    · exact Reply.isLine_line (isLine_numeral _)
  · split
    · exact Reply.isLine_line (by decide)
    · next letter _ ht => exact Reply.isLine_line (h letter (by simp [ht]))
  · exact Reply.isLine_line (isLine_numeral _)
  · exact Reply.isLine_line (isLine_numeral _)
  · exact Reply.isLine_yesNo _
  · exact Reply.isLine_nothing

/-- A plain edit after any events replies by single lines, but for one question. -/
theorem PlainEdit.respond_reached_isLine (today : Date) (edit : PlainEdit) (before : List Event)
    {e : Event} (h : e.question? ≠ some .trustRegexp) :
    ((edit.reached today before).respond e).2.IsLine := by
  cases edit with
  | sign o => exact Signing.respond_isLine _ h
  | revokeSignature o =>
    exact Revocation.respond_isLine _
      (fun _ hl => isLine_of_mem_reasonLines (List.mem_of_mem_drop hl)) e
  | deleteSignature o => exact Deletion.respond_isLine _ e
  | setEnabled enable => exact Switching.respond_isLine _ e
  | setOwnerTrust trust => exact Trusting.respond_isLine _ e
  | setExpiration o => exact Expiry.respond_isLine _ e
  | addSubkey o =>
    exact SubkeyAddition.respond_isLine _
      (fun _ hl => Capabilities.isLine_of_mem_toggles (List.mem_of_mem_drop hl)) e

theorem Reply.Silent.isLine {r : Reply} (h : r.Silent) : r.IsLine :=
  fun _ ht => by cases h _ ht

/-- The passphrase side replies by secrets, not by lines. -/
theorem Custody.respond_isLine (c : Custody) (e : Event) : (c.respond e).2.IsLine := by
  intro text ht
  unfold respond respond? at ht
  split at ht
  · cases ht
  · split at ht <;> cases ht

theorem PassphraseChange.answer_isLine (p : PassphraseChange) (e : Event) :
    (p.answer e).2.IsLine := by
  unfold answer; split
  · exact Reply.isLine_line (MenuCommand.isLine_text _)
  · exact Reply.isLine_yesNo _
  · exact Reply.isLine_yesNo _
  · exact Reply.isLine_nothing

theorem PassphraseChange.enter_isLine (p : PassphraseChange) (c : Custody) :
    (p.enter c).2.2.IsLine := by
  intro text ht
  unfold enter at ht
  split at ht
  · cases ht
  · simp only at ht
    split at ht <;> cases ht

theorem PassphraseChange.respond_isLine (p : PassphraseChange) (c : Custody) (e : Event) :
    (p.respond c e).2.2.IsLine := by
  unfold respond; split
  · exact (p.advise_silent e).isLine
  · split
    · exact p.enter_isLine c
    · exact p.answer_isLine e

/-! ## Regular expressions -/

/-- The regular expression of the trust signature that an edit makes. -/
def Edit.trustRegexp? : Edit → Option String
  | plain (.sign o) => o.trust.bind TrustSignature.regexp
  | _ => none

theorem Signing.respond_trustRegexp (s : Signing) {e : Event}
    (h : e.question? = some .trustRegexp) :
    (s.respond e).2 = .line ((Edit.plain (.sign s.options)).trustRegexp?.getD "") := by
  have hstatus : e.status ≠ .alreadySigned := Event.status_ne_of_question? h rfl
  simp only [respond, hstatus, if_false, h, answerTo, trustAnswer, Edit.trustRegexp?]
  cases s.options.trust <;> rfl

/-- Only a signing has an answer to the question for a regular expression. -/
theorem PlainEdit.respond_reached_trustRegexp (today : Date) (edit : PlainEdit)
    (before : List Event) {e : Event} (h : e.question? = some .trustRegexp) :
    ((edit.reached today before).respond e).2 =
      match edit with
      | sign _ => .line ((Edit.plain edit).trustRegexp?.getD "")
      | _ => .nothing := by
  cases edit with
  | sign o => exact Signing.respond_trustRegexp _ h
  | revokeSignature o => simp [reached, PlainProgress.respond, Revocation.respond, h]
  | deleteSignature o => simp [reached, PlainProgress.respond, Deletion.respond, h]
  | setEnabled enable => simp [reached, PlainProgress.respond, Switching.respond, h]
  | setOwnerTrust trust => simp [reached, PlainProgress.respond, Trusting.respond, h]
  | setExpiration o => simp [reached, PlainProgress.respond, Expiry.respond, h]
  | addSubkey o => simp [reached, PlainProgress.respond, SubkeyAddition.respond, h]

theorem PassphraseChange.respond_trustRegexp (p : PassphraseChange) (c : Custody) {e : Event}
    (h : e.question? = some .trustRegexp) : (p.respond c e).2.2 = .nothing := by
  have ha := Event.isAdvisory_of_asks (Event.asks_of_question? h)
  have hp : e.asksPassphrase = false := by simp [Event.asksPassphrase, h]
  simp [respond, ha, hp, answer, h]

/-! ## Sessions -/

namespace Session
variable (edit : Edit) (today : Date) (c : Custody) (before : List Event) {e : Event}

/-- A session answers single lines, but for one question. -/
theorem reply_isLine (h : e.question? ≠ some .trustRegexp) :
    (((edit.session today c).after before).respond e).2.IsLine := by
  cases edit with
  | plain edit =>
    cases hconcerns : e.concernsPassphrase with
    | true =>
      obtain ⟨c', hs⟩ := after_plain today c edit before
      rw [hs, respond_plain_of_concerns _ _ hconcerns]
      exact c'.respond_isLine e
    | false =>
      rw [reply_after_plain today c edit before hconcerns]
      exact edit.respond_reached_isLine today before h
  | changePassphrase o =>
    obtain ⟨missing, c', hr⟩ := reply_after_change today c o before e
    rw [hr]
    exact PassphraseChange.respond_isLine _ c' e

/-- The answer to the question for a regular expression is the one of the edit. -/
theorem eq_of_line_trustRegexp (h : e.question? = some .trustRegexp) {text : String}
    (ho : (((edit.session today c).after before).turn e).reply.outcome = .ok (.line text)) :
    text = edit.trustRegexp?.getD "" := by
  have hconcerns := Event.concernsPassphrase_of_question? h (by decide)
  rw [turn] at ho
  cases edit with
  | plain edit =>
    rw [reply_after_plain today c edit before hconcerns,
      edit.respond_reached_trustRegexp today before h] at ho
    cases edit with
    | sign o => cases ho; rfl
    | _ => cases ho
  | changePassphrase o =>
    obtain ⟨missing, c', hr⟩ := reply_after_change today c o before e
    rw [hr, PassphraseChange.respond_trustRegexp _ c' h] at ho
    cases ho

/-- The question for a regular expression is answered by the expression as it was
    given. -/
theorem line_trustRegexp (h : e.question? = some .trustRegexp) {r : String}
    (hr : edit.trustRegexp? = some r) :
    (((edit.session today c).after before).turn e).reply.outcome = .ok (.line r) := by
  have hconcerns := Event.concernsPassphrase_of_question? h (by decide)
  rw [turn]
  cases edit with
  | plain edit =>
    rw [reply_after_plain today c edit before hconcerns,
      edit.respond_reached_trustRegexp today before h, hr]
    cases edit with
    | sign o => rfl
    | _ => cases hr
  | changePassphrase o => cases hr

end Session

/-- **Line feeds come from regular expressions only.** An answer by a line holds a
    line feed exactly if it is the regular expression of a trust signature and that
    holds one.  So the answers of a session are single lines, whatever it is asked,
    exactly if that expression is a single line. -/
theorem line_feeds_come_from_trustRegexp (edit : Edit) (today : Date) (c : Custody) :
    let s := edit.session today c
    (∀ events e text, ((s.after events).turn e).reply.outcome = .ok (.line text) →
      ('\n' ∈ text.toList ↔
        e.question? = some .trustRegexp ∧ ∃ r, edit.trustRegexp? = some r ∧ '\n' ∈ r.toList)) ∧
    ((∀ events e text, ((s.after events).turn e).reply.outcome = .ok (.line text) →
      '\n' ∉ text.toList) ↔ ∀ r, edit.trustRegexp? = some r → '\n' ∉ r.toList) := by
  intro s
  have hfirst : ∀ events e text, ((s.after events).turn e).reply.outcome = .ok (.line text) →
      ('\n' ∈ text.toList ↔ e.question? = some .trustRegexp ∧
        ∃ r, edit.trustRegexp? = some r ∧ '\n' ∈ r.toList) := by
    intro events e text ho
    constructor
    · intro hmem
      have hq : e.question? = some .trustRegexp := by
        by_contra hq
        exact Session.reply_isLine edit today c events hq text ho hmem
      have htext := Session.eq_of_line_trustRegexp edit today c events hq ho
      cases hr : edit.trustRegexp? with
      | none => rw [htext, hr] at hmem; exact absurd hmem (by decide)
      | some r => exact ⟨hq, r, rfl, by rw [htext, hr] at hmem; exact hmem⟩
    · rintro ⟨hq, r, hr, hmem⟩
      rw [Session.eq_of_line_trustRegexp edit today c events hq ho, hr]
      exact hmem
  refine ⟨hfirst, ?_, ?_⟩
  · intro h r hr
    have hq : (⟨.getLine, some "trustsig_prompt.trust_regexp"⟩ : Event).question? =
        some .trustRegexp := by decide
    exact h [] _ r (Session.line_trustRegexp edit today c [] hq hr)
  · intro h events e text ho hmem
    obtain ⟨-, r, hr, hr'⟩ := (hfirst events e text ho).1 hmem
    exact h r hr hr'

/-- No fault is found with an expression of two lines, and the answer to a single
    question is written as two lines. -/
theorem trustRegexp_line_feed :
    let o : SigningOptions := { trust := some ⟨1, 1, some "example.org\nsave"⟩ }
    let edit : Edit := .plain (.sign o)
    let ed : Editor :=
      { source := .absent, today := ⟨2026, 10, 19, by decide, by decide, by decide, by decide⟩ }
    let e : Event := ⟨.getLine, some "trustsig_prompt.trust_regexp"⟩
    edit.fault? ed.source = none ∧
      (((ed.session "F" edit).after []).turn e).reply.outcome =
        .ok (.line "example.org\nsave") ∧
      '\n' ∈ "example.org\nsave".toList ∧
      Wire.replyBytes e (.line "example.org\nsave") =
        Wire.lineBytes "example.org" ++ Wire.lineBytes "save" := by
  decide +kernel

end KeyDialogue
