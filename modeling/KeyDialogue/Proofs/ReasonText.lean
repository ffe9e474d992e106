/-
  Key dialogue — the explanation of a revocation, line by line.

  The backend asks for the explanation by one question for each line, and stops at a line
  without text.  So a blank line within the explanation would cut it short.

  * `textLines` are the lines of a text, whichever way they end.  The lines that are given
    are these, without their trailing blanks, as far as anything is left
    (`toList_reasonLines`);
  * `ends_in_text_of_mem_reasonLines`: each of them ends in a character that is no blank, so
    none is read as the end; `filter_reasonLines`: no such character is lost;
    `reasonLines_intercalate`: as a text of their own they are left as they are;
  * `explanation_is_sent_in_full`: so the whole explanation is sent, and then its end.
-/
import KeyDialogue.Proofs.SingleLine
import Mathlib.Data.List.TakeWhile

namespace KeyDialogue

open KeyDialogue.Text

namespace Text

/-! ## Lines -/

/-- A line without the carriage return that may stand at its end. -/
def withoutReturn (line : List Char) : List Char :=
  if line.getLast? = some '\r' then line.dropLast else line

/-- The lines of a text, without what ends them: a line feed, or a carriage return and a
    line feed.  After a line feed at the end of the text there is one more, empty line. -/
def textLines (s : List Char) : List (List Char) := (s.splitOn '\n').map withoutReturn

/-- A text is a last line, or begins with a line that a line feed ends. -/
theorem line_induction {motive : List Char → Prop}
    (last : ∀ line, '\n' ∉ line → motive line)
    (ended : ∀ line rest, '\n' ∉ line → motive rest → motive (line ++ '\n' :: rest))
    (s : List Char) : motive s := by
  induction hn : s.length using Nat.strongRecOn generalizing s with
  | ind n ih =>
    by_cases h : '\n' ∈ s
    · obtain ⟨line, rest, rfl, hline⟩ := List.eq_append_cons_of_mem h
      refine ended line rest hline (ih rest.length ?_ rest rfl)
      rw [← hn, List.length_append, List.length_cons]
      omega
    · exact last s h

/-! ## Trailing blanks -/

/-- What is removed from the end of a text is blanks, and what is left does not end in
    one. -/
theorem exists_trimEnd_append (s : List Char) :
    ∃ blanks, s = trimEnd s ++ blanks ∧ (∀ c ∈ blanks, isBlank c = true) ∧
      ∀ c ∈ (trimEnd s).getLast?, isBlank c = false := by
  refine ⟨(s.reverse.takeWhile isBlank).reverse, ?_, fun c hc => ?_, fun c hc => ?_⟩
  · rw [trimEnd, ← List.reverse_append, List.takeWhile_append_dropWhile, List.reverse_reverse]
  · exact List.mem_takeWhile_imp (List.mem_reverse.1 hc)
  · rw [trimEnd, List.getLast?_reverse] at hc
    have hhead := List.head?_dropWhile_not isBlank s.reverse
    rw [Option.mem_def.1 hc] at hhead
    simpa using hhead

/-- A text that does not end in a blank is left alone. -/
theorem trimEnd_of_getLast? {s : List Char} (h : ∀ c ∈ s.getLast?, isBlank c = false) :
    trimEnd s = s := by
  rcases List.eq_nil_or_concat s with rfl | ⟨t, c, rfl⟩
  · rfl
  · rw [List.concat_eq_append] at h ⊢
    exact trimEnd_concat_of_not_isBlank t (h c (by simp))

/-- Only blanks are removed. -/
theorem filter_trimEnd (s : List Char) :
    (trimEnd s).filter (fun c => !isBlank c) = s.filter fun c => !isBlank c := by
  obtain ⟨blanks, hs, hblanks, -⟩ := exists_trimEnd_append s
  have hnone : blanks.filter (fun c => !isBlank c) = [] :=
    List.filter_eq_nil_iff.2 fun c hc => by simp [hblanks c hc]
  conv_rhs => rw [hs, List.filter_append, hnone, List.append_nil]

theorem trimEnd_withoutReturn (line : List Char) : trimEnd (withoutReturn line) = trimEnd line := by
  unfold withoutReturn; split
  · next h =>
    obtain ⟨t, rfl⟩ := List.getLast?_eq_some_iff.1 h
    rw [List.dropLast_concat, trimEnd_concat_of_isBlank t (by decide)]
  · rfl

/-! ## Lines with text -/

/-- The lines in which anything is left without trailing blanks. -/
def trimmed (lines : List (List Char)) : List (List Char) :=
  (lines.map trimEnd).filter (· ≠ [])

theorem trimmed_cons (line : List Char) (lines : List (List Char)) :
    trimmed (line :: lines) =
      (if trimEnd line = [] then [] else [trimEnd line]) ++ trimmed lines := by
  by_cases h : trimEnd line = [] <;> simp [trimmed, h]

/-- It makes no difference to the lines with text whether they are cut before or after what
    ends them. -/
theorem trimmed_pieces (s : List Char) :
    trimmed (pieces (· == '\n') s) = trimmed (s.splitOn '\n') := by
  have hrun : ∀ {line : List Char}, '\n' ∉ line → ∀ c ∈ line, (c == '\n') = false := by
    intro line h c hc
    refine beq_false_of_ne ?_
    rintro rfl
    exact h hc
  induction s using line_induction with
  | last line h =>
    rw [List.splitOn_eq_singleton h]
    by_cases hne : line = []
    · subst hne; rfl
    · rw [pieces_of_run (hrun h) hne]
  | ended line rest h ih =>
    rw [List.splitOn_append_cons_self_of_not_mem h, pieces_append_cons (hrun h) (by simp),
      trimmed_cons, trimmed_cons, ih, trimEnd_concat_of_isBlank line (by decide)]

theorem trimmed_textLines (s : List Char) : trimmed (textLines s) = trimmed (s.splitOn '\n') := by
  have hmap : (textLines s).map trimEnd = (s.splitOn '\n').map trimEnd := by
    rw [textLines, List.map_map]
    exact List.map_congr_left fun line _ => trimEnd_withoutReturn line
  rw [trimmed, hmap, trimmed]

/-- No character other than a blank is lost. -/
theorem filter_flatten_trimmed (lines : List (List Char)) :
    (trimmed lines).flatten.filter (fun c => !isBlank c) =
      lines.flatten.filter fun c => !isBlank c := by
  induction lines with
  | nil => rfl
  | cons line lines ih =>
    rw [trimmed_cons, List.flatten_append, List.filter_append, ih, List.flatten_cons,
      List.filter_append, ← filter_trimEnd line]
    by_cases h : trimEnd line = [] <;> simp [h]

/-- A line with text ends in a character that is no blank. -/
theorem getLast?_of_mem_trimmed {line : List Char} {lines : List (List Char)}
    (h : line ∈ trimmed lines) : ∃ c, line.getLast? = some c ∧ isBlank c = false := by
  obtain ⟨hmem, hne⟩ := List.mem_filter.1 h
  obtain ⟨s, -, rfl⟩ := List.mem_map.1 hmem
  obtain ⟨_, -, -, hlast⟩ := exists_trimEnd_append s
  have hne : trimEnd s ≠ [] := by simpa using hne
  exact ⟨_, List.getLast?_eq_some_getLast hne, hlast _ (List.getLast?_eq_some_getLast hne)⟩

/-- Lines with text are left as they are. -/
theorem trimmed_trimmed (lines : List (List Char)) : trimmed (trimmed lines) = trimmed lines := by
  have hmap : (trimmed lines).map trimEnd = trimmed lines := by
    refine (List.map_congr_left fun line h => ?_).trans (List.map_id _)
    obtain ⟨c, hlast, hc⟩ := getLast?_of_mem_trimmed h
    exact trimEnd_of_getLast? fun d hd => by simp_all
  rw [trimmed, hmap]
  exact List.filter_eq_self.2 fun line h => (List.mem_filter.1 h).2

end Text

/-! ## The lines of an explanation -/

section
variable (description : String)

/-- The lines that are given are the lines of the explanation, without trailing blanks and
    without those that hold nothing else. -/
theorem toList_reasonLines :
    (reasonLines description).map String.toList = trimmed (textLines description.toList) := by
  rw [trimmed_textLines, ← trimmed_pieces]
  simp [reasonLines, trimmed, Function.comp_def]

variable {description}

theorem ends_in_text_of_mem_reasonLines {line : String} (h : line ∈ reasonLines description) :
    ∃ c, line.toList.getLast? = some c ∧ isBlank c = false := by
  have hmem : line.toList ∈ trimmed (textLines description.toList) :=
    toList_reasonLines description ▸ List.mem_map_of_mem h
  exact getLast?_of_mem_trimmed hmem

variable (description)

/-- All that is no blank is given, in its order. -/
theorem filter_reasonLines :
    ((reasonLines description).flatMap String.toList).filter (fun c => !isBlank c) =
      description.toList.filter fun c => !isBlank c := by
  rw [List.flatMap_def, toList_reasonLines, trimmed_textLines, ← trimmed_pieces,
    filter_flatten_trimmed, flatten_pieces]

/-- As an explanation of their own, the lines are given as they are. -/
theorem reasonLines_intercalate :
    reasonLines ("\n".intercalate (reasonLines description)) = reasonLines description := by
  by_cases hnil : reasonLines description = []
  · rw [hnil]; rfl
  · have hlines : ∀ line ∈ (reasonLines description).map String.toList, '\n' ∉ line := by
      intro line hline
      obtain ⟨text, htext, rfl⟩ := List.mem_map.1 hline
      exact isLine_of_mem_reasonLines htext
    have hchars : (reasonLines ("\n".intercalate (reasonLines description))).map String.toList =
        (reasonLines description).map String.toList := by
      calc
        _ = trimmed (['\n'].intercalate ((reasonLines description).map String.toList) |>.splitOn
            '\n') := by
          rw [toList_reasonLines, trimmed_textLines, String.toList_intercalate]
          rfl
        _ = trimmed ((reasonLines description).map String.toList) := by
          rw [List.splitOn_intercalate '\n' hlines (by simpa using hnil)]
        _ = (reasonLines description).map String.toList := by
          rw [toList_reasonLines, trimmed_trimmed]
    exact (List.map_inj_right fun _ _ h => String.toList_injective h).1 hchars

end

/-! ## Giving the explanation -/

namespace Session
variable (today : Date) (c : Custody) (o : RevocationOptions)

/-- A revocation gives one line after the other, and then the end of the explanation. -/
theorem outcome_reasonText (before : List Event) {e : Event} (h : e.question? = some .reasonText) :
    ((((Edit.plain (.revokeSignature o)).session today c).after before).turn e).reply.outcome =
      .ok (.line ((reasonLines o.description)[asked .reasonText before]?.getD " ")) := by
  rw [outcome_after_plain today c (.revokeSignature o) before h (by decide)]
  show ((Revocation.reached o before).respond e).2.outcome = _
  have hleft : (Revocation.reached o before).reason =
      (reasonLines o.description).drop (asked .reasonText before) := rfl
  have hnext : (reasonLines o.description)[asked .reasonText before]? =
      (Revocation.reached o before).reason.head? := by
    rw [hleft, List.head?_drop]
  rw [hnext]
  simp only [Revocation.respond, h]
  cases (Revocation.reached o before).reason <;> rfl

/-- Explanations with the same lines lead to the same turns. -/
theorem turns_of_reasonLines_eq {description : String}
    (h : reasonLines description = reasonLines o.description) (events : List Event) :
    ((Edit.plain (.revokeSignature { o with description })).session today c).turns events =
      ((Edit.plain (.revokeSignature o)).session today c).turns events := by
  refine turns_plain_congr today c (fun before e => ?_) events
  exact Revocation.reply_congr o { o with description } rfl rfl (fun _ => Iff.rfl) h before e

end Session

/-- **The explanation is sent in full.**  Whatever comes between, the questions for the
    explanation are answered by its lines, one after the other, and by a single space from
    then on.  These are the lines of the description without their trailing blanks, as far
    as anything is left.  None of them holds a line feed or is blank, so none is read as
    several lines or as the end; together they hold all characters that are no blanks; and
    with these lines as the description, every session takes the same turns. -/
theorem explanation_is_sent_in_full (o : RevocationOptions) (today : Date) (c : Custody) :
    let s := (Edit.plain (.revokeSignature o)).session today c
    let lines := reasonLines o.description
    lines.map String.toList =
        ((textLines o.description.toList).map trimEnd).filter (fun line => line ≠ []) ∧
      (∀ before e, e.question? = some .reasonText →
        ((s.after before).turn e).reply.outcome =
          .ok (.line (lines[asked .reasonText before]?.getD " "))) ∧
      (∀ events,
        let times := asked .reasonText events
        s.linesTo .reasonText events =
          lines.take times ++ List.replicate (times - lines.length) " ") ∧
      (∀ line ∈ lines, '\n' ∉ line.toList ∧ line ≠ "" ∧
        ∃ c ∈ line.toList, isBlank c = false) ∧
      (lines.flatMap String.toList).filter (fun c => !isBlank c) =
        o.description.toList.filter (fun c => !isBlank c) ∧
      ∀ events,
        ((Edit.plain (.revokeSignature { o with description := "\n".intercalate lines })).session
          today c).turns events = s.turns events := by
  intro s lines
  refine ⟨toList_reasonLines _, fun before e => Session.outcome_reasonText today c o before,
    fun events => ?_, fun line hline => ?_, filter_reasonLines _, fun events => ?_⟩
  · exact Session.linesTo_eq_take s lines " "
      (fun before e => Session.outcome_reasonText today c o before) events
  · obtain ⟨last, hlast, hblank⟩ := ends_in_text_of_mem_reasonLines hline
    refine ⟨isLine_of_mem_reasonLines hline, ?_, last, List.mem_of_getLast? hlast, hblank⟩
    rintro rfl
    cases hlast
  · exact Session.turns_of_reasonLines_eq today c o (reasonLines_intercalate o.description) events

end KeyDialogue
