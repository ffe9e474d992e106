/-
  Key dialogue — a session over pipes.

  Over pipes a line is read, told to the session and answered before the next
  line is read, and an answer may find that the other end takes no more input.

  * `Session.written` is what a session writes in the course of events, and
    `Session.allTaken` tells whether the other end takes all of it;
  * one lemma for each thing that a line can lead to (`converse_cons_of_…`).  From
    them: a conversation whose answers are all taken is a run over the events of
    its lines (`converse_of_allTaken`), and one that is broken off stops at the
    first answer that is not taken (`converse_of_not_taken`);
  * `pipes_refine_rehearsal`: so an edit through the backend comes to the same as a
    rehearsal of the events that the backend's output tells of;
  * `one_line_for_each_question`: what is written is one line for each question,
    and nothing for anything else.
-/
import KeyDialogue.Proofs.Turn

namespace KeyDialogue

/-! ## What is written -/

namespace Turn
variable (t : Turn)

/-- The bytes that are written for a turn; none if it ends the session. -/
def bytes (t : Turn) : List UInt8 :=
  match t.reply? with
  | .ok bytes => bytes
  | .error _ => []

theorem reply?_eq : t.reply? = t.failure?.elim (.ok t.bytes) .error := by
  obtain ⟨e, outcome, _, _⟩ := t
  cases outcome with
  | error f => rfl
  | ok a => cases a <;> rfl

theorem bytes_of_failure {t : Turn} {f : Failure} (h : t.failure? = some f) : t.bytes = [] := by
  rw [bytes, reply?_eq, h]; rfl

end Turn

namespace Session
variable (s : Session)

/-- All that a session writes in the course of events. -/
def written (events : List Event) : List UInt8 := (s.turns events).flatMap Turn.bytes

@[simp] theorem written_nil : s.written [] = [] := rfl

@[simp] theorem written_cons (e : Event) (rest : List Event) :
    s.written (e :: rest) = (s.turn e).bytes ++ (s.respond e).1.written rest := by
  simp [written]

/-- The other end takes all answers to events, after some bytes were written
    before. -/
def allTaken (takes : List UInt8 → Bool) (s : Session) (before : List UInt8) :
    List Event → Bool
  | [] => true
  | e :: rest =>
    ((s.turn e).bytes.isEmpty || takes before) &&
      (s.respond e).1.allTaken takes (before ++ (s.turn e).bytes) rest

end Session

/-! ## One line -/

section
variable (takes : List UInt8 → Bool) (s : Session) (before : List UInt8) {line : List UInt8}
  (rest : List (List UInt8)) {e : Event}

theorem converse_cons_of_no_status (h : Wire.eventOf? line = none) :
    converse takes s before (line :: rest) = converse takes s before rest := by
  simp [converse, Session.hear, h]

theorem converse_cons_of_failure (h : Wire.eventOf? line = some e) {f : Failure}
    (hf : (s.turn e).failure? = some f) :
    converse takes s before (line :: rest) =
      ⟨(s.respond e).1, [s.turn e], before, some f⟩ := by
  simp [converse, Session.hear, h, Turn.reply?_eq, hf]

theorem converse_cons_of_taken (h : Wire.eventOf? line = some e)
    (hf : (s.turn e).failure? = none)
    (ht : ((s.turn e).bytes.isEmpty || takes before) = true) :
    converse takes s before (line :: rest) =
      let x := converse takes (s.respond e).1 (before ++ (s.turn e).bytes) rest
      { x with turns := s.turn e :: x.turns } := by
  have hgo : (!(s.turn e).bytes.isEmpty && !takes before) = false := by
    rw [← Bool.not_or, ht]; rfl
  simp [converse, Session.hear, h, Turn.reply?_eq, hf, hgo]

theorem converse_cons_of_not_taken (h : Wire.eventOf? line = some e)
    (ht : ((s.turn e).bytes.isEmpty || takes before) = false) :
    converse takes s before (line :: rest) =
      ⟨(s.respond e).1, [s.turn e], before, some brokenPipe⟩ := by
  have hbreak : (!(s.turn e).bytes.isEmpty && !takes before) = true := by
    rw [← Bool.not_or, ht]; rfl
  have hf : (s.turn e).failure? = none := by
    cases hf : (s.turn e).failure? with
    | none => rfl
    | some f => simp [Turn.bytes_of_failure hf] at ht
  simp [converse, Session.hear, h, Turn.reply?_eq, hf, hbreak]

end

/-! ## All lines -/

/-- If all answers are taken, a conversation is a run over the events of its
    lines. -/
theorem converse_of_allTaken (takes : List UInt8 → Bool) (s : Session) (before : List UInt8)
    (lines : List (List UInt8))
    (h : s.allTaken takes before (s.heard (lines.filterMap Wire.eventOf?)) = true) :
    let heard := s.heard (lines.filterMap Wire.eventOf?)
    converse takes s before lines = ⟨s.after heard, s.turns heard, before ++ s.written heard,
      (s.turns heard).findSome? Turn.failure?⟩ := by
  intro heard
  -- the session and what was written vary from line to line; the other end does not
  induction lines generalizing s before with
  | nil => simp [converse, heard]
  | cons line rest ih =>
    cases he : Wire.eventOf? line with
    | none =>
      simp only [List.filterMap_cons, he, heard] at h ⊢
      rw [converse_cons_of_no_status takes s before rest he]
      exact ih s before h
    | some e =>
      simp only [List.filterMap_cons, he, heard] at h ⊢
      cases hf : (s.turn e).failure? with
      | some f =>
        rw [converse_cons_of_failure takes s before rest he hf, s.heard_cons_of_failure hf]
        simp [Turn.bytes_of_failure hf, hf]
      | none =>
        rw [s.heard_cons_of_no_failure hf] at h ⊢
        obtain ⟨ht, hrest⟩ := Bool.and_eq_true_iff.1 h
        rw [converse_cons_of_taken takes s before rest he hf ht, ih _ _ hrest]
        simp [hf]

/-- The first answer that is not taken breaks a conversation off. -/
theorem converse_of_not_taken (takes : List UInt8 → Bool) (s : Session) (before : List UInt8)
    (lines : List (List UInt8)) {earlier : List Event} {e : Event}
    (hpre : earlier ++ [e] <+: s.heard (lines.filterMap Wire.eventOf?))
    (htaken : s.allTaken takes before earlier = true)
    (hnot : s.allTaken takes before (earlier ++ [e]) = false) :
    converse takes s before lines = ⟨s.after (earlier ++ [e]), s.turns (earlier ++ [e]),
      before ++ s.written earlier, some brokenPipe⟩ := by
  induction lines generalizing s before earlier with
  | nil => simp at hpre
  | cons line rest ih =>
    cases he : Wire.eventOf? line with
    | none =>
      simp only [List.filterMap_cons, he] at hpre
      rw [converse_cons_of_no_status takes s before rest he]
      exact ih s before hpre htaken hnot
    | some e₁ =>
      simp only [List.filterMap_cons, he] at hpre
      -- either this answer is the one that is not taken, or it is a later one
      cases earlier with
      | nil =>
        have hlast : ((s.turn e).bytes.isEmpty || takes before) = false := by
          simpa [Session.allTaken] using hnot
        obtain rfl : e = e₁ := by
          cases hf : (s.turn e₁).failure? with
          | some f => simpa [s.heard_cons_of_failure hf] using hpre
          | none => simpa [s.heard_cons_of_no_failure hf] using hpre
        rw [converse_cons_of_not_taken takes s before rest he hlast]
        simp
      | cons e₂ earlier =>
        cases hf : (s.turn e₁).failure? with
        | some f => simp [s.heard_cons_of_failure hf] at hpre
        | none =>
          rw [s.heard_cons_of_no_failure hf, List.cons_append, List.cons_prefix_cons] at hpre
          obtain ⟨rfl, hpre⟩ := hpre
          obtain ⟨ht, hrest⟩ := Bool.and_eq_true_iff.1 htaken
          have hnot' : (s.respond e₂).1.allTaken takes (before ++ (s.turn e₂).bytes)
              (earlier ++ [e]) = false := by
            simpa [Session.allTaken, ht] using hnot
          rw [converse_cons_of_taken takes s before rest he hf ht, ih _ _ hpre hrest hnot']
          simp

/-! ## The backend -/

/-- The rehearsal of the events that a child's output tells of, which ends as the
    child does. -/
def Child.rehearsal (c : Child) : Rehearsal where
  events := Wire.eventsOf c.output
  ending := c.ending.outcome

namespace Backend
variable (b : Backend) (child : Child) (fingerprint : String) (s : Session)

theorem conduct_of_allTaken (hstart : canPass (b.arguments fingerprint) = true)
    (h : s.allTaken child.takes [] (s.heard (Wire.eventsOf child.output)) = true) :
    (b.conduct (some child) fingerprint s).course = child.rehearsal.conduct s := by
  have hx := converse_of_allTaken child.takes s [] (Wire.lines child.output) h
  rw [Rehearsal.conduct_eq]
  simp only [conduct, hstart, hx]
  rfl

theorem conduct_of_not_taken (hstart : canPass (b.arguments fingerprint) = true)
    {earlier : List Event} {e : Event}
    (hpre : earlier ++ [e] <+: s.heard (Wire.eventsOf child.output))
    (htaken : s.allTaken child.takes [] earlier = true)
    (hnot : s.allTaken child.takes [] (earlier ++ [e]) = false) :
    (b.conduct (some child) fingerprint s).course =
      s.course (earlier ++ [e]) (.error brokenPipe) := by
  have hx := converse_of_not_taken child.takes s [] (Wire.lines child.output) hpre htaken hnot
  simp only [conduct, hstart, hx]
  rfl

end Backend

/-- **An edit over pipes refines a rehearsal.** If the child takes all answers, the
    edit comes to the same as a rehearsal of the events that the child's output
    tells of: the same turns, requests, record, notes and result, and the same
    editor afterwards.  The first answer that it does not take ends the session
    with an i/o failure, and no later event is delivered. -/
theorem pipes_refine_rehearsal (b : Backend) (child : Child) (ed : Editor) (fingerprint : String)
    (edit : Edit) (hstart : Backend.canPass (b.arguments fingerprint) = true) :
    let s := ed.session fingerprint edit
    let heard := s.heard (Wire.eventsOf child.output)
    let done := b.edit (some child) ed fingerprint edit
    (s.allTaken child.takes [] heard = true →
      (done.1, done.2.1) = ed.edit child.rehearsal.conduct fingerprint edit) ∧
    ∀ earlier e, earlier ++ [e] <+: heard → s.allTaken child.takes [] earlier = true →
      s.allTaken child.takes [] (earlier ++ [e]) = false → edit.fault? ed.source = none →
        (done.1, done.2.1) =
            ed.conclude fingerprint edit.kind (s.course (earlier ++ [e]) (.error brokenPipe)) ∧
          done.2.1.turns.map Turn.event = earlier ++ [e] ∧
          done.2.1.result = .error brokenPipe := by
  intro s heard done
  have hdone : (done.1, done.2.1) =
      ed.edit (fun s => (b.conduct (some child) fingerprint s).course) fingerprint edit :=
    b.edit_eq (some child) ed fingerprint edit
  constructor
  · intro hopen
    have hcourse := b.conduct_of_allTaken child fingerprint s hstart hopen
    rw [hdone]
    unfold Editor.edit
    cases edit.fault? ed.source with
    | some fault => rfl
    | none => exact congrArg (ed.conclude fingerprint edit.kind) hcourse
  · intro earlier e hpre htaken hnot hfault
    have hcourse := b.conduct_of_not_taken child fingerprint s hstart hpre htaken hnot
    have hconclude : (done.1, done.2.1) =
        ed.conclude fingerprint edit.kind (s.course (earlier ++ [e]) (.error brokenPipe)) := by
      rw [hdone, Editor.edit, hfault]
      exact congrArg (ed.conclude fingerprint edit.kind) hcourse
    refine ⟨hconclude, ?_, ?_⟩
    · rw [congrArg (fun x => x.2.turns) hconclude]
      exact s.map_event_turns (earlier ++ [e])
    · rw [congrArg (fun x => x.2.result) hconclude]
      rfl

/-- A child that writes noise, bytes that are no text and a last line without end,
    and one that closes its input before the second answer. -/
theorem pipes_refine_rehearsal_scripts :
    let b : Backend := {}
    let ed : Editor :=
      { source := .scripted [some "guess"]
        today := ⟨2026, 10, 19, by decide, by decide, by decide, by decide⟩ }
    let edit : Edit := .plain (.setOwnerTrust .full)
    let menu := Wire.lineBytes "[GNUPG:] GET_LINE keyedit.prompt"
    let passphrase := Wire.lineBytes "[GNUPG:] GET_HIDDEN passphrase.enter"
    let patient : Script :=
      { steps := [.write menu, .readLine, .write (0xff :: Wire.lineBytes "pub"),
          .write passphrase, .readLine, .write (Text.Utf8.encode "[GNUPG:] BAD_PASSPHRASE")]
        ending := .exit 2 }
    let hasty : Script := { steps := [.write menu, .readLine, .close, .write passphrase] }
    let prompt : Event := ⟨.getLine, some "keyedit.prompt"⟩
    let enter : Event := ⟨.getHidden, some "passphrase.enter"⟩
    let done := b.edit (some patient.child) ed "F" edit
    let broken := b.edit (some hasty.child) ed "F" edit
    Backend.canPass (b.arguments "F") = true ∧
      (done.1, done.2.1) = ed.edit patient.child.rehearsal.conduct "F" edit ∧
      done.2.1.turns.length = 3 ∧ done.2.1.record.previousWasBad = true ∧
      broken.2.1.turns.map Turn.event = [prompt] ++ [enter] ∧
      broken.2.1.result = .error brokenPipe := by
  intro b ed edit menu passphrase patient hasty prompt enter done broken
  have hstart : Backend.canPass (b.arguments "F") = true := by decide
  obtain ⟨hopen, -⟩ := pipes_refine_rehearsal b patient.child ed "F" edit hstart
  obtain ⟨-, hbroken⟩ := pipes_refine_rehearsal b hasty.child ed "F" edit hstart
  refine ⟨hstart, hopen (by decide +kernel), by decide +kernel, by decide +kernel, ?_⟩
  obtain ⟨-, hturns, hresult⟩ := hbroken [prompt] enter (by decide +kernel) (by decide +kernel)
    (by decide +kernel) (by decide)
  exact ⟨hturns, hresult⟩

/-! ## One line for each question -/

/-- The text that an answer gives, as bytes; none if it gives no text. -/
def Answer.bytes : Answer → List UInt8
  | .line text | .secret text => Text.Utf8.encode text
  | .nothing | .abort => []

/-- What answers a turn, as a line of bytes. -/
def Turn.answerLine (t : Turn) : List UInt8 :=
  (match t.reply.outcome with
    | .ok a => a.bytes
    | .error _ => []) ++ [Wire.newline]

namespace Session
variable (s : Session) {e : Event}

/-- A turn that does not fail writes one line for a question, and nothing for any
    other event. -/
theorem bytes_turn (hf : (s.turn e).failure? = none) :
    (s.turn e).bytes = if e.status.asks then (s.turn e).answerLine else [] := by
  cases ho : (s.respond e).2.outcome with
  | error f => simp [Turn.failure?, turn, Reply.failure?, ho] at hf
  | ok a =>
    cases ha : e.status.asks with
    | true =>
      cases a with
      | abort => simp [Turn.failure?, turn, Reply.failure?, ho] at hf
      | nothing | line _ | secret _ =>
        simp [Turn.bytes, turn, Turn.reply?, ho, Wire.replyBytes, ha, Turn.answerLine,
          Answer.bytes, Wire.lineBytes]
    | false =>
      obtain rfl := s.respond_silent ha a ho
      simp [Turn.bytes, turn, Turn.reply?, ho, Wire.replyBytes, ha]

/-- What a session writes up to its first failure. -/
theorem written_heard (events : List Event) :
    s.written (s.heard events) =
      (((s.turns (s.heard events)).takeWhile fun t => t.failure?.isNone).filter
        fun t => t.event.status.asks).flatMap Turn.answerLine := by
  induction events generalizing s with
  | nil => rfl
  | cons e rest ih =>
    cases hf : (s.turn e).failure? with
    | some f => simp [s.heard_cons_of_failure hf, hf, Turn.bytes_of_failure hf]
    | none =>
      rw [s.heard_cons_of_no_failure hf, written_cons, ih, s.bytes_turn hf]
      cases ha : e.status.asks <;> simp [hf, show (s.turn e).event = e from rfl, ha]

end Session

/-- **One line for each question.** If the other end takes all answers, what a
    conversation writes is one line for each question up to the first failing turn,
    in order: the text of its answer, or an empty line.  Only questions are
    answered, and only the one for the passphrase by a secret or by breaking
    off. -/
theorem one_line_for_each_question (takes : List UInt8 → Bool) (s : Session)
    (output : List UInt8)
    (h : s.allTaken takes [] (s.heard (Wire.eventsOf output)) = true) :
    let x := converse takes s [] (Wire.lines output)
    x.turns = (s.run (Wire.eventsOf output)).2 ∧
      x.written = ((x.turns.takeWhile fun t => t.failure?.isNone).filter
        fun t => t.event.status.asks).flatMap Turn.answerLine ∧
      ∀ (s' : Session) e a, (s'.respond e).2.outcome = .ok a →
        (e.status.asks = false → a = .nothing) ∧
          ((∃ text, a = .secret text) ∨ a = .abort →
            e = ⟨.getHidden, some "passphrase.enter"⟩) := by
  intro x
  have hx := converse_of_allTaken takes s [] (Wire.lines output) h
  have hturns : x.turns = s.turns (s.heard (Wire.eventsOf output)) := congrArg Exchange.turns hx
  have hwritten : x.written = s.written (s.heard (Wire.eventsOf output)) :=
    congrArg Exchange.written hx
  refine ⟨?_, ?_, fun s' e a ho => ⟨fun ha => s'.respond_silent ha a ho, fun ha => ?_⟩⟩
  · rw [hturns, s.run_eq]
  · rw [hwritten, hturns]; exact s.written_heard (Wire.eventsOf output)
  · exact Event.asksPassphrase_iff.1 (s'.asksPassphrase_of_outcome ho ha)

/-- A question that the edit does not know gets an empty line, and an advisory
    none. -/
theorem one_line_for_each_question_unknown :
    let today : Date := ⟨2026, 10, 19, by decide, by decide, by decide, by decide⟩
    let s := (Edit.plain (.setEnabled false)).session today ⟨{}, .stored "guess"⟩
    let output := Wire.lineBytes "pub" ++ Wire.lineBytes "[GNUPG:] GET_BOOL no.such.question" ++
      Wire.lineBytes "[GNUPG:] BAD_PASSPHRASE" ++
      Wire.lineBytes "[GNUPG:] GET_HIDDEN passphrase.enter" ++
      Text.Utf8.encode "[GNUPG:] GET_LINE keyedit.prompt"
    let takes := fun _ : List UInt8 => true
    s.allTaken takes [] (s.heard (Wire.eventsOf output)) = true ∧
      (converse takes s [] (Wire.lines output)).written =
        Wire.lineBytes "" ++ Wire.lineBytes "guess" ++ Wire.lineBytes "disable" := by
  intro today s output takes
  have hopen : s.allTaken takes [] (s.heard (Wire.eventsOf output)) = true := by decide +kernel
  obtain ⟨hturns, hwritten, -⟩ := one_line_for_each_question takes s output hopen
  refine ⟨hopen, ?_⟩
  rw [hwritten, hturns]
  decide +kernel

end KeyDialogue
