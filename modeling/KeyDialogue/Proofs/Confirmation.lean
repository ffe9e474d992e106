/-
  Key dialogue — a new passphrase typed on the terminal is confirmed.

  Who changes a passphrase on the terminal types the new one twice.

  * `converse_of_failure`: a turn that fails ends a conversation with nothing written for
    it, and so the turns before one have not failed;
  * `linesRead` counts the lines that were typed in the course of events, and
    `Editor.linesTakenBy_requests`: the requests of a session took just these;
  * `CommandLine.confirmedAnswer` is what two lines make of a question;
    `Editor.outcome_of_typed`, `Editor.outcome_of_turn`: so a question is answered by
    lines of known places, or breaks the session off;
  * `Backend.conduct_of_failure`: the turn that fails is the last one of a session with a
    child, nothing is written for it, and the child is killed;
  * `new_passphrase_is_confirmed`: the statement for whole command lines.
-/
import KeyDialogue.Proofs.Cancellation
import KeyDialogue.Proofs.GivingUp
import KeyDialogue.Proofs.Preparation

namespace KeyDialogue

/-! ## Turns that fail -/

/-- A turn that fails is the last one, and nothing is written for it. -/
theorem converse_of_failure (takes : List UInt8 → Bool) (s : Session) (written : List UInt8)
    (lines : List (List UInt8)) {before after : List Turn} {t : Turn} {f : Failure}
    (hturns : (converse takes s written lines).turns = before ++ t :: after)
    (hf : t.failure? = some f) :
    let x := converse takes s written lines
    after = [] ∧ x.written = written ++ before.flatMap Turn.bytes ∧ x.failure = some f := by
  intro x
  induction lines generalizing s written before with
  | nil => simp [converse] at hturns
  | cons line rest ih =>
    cases he : Wire.eventOf? line with
    | none =>
      simp only [x, converse_cons_of_no_status takes s written rest he] at hturns ⊢
      exact ih s written hturns
    | some e =>
      cases hfirst : (s.turn e).failure? with
      | some f' =>
        simp only [x, converse_cons_of_failure takes s written rest he hfirst] at hturns ⊢
        obtain ⟨rfl, hrest⟩ | ⟨_, -, hrest⟩ := List.cons_eq_append_iff.1 hturns
        · obtain ⟨rfl, rfl⟩ := List.cons.inj hrest
          rw [hfirst] at hf
          simp [Option.some.inj hf]
        · simp at hrest
      | none =>
        have hne : t ≠ s.turn e := by rintro rfl; rw [hfirst] at hf; cases hf
        cases htaken : (s.turn e).bytes.isEmpty || takes written with
        | false =>
          simp only [x, converse_cons_of_not_taken takes s written rest he htaken] at hturns ⊢
          obtain ⟨rfl, hrest⟩ | ⟨_, -, hrest⟩ := List.cons_eq_append_iff.1 hturns
          · exact absurd (List.cons.inj hrest).1 hne
          · simp at hrest
        | true =>
          simp only [x, converse_cons_of_taken takes s written rest he hfirst htaken] at hturns ⊢
          obtain ⟨rfl, hrest⟩ | ⟨earlier, rfl, hrest⟩ := List.cons_eq_append_iff.1 hturns
          · exact absurd (List.cons.inj hrest).1 hne
          · obtain ⟨hlast, hwritten, hfailure⟩ := ih _ _ hrest
            exact ⟨hlast, by rw [hwritten, List.flatMap_cons, List.append_assoc], hfailure⟩

/-- A turn that is followed by another one has not failed. -/
theorem failure?_of_followed {takes : List UInt8 → Bool} {s : Session} {written : List UInt8}
    {lines : List (List UInt8)} {before after : List Turn} {t : Turn}
    (hturns : (converse takes s written lines).turns = before ++ t :: after) :
    ∀ u ∈ before, u.failure? = none := by
  intro u hu
  obtain ⟨earlier, later, rfl⟩ := List.append_of_mem hu
  rw [List.append_assoc, List.cons_append] at hturns
  cases hf : u.failure? with
  | none => rfl
  | some f =>
    obtain ⟨hlast, -⟩ := converse_of_failure takes s written lines hturns hf
    simp at hlast

namespace Session
variable (s : Session) {e : Event}

/-- A turn of a run is that of the session after the turns before it. -/
theorem turns_eq_append {events : List Event} {before after : List Turn} {t : Turn}
    (h : s.turns events = before ++ t :: after) :
    let earlier := before.map Turn.event
    events = earlier ++ t.event :: after.map Turn.event ∧ s.turns earlier = before ∧
      t = (s.after earlier).turn t.event := by
  intro earlier
  have hevents : events = earlier ++ t.event :: after.map Turn.event := by
    rw [← s.map_event_turns events, h, List.map_append, List.map_cons]
  rw [hevents, turns_append, turns_cons] at h
  obtain ⟨hbefore, hrest⟩ := List.append_inj h (by simp [earlier])
  exact ⟨hevents, hbefore, (List.cons.inj hrest).1.symm⟩

/-- Who breaks off at a refusal does so only then. -/
theorem declined_of_abort (hr : s.progress.refusal = .abort)
    (ho : (s.respond e).2.outcome = .ok .abort) :
    (s.respond e).1.custody.record.declined = true := by
  have h := s.asksPassphrase_of_outcome ho (.inr rfl)
  rw [s.outcome_respond h] at ho
  rw [s.custody_pass h]
  rcases s.pass_cases hr with ⟨hd, -⟩ | ⟨-, secret, hsecret⟩
  · exact hd
  · rw [hsecret] at ho
    cases ho

/-- If all turns go well for one who breaks off at a refusal, nothing was declined. -/
theorem declined_after_of_no_failure (hr : s.progress.refusal = .abort)
    (hd : s.custody.record.declined = false) {events : List Event}
    (h : ∀ t ∈ s.turns events, t.failure? = none) :
    (s.after events).custody.record.declined = false := by
  induction events generalizing s with
  | nil => exact hd
  | cons e rest ih =>
    obtain ⟨hfirst, hrest⟩ := List.forall_mem_cons.1 h
    exact ih (s.respond e).1 ((s.refusal_respond e).trans hr)
      (s.declined_respond_of_no_failure hr hd hfirst) hrest

end Session

/-! ## Lines of the terminal -/

/-- The lines that are typed in the course of events: one for every question for the
    passphrase, and another one to confirm it once a passphrase was accepted. -/
def linesRead (events : List Event) : ℕ :=
  events.countP Event.asksPassphrase +
    (events.dropWhile fun e => !e.isAcceptance).countP Event.asksPassphrase

theorem linesRead_append_singleton (events : List Event) (e : Event) :
    linesRead (events ++ [e]) = linesRead events +
      if e.asksPassphrase then if events.any Event.isAcceptance then 2 else 1 else 0 := by
  unfold linesRead
  rw [List.countP_append, List.countP_singleton]
  cases hacc : events.any Event.isAcceptance with
  | true =>
    have hne : ¬ (events.dropWhile fun e => !e.isAcceptance).isEmpty = true := by
      simpa [List.dropWhile_eq_nil_iff] using hacc
    rw [List.dropWhile_append, if_neg hne, List.countP_append, List.countP_singleton]
    cases e.asksPassphrase <;> simp only [Bool.false_eq_true, if_true, if_false] <;> omega
  | false =>
    have hall : ∀ g ∈ events, (!g.isAcceptance) = true := by simpa using hacc
    have hnone : (events.dropWhile fun e => !e.isAcceptance) = [] :=
      List.dropWhile_eq_nil_iff.2 hall
    -- an acceptance is no question
    have hlast : ([e].dropWhile fun e => !e.isAcceptance).countP Event.asksPassphrase = 0 := by
      cases h : e.asksPassphrase with
      | true =>
        have he := Event.isAcceptance_of_not_isAdvisory (Event.isAdvisory_of_asksPassphrase h)
        simp [he]
      | false => cases he : e.isAcceptance <;> simp [he, h]
    rw [List.dropWhile_append_of_pos hall, hlast, hnone]
    simp

namespace CommandLine

theorem linesTakenBy_append (first second : List Request) :
    linesTakenBy (first ++ second) = linesTakenBy first + linesTakenBy second := by
  induction first with
  | nil => simp [linesTakenBy]
  | cons r first ih => simp [linesTakenBy, ih, Nat.add_assoc]

/-- What is answered by the two lines from a place on: the first one if the second one
    confirms it. -/
def confirmedAnswer (lines : List String) (n : ℕ) : Answer :=
  if lines[n]?.getD "" = lines[n + 1]?.getD "" then .secret (lines[n]?.getD "") else .abort

section
variable (lines : List String) {n : ℕ}

theorem confirmedAnswer_eq_secret_iff {text : String} :
    confirmedAnswer lines n = .secret text ↔
      text = lines[n]?.getD "" ∧ text = lines[n + 1]?.getD "" := by
  unfold confirmedAnswer
  split
  · next hagree =>
    rw [Answer.secret.injEq, ← hagree, and_self, eq_comm]
  · next hdiffer =>
    exact iff_of_false nofun fun ⟨hfirst, hsecond⟩ => hdiffer (hfirst.symm.trans hsecond)

theorem confirmedAnswer_of_differ (h : lines[n]?.getD "" ≠ lines[n + 1]?.getD "") :
    confirmedAnswer lines n = .abort := if_neg h

theorem typeLine_of_confirmed (asked : List Request) {r : Request} (h : isConfirmed r = true) :
    (typeLine lines asked r).elim .abort .secret = confirmedAnswer lines (linesTakenBy asked) := by
  unfold typeLine confirmedAnswer
  simp only [h, Bool.true_and, bne_iff_ne]
  by_cases hagree : lines[linesTakenBy asked]?.getD "" = lines[linesTakenBy asked + 1]?.getD ""
  · rw [if_pos hagree, if_neg (not_not.2 hagree.symm)]
    rfl
  · rw [if_neg hagree, if_pos (Ne.symm hagree)]
    rfl

end

/-- Without pinentry the user types, if there is a terminal. -/
theorem Dialogs.source_eq (d : Dialogs) (h : d.pinentry = none) :
    d.source = .callbacks (d.terminal.elim (fun _ _ => none) typeLine) [] := by
  obtain ⟨pinentry, terminal⟩ := d
  subst h
  cases terminal <;> rfl

end CommandLine

/-! ## What is typed in a session -/

theorem Source.after_callbacks (reply : List Request → Request → Option String)
    (asked requests : List Request) :
    (Source.callbacks reply asked).after requests = .callbacks reply (asked ++ requests) := by
  induction requests generalizing asked with
  | nil => simp [Source.after]
  | cons r rest ih => simp [Source.after, Source.obtain, ih]

namespace Editor
variable (ed : Editor) (fingerprint : String) {o : PassphraseOptions}
  (hnew : o.newPassphrase = none)
include hnew

/-- As long as nothing was declined, a question leads to a request, which has to be
    confirmed once a passphrase was accepted. -/
theorem consulted_of_question (before : List Event)
    (hd : ed.source.declinesAny
      ((ed.session fingerprint (.changePassphrase o)).requests before) = false)
    {e : Event} (h : e.asksPassphrase = true) :
    let s := (ed.session fingerprint (.changePassphrase o)).after before
    ∃ r, CommandLine.isConfirmed r = before.any Event.isAcceptance ∧
      (s.turn e).reply.consulted = some r ∧
      (s.turn e).reply.outcome = .ok ((s.custody.source.obtain r).1.elim .abort .secret) := by
  intro s
  have hdeclined : s.custody.record.declined = false := by
    rw [ed.declined_after_session]
    exact hd
  have hslot : s.progress.slot =
      .source (if before.any Event.isAcceptance then .new else .current) := by
    rw [ed.slot_after_session]
    cases before.any Event.isAcceptance <;> simp [Edit.slot, hnew]
  have hasks := s.asksSource_of_slot h hdeclined
    (ed.refusal_after_session fingerprint _ before) hslot
  refine ⟨_, ?_, hasks.consulted, hasks.outcome⟩
  cases before.any Event.isAcceptance <;> rfl

/-- The requests of a session take the lines that are typed in the course of its events,
    as long as none is declined. -/
theorem linesTakenBy_requests (events : List Event)
    (hd : ed.source.declinesAny
      ((ed.session fingerprint (.changePassphrase o)).requests events) = false) :
    CommandLine.linesTakenBy ((ed.session fingerprint (.changePassphrase o)).requests events) =
      linesRead events := by
  induction events using List.reverseRecOn with
  | nil => rfl
  | append_singleton before e ih =>
    rw [Session.requests_append, Source.declinesAny_append, Bool.or_eq_false_iff] at hd
    have hlast : CommandLine.linesTakenBy
        (((ed.session fingerprint (.changePassphrase o)).after before).requests [e]) =
          if e.asksPassphrase then if before.any Event.isAcceptance then 2 else 1 else 0 := by
      rw [Session.requests_cons, Session.requests_nil, List.append_nil]
      cases h : e.asksPassphrase with
      | true =>
        obtain ⟨r, hr, hconsulted, -⟩ := ed.consulted_of_question fingerprint hnew before hd.1 h
        have hconsulted : ((((ed.session fingerprint (.changePassphrase o)).after before).respond
          e).2.consulted) = some r := hconsulted
        simp [hconsulted, CommandLine.linesTakenBy, CommandLine.linesTaken, hr]
      | false =>
        rw [(Session.respond_open _ h).consulted]
        rfl
    rw [Session.requests_append, CommandLine.linesTakenBy_append, ih hd.1, hlast,
      linesRead_append_singleton]

variable {d : CommandLine.Dialogs} (hpinentry : d.pinentry = none) (hsource : ed.source = d.source)
include hpinentry hsource

/-- Without a terminal a question breaks the session off, and once a passphrase was
    accepted it is answered by the two lines after those of the questions before. -/
theorem outcome_of_typed (before : List Event)
    (hd : ed.source.declinesAny
      ((ed.session fingerprint (.changePassphrase o)).requests before) = false)
    {e : Event} (h : e.asksPassphrase = true) :
    let outcome :=
      (((ed.session fingerprint (.changePassphrase o)).after before).turn e).reply.outcome
    (d.terminal = none → outcome = .ok .abort) ∧
    ∀ lines, d.terminal = some lines → before.any Event.isAcceptance = true →
      outcome = .ok (CommandLine.confirmedAnswer lines (linesRead before)) := by
  intro outcome
  obtain ⟨r, hr, -, hout⟩ := ed.consulted_of_question fingerprint hnew before hd h
  have hafter : ((ed.session fingerprint (.changePassphrase o)).after before).custody.source =
      .callbacks (d.terminal.elim (fun _ _ => none) CommandLine.typeLine)
        ((ed.session fingerprint (.changePassphrase o)).requests before) := by
    rw [Session.custody_after, ed.custody_session, hsource, d.source_eq hpinentry,
      Source.after_callbacks, List.nil_append]
  have hout : outcome = _ := hout
  rw [hafter] at hout
  constructor
  · intro hterminal
    rw [hout, hterminal]
    rfl
  · intro lines hterminal hacc
    rw [hout, hterminal, Option.elim_some, Source.obtain,
      CommandLine.typeLine_of_confirmed lines _ (hr.trans hacc),
      ed.linesTakenBy_requests fingerprint hnew before hd]

/-- The same over pipes, where nothing was declined before any turn: it would have been the
    last one. -/
theorem outcome_of_turn {takes : List UInt8 → Bool} {input : List (List UInt8)}
    {before after : List Turn} {t : Turn}
    (hturns : (converse takes (ed.session fingerprint (.changePassphrase o)) [] input).turns =
      before ++ t :: after) (h : t.event.asksPassphrase = true) :
    (d.terminal = none → t.reply.outcome = .ok .abort) ∧
    ∀ lines, d.terminal = some lines →
      (before.map Turn.event).any Event.isAcceptance = true →
      t.reply.outcome =
        .ok (CommandLine.confirmedAnswer lines (linesRead (before.map Turn.event))) := by
  obtain ⟨heard, -, -, hheard⟩ :=
    converse_eq takes (ed.session fingerprint (.changePassphrase o)) [] input
  obtain ⟨-, hbefore, ht⟩ := Session.turns_eq_append _ (hheard.symm.trans hturns)
  have hgood : ∀ u ∈ (ed.session fingerprint (.changePassphrase o)).turns (before.map Turn.event),
      u.failure? = none := by
    rw [hbefore]
    exact failure?_of_followed hturns
  have hundeclined := Session.declined_after_of_no_failure _
    (ed.refusal_after_session fingerprint _ []) rfl hgood
  rw [ed.declined_after_session] at hundeclined
  rw [ht]
  exact ed.outcome_of_typed fingerprint hnew hpinentry hsource _ hundeclined h

omit hnew hpinentry hsource in
/-- A conversation that a change of passphrase breaks off has a refusal on record. -/
theorem declined_of_last_abort {takes : List UInt8 → Bool} {lines : List (List UInt8)}
    {before : List Turn} {t : Turn}
    (hturns : (converse takes (ed.session fingerprint (.changePassphrase o)) [] lines).turns =
      before ++ [t]) (ho : t.reply.outcome = .ok .abort) :
    (converse takes (ed.session fingerprint (.changePassphrase o)) []
      lines).session.custody.record.declined = true := by
  obtain ⟨heard, -, hsession, hheard⟩ :=
    converse_eq takes (ed.session fingerprint (.changePassphrase o)) [] lines
  obtain ⟨hevents, -, ht⟩ := Session.turns_eq_append _ (hheard.symm.trans hturns)
  rw [ht] at ho
  rw [hsession, hevents, Session.after_append]
  exact Session.declined_of_abort _ (ed.refusal_after_session fingerprint _ _) ho

end Editor

/-! ## The child -/

namespace Backend
variable (b : Backend) {child : Child} {fingerprint : String} {s : Session}

/-- A session that takes a turn has a child that was started. -/
theorem started_of_turns {child : Option Child}
    (h : (b.conduct child fingerprint s).course.turns ≠ []) :
    ∃ c, child = some c ∧ canPass (b.arguments fingerprint) = true := by
  cases child with
  | none => exact absurd rfl h
  | some c =>
    refine ⟨c, rfl, ?_⟩
    cases hstart : canPass (b.arguments fingerprint) with
    | true => rfl
    | false => simp [conduct, hstart] at h

/-- A failed turn gets the child killed: the turn is the last one, no more was written
    than for the turns before it, and how the child would have ended does not count. -/
theorem conduct_of_failure (hstart : canPass (b.arguments fingerprint) = true)
    {before after : List Turn} {t : Turn}
    (hturns : (b.conduct (some child) fingerprint s).course.turns = before ++ t :: after)
    {f : Failure} (hf : t.failure? = some f) :
    let contact := b.conduct (some child) fingerprint s
    after = [] ∧ contact.course.outcome = .error f ∧
      contact.written = before.flatMap Turn.bytes ∧ contact.fate = .killed ∧
      ∀ ending, contact = b.conduct (some { child with ending }) fingerprint s := by
  intro contact
  rw [b.course_conduct child fingerprint s hstart] at hturns
  obtain ⟨hlast, hwritten, hfailure⟩ := converse_of_failure _ _ _ _ hturns hf
  have hcontact (ending : Ending) : b.conduct (some { child with ending }) fingerprint s =
      let x := converse child.takes s [] (Wire.lines child.output)
      ⟨⟨x.session, x.turns, .error f⟩, some (b.arguments fingerprint), x.written,
        child.received x.written, .killed⟩ := by
    simp only [conduct, Exchange.fate, hstart, hfailure]
    rfl
  have hkilled : contact = _ := hcontact child.ending
  rw [hkilled]
  exact ⟨hlast, rfl, by simpa using hwritten, rfl, fun ending => (hcontact ending).symm⟩

end Backend

/-! ## Command lines -/

namespace CommandLine.Surroundings
variable (w : Surroundings) {p : Plan}

/-- The command that changes the passphrase asks the user for all passphrases if no
    variable holds one. -/
theorem plan_of_passwd {i : Invocation} {given : Given} {v : PasswdValues}
    (hgiven : i.given = some given) (hcommand : given.command = .passwd v)
    (hnew : v.newPassphraseEnv = none) (henv : i.globals.passphraseEnv = none)
    (hp : w.plan i = .ok p) :
    p.source = w.dialogs.source ∧
      ∃ o, p.edit = .changePassphrase o ∧ o.newPassphrase = none := by
  obtain ⟨given', hgiven', -, hsource, -, hedit, -⟩ := w.plan_eq_ok_iff.1 hp
  obtain rfl : given' = given := Option.some.inj (hgiven'.symm.trans hgiven)
  refine ⟨?_, ⟨none, v.allowEmpty⟩, ?_, rfl⟩
  · rw [source, henv] at hsource
    exact (Except.ok.inj hsource).symm
  · rw [hcommand, Command.edit, PasswdValues.edit, hnew] at hedit
    exact (Except.ok.inj hedit).symm

/-- What comes of a plan whose options have no fault. -/
theorem carryOut_of_no_fault (h : p.edit.fault? p.source = none) :
    let ed : Editor := { source := p.source, today := w.today }
    let contact :=
      p.backend.conduct (w.launch p.program) p.fingerprint (ed.session p.fingerprint p.edit)
    (w.carryOut p).contact = some contact ∧
      ∀ f, contact.course.outcome = .error f →
        (w.carryOut p).verdict =
          .failed (.failure (explain contact.course.session.custody.record f)) := by
  intro ed contact
  constructor
  · simp only [carryOut, Backend.edit, h]
    rfl
  · intro f hf
    have hresult : (ed.conclude p.fingerprint p.edit.kind contact.course).2.result =
        .error (explain contact.course.session.custody.record f) := by
      simp only [Editor.conclude, hf, Except.mapError, Except.bind]
    simp only [carryOut, Backend.edit, h]
    rw [hresult]

/-- A change of passphrase that reaches the backend is a session with the user as its
    source of secrets. -/
theorem run_of_passwd {args : List String} {i : Invocation} {given : Given} {v : PasswdValues}
    (hi : Invocation.ofArguments args = .ok i) (hgiven : i.given = some given)
    (hcommand : given.command = .passwd v) (hnew : v.newPassphraseEnv = none)
    (henv : i.globals.passphraseEnv = none) {contact : Contact}
    (hcontact : (w.run args).contact = some contact) :
    ∃ p o, w.plan i = .ok p ∧ o.newPassphrase = none ∧
      let ed : Editor := { source := w.dialogs.source, today := w.today }
      contact = p.backend.conduct (w.launch p.program) p.fingerprint
          (ed.session p.fingerprint (.changePassphrase o)) ∧
        ∀ f, contact.course.outcome = .error f →
          (w.run args).verdict =
            .failed (.failure (explain contact.course.session.custody.record f)) := by
  rcases w.run_cases args with haway | ⟨i', p, hi', -, hp, hfault, hrun⟩
  · rw [haway.contact] at hcontact
    cases hcontact
  · obtain rfl : i' = i := Except.ok.inj (hi'.symm.trans hi)
    obtain ⟨hsource, o, hedit, hnone⟩ := w.plan_of_passwd hgiven hcommand hnew henv hp
    obtain ⟨hreached, hfails⟩ := w.carryOut_of_no_fault hfault
    rw [hrun, hreached] at hcontact
    obtain rfl := Option.some.inj hcontact
    refine ⟨p, o, hp, hnone, by rw [hsource, hedit], fun f hf => ?_⟩
    rw [hrun]
    exact hfails f hf

end CommandLine.Surroundings

open CommandLine in
/-- **A new passphrase typed on the terminal is confirmed.**  Let a command line change a
    passphrase, with no variable for the present one or the new one and without
    pinentry.  Whatever is typed and whatever the child does, a secret that answers a
    question after an acceptance was typed on two lines that agree, and they are those
    after the lines of the questions before.  At the first question for which they differ,
    and at any question if there is no terminal, nothing is written any more, the
    child is killed, however it would have ended, and the command is reported as
    canceled. -/
theorem new_passphrase_is_confirmed (w : Surroundings) (args : List String) {i : Invocation}
    {given : Given} {v : PasswdValues} (hi : Invocation.ofArguments args = .ok i)
    (hgiven : i.given = some given) (hcommand : given.command = .passwd v)
    (hnew : v.newPassphraseEnv = none) (henv : i.globals.passphraseEnv = none)
    (hpinentry : w.dialogs.pinentry = none) {contact : Contact}
    (hcontact : (w.run args).contact = some contact) {before after : List Turn} {t : Turn}
    (hturns : contact.course.turns = before ++ t :: after)
    (hask : t.event = ⟨.getHidden, some "passphrase.enter"⟩) :
    let n := linesRead (before.map Turn.event)
    let accepted := ∃ u ∈ before, u.event.status = .goodPassphrase
    (accepted → ∀ text, t.reply.outcome = .ok (.secret text) →
      ∃ lines, w.dialogs.terminal = some lines ∧ text = lines[n]?.getD "" ∧
        text = lines[n + 1]?.getD "") ∧
    ((w.dialogs.terminal = none ∨ ∃ lines, w.dialogs.terminal = some lines ∧ accepted ∧
        lines[n]?.getD "" ≠ lines[n + 1]?.getD "") →
      after = [] ∧ contact.written = before.flatMap Turn.bytes ∧ contact.fate = .killed ∧
        contact.course.outcome = .error .aborted ∧
        (w.run args).verdict = .failed (.failure .canceled) ∧
        ∃ p child s, w.plan i = .ok p ∧ w.launch p.program = some child ∧
          ∀ ending, contact =
            p.backend.conduct (some { child with ending }) p.fingerprint s) := by
  intro n accepted
  obtain ⟨p, o, hp, hnone, hconduct, hfails⟩ :=
    w.run_of_passwd hi hgiven hcommand hnew henv hcontact
  obtain ⟨child, hchild, hstart⟩ : ∃ c, w.launch p.program = some c ∧
      Backend.canPass (p.backend.arguments p.fingerprint) = true :=
    p.backend.started_of_turns (by rw [← hconduct, hturns]; simp)
  rw [hchild] at hconduct
  have hconverse := hturns
  rw [hconduct, p.backend.course_conduct child p.fingerprint _ hstart] at hconverse
  obtain ⟨habsent, htyped⟩ := Editor.outcome_of_turn _ p.fingerprint hnone hpinentry rfl hconverse
    (Event.asksPassphrase_iff.2 hask)
  have haccepted : accepted → (before.map Turn.event).any Event.isAcceptance = true := by
    rintro ⟨u, hu, hstatus⟩
    exact any_isAcceptance_iff.2 ⟨u.event, List.mem_map_of_mem hu, hstatus⟩
  constructor
  · intro hacc text htext
    cases hterminal : w.dialogs.terminal with
    | none =>
      rw [habsent hterminal] at htext
      cases htext
    | some lines =>
      rw [htyped lines hterminal (haccepted hacc)] at htext
      exact ⟨lines, rfl, (confirmedAnswer_eq_secret_iff lines).1 (Except.ok.inj htext)⟩
  · intro hdiffer
    have habort : t.reply.outcome = .ok .abort := by
      rcases hdiffer with hterminal | ⟨lines, hterminal, hacc, hne⟩
      · exact habsent hterminal
      · rw [htyped lines hterminal (haccepted hacc), confirmedAnswer_of_differ lines hne]
    have hf : t.failure? = some .aborted := by simp [Turn.failure?, Reply.failure?, habort]
    rw [hconduct] at hturns
    obtain ⟨rfl, houtcome, hwritten, hkilled, hending⟩ :=
      p.backend.conduct_of_failure hstart hturns hf
    rw [← hconduct] at houtcome hwritten hkilled hending
    have hdeclined : contact.course.session.custody.record.declined = true := by
      rw [hconduct, p.backend.course_conduct child p.fingerprint _ hstart]
      exact Editor.declined_of_last_abort _ p.fingerprint hconverse habort
    refine ⟨rfl, hwritten, hkilled, houtcome, ?_, p, child, _, hp, hchild, hending⟩
    rw [hfails _ houtcome, explain_of_declined hdeclined (.inl rfl)]

open CommandLine in
/-- The new passphrase is typed twice, the second time well or badly. -/
theorem new_passphrase_is_confirmed_typed :
    let good := Wire.lineBytes "[GNUPG:] GOOD_PASSPHRASE"
    let enter := Wire.lineBytes "[GNUPG:] GET_HIDDEN passphrase.enter"
    let script : Script :=
      { steps := [.write enter, .readLine, .write good, .write enter, .readLine] }
    let w (third : String) : Surroundings :=
      { environment := [], finds := fun _ => true, launch := fun _ => some script.child
        dialogs := { terminal := some ["old", "new", third] }
        today := ⟨2026, 10, 19, by decide, by decide, by decide, by decide⟩ }
    let ask : Event := ⟨.getHidden, some "passphrase.enter"⟩
    (∃ contact before t, ((w "new").run ["passwd", "F"]).contact = some contact ∧
      contact.course.turns = before ++ [t] ∧ before.map Turn.event = [ask, ⟨.goodPassphrase, none⟩] ∧
      t.reply.outcome = .ok (.secret "new") ∧
      ∃ lines, (w "new").dialogs.terminal = some lines ∧ "new" = lines[1]?.getD "" ∧
        "new" = lines[2]?.getD "") ∧
    ∃ contact before t, ((w "knew").run ["passwd", "F"]).contact = some contact ∧
      contact.course.turns = before ++ [t] ∧ before.map Turn.event = [ask, ⟨.goodPassphrase, none⟩] ∧
      contact.fate = .killed ∧
      ((w "knew").run ["passwd", "F"]).verdict = .failed (.failure .canceled) := by
  intro good enter script w ask
  have hread : Invocation.ofArguments ["passwd", "F"] =
      .ok ⟨{}, false, some ⟨"passwd", .passwd {}, ["F"], false⟩⟩ := by decide +kernel
  have hrun : ∀ third ∈ ["new", "knew"], ∃ contact before t,
      ((w third).run ["passwd", "F"]).contact = some contact ∧
        contact.course.turns = before ++ [t] ∧
        before.map Turn.event = [ask, ⟨.goodPassphrase, none⟩] ∧ t.event = ask := by
    intro third hthird
    have hevents : ((w third).run ["passwd", "F"]).contact.map
        (fun c => c.course.turns.map Turn.event) =
          some ([ask, ⟨.goodPassphrase, none⟩] ++ [ask]) := by
      revert third
      decide +kernel
    obtain ⟨contact, hcontact, hevents⟩ := Option.map_eq_some_iff.1 hevents
    obtain ⟨before, last, hturns, hbefore, hlast⟩ := List.map_eq_append_iff.1 hevents
    obtain ⟨t, rfl, ht⟩ := List.map_eq_singleton_iff.1 hlast
    exact ⟨contact, before, t, hcontact, hturns, hbefore, ht⟩
  have haccepted : ∀ before : List Turn, before.map Turn.event = [ask, ⟨.goodPassphrase, none⟩] →
      ∃ u ∈ before, u.event.status = .goodPassphrase := by
    intro before hbefore
    obtain ⟨u, hu, hevent⟩ := List.mem_map.1 (show (⟨.goodPassphrase, none⟩ : Event) ∈
      before.map Turn.event by simp [hbefore])
    exact ⟨u, hu, by rw [hevent]⟩
  constructor
  · obtain ⟨contact, before, t, hcontact, hturns, hbefore, ht⟩ := hrun "new" (by simp)
    have hlast : ((w "new").run ["passwd", "F"]).contact.map
        (fun c => c.course.turns.getLast?.map fun t => t.reply.outcome) =
          some (some (.ok (.secret "new"))) := by decide +kernel
    have hsecret : t.reply.outcome = .ok (.secret "new") := by
      simpa [hcontact, hturns] using hlast
    obtain ⟨htyped, -⟩ := new_passphrase_is_confirmed (w "new") ["passwd", "F"] hread rfl rfl rfl rfl
      rfl hcontact hturns ht
    have hlines := htyped (haccepted before hbefore) "new" hsecret
    rw [hbefore] at hlines
    exact ⟨contact, before, t, hcontact, hturns, hbefore, hsecret, hlines⟩
  · obtain ⟨contact, before, t, hcontact, hturns, hbefore, ht⟩ := hrun "knew" (by simp)
    obtain ⟨-, hdiffer⟩ := new_passphrase_is_confirmed (w "knew") ["passwd", "F"] hread rfl rfl rfl
      rfl rfl hcontact hturns ht
    obtain ⟨-, -, hkilled, -, hverdict, -⟩ := hdiffer (.inr ⟨_, rfl, haccepted before hbefore, by
      rw [hbefore]
      decide⟩)
    exact ⟨contact, before, t, hcontact, hturns, hbefore, hkilled, hverdict⟩

end KeyDialogue
