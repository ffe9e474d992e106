/-
  Key dialogue — what an edit reports in whose session a request was declined.

  * `KeepsContract`: what is asked of an engine.  Rehearsals that stop at a failure
    and the backend do it (`Rehearsal.keepsContract`, `Backend.keepsContract`);
  * `Session.ends_with_refusal`: a session that answers a refusal by breaking off
    ends with the request that was declined;
  * `refused_edit_reported`: so a change of passphrase never succeeds after a
    refusal.  A plain edit goes on with empty secrets, and succeeds exactly if
    its engine says so (`plain_edit_succeeds_after_refusal`).
-/
import KeyDialogue.Proofs.Explanation
import KeyDialogue.Proofs.Pipes
import KeyDialogue.Proofs.Refusal

namespace KeyDialogue

/-! ## The contract of an engine -/

/-- The engine delivers events until a turn breaks the session off, and does not
    call a session that was broken off a success. -/
structure KeepsContract (engine : Session → Course) : Prop where
  stops : ∀ s, ∃ events outcome, engine s = s.course (s.heard events) outcome
  fails : ∀ s, ∀ t ∈ (engine s).turns, t.failure? ≠ none → (engine s).outcome ≠ .ok ()

theorem failure?_of_outcomeOf_ok {turns : List Turn} {ending : Except Failure Unit}
    (h : outcomeOf turns ending = .ok ()) : ∀ t ∈ turns, t.failure? = none := by
  unfold outcomeOf at h
  split at h
  · cases h
  · next hnone => exact List.findSome?_eq_none_iff.1 hnone

theorem Rehearsal.keepsContract (r : Rehearsal) (h : r.keepGoing = false) :
    KeepsContract r.conduct where
  stops s := by
    have hheard : r.heard s = s.heard r.events := by simp [heard, h]
    exact ⟨r.events, _, by rw [r.conduct_eq, hheard]⟩
  fails s t ht hf hok := by
    rw [r.conduct_eq] at ht hok
    exact hf (failure?_of_outcomeOf_ok hok t ht)

/-- A conversation over pipes stops at the first turn that fails, and tells of the
    failure; otherwise only an answer that is not taken breaks it off. -/
theorem converse_stops (takes : List UInt8 → Bool) (s : Session) (before : List UInt8)
    (lines : List (List UInt8)) :
    ∃ events, (converse takes s before lines).session = s.after (s.heard events) ∧
      (converse takes s before lines).turns = s.turns (s.heard events) ∧
      ((converse takes s before lines).failure = none →
        ∀ t ∈ s.turns (s.heard events), t.failure? = none) ∧
      ∀ f, (converse takes s before lines).failure = some f →
        f = brokenPipe ∨ ∃ t ∈ s.turns (s.heard events), t.failure? = some f := by
  induction lines generalizing s before with
  | nil => exact ⟨[], rfl, rfl, fun _ => List.forall_mem_nil _, nofun⟩
  | cons line rest ih =>
    cases he : Wire.eventOf? line with
    | none =>
      rw [converse_cons_of_no_status takes s before rest he]
      exact ih s before
    | some e =>
      cases hf : (s.turn e).failure? with
      | some f =>
        rw [converse_cons_of_failure takes s before rest he hf]
        exact ⟨[e], by simp [s.heard_cons_of_failure hf, hf]⟩
      | none =>
        cases ht : (s.turn e).bytes.isEmpty || takes before with
        | false =>
          rw [converse_cons_of_not_taken takes s before rest he ht]
          exact ⟨[e], by simp [s.heard_cons_of_no_failure hf, hf]⟩
        | true =>
          obtain ⟨events, hsession, hturns, hopen, hbroken⟩ :=
            ih (s.respond e).1 (before ++ (s.turn e).bytes)
          rw [converse_cons_of_taken takes s before rest he hf ht]
          refine ⟨e :: events, ?_⟩
          rw [s.heard_cons_of_no_failure hf]
          refine ⟨hsession, congrArg _ hturns, fun h => List.forall_mem_cons.2 ⟨hf, hopen h⟩,
            fun f h => (hbroken f h).imp_right ?_⟩
          rintro ⟨t, hmem, hfail⟩
          exact ⟨t, List.mem_cons_of_mem _ hmem, hfail⟩

theorem Backend.course_conduct (b : Backend) (child : Child) (fingerprint : String) (s : Session)
    (hstart : canPass (b.arguments fingerprint) = true) :
    (b.conduct (some child) fingerprint s).course =
      let x := converse child.takes s [] (Wire.lines child.output)
      ⟨x.session, x.turns, x.failure.elim child.ending.outcome .error⟩ := by
  cases hx : (converse child.takes s [] (Wire.lines child.output)).failure <;>
    simp [conduct, hstart, hx]

theorem Backend.keepsContract (b : Backend) (child : Option Child) (fingerprint : String) :
    KeepsContract fun s => (b.conduct child fingerprint s).course := by
  have hnone : KeepsContract fun s => ⟨s, [], .error notStarted⟩ :=
    ⟨fun s => ⟨[], .error notStarted, rfl⟩, fun s t ht => absurd ht List.not_mem_nil⟩
  cases child with
  | none => exact hnone
  | some child =>
    cases hstart : canPass (b.arguments fingerprint) with
    | false => simpa [conduct, hstart] using hnone
    | true =>
      simp only [b.course_conduct child fingerprint _ hstart]
      constructor
      · intro s
        obtain ⟨events, hsession, hturns, -⟩ :=
          converse_stops child.takes s [] (Wire.lines child.output)
        exact ⟨events, _, by simp only [hsession, hturns]; rfl⟩
      · intro s t ht hf hok
        obtain ⟨events, -, hturns, hopen, -⟩ :=
          converse_stops child.takes s [] (Wire.lines child.output)
        cases hx : (converse child.takes s [] (Wire.lines child.output)).failure with
        | none => exact hf (hopen hx t (hturns ▸ ht))
        | some f => rw [hx] at hok; cases hok

/-! ## Breaking off -/

namespace Session
variable (s : Session)

theorem refusal_respond (e : Event) :
    (s.respond e).1.progress.refusal = s.progress.refusal := by
  obtain ⟨progress, custody⟩ := s
  cases progress with
  | plain p => simp only [respond]; split <;> rfl
  | passphrase p => rfl

/-- A request that is declined breaks the session off, if that is how a refusal is
    answered. -/
theorem declined_respond_of_no_failure {e : Event} (hr : s.progress.refusal = .abort)
    (hd : s.custody.record.declined = false) (hf : (s.turn e).failure? = none) :
    (s.respond e).1.custody.record.declined = false := by
  rw [← Bool.not_eq_true]
  intro hnow
  have ho := s.outcome_of_declined hd hnow
  simp [Turn.failure?, turn, Reply.failure?, ho, hr] at hf

/-- A session that answers a refusal by breaking off ends with the request that was
    declined. -/
theorem ends_with_refusal (events : List Event) (hr : s.progress.refusal = .abort)
    (hd : s.custody.record.declined = false)
    (h : (s.after (s.heard events)).custody.record.declined = true) :
    ∃ earlier t, s.turns (s.heard events) = earlier ++ [t] ∧ t.reply.outcome = .ok .abort := by
  induction events generalizing s with
  | nil => rw [heard_nil, after_nil, hd] at h; cases h
  | cons e rest ih =>
    cases hf : (s.turn e).failure? with
    | some f =>
      rw [s.heard_cons_of_failure hf] at h ⊢
      have ho := s.outcome_of_declined hd h
      exact ⟨[], s.turn e, rfl, by rw [← hr]; exact ho⟩
    | none =>
      rw [s.heard_cons_of_no_failure hf] at h ⊢
      have hd' := s.declined_respond_of_no_failure hr hd hf
      obtain ⟨earlier, t, hturns, ho⟩ :=
        ih (s.respond e).1 ((s.refusal_respond e).trans hr) hd' h
      exact ⟨s.turn e :: earlier, t, by simp [hturns], ho⟩

end Session

/-! ## What is reported -/

/-- An edit succeeds exactly if its engine ends the session well and the algorithm of
    a subkey was not refused. -/
theorem Editor.result_edit_eq_ok_iff (ed : Editor) (engine : Session → Course)
    (fingerprint : String) (edit : Edit) (h : edit.fault? ed.source = none) :
    let x := engine (ed.session fingerprint edit)
    (ed.edit engine fingerprint edit).2.result = .ok () ↔
      x.outcome = .ok () ∧ x.session.progress.refused = false := by
  intro x
  rw [ed.result_edit engine fingerprint edit h]
  show (Except.bind (x.outcome.mapError _) fun _ => resultOf x.session.progress) = .ok () ↔ _
  cases x.outcome with
  | ok _ => simp [Except.mapError, Except.bind, resultOf]
  | error f => simp [Except.mapError, Except.bind]

/-- **A refusal and the success of an edit.**  Let a request be declined in the
    session of an edit whose engine keeps its contract.  A change of passphrase
    ends with that request and does not succeed.  Any edit succeeds only if the
    engine ended the session well, and then it does, unless the algorithm of a
    subkey was refused.  A failure of the engine that leaves its cause open is
    reported as a refusal. -/
theorem refused_edit_reported (ed : Editor) (engine : Session → Course)
    (hc : KeepsContract engine) (fingerprint : String) (edit : Edit) :
    let x := engine (ed.session fingerprint edit)
    let report := (ed.edit engine fingerprint edit).2
    ed.source.declinesAny report.consulted = true →
      (∀ o, edit = .changePassphrase o →
        (∃ earlier t, report.turns = earlier ++ [t] ∧ t.reply.outcome = .ok .abort) ∧
          report.result ≠ .ok ()) ∧
      (report.result = .ok () ↔ x.outcome = .ok () ∧ x.session.progress.refused = false) ∧
      (∀ f, x.outcome = .error f → f.Vague → report.result = .error .canceled) := by
  intro x report hdeclined
  have hstart : edit.fault? ed.source = none := by
    cases h : edit.fault? ed.source with
    | none => rfl
    | some fault =>
      simp [report, Editor.edit, h, Editor.rejection, Report.consulted] at hdeclined
  have hturns : report.turns = x.turns := by simp [report, x, Editor.edit, hstart, Editor.conclude]
  have hok := ed.result_edit_eq_ok_iff engine fingerprint edit hstart
  obtain ⟨events, outcome, hx⟩ : ∃ events outcome,
      x = (ed.session fingerprint edit).course ((ed.session fingerprint edit).heard events) outcome :=
    hc.stops (ed.session fingerprint edit)
  have hd : x.session.custody.record.declined = true := by
    rw [Report.consulted, hturns, hx] at hdeclined
    rw [hx]
    exact (ed.declined_after_session fingerprint edit _).trans hdeclined
  refine ⟨?_, hok, fun f hf hvague => ?_⟩
  · rintro o rfl
    have hend : ∃ earlier t, report.turns = earlier ++ [t] ∧ t.reply.outcome = .ok .abort := by
      rw [hx] at hd
      rw [hturns, hx]
      exact Session.ends_with_refusal _ events
        (ed.refusal_after_session fingerprint (.changePassphrase o) []) rfl hd
    refine ⟨hend, fun hsuccess => ?_⟩
    obtain ⟨earlier, t, hlast, ho⟩ := hend
    have ht : t ∈ x.turns := by rw [← hturns, hlast]; simp
    exact hc.fails _ t ht (by simp [Turn.failure?, Reply.failure?, ho]) (hok.1 hsuccess).1
  · have hresult : report.result = _ := ed.result_edit engine fingerprint edit hstart
    show report.result = _
    rw [hresult, hf, ← explain_of_declined hd hvague]
    rfl

/-- The replacement is declined, and the backend would have gone on. -/
theorem refused_edit_reported_change :
    let ed : Editor :=
      { source := .scripted [some "old", none]
        today := ⟨2026, 10, 19, by decide, by decide, by decide, by decide⟩ }
    let ask : Event := ⟨.getHidden, some "passphrase.enter"⟩
    let r : Rehearsal := { events := [ask, ⟨.goodPassphrase, none⟩, ask, ask] }
    let report := (ed.edit r.conduct "F" (.changePassphrase {})).2
    KeepsContract r.conduct ∧ ed.source.declinesAny report.consulted = true ∧
      report.turns.length = 3 ∧ report.result = .error .canceled := by
  intro ed ask r report
  have hc : KeepsContract r.conduct := r.keepsContract rfl
  have hdeclined : ed.source.declinesAny report.consulted = true := by decide
  obtain ⟨-, -, hcanceled⟩ :=
    refused_edit_reported ed r.conduct hc "F" (.changePassphrase {}) hdeclined
  exact ⟨hc, hdeclined, by decide, hcanceled .aborted (by decide) (Or.inl rfl)⟩

/-- A plain edit goes on after a refusal, and its engine ends the session well. -/
theorem plain_edit_succeeds_after_refusal :
    let ed : Editor :=
      { source := .scripted [none]
        today := ⟨2026, 10, 19, by decide, by decide, by decide, by decide⟩ }
    let menu : Event := ⟨.getLine, some "keyedit.prompt"⟩
    let r : Rehearsal := { events := [menu, ⟨.getHidden, some "passphrase.enter"⟩, menu] }
    let report := (ed.edit r.conduct "F" (.plain (.setEnabled false))).2
    KeepsContract r.conduct ∧ ed.source.declinesAny report.consulted = true ∧
      report.result = .ok () := by
  intro ed menu r report
  exact ⟨r.keepsContract rfl, by decide, by decide⟩

end KeyDialogue
