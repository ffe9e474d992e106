/-
  Key dialogue — the present passphrase and its replacement are never confused.

  A change of passphrase is asked for two passphrases by one and the same
  question.  Which of them is meant hangs on one thing only: whether the backend
  has accepted a passphrase in the session.

  * `Editor.slot_respond_of_change`: no event but an acceptance changes what is
    meant, and nothing changes it back;
  * `Turn.AsksSource`: the source is asked once, and its reply is the answer;
  * `slots_kept_apart`: what a change of passphrase answers to a question for the
    passphrase after any events, and when it asks its source.
-/
import KeyDialogue.Proofs.Refusal

namespace KeyDialogue

theorem any_isAcceptance_iff {events : List Event} :
    events.any Event.isAcceptance = true ↔ ∃ g ∈ events, g.status = .goodPassphrase := by
  simp [Event.isAcceptance]

namespace Edit

theorem purpose_of_slot {o : PassphraseOptions} {accepted : Bool} {purpose : Purpose}
    (h : (changePassphrase o).slot accepted = .source purpose) :
    purpose = if accepted then .new else .current := by
  cases accepted with
  | false => cases h; rfl
  | true =>
    cases hn : o.newPassphrase with
    | some new => simp [slot, hn] at h
    | none => simpa [slot, hn] using h.symm

end Edit

/-- At a turn, the source is asked once for some purpose, and its reply is the
    answer: a secret, or breaking off if it declines. -/
structure Turn.AsksSource (t : Turn) (c : Custody) (purpose : Purpose) : Prop where
  consulted : t.reply.consulted = some (c.record.request purpose)
  outcome : t.reply.outcome =
    .ok ((c.source.obtain (c.record.request purpose)).1.elim .abort .secret)

namespace Session
variable (s : Session) {e : Event}

theorem asksSource_of_slot (h : e.asksPassphrase = true)
    (hd : s.custody.record.declined = false) (hr : s.progress.refusal = .abort) {purpose : Purpose}
    (hs : s.progress.slot = .source purpose) : (s.turn e).AsksSource s.custody purpose := by
  refine ⟨s.consulted_of_slot h hd hs, ?_⟩
  rcases ho : s.custody.source.obtain (s.custody.record.request purpose) with ⟨reply, source⟩
  show (s.respond e).2.outcome = .ok (reply.elim .abort .secret)
  rw [s.outcome_respond h, s.pass_of_source hd hs ho, hr]

theorem reply_of_inHand (h : e.asksPassphrase = true)
    (hd : s.custody.record.declined = false) {secret : String}
    (hs : s.progress.slot = .inHand secret) :
    (s.respond e).2.consulted = none ∧ (s.respond e).2.outcome = .ok (.secret secret) := by
  rw [s.consulted_respond h, s.outcome_respond h, s.pass_of_inHand hd hs]
  exact ⟨rfl, rfl⟩

end Session

namespace Editor
variable (ed : Editor) (fingerprint : String) (o : PassphraseOptions)

/-- An event that is no acceptance leaves it open or settled, as it was, which
    passphrase is asked for. -/
theorem slot_respond_of_change (before : List Event) {e : Event}
    (h : e.status ≠ .goodPassphrase) :
    let s := (ed.session fingerprint (.changePassphrase o)).after before
    (s.respond e).1.progress.slot = s.progress.slot := by
  intro s
  have hacc : e.isAcceptance = false := by simpa [Event.isAcceptance] using h
  have hnext : (s.respond e).1 =
      (ed.session fingerprint (.changePassphrase o)).after (before ++ [e]) := by
    rw [Session.after_append]; rfl
  rw [hnext, ed.slot_after_session, ed.slot_after_session, List.any_append]
  simp [hacc]

theorem consulted_of_change (before : List Event) {e : Event} {r : Request}
    (h : ((((ed.session fingerprint (.changePassphrase o)).after before).turn e).reply.consulted =
      some r)) :
    e.asksPassphrase = true ∧
      ed.source.declinesAny ((ed.session fingerprint (.changePassphrase o)).requests before) =
        false ∧
      r.purpose = if before.any Event.isAcceptance then .new else .current := by
  obtain ⟨hask, hd, purpose, hs, rfl⟩ := (Session.consulted_eq_some_iff _).1 h
  rw [ed.declined_after_session] at hd
  rw [ed.slot_after_session] at hs
  exact ⟨hask, hd, Edit.purpose_of_slot hs⟩

end Editor

/-- **The slots of a change of passphrase are kept apart.**  As long as nothing was
    declined, a question for the passphrase is put to the source, for the present
    passphrase, until the backend accepts one in the session; from then on it
    means the replacement, which is the one in hand if there is one, and else is
    asked for.  The source is consulted at no other turn, never for the present
    passphrase after an acceptance, and at most once a turn; and only an
    acceptance makes a difference to what is meant. -/
theorem slots_kept_apart (ed : Editor) (fingerprint : String) (o : PassphraseOptions)
    (before : List Event) (e : Event) :
    let start := ed.session fingerprint (.changePassphrase o)
    let s := start.after before
    let t := s.turn e
    let ask : Event := ⟨.getHidden, some "passphrase.enter"⟩
    let accepted := ∃ g ∈ before, g.status = .goodPassphrase
    let declined := ed.source.declinesAny (start.requests before) = true
    (e = ask → ¬ declined →
      (¬ accepted → t.AsksSource s.custody .current) ∧
      (accepted →
        (∀ new, o.newPassphrase = some new →
          t.reply.consulted = none ∧ t.reply.outcome = .ok (.secret new)) ∧
        (o.newPassphrase = none → t.AsksSource s.custody .new))) ∧
    (∀ r, t.reply.consulted = some r →
      e = ask ∧ ¬ declined ∧
        (accepted → r.purpose = .new) ∧ (¬ accepted → r.purpose = .current)) ∧
    (s.respond e).1.custody.source = s.custody.source.after t.reply.consulted.toList ∧
    (e.status ≠ .goodPassphrase → (s.respond e).1.progress.slot = s.progress.slot) := by
  intro start s t ask accepted declined
  have hrefusal : s.progress.refusal = .abort := ed.refusal_after_session fingerprint _ before
  have hslot : s.progress.slot =
      (Edit.changePassphrase o).slot (before.any Event.isAcceptance) :=
    ed.slot_after_session fingerprint _ before
  refine ⟨fun he hnot => ?_, fun r hr => ?_, s.source_respond e, ?_⟩
  · have hask : e.asksPassphrase = true := Event.asksPassphrase_iff.2 he
    have hd : s.custody.record.declined = false := by
      rw [ed.declined_after_session]; exact Bool.eq_false_iff.2 hnot
    refine ⟨fun hacc => ?_, fun hacc => ⟨fun new hnew => ?_, fun hnone => ?_⟩⟩
    · rw [Bool.eq_false_iff.2 fun h => hacc (any_isAcceptance_iff.1 h)] at hslot
      exact s.asksSource_of_slot hask hd hrefusal hslot
    · rw [any_isAcceptance_iff.2 hacc] at hslot
      exact s.reply_of_inHand hask hd (by simpa [Edit.slot, hnew] using hslot)
    · rw [any_isAcceptance_iff.2 hacc] at hslot
      exact s.asksSource_of_slot hask hd hrefusal (by simpa [Edit.slot, hnone] using hslot)
  · obtain ⟨hask, hnot, hpurpose⟩ := ed.consulted_of_change fingerprint o before hr
    refine ⟨Event.asksPassphrase_iff.1 hask, Bool.eq_false_iff.1 hnot, fun hacc => ?_,
      fun hacc => ?_⟩
    · rwa [if_pos (any_isAcceptance_iff.2 hacc)] at hpurpose
    · rwa [if_neg fun h => hacc (any_isAcceptance_iff.1 h)] at hpurpose
  · exact ed.slot_respond_of_change fingerprint o before

/-- A rejected and a missing passphrase leave the present one to be asked for; once
    it is accepted, the replacement in hand is given. -/
theorem slots_kept_apart_rejected :
    let ed : Editor :=
      { source := .scripted [some "guess", some "old", some "never asked"]
        today := ⟨2026, 10, 19, by decide, by decide, by decide, by decide⟩ }
    let o : PassphraseOptions := { newPassphrase := some "new" }
    let s := ed.session "F" (.changePassphrase o)
    let ask : Event := ⟨.getHidden, some "passphrase.enter"⟩
    let rejected := [ask, ⟨.badPassphrase, none⟩, ⟨.missingPassphrase, none⟩]
    let accepted := rejected ++ [ask, ⟨.goodPassphrase, none⟩]
    (∀ g ∈ rejected, g.status ≠ .goodPassphrase) ∧
      ed.source.declinesAny (s.requests accepted) = false ∧
      ((s.after rejected).turn ask).reply.outcome = .ok (.secret "old") ∧
      ((s.after accepted).turn ask).reply.outcome = .ok (.secret "new") := by
  intro ed o s ask rejected accepted
  have hopen : ∀ g ∈ rejected, g.status ≠ .goodPassphrase := by decide
  have hnone : ed.source.declinesAny (s.requests accepted) = false := by decide
  have hnone' : ed.source.declinesAny (s.requests rejected) = false := by decide
  obtain ⟨hbefore, -⟩ := slots_kept_apart ed "F" o rejected ask
  obtain ⟨hafter, -⟩ := slots_kept_apart ed "F" o accepted ask
  refine ⟨hopen, hnone, ?_, ?_⟩
  · rw [((hbefore rfl (Bool.eq_false_iff.1 hnone')).1 (by simpa using hopen)).outcome]
    decide
  · exact (((hafter rfl (Bool.eq_false_iff.1 hnone)).2 ⟨⟨.goodPassphrase, none⟩, by simp [accepted], rfl⟩).1
      "new" rfl).2

end KeyDialogue
