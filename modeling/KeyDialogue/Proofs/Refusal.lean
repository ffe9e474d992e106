/-
  Key dialogue — a declined request is final for its session, and for no other.

  * `Session.respond_of_refused`: in a session in which a request was declined,
    the source is not consulted, and a question for the passphrase gets the
    answer of refusal;
  * `Session.consulted_of_slot`: in a session in which none was declined, the
    source is consulted, unless the passphrase is in hand;
  * `refusal_is_final`: so nothing but empty secrets passes after a refusal,
    whatever happens then, until the next session on the key begins.
-/
import KeyDialogue.Proofs.Consultation
import KeyDialogue.Proofs.Progress

namespace KeyDialogue

namespace Edit

/-- No answer of refusal tells a secret. -/
theorem eq_empty_of_refusal {edit : Edit} {text : String} (h : edit.refusal = .secret text) :
    text = "" := by
  cases edit with
  | plain _ => cases h; rfl
  | changePassphrase _ => cases h

end Edit

namespace Editor
variable (ed : Editor) (fingerprint : String) (edit : Edit)

/-- The passphrase side of a session that an editor starts: a refusal of an
    earlier session is forgotten. -/
theorem custody_session : (ed.session fingerprint edit).custody =
    ⟨(ed.keyring.record fingerprint).withDeclined false, ed.source⟩ := rfl

/-- A refusal is on record exactly if the source declined in the session. -/
theorem declined_after_session (events : List Event) :
    ((ed.session fingerprint edit).after events).custody.record.declined =
      ed.source.declinesAny ((ed.session fingerprint edit).requests events) := by
  rw [Session.custody_after, custody_session]; simp

theorem refusal_after_session (events : List Event) :
    ((ed.session fingerprint edit).after events).progress.refusal = edit.refusal :=
  Session.refusal_after _ _ edit events

theorem slot_after_session (events : List Event) :
    ((ed.session fingerprint edit).after events).progress.slot =
      edit.slot (events.any Event.isAcceptance) :=
  Session.slot_after _ _ edit events

end Editor

namespace Session
variable (s : Session)

/-! ## After a refusal -/

theorem respond_of_refused (hd : s.custody.record.declined = true) (e : Event) :
    (s.respond e).2.consulted = none ∧
      (e.asksPassphrase = true → (s.respond e).2.outcome = .ok s.progress.refusal) := by
  constructor
  · rw [Option.eq_none_iff_forall_ne_some]
    intro r hr
    obtain ⟨-, hd', -⟩ := s.consulted_eq_some_iff.1 hr
    rw [hd] at hd'; cases hd'
  · intro h
    rw [s.outcome_respond h, s.pass_of_declined hd]

/-- The request that is declined gets the answer of refusal. -/
theorem outcome_of_declined {e : Event} (hd : s.custody.record.declined = false)
    (hd' : (s.respond e).1.custody.record.declined = true) :
    (s.respond e).2.outcome = .ok s.progress.refusal := by
  rw [custody_respond, Record.declined_withDeclined, hd, Bool.false_or] at hd'
  cases hr : (s.respond e).2.consulted with
  | none => rw [hr] at hd'; cases hd'
  | some r =>
    obtain ⟨h, -, purpose, hs, rfl⟩ := s.consulted_eq_some_iff.1 hr
    rcases ho : s.custody.source.obtain (s.custody.record.request purpose) with ⟨reply, source⟩
    have hnone : reply = none := by
      simpa [hr, Source.declinesAny, Source.replies, ho] using hd'
    rw [s.outcome_respond h, s.pass_of_source hd hs ho, hnone]; rfl

/-! ## Without a refusal -/

theorem consulted_of_slot {e : Event} (h : e.asksPassphrase = true)
    (hd : s.custody.record.declined = false) {purpose : Purpose}
    (hs : s.progress.slot = .source purpose) :
    (s.respond e).2.consulted = some (s.custody.record.request purpose) :=
  s.consulted_eq_some_iff.2 ⟨h, hd, purpose, hs, rfl⟩

end Session

/-- What holds of every turn after a refusal. -/
theorem Editor.turn_of_refused (ed : Editor) (fingerprint : String) (edit : Edit)
    {before after : List Event}
    (h : ed.source.declinesAny ((ed.session fingerprint edit).requests before) = true) {t : Turn}
    (ht : t ∈ ((ed.session fingerprint edit).after before).turns after) :
    t.reply.consulted = none ∧
      (∀ text, t.reply.outcome = .ok (.secret text) → edit.refusal = .secret text) ∧
      (t.event.asksPassphrase = true → t.reply.outcome = .ok edit.refusal) := by
  obtain ⟨pre, e, post, -, rfl⟩ := Session.mem_turns ht
  rw [← Session.after_append]
  have hd : ((ed.session fingerprint edit).after (before ++ pre)).custody.record.declined = true := by
    rw [ed.declined_after_session, Session.requests_append, Source.declinesAny_append, h,
      Bool.true_or]
  obtain ⟨hc, ho⟩ := Session.respond_of_refused _ hd e
  rw [ed.refusal_after_session] at ho
  refine ⟨hc, fun text htext => ?_, ho⟩
  exact Except.ok.inj
    ((ho (Session.asksPassphrase_of_outcome _ htext (Or.inl ⟨text, rfl⟩))).symm.trans htext)

/-- **A refusal is final for its session.**  Once the source declined a request,
    it is not consulted again and only empty secrets are answered, whatever
    events follow: a plain edit answers the empty secret, and a change of
    passphrase breaks off, both at the declined request and at all later ones,
    so that not even a replacement in hand is given.  In the next session on the
    key, whatever edits are made before it, the source is consulted again. -/
theorem refusal_is_final (ed : Editor) (fingerprint : String) (edit : Edit)
    (before after : List Event)
    (h : ed.source.declinesAny ((ed.session fingerprint edit).requests before) = true) :
    let s := ed.session fingerprint edit
    (∀ t ∈ (s.after before).turns after,
      t.reply.consulted = none ∧
        (∀ text, t.reply.outcome = .ok (.secret text) → text = "") ∧
        (t.event.asksPassphrase = true → t.reply.outcome = .ok edit.refusal)) ∧
    (∀ o, edit = .changePassphrase o →
      ∀ t ∈ (s.after before).turns after, ∀ text, t.reply.outcome ≠ .ok (.secret text)) ∧
    (∀ earlier e, before = earlier ++ [e] → ed.source.declinesAny (s.requests earlier) = false →
      ((s.after earlier).turn e).reply.outcome = .ok edit.refusal) ∧
    ∀ outcome others next events e purpose,
      let ed' := ((ed.conclude fingerprint edit.kind (s.course (before ++ after) outcome)).1.editAll
        others).1
      let s' := ed'.session fingerprint next
      ed'.source.declinesAny (s'.requests events) = false → e.asksPassphrase = true →
        next.slot (events.any Event.isAcceptance) = .source purpose →
        ((s'.after events).turn e).reply.consulted =
          some ((s'.after events).custody.record.request purpose) := by
  intro s
  refine ⟨fun t ht => ?_, ?_, ?_, ?_⟩
  · obtain ⟨hc, htext, ho⟩ := ed.turn_of_refused fingerprint edit h ht
    exact ⟨hc, fun text hsecret => Edit.eq_empty_of_refusal (htext text hsecret), ho⟩
  · rintro o rfl t ht text hsecret
    cases (ed.turn_of_refused fingerprint _ h ht).2.1 text hsecret
  · rintro earlier e rfl hnot
    have hfirst : (s.after earlier).custody.record.declined = false := by
      rw [ed.declined_after_session]; exact hnot
    have hd : (s.after (earlier ++ [e])).custody.record.declined = true := by
      rw [ed.declined_after_session]; exact h
    rw [Session.after_append] at hd
    have ho := Session.outcome_of_declined _ hfirst hd
    rwa [ed.refusal_after_session] at ho
  · intro outcome others next events e purpose ed' s' hnot hask hslot
    refine Session.consulted_of_slot _ hask ?_ ?_
    · rw [ed'.declined_after_session]; exact hnot
    · rw [ed'.slot_after_session]; exact hslot

/-- The request for the present passphrase is declined, and only then it is
    reported as accepted: the replacement is in hand, but is not given. -/
theorem refusal_withholds_replacement :
    let ed : Editor :=
      { source := .scripted [none, some "old"]
        today := ⟨2026, 10, 19, by decide, by decide, by decide, by decide⟩ }
    let edit : Edit := .changePassphrase { newPassphrase := some "new" }
    let ask : Event := ⟨.getHidden, some "passphrase.enter"⟩
    ed.source.declinesAny ((ed.session "F" edit).requests [ask]) = true ∧
      ∀ t ∈ ((ed.session "F" edit).after [ask]).turns [⟨.goodPassphrase, none⟩, ask],
        t.event.asksPassphrase = true → t.reply.outcome = .ok .abort := by
  intro ed edit ask
  have h : ed.source.declinesAny ((ed.session "F" edit).requests [ask]) = true := by decide
  exact ⟨h, fun t ht => ((refusal_is_final ed "F" edit [ask] _ h).1 t ht).2.2⟩

end KeyDialogue
