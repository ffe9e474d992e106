/-
  Key dialogue — a session of a plain edit is two machines side by side.

  One machine is the edit alone (`PlainProgress.respond`), the other the
  passphrase side alone (`Custody.respond`).  An event goes to one of them only:
  to the passphrase side if it concerns a passphrase, to the edit otherwise.

  * `Session.runAll_plain`: a run is a run of both, each over its own events;
  * `plain_session_splits`: the statement for whole sessions, and what follows
    from it: on the same events all plain edits make the same requests and give
    the same secrets.
-/
import KeyDialogue.Proofs.Consultation

namespace KeyDialogue

/-- The secret that a turn answers. -/
def Turn.secret? (t : Turn) : Option String :=
  match t.reply.outcome with
  | .ok (.secret text) => some text
  | _ => none

theorem Turn.secret?_of_open {t : Turn} (h : t.reply.Open) : t.secret? = none := by
  unfold secret?; split
  · next text ho => exact absurd ho (h.ne_secret text)
  · rfl

namespace Session
variable (p q : PlainProgress) (c : Custody)

/-! ## A run -/

/-- A run splits into a run of the edit and a run of the passphrase side. -/
theorem runAll_plain (events : List Event) :
    let s : Session := ⟨.plain p, c⟩
    let alone := drive PlainProgress.respond p (events.filter fun e => !e.concernsPassphrase)
    let kept := drive Custody.respond c (events.filter Event.concernsPassphrase)
    s.after events = ⟨.plain alone.1, kept.1⟩ ∧
      (s.turns events).filter (fun t => !t.event.concernsPassphrase) = alone.2 ∧
      (s.turns events).filter (fun t => t.event.concernsPassphrase) = kept.2 := by
  induction events generalizing p c with
  | nil => exact ⟨rfl, rfl, rfl⟩
  | cons e rest ih =>
    cases h : e.concernsPassphrase with
    | true =>
      have hr := respond_plain_of_concerns p c h
      obtain ⟨h₁, h₂, h₃⟩ := ih p (c.respond e).1
      refine ⟨?_, ?_, ?_⟩ <;> simp [h, hr, turn, drive, h₁, h₂, h₃]
    | false =>
      have hr := respond_plain_of_not_concerns p c h
      obtain ⟨h₁, h₂, h₃⟩ := ih (p.respond e).1 c
      refine ⟨?_, ?_, ?_⟩ <;> simp [h, hr, turn, drive, h₁, h₂, h₃]

/-- Whatever is seen of turns but not of replies in the open does not depend on
    the edit. -/
theorem map_turns_plain_eq {α : Type} (view : Turn → α)
    (hview : ∀ e r r', Reply.Open r → Reply.Open r' → view ⟨e, r⟩ = view ⟨e, r'⟩)
    (events : List Event) :
    ((⟨.plain p, c⟩ : Session).turns events).map view =
      ((⟨.plain q, c⟩ : Session).turns events).map view := by
  induction events generalizing p q c with
  | nil => rfl
  | cons e rest ih =>
    cases h : e.concernsPassphrase with
    | true =>
      have hp := respond_plain_of_concerns p c h
      have hq := respond_plain_of_concerns q c h
      simp [turn, hp, hq, ih p q]
    | false =>
      have hp := respond_plain_of_not_concerns p c h
      have hq := respond_plain_of_not_concerns q c h
      simp [turn, hp, hq, ih (p.respond e).1 (q.respond e).1,
        hview e _ _ (p.respond_open e) (q.respond_open e)]

/-- The requests of a run are those of the turns that concern a passphrase. -/
theorem requests_plain (events : List Event) :
    (⟨.plain p, c⟩ : Session).requests events =
      (drive Custody.respond c (events.filter Event.concernsPassphrase)).2.filterMap
        fun t => t.reply.consulted := by
  induction events generalizing p c with
  | nil => rfl
  | cons e rest ih =>
    cases h : e.concernsPassphrase with
    | true =>
      have hr := respond_plain_of_concerns p c h
      cases hc : (c.respond e).2.consulted <;> simp [hr, ih p, h, drive, hc]
    | false =>
      have hr := respond_plain_of_not_concerns p c h
      simp [hr, ih (p.respond e).1, h, (p.respond_open e).consulted]

end Session

/-- **A session of a plain edit splits.**  The turns of the events that concern
    no passphrase are those of the edit alone on these events; the other turns,
    the requests and the record are those of the passphrase side alone.  So all
    plain edits make the same requests, give the same secrets and leave the same
    passphrase side behind. -/
theorem plain_session_splits (edit : PlainEdit) (today : Date) (c : Custody)
    (events : List Event) :
    let s := (Edit.plain edit).session today c
    let alone := drive PlainProgress.respond (edit.start today)
      (events.filter fun e => !e.concernsPassphrase)
    let kept := drive Custody.respond c (events.filter Event.concernsPassphrase)
    s.after events = ⟨.plain alone.1, kept.1⟩ ∧
      (s.turns events).map Turn.event = events ∧
      (s.turns events).filter (fun t => !t.event.concernsPassphrase) = alone.2 ∧
      (s.turns events).filter (fun t => t.event.concernsPassphrase) = kept.2 ∧
      s.requests events = kept.2.filterMap (fun t => t.reply.consulted) ∧
      kept.1.source = c.source.after (s.requests events) ∧
      ∀ (other : PlainEdit) (day : Date),
        let s' := (Edit.plain other).session day c
        (s'.turns events).map (fun t => t.reply.consulted) =
            (s.turns events).map (fun t => t.reply.consulted) ∧
          (s'.turns events).map Turn.secret? = (s.turns events).map Turn.secret? ∧
          (s'.after events).custody = (s.after events).custody := by
  obtain ⟨hafter, halone, hkept⟩ := Session.runAll_plain (edit.start today) c events
  have hsource : (drive Custody.respond c (events.filter Event.concernsPassphrase)).1.source =
      c.source.after (((Edit.plain edit).session today c).requests events) := by
    have hcustody := congrArg Session.custody hafter
    rw [Session.custody_after] at hcustody
    exact (congrArg Custody.source hcustody).symm
  refine ⟨hafter, Session.map_event_turns _ _, halone, hkept,
    Session.requests_plain _ c events, hsource, fun other day => ⟨?_, ?_, ?_⟩⟩
  · exact Session.map_turns_plain_eq _ _ c (fun t => t.reply.consulted)
      (fun _ _ _ h h' => h.consulted.trans h'.consulted.symm) events
  · exact Session.map_turns_plain_eq _ _ c Turn.secret?
      (fun _ _ _ h h' => (Turn.secret?_of_open h).trans (Turn.secret?_of_open h').symm) events
  · obtain ⟨hother, -, -⟩ := Session.runAll_plain (other.start day) c events
    exact (congrArg Session.custody hother).trans (congrArg Session.custody hafter).symm

end KeyDialogue
