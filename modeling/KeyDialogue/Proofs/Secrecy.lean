/-
  Key dialogue — what secrets have an influence on.

  Two runs are compared that differ in nothing but the contents of secrets.  A
  veil hides the text of a secret; what is alike under the veil differs at most
  in such texts.

  * `Source.DeclineAlike`: two sources decline the same ones of some requests;
  * `Session.Alike`: two sessions differ at most in secrets.  One turn keeps them
    alike, and its replies are alike (`Session.respond_alike`); so do any number
    of turns (`Session.turns_alike`), up to the same first failure
    (`Session.heard_alike`);
  * `Editor.Alike`: the same for editors, and what one rehearsed edit makes of
    them (`Editor.rehearse_alike`).  A `Task` is such an edit;
  * `secrets_do_not_interfere`: all that can be told of a history of edits, but
    for the texts of the secret answers, is the same whatever the secrets are.
-/
import KeyDialogue.Proofs.History

namespace KeyDialogue

/-! ## Veils -/

/-- The answer without the text of a secret. -/
def Answer.veil : Answer → Answer
  | .secret _ => .secret ""
  | a => a

/-- The reply without the text of a secret. -/
def Reply.veil (r : Reply) : Reply := { r with outcome := r.outcome.map Answer.veil }

/-- The turn without the text of a secret. -/
def Turn.veil (t : Turn) : Turn := ⟨t.event, t.reply.veil⟩

/-- The report without the texts of secrets. -/
def Report.veil (r : Report) : Report := { r with turns := r.turns.map Turn.veil }

/-- The options without the text of the replacement. -/
def PassphraseOptions.veil (o : PassphraseOptions) : PassphraseOptions :=
  { o with newPassphrase := o.newPassphrase.map fun _ => "" }

/-- The change without the text of the replacement. -/
def PassphraseChange.veil (p : PassphraseChange) : PassphraseChange :=
  { p with options := p.options.veil }

/-- The edit without the text of a replacement. -/
def Edit.veil : Edit → Edit
  | plain e => .plain e
  | changePassphrase o => .changePassphrase o.veil

/-- The edit under way without the text of a replacement. -/
def Progress.veil : Progress → Progress
  | plain p => .plain p
  | passphrase p => .passphrase p.veil

/-! ### What a veil leaves -/

theorem Edit.veil_start (edit : Edit) (today : Date) :
    (edit.start today).veil = edit.veil.start today := by
  cases edit <;> rfl

theorem Edit.kind_veil (edit : Edit) : edit.veil.kind = edit.kind := by cases edit <;> rfl

theorem Edit.fault?_veil (edit : Edit) (source : Source) :
    edit.veil.fault? source = edit.fault? source := by
  cases edit with
  | plain e => rfl
  | changePassphrase o => simp [veil, fault?, PassphraseOptions.fault?, PassphraseOptions.veil]

/-- What fault is found depends on whether there is someone to ask, not on the
    secrets that could be had. -/
theorem Edit.fault?_of_interactive (edit : Edit) {source source' : Source}
    (h : source'.isInteractive = source.isInteractive) :
    edit.fault? source' = edit.fault? source := by
  cases edit with
  | plain e => rfl
  | changePassphrase o => rw [fault?, PassphraseOptions.fault?, h]; rfl

theorem Progress.refused_veil (p : Progress) : p.veil.refused = p.refused := by cases p <;> rfl

namespace Turn
variable (t : Turn)

theorem failure?_veil : t.veil.failure? = t.failure? := by
  obtain ⟨e, outcome, consulted, notes⟩ := t
  cases outcome with
  | error f => rfl
  | ok a => cases a <;> rfl

/-- The log does not show the text of a secret. -/
theorem notes_veil (kind : EditKind) : t.veil.notes kind = t.notes kind := by
  obtain ⟨e, outcome, consulted, notes⟩ := t
  cases outcome with
  | error f => rfl
  | ok a => cases a <;> rfl

end Turn

/-! ## Sources that decline alike -/

/-- Two sources decline the same ones of some requests. -/
def Source.DeclineAlike (s s' : Source) (requests : List Request) : Prop :=
  (s'.replies requests).map Option.isNone = (s.replies requests).map Option.isNone

namespace Source
variable {s s' : Source}

theorem length_replies (s : Source) (requests : List Request) :
    (s.replies requests).length = requests.length := by
  induction requests generalizing s with
  | nil => rfl
  | cons r rest ih => simp [replies, ih]

theorem isInteractive_after (s : Source) (requests : List Request) :
    (s.after requests).isInteractive = s.isInteractive := by
  induction requests generalizing s with
  | nil => rfl
  | cons r rest ih => rw [after, ih, isInteractive_obtain]

theorem DeclineAlike.append {first second : List Request}
    (h : s.DeclineAlike s' (first ++ second)) :
    s.DeclineAlike s' first ∧ (s.after first).DeclineAlike (s'.after first) second := by
  unfold DeclineAlike at h
  rw [replies_append, replies_append, List.map_append, List.map_append] at h
  exact List.append_inj h (by simp [length_replies])

theorem DeclineAlike.isNone_obtain {r : Request} (h : s.DeclineAlike s' [r]) :
    (s'.obtain r).1.isNone = (s.obtain r).1.isNone := by
  simpa [DeclineAlike, replies] using h

/-- Stored secrets are never declined. -/
theorem declineAlike_stored (secret secret' : String) (requests : List Request) :
    (stored secret).DeclineAlike (stored secret') requests := by
  unfold DeclineAlike
  induction requests with
  | nil => rfl
  | cons r rest ih => simp only [replies, obtain, List.map_cons, ih, Option.isNone_some]

/-- Fixed lists of replies with refusals at the same places decline alike. -/
theorem declineAlike_scripted {replies replies' : List (Option String)}
    (h : replies'.map Option.isNone = replies.map Option.isNone) (requests : List Request) :
    (scripted replies).DeclineAlike (scripted replies') requests := by
  have hplace : ∀ i : Nat, (replies'[i]?.join).isNone = (replies[i]?.join).isNone := fun i => by
    have hi : replies'[i]?.map Option.isNone = replies[i]?.map Option.isNone := by
      rw [← List.getElem?_map, h, List.getElem?_map]
    cases hr : replies[i]? <;> cases hr' : replies'[i]? <;> simp_all
  unfold DeclineAlike scripted
  -- the place of the next reply is the number of requests made so far
  generalize ([] : List Request) = asked
  induction requests generalizing asked with
  | nil => rfl
  | cons r rest ih => simp only [Source.replies, obtain, List.map_cons, ih, hplace]

end Source

/-! ## The passphrase side -/

namespace Custody

/-- What obtaining a secret took is the same, but for the secret. -/
structure Supply.Alike (x x' : Supply) : Prop where
  record : x'.custody.record = x.custody.record
  consulted : x'.consulted = x.consulted
  notes : x'.notes = x.notes

variable {c c' : Custody}

theorem supply_alike (hr : c'.record = c.record) (purpose : Purpose)
    (hd : c.source.DeclineAlike c'.source (c.supply purpose).consulted.toList) :
    (c.supply purpose).Alike (c'.supply purpose) := by
  obtain ⟨record, source⟩ := c
  obtain ⟨record', source'⟩ := c'
  obtain rfl : record' = record := hr
  cases hdecl : record'.declined with
  | true => simp only [supply, hdecl, if_true]; exact ⟨rfl, rfl, rfl⟩
  | false =>
    rcases ho : source.obtain (record'.request purpose) with ⟨reply, next⟩
    rcases ho' : source'.obtain (record'.request purpose) with ⟨reply', next'⟩
    have hone : (Custody.supply ⟨record', source⟩ purpose).consulted.toList =
        [record'.request purpose] := by
      rw [(supply_of_obtain ⟨record', source⟩ hdecl ho).2.2]; rfl
    have hnone : reply'.isNone = reply.isNone := by
      have h := (hone ▸ hd).isNone_obtain
      rwa [ho, ho'] at h
    -- all but the secret depends on no more than whether the source declined
    cases reply with
    | none =>
      obtain rfl : reply' = none := Option.isNone_iff_eq_none.1 hnone
      simp only [supply, hdecl, ho, ho', Bool.false_eq_true, if_false]
      exact ⟨rfl, rfl, rfl⟩
    | some secret =>
      cases reply' with
      | none => cases hnone
      | some secret' =>
        simp only [supply, hdecl, ho, ho', Bool.false_eq_true, if_false]
        exact ⟨rfl, rfl, rfl⟩

end Custody

/-! ## A change of passphrase -/

namespace PassphraseChange
variable (p : PassphraseChange)

theorem advise_veil (e : Event) : p.veil.advise e = ((p.advise e).1.veil, (p.advise e).2) := by
  unfold advise
  cases e.status with
  | missingPassphrase =>
    by_cases hm : missingLimit ≤ p.missing + 1
    · simp only [veil, hm, if_true]
    · simp only [veil, hm, if_false]
  | _ => rfl

theorem answer_veil (e : Event) : p.veil.answer e = ((p.answer e).1.veil, (p.answer e).2) := by
  unfold answer
  split <;> rfl

variable {p} {p' : PassphraseChange} {c c' : Custody}

theorem obtain_alike (hp : p'.veil = p.veil) (hr : c'.record = c.record)
    (hd : c.source.DeclineAlike c'.source (p.obtain c).consulted.toList) :
    (p.obtain c).Alike (p'.obtain c') := by
  have hu : p'.unlocked = p.unlocked := congrArg (·.unlocked) hp
  have hn : p'.options.newPassphrase.map (fun _ => "") =
      p.options.newPassphrase.map fun _ => "" := congrArg (·.options.newPassphrase) hp
  unfold obtain at hd ⊢
  rw [hu]
  cases hunlocked : p.unlocked with
  | false =>
    simp only [hunlocked, Bool.false_eq_true, if_false] at hd ⊢
    exact Custody.supply_alike hr .current hd
  | true =>
    simp only [hunlocked, if_true] at hd ⊢
    cases hnew : p.options.newPassphrase with
    | none =>
      have hnew' : p'.options.newPassphrase = none := by simpa [hnew] using hn
      rw [hnew] at hd
      rw [hnew']
      exact Custody.supply_alike hr .new hd
    | some secret =>
      obtain ⟨secret', hnew', -⟩ := Option.map_eq_some_iff.1 (hn.trans (by rw [hnew]; rfl))
      rw [hnew']
      exact ⟨hr, rfl, rfl⟩

theorem enter_of_declined (p : PassphraseChange) {c : Custody} (h : c.record.declined = true) :
    p.enter c = (p, c, .answer .abort) := by
  simp [enter, h]

theorem enter_of_refused (p : PassphraseChange) {c : Custody} (h : c.record.declined = false)
    (ho : (p.obtain c).custody.record.declined = true) :
    p.enter c = (p, (p.obtain c).custody,
      ⟨.ok .abort, (p.obtain c).consulted, (p.obtain c).notes⟩) := by
  simp [enter, h, ho]

theorem enter_of_given (p : PassphraseChange) {c : Custody} (h : c.record.declined = false)
    (ho : (p.obtain c).custody.record.declined = false) :
    p.enter c = ({ p with missing := 0 }, (p.obtain c).custody,
      ⟨.ok (.secret (p.obtain c).secret), (p.obtain c).consulted, (p.obtain c).notes⟩) := by
  simp [enter, h, ho]

theorem enter_alike (hp : p'.veil = p.veil) (hr : c'.record = c.record)
    (hd : c.source.DeclineAlike c'.source (p.enter c).2.2.consulted.toList) :
    (p'.enter c').1.veil = (p.enter c).1.veil ∧
      (p'.enter c').2.1.record = (p.enter c).2.1.record ∧
      (p'.enter c').2.2.veil = (p.enter c).2.2.veil := by
  cases h : c.record.declined with
  | true =>
    rw [p.enter_of_declined h, p'.enter_of_declined (hr ▸ h)]
    exact ⟨hp, hr, rfl⟩
  | false =>
    cases ho : (p.obtain c).custody.record.declined with
    | true =>
      rw [p.enter_of_refused h ho] at hd ⊢
      obtain ⟨hrecord, hconsulted, hnotes⟩ := obtain_alike hp hr hd
      rw [p'.enter_of_refused (hr ▸ h) (hrecord ▸ ho), hconsulted, hnotes]
      exact ⟨hp, hrecord, rfl⟩
    | false =>
      rw [p.enter_of_given h ho] at hd ⊢
      obtain ⟨hrecord, hconsulted, hnotes⟩ := obtain_alike hp hr hd
      rw [p'.enter_of_given (hr ▸ h) (hrecord ▸ ho), hconsulted, hnotes]
      exact ⟨congrArg (fun p : PassphraseChange => { p with missing := 0 }) hp, hrecord, rfl⟩

theorem respond_alike (hp : p'.veil = p.veil) (hr : c'.record = c.record) (e : Event)
    (hd : c.source.DeclineAlike c'.source (p.respond c e).2.2.consulted.toList) :
    (p'.respond c' e).1.veil = (p.respond c e).1.veil ∧
      (p'.respond c' e).2.1.record = (p.respond c e).2.1.record ∧
      (p'.respond c' e).2.2.veil = (p.respond c e).2.2.veil := by
  unfold respond at hd ⊢
  cases ha : e.status.isAdvisory with
  | true =>
    have hadvise : ((p'.advise e).1.veil, (p'.advise e).2) = ((p.advise e).1.veil, (p.advise e).2) := by
      rw [← advise_veil, ← advise_veil, hp]
    obtain ⟨hnext, hreply⟩ := Prod.mk.inj hadvise
    exact ⟨hnext, congrArg (fun r : Record => r.observe e) hr, congrArg Reply.veil hreply⟩
  | false =>
    cases hask : e.asksPassphrase with
    | true =>
      simp only [ha, hask, Bool.false_eq_true, if_false, if_true] at hd ⊢
      exact enter_alike hp hr hd
    | false =>
      have hanswer : ((p'.answer e).1.veil, (p'.answer e).2) =
          ((p.answer e).1.veil, (p.answer e).2) := by
        rw [← answer_veil, ← answer_veil, hp]
      obtain ⟨hnext, hreply⟩ := Prod.mk.inj hanswer
      exact ⟨hnext, hr, congrArg Reply.veil hreply⟩

end PassphraseChange

/-- The passphrase side of a plain edit. -/
theorem Custody.respond_alike {c c' : Custody} (hr : c'.record = c.record) (e : Event)
    (hd : c.source.DeclineAlike c'.source (c.respond e).2.consulted.toList) :
    (c'.respond e).1.record = (c.respond e).1.record ∧
      (c'.respond e).2.veil = (c.respond e).2.veil := by
  unfold respond respond? at hd ⊢
  cases ha : e.status.isAdvisory with
  | true => exact ⟨congrArg (fun r : Record => r.observe e) hr, rfl⟩
  | false =>
    cases hask : e.asksPassphrase with
    | true =>
      simp only [ha, hask, Bool.false_eq_true, if_false, if_true, Option.getD_some] at hd ⊢
      obtain ⟨hrecord, hconsulted, hnotes⟩ := supply_alike hr .unlock hd
      rw [hconsulted, hnotes]
      exact ⟨hrecord, rfl⟩
    | false => exact ⟨hr, rfl⟩

/-! ## Sessions -/

/-- Two sessions differ at most in secrets, and in their sources. -/
structure Session.Alike (s s' : Session) : Prop where
  progress : s'.progress.veil = s.progress.veil
  record : s'.custody.record = s.custody.record

namespace Session
variable {s s' : Session}

/-- One turn: the replies are alike, and so are the sessions after it. -/
theorem respond_alike (h : s.Alike s') (e : Event)
    (hd : s.custody.source.DeclineAlike s'.custody.source (s.respond e).2.consulted.toList) :
    (s.respond e).1.Alike (s'.respond e).1 ∧ (s'.turn e).veil = (s.turn e).veil := by
  obtain ⟨progress, c⟩ := s
  obtain ⟨progress', c'⟩ := s'
  obtain ⟨hp, hr⟩ := h
  unfold turn Turn.veil
  cases progress with
  | plain p =>
    cases progress' with
    | passphrase p' => cases hp
    | plain p' =>
      obtain rfl : p' = p := by cases hp; rfl
      cases hconcerns : e.concernsPassphrase with
      | true =>
        rw [respond_plain_of_concerns p' c hconcerns] at hd ⊢
        rw [respond_plain_of_concerns p' c' hconcerns]
        obtain ⟨hrecord, hreply⟩ := Custody.respond_alike hr e hd
        exact ⟨⟨rfl, hrecord⟩, congrArg (Turn.mk e) hreply⟩
      | false =>
        rw [respond_plain_of_not_concerns p' c hconcerns,
          respond_plain_of_not_concerns p' c' hconcerns]
        exact ⟨⟨rfl, hr⟩, rfl⟩
  | passphrase p =>
    cases progress' with
    | plain p' => cases hp
    | passphrase p' =>
      obtain ⟨hnext, hrecord, hreply⟩ :=
        PassphraseChange.respond_alike (Progress.passphrase.inj hp) hr e hd
      exact ⟨⟨congrArg Progress.passphrase hnext, hrecord⟩, congrArg (Turn.mk e) hreply⟩

/-- The first of several turns, and what is left for the others. -/
theorem turn_alike (h : s.Alike s') (e : Event) (rest : List Event)
    (hd : s.custody.source.DeclineAlike s'.custody.source (s.requests (e :: rest))) :
    (s.respond e).1.Alike (s'.respond e).1 ∧ (s'.turn e).veil = (s.turn e).veil ∧
      (s.respond e).1.custody.source.DeclineAlike (s'.respond e).1.custody.source
        ((s.respond e).1.requests rest) := by
  rw [requests_cons] at hd
  obtain ⟨hone, hrest⟩ := hd.append
  obtain ⟨hnext, hturn⟩ := respond_alike h e hone
  have hconsulted : (s'.respond e).2.consulted = (s.respond e).2.consulted :=
    congrArg (fun t => t.reply.consulted) hturn
  refine ⟨hnext, hturn, ?_⟩
  rw [source_respond, source_respond, hconsulted]
  exact hrest

theorem turns_alike (h : s.Alike s') (events : List Event)
    (hd : s.custody.source.DeclineAlike s'.custody.source (s.requests events)) :
    (s.after events).Alike (s'.after events) ∧
      (s'.turns events).map Turn.veil = (s.turns events).map Turn.veil := by
  induction events generalizing s s' with
  | nil => exact ⟨h, rfl⟩
  | cons e rest ih =>
    obtain ⟨hnext, hturn, hrest⟩ := turn_alike h e rest hd
    obtain ⟨hlast, hturns⟩ := ih hnext hrest
    refine ⟨hlast, ?_⟩
    rw [turns_cons, turns_cons, List.map_cons, List.map_cons, hturn, hturns]

/-- Sessions that are alike fail at the same event first. -/
theorem heard_alike (h : s.Alike s') (events : List Event)
    (hd : s.custody.source.DeclineAlike s'.custody.source (s.requests (s.heard events))) :
    s'.heard events = s.heard events := by
  induction events generalizing s s' with
  | nil => rfl
  | cons e rest ih =>
    cases hf : (s.turn e).failure? with
    | some f =>
      rw [s.heard_cons_of_failure hf] at hd ⊢
      obtain ⟨-, hturn, -⟩ := turn_alike h e [] hd
      have hf' : (s'.turn e).failure? = some f := by
        rw [← Turn.failure?_veil, hturn, Turn.failure?_veil, hf]
      exact s'.heard_cons_of_failure hf' rest
    | none =>
      rw [s.heard_cons_of_no_failure hf] at hd ⊢
      obtain ⟨hnext, hturn, hrest⟩ := turn_alike h e _ hd
      have hf' : (s'.turn e).failure? = none := by
        rw [← Turn.failure?_veil, hturn, Turn.failure?_veil, hf]
      rw [s'.heard_cons_of_no_failure hf', ih hnext hrest]

end Session

/-! ### Rehearsals -/

/-- Two courses of a session differ at most in secrets. -/
structure Course.Alike (x x' : Course) : Prop where
  session : x.session.Alike x'.session
  turns : x'.turns.map Turn.veil = x.turns.map Turn.veil
  outcome : x'.outcome = x.outcome

theorem outcomeOf_veil (turns : List Turn) (ending : Except Failure Unit) :
    outcomeOf (turns.map Turn.veil) ending = outcomeOf turns ending := by
  have hfailure : Turn.failure? ∘ Turn.veil = Turn.failure? := funext Turn.failure?_veil
  rw [outcomeOf, List.findSome?_map, hfailure, outcomeOf]

namespace Rehearsal
variable (r : Rehearsal) {s s' : Session}

theorem heard_alike (h : s.Alike s')
    (hd : s.custody.source.DeclineAlike s'.custody.source (s.requests (r.heard s))) :
    r.heard s' = r.heard s := by
  unfold heard at hd ⊢
  split
  · rfl
  · next hk => rw [if_neg hk] at hd; exact Session.heard_alike h r.events hd

theorem conduct_alike (h : s.Alike s')
    (hd : s.custody.source.DeclineAlike s'.custody.source (s.requests (r.heard s))) :
    (r.conduct s).Alike (r.conduct s') := by
  obtain ⟨hlast, hturns⟩ := Session.turns_alike h (r.heard s) hd
  rw [r.conduct_eq, r.conduct_eq, r.heard_alike h hd]
  refine ⟨hlast, hturns, ?_⟩
  calc outcomeOf (s'.turns (r.heard s)) r.ending
      = outcomeOf ((s'.turns (r.heard s)).map Turn.veil) r.ending := (outcomeOf_veil _ _).symm
    _ = outcomeOf ((s.turns (r.heard s)).map Turn.veil) r.ending := by rw [hturns]
    _ = outcomeOf (s.turns (r.heard s)) r.ending := outcomeOf_veil _ _

end Rehearsal

/-! ## Editors -/

/-- An edit of a key in a session of which the events are known beforehand. -/
structure Task where
  rehearsal : Rehearsal
  /-- How the engine says that the session ended, if it does not go by the
      rehearsal. -/
  reported : Option (Except Failure Unit) := none
  fingerprint : String
  edit : Edit

namespace Task
variable (t : Task)

/-- Conducts the session of a task. -/
def conduct (t : Task) (s : Session) : Course :=
  let x := t.rehearsal.conduct s
  { x with outcome := t.reported.getD x.outcome }

/-- The task without the text of a replacement. -/
def veil (t : Task) : Task := { t with edit := t.edit.veil }

theorem conduct_eq (s : Session) :
    t.conduct s = s.course (t.rehearsal.heard s)
      (t.reported.getD (outcomeOf (s.turns (t.rehearsal.heard s)) t.rehearsal.ending)) := by
  rw [conduct, Rehearsal.conduct_eq]; rfl

theorem conversational : Conversational t.conduct := fun s => ⟨_, _, t.conduct_eq s⟩

theorem conduct_alike {s s' : Session} (h : s.Alike s')
    (hd : s.custody.source.DeclineAlike s'.custody.source (s.requests (t.rehearsal.heard s))) :
    (t.conduct s).Alike (t.conduct s') := by
  obtain ⟨hlast, hturns, houtcome⟩ := t.rehearsal.conduct_alike h hd
  exact ⟨hlast, hturns, congrArg t.reported.getD houtcome⟩

end Task

theorem Report.consulted_veil (r : Report) : r.veil.consulted = r.consulted := by
  unfold consulted veil
  rw [List.filterMap_map]
  rfl

namespace Editor

/-- Carries out a task. -/
def rehearse (ed : Editor) (t : Task) : Editor × Report :=
  ed.edit t.conduct t.fingerprint t.edit

/-- Carries out tasks in order. -/
def rehearseAll (ed : Editor) (tasks : List Task) : Editor × List Report :=
  ed.editAll (tasks.map fun t => (t.conduct, t.fingerprint, t.edit))

/-- Two editors differ at most in the secrets that their sources give. -/
structure Alike (ed ed' : Editor) : Prop where
  today : ed'.today = ed.today
  keyring : ed'.keyring = ed.keyring
  interactive : ed'.source.isInteractive = ed.source.isInteractive

variable {ed ed' : Editor}

theorem session_alike (h : ed.Alike ed') (fingerprint : String) {edit edit' : Edit}
    (hedit : edit'.veil = edit.veil) :
    (ed.session fingerprint edit).Alike (ed'.session fingerprint edit') where
  progress := by
    have hstart : (edit'.start ed'.today).veil = (edit.start ed.today).veil := by
      rw [Edit.veil_start, Edit.veil_start, hedit, h.today]
    exact hstart
  record := congrArg (fun k => (k.record fingerprint).begin) h.keyring

/-- The requests of a report do not tell secrets. -/
theorem requestsOf_veil (source : Source) (turns : List Turn) :
    requestsOf source (turns.map Turn.veil) = requestsOf source turns := by
  unfold requestsOf
  rw [List.zipIdx_map, List.filterMap_map]
  rfl

theorem flatMap_notes_veil (kind : EditKind) (turns : List Turn) :
    (turns.map Turn.veil).flatMap (Turn.notes kind) = turns.flatMap (Turn.notes kind) := by
  rw [List.flatMap_map]
  exact congrArg (List.flatMap · turns) (funext fun t => t.notes_veil kind)

/-- The conclusion of a session goes by what is alike. -/
theorem conclude_alike (h : ed.Alike ed') (fingerprint : String) (kind : EditKind)
    {x x' : Course} (hx : x.Alike x') :
    (ed'.conclude fingerprint kind x').1.keyring = (ed.conclude fingerprint kind x).1.keyring ∧
      (ed'.conclude fingerprint kind x').2.veil = (ed.conclude fingerprint kind x).2.veil := by
  have hrecord : x'.session.custody.record = x.session.custody.record := hx.session.record
  have hrequests : requestsOf ed'.source x'.turns = requestsOf ed.source x.turns := by
    rw [← requestsOf_veil, hx.turns, requestsOf_veil, requestsOf, h.interactive, requestsOf]
  have hresult : resultOf x'.session.progress = resultOf x.session.progress := by
    rw [resultOf, ← Progress.refused_veil, hx.session.progress, Progress.refused_veil, resultOf]
  have hnotes : x'.turns.flatMap (Turn.notes kind) = x.turns.flatMap (Turn.notes kind) := by
    rw [← flatMap_notes_veil, hx.turns, flatMap_notes_veil]
  constructor
  · simp only [conclude, h.keyring, hrecord]
  · simp only [conclude, Report.veil, hrecord, hx.outcome, hx.turns, hrequests, hresult, hnotes]

theorem source_rehearse (ed : Editor) (t : Task) :
    (ed.rehearse t).1.source = ed.source.after (ed.rehearse t).2.consulted :=
  ed.source_edit t.conversational t.fingerprint t.edit

theorem interactive_rehearse (ed : Editor) (t : Task) :
    (ed.rehearse t).1.source.isInteractive = ed.source.isInteractive := by
  rw [source_rehearse, Source.isInteractive_after]

theorem today_rehearse (ed : Editor) (t : Task) : (ed.rehearse t).1.today = ed.today :=
  ed.today_edit t.conduct t.fingerprint t.edit

/-- What one task leaves, and what is reported of it. -/
theorem reports_alike (h : ed.Alike ed') {t t' : Task} (ht : t'.veil = t.veil)
    (hd : ed.source.DeclineAlike ed'.source (ed.rehearse t).2.consulted) :
    (ed'.rehearse t').1.keyring = (ed.rehearse t).1.keyring ∧
      (ed'.rehearse t').2.veil = (ed.rehearse t).2.veil := by
  obtain ⟨r, reported, fingerprint, edit⟩ := t
  obtain ⟨r', reported', fingerprint', edit'⟩ := t'
  obtain ⟨rfl, rfl, rfl, hedit⟩ := Task.mk.inj ht
  have hkind : edit'.kind = edit.kind := by rw [← Edit.kind_veil, hedit, Edit.kind_veil]
  have hfault : edit'.fault? ed'.source = edit.fault? ed.source := by
    rw [← Edit.fault?_veil, hedit, Edit.fault?_veil, edit.fault?_of_interactive h.interactive]
  unfold rehearse Editor.edit at hd ⊢
  rw [hfault]
  cases hnone : edit.fault? ed.source with
  | some fault => exact ⟨h.keyring, by simp only [rejection, h.keyring]⟩
  | none =>
    simp only [hnone] at hd ⊢
    rw [hkind]
    refine conclude_alike h fingerprint' edit.kind
      (Task.conduct_alike _ (session_alike h fingerprint' hedit) ?_)
    rw [Task.conduct_eq] at hd
    exact hd

/-- One task: the editors are alike after it, and so are the reports. -/
theorem rehearse_alike (h : ed.Alike ed') {t t' : Task} (ht : t'.veil = t.veil)
    (hd : ed.source.DeclineAlike ed'.source (ed.rehearse t).2.consulted) :
    (ed.rehearse t).1.Alike (ed'.rehearse t').1 ∧
      (ed'.rehearse t').2.veil = (ed.rehearse t).2.veil := by
  obtain ⟨hkeyring, hreport⟩ := reports_alike h ht hd
  refine ⟨⟨?_, hkeyring, ?_⟩, hreport⟩
  · rw [today_rehearse, today_rehearse, h.today]
  · rw [interactive_rehearse, interactive_rehearse, h.interactive]

theorem rehearseAll_cons (ed : Editor) (t : Task) (rest : List Task) :
    ed.rehearseAll (t :: rest) =
      (((ed.rehearse t).1.rehearseAll rest).1,
        (ed.rehearse t).2 :: ((ed.rehearse t).1.rehearseAll rest).2) := rfl

end Editor

/-- **Secrets have no influence on anything but secret answers.**  Two editors with
    the same keyring, on the same day, carry out the same tasks, but for the texts
    of replacements.  If the one's source declines the same requests as the other's
    and is of the same kind, then everything reported is the same, but for the texts
    of secret answers: the turns, the requests, the results, the records of the keys
    and all that is noted in the log. -/
theorem secrets_do_not_interfere (ed ed' : Editor) (h : ed.Alike ed') (tasks tasks' : List Task)
    (htasks : tasks'.map Task.veil = tasks.map Task.veil)
    (hd : ed.source.DeclineAlike ed'.source
      ((ed.rehearseAll tasks).2.flatMap Report.consulted)) :
    (ed'.rehearseAll tasks').2.map Report.veil = (ed.rehearseAll tasks).2.map Report.veil ∧
      (ed'.rehearseAll tasks').1.keyring = (ed.rehearseAll tasks).1.keyring := by
  induction tasks generalizing ed ed' tasks' with
  | nil =>
    obtain rfl : tasks' = [] := List.map_eq_nil_iff.1 htasks
    exact ⟨rfl, h.keyring⟩
  | cons t rest ih =>
    obtain ⟨t', rest', rfl, ht, hrest⟩ := List.map_eq_cons_iff.1 htasks
    rw [Editor.rehearseAll_cons, List.flatMap_cons] at hd
    -- the requests of the first task, and those that the others make of what is left
    obtain ⟨hone, hothers⟩ := hd.append
    obtain ⟨hnext, hreport⟩ := Editor.rehearse_alike h ht hone
    have hconsulted : (ed'.rehearse t').2.consulted = (ed.rehearse t).2.consulted := by
      rw [← Report.consulted_veil, hreport, Report.consulted_veil]
    have hothers' : (ed.rehearse t).1.source.DeclineAlike (ed'.rehearse t').1.source
        (((ed.rehearse t).1.rehearseAll rest).2.flatMap Report.consulted) := by
      rw [Editor.source_rehearse, Editor.source_rehearse, hconsulted]
      exact hothers
    obtain ⟨hreports, hkeyring⟩ := ih _ _ hnext rest' hrest hothers'
    rw [Editor.rehearseAll_cons, Editor.rehearseAll_cons]
    exact ⟨by rw [List.map_cons, List.map_cons, hreport, hreports], hkeyring⟩

/-- Other secrets and another replacement, with the third request declined by
    both. -/
theorem secrets_do_not_interfere_scripted :
    let today : Date := ⟨2026, 10, 19, by decide, by decide, by decide, by decide⟩
    let ed : Editor := { source := .scripted [some "old", some "guess", none], today }
    let ed' : Editor := { source := .scripted [some "", some "another guess", none], today }
    let ask : Event := ⟨.getHidden, some "passphrase.enter"⟩
    let tasks := fun new => [
      ({ rehearsal := { events := [ask, ⟨.goodPassphrase, none⟩, ask] }
         fingerprint := "F"
         edit := .changePassphrase { newPassphrase := some new } } : Task),
      { rehearsal := { events := [ask, ⟨.badPassphrase, none⟩, ask] }
        reported := some (.error (.backend (some 2)))
        fingerprint := "F"
        edit := .plain (.setOwnerTrust .full) }]
    ((ed.rehearseAll (tasks "a")).2.flatMap Report.consulted).length = 3 ∧
      (ed'.rehearseAll (tasks "bc")).2.map Report.veil =
        (ed.rehearseAll (tasks "a")).2.map Report.veil := by
  intro today ed ed' ask tasks
  have hd : ed.source.DeclineAlike ed'.source
      ((ed.rehearseAll (tasks "a")).2.flatMap Report.consulted) :=
    Source.declineAlike_scripted (by decide) _
  refine ⟨by decide +kernel, ?_⟩
  exact (secrets_do_not_interfere ed ed' ⟨rfl, rfl, rfl⟩ (tasks "a") (tasks "bc") rfl hd).1

end KeyDialogue
