/-
  Key dialogue — sessions that are repeated, and keys that are edited in turn.

  If there is no one to ask for secrets, all that an editor carries from one
  session to the next is what was announced of each key.

  * `Session.InStep`: two sessions are in step if they differ in nothing else.  One
    event keeps them in step, and both answer it alike
    (`Session.respond_inStep`); so do any events (`Session.turns_inStep`), up to
    the same first failure (`Session.heard_inStep`);
  * so the transcript of an edit depends neither on the key nor on what is known of it
    (`Editor.transcript_edit`);
  * `Editor.AgreeOn`: two editors know the same of a key.  An edit of the key is
    reported alike by both (`Editor.AgreeOn.edit`), and an edit of another key
    leaves them in agreement (`Editor.AgreeOn.edit_other`);
  * `sessions_replay_and_keys_are_isolated`: these two, for histories.
-/
import KeyDialogue.Proofs.History

namespace KeyDialogue

/-! ## Sources without anyone to ask -/

namespace Source
variable {s : Source} (h : s.isInteractive = false)
include h

/-- If no one is asked, every request is replied to alike, and leaves the source as it
    was. -/
theorem obtain_of_not_interactive : ∃ reply, ∀ r, s.obtain r = (reply, s) := by
  cases s with
  | absent => exact ⟨none, fun _ => rfl⟩
  | stored secret => exact ⟨some secret, fun _ => rfl⟩
  | callbacks reply asked => cases h

theorem after_of_not_interactive (requests : List Request) : s.after requests = s := by
  obtain ⟨reply, ho⟩ := obtain_of_not_interactive h
  induction requests with
  | nil => rfl
  | cons r rest ih => rw [after, ho, ih]

end Source

/-! ## Sessions in step -/

/-- Two sessions differ at most in what was announced of their keys. -/
structure Session.InStep (s s' : Session) : Prop where
  progress : s'.progress = s.progress
  source : s'.custody.source = s.custody.source
  declined : s'.custody.record.declined = s.custody.record.declined

/-- What is said at a turn: the event, and what came of it. -/
def Turn.said (t : Turn) : Event × Except Failure Answer := (t.event, t.reply.outcome)

/-- Whether a turn fails, and how, can be told from what is said. -/
theorem Turn.failure?_congr {t t' : Turn} (h : t'.said = t.said) : t'.failure? = t.failure? := by
  have houtcome : t'.reply.outcome = t.reply.outcome := congrArg Prod.snd h
  rw [failure?, Reply.failure?, houtcome]; rfl

namespace Session
variable {s s' : Session}

/-- A question for the passphrase: the answers are the same, and so is what they
    make of the passphrase side. -/
theorem pass_inStep (h : s.InStep s') (hi : s.custody.source.isInteractive = false) :
    s'.pass.2.2 = s.pass.2.2 ∧ s'.pass.1.source = s.pass.1.source ∧
      s'.pass.1.record.declined = s.pass.1.record.declined := by
  obtain ⟨hp, hs, hd⟩ := h
  cases hdecl : s.custody.record.declined with
  | true =>
    rw [s.pass_of_declined hdecl, s'.pass_of_declined (hd.trans hdecl), hp]
    exact ⟨rfl, hs, hd⟩
  | false =>
    cases hslot : s.progress.slot with
    | inHand secret =>
      rw [s.pass_of_inHand hdecl hslot, s'.pass_of_inHand (hd.trans hdecl) (hp ▸ hslot)]
      exact ⟨rfl, hs, hd⟩
    | source purpose =>
      -- the requests show what was announced, but the source does not look at them
      obtain ⟨reply, ho⟩ := Source.obtain_of_not_interactive hi
      have ho' : ∀ r, s'.custody.source.obtain r = (reply, s.custody.source) := by rwa [hs]
      rw [s.pass_of_source hdecl hslot (ho _),
        s'.pass_of_source (hd.trans hdecl) (hp ▸ hslot) (ho' _), hp]
      exact ⟨rfl, rfl, rfl⟩

/-- One event keeps two sessions in step, and both answer it alike. -/
theorem respond_inStep (h : s.InStep s') (hi : s.custody.source.isInteractive = false)
    (e : Event) : (s.respond e).1.InStep (s'.respond e).1 ∧ (s'.turn e).said = (s.turn e).said := by
  cases hask : e.asksPassphrase with
  | true =>
    obtain ⟨hanswer, hsource, hdeclined⟩ := pass_inStep h hi
    refine ⟨⟨?_, ?_, ?_⟩, ?_⟩
    · rw [s.progress_respond_of_asksPassphrase hask, s'.progress_respond_of_asksPassphrase hask,
        h.progress, hdeclined]
    · rw [s.custody_pass hask, s'.custody_pass hask, hsource]
    · rw [s.custody_pass hask, s'.custody_pass hask, hdeclined]
    · rw [Turn.said, Turn.said, turn, turn, s.outcome_respond hask, s'.outcome_respond hask,
        hanswer]
  | false =>
    rw [turn, turn, s.respond_of_not_asksPassphrase hask, s'.respond_of_not_asksPassphrase hask,
      h.progress]
    exact ⟨⟨rfl, h.source, by simp [Custody.observe, h.declined]⟩, rfl⟩

theorem not_interactive_respond (hi : s.custody.source.isInteractive = false) (e : Event) :
    (s.respond e).1.custody.source.isInteractive = false := by
  rw [source_respond, Source.after_of_not_interactive hi, hi]

theorem turns_inStep (h : s.InStep s') (hi : s.custody.source.isInteractive = false)
    (events : List Event) :
    (s'.turns events).map Turn.said = (s.turns events).map Turn.said := by
  induction events generalizing s s' with
  | nil => rfl
  | cons e rest ih =>
    obtain ⟨hnext, hsaid⟩ := respond_inStep h hi e
    rw [turns_cons, turns_cons, List.map_cons, List.map_cons, hsaid,
      ih hnext (not_interactive_respond hi e)]

/-- Sessions in step fail at the same event first. -/
theorem heard_inStep (h : s.InStep s') (hi : s.custody.source.isInteractive = false)
    (events : List Event) : s'.heard events = s.heard events := by
  induction events generalizing s s' with
  | nil => rfl
  | cons e rest ih =>
    obtain ⟨hnext, hsaid⟩ := respond_inStep h hi e
    have hfailure := Turn.failure?_congr hsaid
    simp only [heard, hfailure, ih hnext (not_interactive_respond hi e)]

end Session

/-- A rehearsal delivers the same events to sessions in step. -/
theorem Rehearsal.heard_inStep (r : Rehearsal) {s s' : Session} (h : s.InStep s')
    (hi : s.custody.source.isInteractive = false) : r.heard s' = r.heard s := by
  unfold heard; split
  · rfl
  · exact Session.heard_inStep h hi r.events

/-! ## Transcripts -/

/-- What was said in the session of an edit. -/
def Report.transcript (r : Report) : List (Event × Except Failure Answer) := r.turns.map Turn.said

namespace Editor
variable {ed ed' : Editor}

theorem session_inStep (hs : ed'.source = ed.source) (ht : ed'.today = ed.today)
    (fingerprint other : String) (edit : Edit) :
    (ed.session fingerprint edit).InStep (ed'.session other edit) where
  progress := congrArg edit.start ht
  source := hs
  -- a refusal lasts only for the session in which it was made
  declined := rfl

/-- The transcript of an edit depends neither on the key nor on what is known of
    it, nor on how the engine ends. -/
theorem transcript_edit (hs : ed'.source = ed.source) (ht : ed'.today = ed.today)
    (hi : ed.source.isInteractive = false) (fingerprint other : String) (edit : Edit)
    {engine engine' : Session → Course} {events : List Event}
    {outcome outcome' : Except Failure Unit}
    (he : engine (ed.session fingerprint edit) =
      (ed.session fingerprint edit).course events outcome)
    (he' : engine' (ed'.session other edit) = (ed'.session other edit).course events outcome') :
    (ed'.edit engine' other edit).2.started = (ed.edit engine fingerprint edit).2.started ∧
      (ed'.edit engine' other edit).2.transcript =
        (ed.edit engine fingerprint edit).2.transcript := by
  unfold Editor.edit
  rw [hs]
  cases edit.fault? ed.source with
  | some fault => exact ⟨rfl, rfl⟩
  | none =>
    simp only [he, he']
    exact ⟨rfl, Session.turns_inStep (session_inStep hs ht fingerprint other edit) hi events⟩

theorem transcript_rehearsal (hs : ed'.source = ed.source) (ht : ed'.today = ed.today)
    (hi : ed.source.isInteractive = false) (fingerprint other : String) (edit : Edit)
    (r : Rehearsal) :
    (ed'.edit r.conduct other edit).2.transcript =
      (ed.edit r.conduct fingerprint edit).2.transcript := by
  have hheard := r.heard_inStep (session_inStep hs ht fingerprint other edit) hi
  have hcourse := r.conduct_eq (ed'.session other edit)
  rw [hheard] at hcourse
  exact (transcript_edit hs ht hi fingerprint other edit (r.conduct_eq _) hcourse).2

/-! ## Histories -/

variable (hi : ed.source.isInteractive = false)
include hi

theorem source_edit_of_not_interactive {engine : Session → Course} (h : Conversational engine)
    (fingerprint : String) (edit : Edit) :
    (ed.edit engine fingerprint edit).1.source = ed.source := by
  rw [ed.source_edit h, Source.after_of_not_interactive hi]

/-- All that a history changes is the records of the keys. -/
theorem source_editAll (history : List ((Session → Course) × String × Edit))
    (h : ∀ x ∈ history, Conversational x.1) :
    (ed.editAll history).1.source = ed.source ∧ (ed.editAll history).1.today = ed.today := by
  induction history generalizing ed with
  | nil => exact ⟨rfl, rfl⟩
  | cons x rest ih =>
    obtain ⟨engine, fingerprint, edit⟩ := x
    obtain ⟨hx, hrest⟩ := List.forall_mem_cons.1 h
    have hsource := source_edit_of_not_interactive hi hx fingerprint edit
    have hi' : (ed.edit engine fingerprint edit).1.source.isInteractive = false := by
      rw [hsource, hi]
    obtain ⟨hs, ht⟩ := ih hi' hrest
    exact ⟨hs.trans hsource, ht.trans (ed.today_edit engine fingerprint edit)⟩

/-- A rehearsed edit that is repeated has the same transcript every time. -/
theorem transcripts_replicate (hs : ed'.source = ed.source) (ht : ed'.today = ed.today)
    (fingerprint other : String) (edit : Edit) (r : Rehearsal) (n : Nat) :
    (ed'.editAll (List.replicate n (r.conduct, fingerprint, edit))).2.map Report.transcript =
      List.replicate n (ed.edit r.conduct other edit).2.transcript := by
  induction n generalizing ed' with
  | zero => rfl
  | succ n ih =>
    have hi' : ed'.source.isInteractive = false := hs ▸ hi
    have hsource := source_edit_of_not_interactive hi' r.conversational fingerprint edit
    have htoday := ed'.today_edit r.conduct fingerprint edit
    have hnext := ih (hsource.trans hs) (htoday.trans ht)
    simp only [List.replicate_succ, editAll, List.map_cons, hnext,
      transcript_rehearsal hs ht hi other fingerprint edit r]

end Editor

/-! ## Other keys -/

/-- Two editors know the same of a key, and are otherwise equal but for what they
    know of other keys. -/
structure Editor.AgreeOn (fingerprint : String) (ed ed' : Editor) : Prop where
  source : ed'.source = ed.source
  today : ed'.today = ed.today
  record : ed'.keyring.record fingerprint = ed.keyring.record fingerprint

namespace Editor
variable {fingerprint : String} {ed ed' : Editor}

/-- An edit of the key is carried out and reported alike. -/
theorem AgreeOn.edit (h : ed.AgreeOn fingerprint ed') (engine : Session → Course) (edit : Edit) :
    (ed.edit engine fingerprint edit).1.AgreeOn fingerprint (ed'.edit engine fingerprint edit).1 ∧
      (ed'.edit engine fingerprint edit).2 = (ed.edit engine fingerprint edit).2 := by
  have hsession : ed'.session fingerprint edit = ed.session fingerprint edit := by
    rw [session, session, h.source, h.today, h.record]
  unfold Editor.edit
  rw [h.source, hsession]
  cases edit.fault? ed.source with
  | some fault => exact ⟨h, by simp only [rejection, h.record]⟩
  | none => exact ⟨⟨rfl, h.today, by simp [conclude]⟩, by rw [conclude, conclude, h.source]⟩

/-- An edit of another key makes no difference. -/
theorem AgreeOn.edit_other (h : ed.AgreeOn fingerprint ed') {engine : Session → Course}
    {other : String} {edit : Edit} (hne : other ≠ fingerprint)
    (hs : (ed.edit engine other edit).1.source = ed.source) :
    (ed.edit engine other edit).1.AgreeOn fingerprint ed' := by
  refine ⟨h.source.trans hs.symm, h.today.trans (today_edit ..).symm, h.record.trans ?_⟩
  unfold Editor.edit
  cases edit.fault? ed.source with
  | some fault => rfl
  | none => simp only [conclude, Keyring.record_store_of_ne _ hne.symm]

end Editor

/-- Of the reports on some edits, those on the edits of a key. -/
def reportsOn (fingerprint : String) (edits : List ((Session → Course) × String × Edit))
    (reports : List Report) : List Report :=
  ((edits.zip reports).filter fun x => x.1.2.1 == fingerprint).map Prod.snd

/-- The edits of other keys can be left out. -/
theorem Editor.AgreeOn.editAll {fingerprint : String} {ed ed' : Editor}
    (h : ed.AgreeOn fingerprint ed') (hi : ed.source.isInteractive = false)
    (edits : List ((Session → Course) × String × Edit)) (hc : ∀ x ∈ edits, Conversational x.1) :
    let own := edits.filter fun x => x.2.1 == fingerprint
    (ed.editAll edits).1.AgreeOn fingerprint (ed'.editAll own).1 ∧
      reportsOn fingerprint edits (ed.editAll edits).2 = (ed'.editAll own).2 := by
  induction edits generalizing ed ed' with
  | nil => exact ⟨h, rfl⟩
  | cons x rest ih =>
    obtain ⟨engine, key, edit⟩ := x
    obtain ⟨hx, hrest⟩ := List.forall_mem_cons.1 hc
    have hs := Editor.source_edit_of_not_interactive hi hx key edit
    have hi' : (ed.edit engine key edit).1.source.isInteractive = false := by rw [hs, hi]
    by_cases hkey : key = fingerprint
    · subst hkey
      obtain ⟨hnext, hreport⟩ := h.edit engine edit
      obtain ⟨hlast, hreports⟩ := ih hnext hi' hrest
      simp only [List.filter_cons, beq_self_eq_true, if_true, Editor.editAll]
      refine ⟨hlast, ?_⟩
      rw [← hreports, hreport]
      simp [reportsOn]
    · obtain ⟨hlast, hreports⟩ := ih (h.edit_other hkey hs) hi' hrest
      have hne : (key == fingerprint) = false := beq_eq_false_iff_ne.2 hkey
      simp only [List.filter_cons, hne, Bool.false_eq_true, if_false, Editor.editAll]
      refine ⟨hlast, ?_⟩
      rw [← hreports]
      simp [reportsOn, hne]

/-- **Sessions replay, and keys are isolated.**  If no one is asked for secrets, then
    after any history the transcript of an edit is that of the same edit, with the
    same events, of a new key by a new editor; so to repeat an edit, however often,
    is to repeat its transcript.  And the reports on a key, which hold its turns,
    results and records, are the same if the edits of all other keys are left out,
    and so is the record of the key at the end. -/
theorem sessions_replay_and_keys_are_isolated (ed : Editor)
    (hi : ed.source.isInteractive = false)
    (history : List ((Session → Course) × String × Edit)) (hc : ∀ x ∈ history, Conversational x.1) :
    let later := (ed.editAll history).1
    let fresh : Editor := { source := ed.source, today := ed.today }
    (∀ fingerprint other edit events outcome outcome',
      let r := (later.edit (·.course events outcome) fingerprint edit).2
      let r' := (fresh.edit (·.course events outcome') other edit).2
      r.started = r'.started ∧ r.transcript = r'.transcript) ∧
    (∀ fingerprint other edit n (rehearsal : Rehearsal),
      (later.editAll (List.replicate n (rehearsal.conduct, fingerprint, edit))).2.map
          Report.transcript =
        List.replicate n (fresh.edit rehearsal.conduct other edit).2.transcript) ∧
    ∀ fingerprint,
      let own := history.filter fun x => x.2.1 == fingerprint
      reportsOn fingerprint history (ed.editAll history).2 = (ed.editAll own).2 ∧
        later.keyring.record fingerprint = (ed.editAll own).1.keyring.record fingerprint := by
  intro later fresh
  obtain ⟨hs, ht⟩ : later.source = fresh.source ∧ later.today = fresh.today :=
    Editor.source_editAll hi history hc
  have hfresh : fresh.source.isInteractive = false := hi
  refine ⟨fun fingerprint other edit events outcome outcome' => ?_,
    fun fingerprint other edit n rehearsal => ?_, fun fingerprint => ?_⟩
  · exact Editor.transcript_edit hs ht hfresh other fingerprint edit rfl rfl
  · exact Editor.transcripts_replicate hfresh hs ht fingerprint other edit rehearsal n
  · have hagree : ed.AgreeOn fingerprint ed := ⟨rfl, rfl, rfl⟩
    obtain ⟨hlast, hreports⟩ := hagree.editAll hi history hc
    exact ⟨hreports, hlast.record.symm⟩

/-- After the stored passphrase was rejected for two keys, the transcript is that of
    a new key, three times, and the reports on one key do not show the other. -/
theorem sessions_replay_and_keys_are_isolated_rejected :
    let ed : Editor :=
      { source := .stored "guess"
        today := ⟨2026, 10, 19, by decide, by decide, by decide, by decide⟩ }
    let ask : Event := ⟨.getHidden, some "passphrase.enter"⟩
    let menu : Event := ⟨.getLine, some "keyedit.prompt"⟩
    let rejected : Rehearsal :=
      { events := [⟨.userIdHint, some "AB Zoë"⟩, ask, ⟨.badPassphrase, none⟩, menu]
        ending := .error (.backend (some 2)) }
    let trust : Edit := .plain (.setOwnerTrust .full)
    let change : Edit := .changePassphrase { newPassphrase := some "new" }
    let history := [(rejected.conduct, "F", trust), (rejected.conduct, "G", change)]
    let later := (ed.editAll history).1
    ed.source.isInteractive = false ∧ (later.keyring.record "G").previousWasBad = true ∧
      (later.editAll (List.replicate 3 (rejected.conduct, "G", trust))).2.map Report.transcript =
        List.replicate 3 (ed.edit rejected.conduct "H" trust).2.transcript ∧
      (ed.edit rejected.conduct "H" trust).2.transcript.length = 4 ∧
      (reportsOn "G" history (ed.editAll history).2).map Report.result =
        [(ed.edit rejected.conduct "G" change).2.result] := by
  intro ed ask menu rejected trust change history later
  have hc : ∀ x ∈ history, Conversational x.1 := by
    simp [history, Rehearsal.conversational]
  obtain ⟨-, hrepeat, hisolated⟩ := sessions_replay_and_keys_are_isolated ed rfl history hc
  obtain ⟨hreports, -⟩ := hisolated "G"
  refine ⟨rfl, by decide +kernel, hrepeat "G" "H" trust 3 rejected, by decide +kernel, ?_⟩
  rw [hreports]
  rfl

end KeyDialogue
