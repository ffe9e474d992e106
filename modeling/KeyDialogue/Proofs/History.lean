/-
  Key dialogue — what the record of a key is after any history of calls.

  * `Record.ofEvents`: what events tell about the passphrase of a key.  Of each
    sort of advisory only the last one counts (`foldl_observe_ofEvents`);
  * a `Call` is one call of the editor: who is asked for secrets, the edit, the
    events that the engine delivers, and how it ends.  `Keyring.calls` makes
    calls in order; an editor does nothing else (`Editor.editAll_eq_calls`);
  * `record_calls`: after all calls the record of a key is what the events
    delivered to it tell, whatever the edits, their options, the answers and the
    ways in which sessions ended; and a refusal is recorded exactly if it
    belongs to the session started last;
  * `record_told_by_events`: the same with the requests, each of which shows
    what the events before it tell.
-/
import KeyDialogue.Proofs.Consultation
import Mathlib.Data.List.Induction

namespace KeyDialogue

/-! ## What events tell -/

/-- The argument of the last event whose status is of some sort; none if it had
    none, or if there was no such event. -/
def lastArgs (isSort : Status → Bool) (events : List Event) : Option String :=
  (events.filter fun e => isSort e.status).getLast?.bind Event.args

/-- The status of the last event whose status is of some sort. -/
def lastStatus? (isSort : Status → Bool) (events : List Event) : Option Status :=
  (events.filter fun e => isSort e.status).getLast?.map Event.status

theorem lastArgs_append_singleton (isSort : Status → Bool) (events : List Event) (e : Event) :
    lastArgs isSort (events ++ [e]) =
      if isSort e.status then e.args else lastArgs isSort events := by
  cases h : isSort e.status <;> simp [lastArgs, List.filter_append, h]

theorem lastStatus?_append_singleton (isSort : Status → Bool) (events : List Event) (e : Event) :
    lastStatus? isSort (events ++ [e]) =
      if isSort e.status then some e.status else lastStatus? isSort events := by
  cases h : isSort e.status <;> simp [lastStatus?, List.filter_append, h]

namespace Status

/-- Announces the user id. -/
def isHint (s : Status) : Bool := s == userIdHint

/-- Announces the key. -/
def isNeed (s : Status) : Bool := s == needPassphrase || s == needPassphraseSym

/-- Reports whether a passphrase was accepted. -/
def isVerdict (s : Status) : Bool := s == goodPassphrase || s == badPassphrase

end Status

namespace Record

/-- What events tell about the passphrase of a key. -/
def ofEvents (events : List Event) : Record where
  userIdHint := lastArgs Status.isHint events
  announcement := lastArgs Status.isNeed events
  previousWasBad := lastStatus? Status.isVerdict events == some .badPassphrase

@[simp] theorem ofEvents_nil : ofEvents [] = {} := rfl

theorem ofEvents_append_singleton (events : List Event) (e : Event) :
    ofEvents (events ++ [e]) = (ofEvents events).observe e := by
  unfold ofEvents observe
  simp only [lastArgs_append_singleton, lastStatus?_append_singleton]
  cases h : e.status <;> simp [Status.isHint, Status.isNeed, Status.isVerdict]

/-- Taking in more events is being told of all of them. -/
theorem foldl_observe_ofEvents (told events : List Event) :
    events.foldl observe (ofEvents told) = ofEvents (told ++ events) := by
  induction events generalizing told with
  | nil => simp
  | cons e rest ih => rw [List.foldl_cons, ← ofEvents_append_singleton, ih, List.append_assoc]; rfl

end Record

/-! ## Calls -/

/-- One call of the editor. -/
structure Call where
  /-- Where its secrets come from. -/
  source : Source
  today : Date
  fingerprint : String
  edit : Edit
  /-- The events that the engine delivers if a session is started. -/
  events : List Event
  /-- How the engine ends. -/
  outcome : Except Failure Unit

/-- The call starts a session on a key. -/
def Call.startsOn (c : Call) (fingerprint : String) : Bool :=
  c.fingerprint == fingerprint && (c.edit.fault? c.source).isNone

/-- The events delivered to a key in the course of calls. -/
def delivered (fingerprint : String) (calls : List Call) : List Event :=
  (calls.filter (·.startsOn fingerprint)).flatMap Call.events

namespace Keyring

/-- The editor that makes a call. -/
def editor (k : Keyring) (c : Call) : Editor := ⟨c.source, c.today, k⟩

/-- The session that a call starts. -/
def session (k : Keyring) (c : Call) : Session := (k.editor c).session c.fingerprint c.edit

/-- Makes a call. -/
def call (k : Keyring) (c : Call) : Keyring × Report :=
  let (ed, report) := (k.editor c).edit (fun s => s.course c.events c.outcome) c.fingerprint c.edit
  (ed.keyring, report)

/-- Makes calls in order. -/
def calls (k : Keyring) : List Call → Keyring × List Report
  | [] => (k, [])
  | c :: rest =>
    let (last, reports) := (k.call c).1.calls rest
    (last, (k.call c).2 :: reports)

theorem calls_append (k : Keyring) (before after : List Call) :
    k.calls (before ++ after) =
      (((k.calls before).1.calls after).1, (k.calls before).2 ++ ((k.calls before).1.calls after).2) := by
  induction before generalizing k with
  | nil => rfl
  | cons c before ih => simp [calls, ih]

variable (k : Keyring) (c : Call) {f : String}

/-- A call that starts a session leaves the record of the session. -/
theorem record_call_of_startsOn (h : c.startsOn f = true) :
    (k.call c).1.record f = ((k.session c).after c.events).custody.record := by
  obtain ⟨rfl, hfault⟩ : c.fingerprint = f ∧ c.edit.fault? c.source = none := by
    simpa [Call.startsOn] using h
  simp [call, editor, session, Editor.edit, hfault, Editor.conclude, Session.course]

/-- Every other call leaves the record of a key alone. -/
theorem record_call_of_not_startsOn (h : c.startsOn f = false) :
    (k.call c).1.record f = k.record f := by
  cases hfault : c.edit.fault? c.source with
  | some fault => simp [call, editor, Editor.edit, hfault]
  | none =>
    have hf : f ≠ c.fingerprint := by rintro rfl; simp [Call.startsOn, hfault] at h
    simp [call, editor, Editor.edit, hfault, Editor.conclude, record_store_of_ne _ hf]

/-- The record after a call that starts a session: it has taken in the events,
    and a refusal if there was one. -/
theorem record_call_eq (h : c.startsOn f = true) :
    (k.call c).1.record f =
      (c.events.foldl Record.observe (k.record f)).withDeclined
        (c.source.declinesAny ((k.session c).requests c.events)) := by
  have hf : c.fingerprint = f := by
    simp only [Call.startsOn, Bool.and_eq_true, beq_iff_eq] at h; exact h.1
  rw [record_call_of_startsOn k c h, Session.custody_after]
  subst hf
  simp [session, editor, Editor.session, Record.begin_eq, Record.foldl_observe_withDeclined]

/-- The requests that a call reports are those of its session, each with the
    place of the event that led to it. -/
theorem consulted_of_mem_requests {i : Nat} {r : Request} (h : (i, r) ∈ (k.call c).2.requests) :
    ∃ e, (((k.session c).after (c.events.take i)).respond e).2.consulted = some r := by
  cases hfault : c.edit.fault? c.source with
  | some fault => simp [call, editor, Editor.edit, hfault, Editor.rejection] at h
  | none =>
    have hr : (k.call c).2.requests =
        Editor.requestsOf c.source ((k.session c).turns c.events) := by
      simp [call, editor, session, Editor.edit, hfault, Editor.conclude, Session.course]
    rw [hr, Editor.requestsOf] at h
    split at h
    · simp only [List.mem_filterMap, Prod.exists, Option.map_eq_some_iff, Prod.mk.injEq,
        List.mk_mem_zipIdx_iff_getElem?] at h
      obtain ⟨t, i, ht, r, hc, rfl, rfl⟩ := h
      rw [Session.getElem?_turns, Option.map_eq_some_iff] at ht
      obtain ⟨e, -, rfl⟩ := ht
      exact ⟨e, hc⟩
    · simp at h

end Keyring

/-! ## Histories -/

/-- Of some calls, the one that started the last session on a key, and the calls
    before it. -/
def LastOn (fingerprint : String) (calls before : List Call) (c : Call) : Prop :=
  ∃ after, calls = before ++ c :: after ∧ c.startsOn fingerprint = true ∧
    ∀ d ∈ after, d.startsOn fingerprint = false

theorem lastOn_append_of_startsOn {f : String} {calls before : List Call} {c d : Call}
    (h : d.startsOn f = true) : LastOn f (calls ++ [d]) before c ↔ before = calls ∧ c = d := by
  constructor
  · rintro ⟨after, heq, -, hafter⟩
    rcases List.eq_nil_or_concat after with rfl | ⟨after', d', rfl⟩
    · obtain ⟨rfl, hd⟩ := List.append_inj' heq rfl
      simp only [List.cons.injEq, and_true] at hd
      exact ⟨rfl, hd.symm⟩
    · have heq' : calls ++ [d] = (before ++ c :: after') ++ [d'] := by simpa using heq
      obtain ⟨-, hd⟩ := List.append_inj' heq' rfl
      simp only [List.cons.injEq, and_true] at hd
      rw [hafter d (by simp [hd])] at h; cases h
  · rintro ⟨rfl, rfl⟩
    exact ⟨[], rfl, h, by simp⟩

theorem lastOn_append_of_not_startsOn {f : String} {calls before : List Call} {c d : Call}
    (h : d.startsOn f = false) : LastOn f (calls ++ [d]) before c ↔ LastOn f calls before c := by
  constructor
  · rintro ⟨after, heq, hc, hafter⟩
    rcases List.eq_nil_or_concat after with rfl | ⟨after', d', rfl⟩
    · obtain ⟨-, hd⟩ := List.append_inj' heq rfl
      simp only [List.cons.injEq, and_true] at hd
      rw [hd, hc] at h; cases h
    · have heq' : calls ++ [d] = (before ++ c :: after') ++ [d'] := by simpa using heq
      obtain ⟨rfl, -⟩ := List.append_inj' heq' rfl
      exact ⟨after', rfl, hc, fun d hd => hafter d (by simp [hd])⟩
  · rintro ⟨after, rfl, hc, hafter⟩
    refine ⟨after ++ [d], by simp, hc, fun d' hd' => ?_⟩
    rcases List.mem_append.1 hd' with hd' | hd'
    · exact hafter d' hd'
    · rw [List.mem_singleton.1 hd']; exact h

theorem delivered_append (f : String) (before after : List Call) :
    delivered f (before ++ after) = delivered f before ++ delivered f after := by
  simp [delivered]

theorem delivered_singleton (f : String) (c : Call) :
    delivered f [c] = if c.startsOn f then c.events else [] := by
  cases h : c.startsOn f <;> simp [delivered, h]

/-- After calls from scratch, a key's record is what the events delivered to it
    tell, but for refusals. -/
theorem record_calls (calls : List Call) (f : String) :
    ((({} : Keyring).calls calls).1.record f).withDeclined false =
      Record.ofEvents (delivered f calls) := by
  induction calls using List.reverseRecOn with
  | nil => rfl
  | append_singleton before c ih =>
    rw [Keyring.calls_append, delivered_append, delivered_singleton]
    simp only [Keyring.calls]
    cases h : c.startsOn f with
    | true =>
      rw [Keyring.record_call_eq _ c h, if_pos rfl, ← Record.foldl_observe_ofEvents, ← ih,
        Record.foldl_observe_withDeclined, Record.withDeclined_withDeclined]
    | false => rw [Keyring.record_call_of_not_startsOn _ c h, ih]; simp

/-- A refusal is recorded exactly if it belongs to the session started last. -/
theorem declined_calls (calls : List Call) (f : String) :
    ((({} : Keyring).calls calls).1.record f).declined = true ↔
      ∃ before c, LastOn f calls before c ∧
        c.source.declinesAny (((({} : Keyring).calls before).1.session c).requests c.events) = true := by
  induction calls using List.reverseRecOn with
  | nil =>
    constructor
    · intro h; cases h
    · rintro ⟨before, c, ⟨after, heq, -⟩, -⟩; simp at heq
  | append_singleton before c ih =>
    rw [Keyring.calls_append]
    simp only [Keyring.calls]
    cases h : c.startsOn f with
    | true => simp [Keyring.record_call_eq _ c h, lastOn_append_of_startsOn h]
    | false => rw [Keyring.record_call_of_not_startsOn _ c h, ih]; simp [lastOn_append_of_not_startsOn h]

/-- A request shows what the events before it tell. -/
theorem request_call (before : List Call) (c : Call) {f : String} (h : c.startsOn f = true)
    {i : Nat} {r : Request}
    (hr : (i, r) ∈ ((({} : Keyring).calls before).1.call c).2.requests) :
    ∃ purpose, r = (Record.ofEvents (delivered f before ++ c.events.take i)).request purpose := by
  obtain ⟨e, he⟩ := Keyring.consulted_of_mem_requests _ c hr
  obtain ⟨-, -, purpose, -, rfl⟩ := (Session.consulted_eq_some_iff _).1 he
  refine ⟨purpose, ?_⟩
  have hf : c.fingerprint = f := by
    simp only [Call.startsOn, Bool.and_eq_true, beq_iff_eq] at h; exact h.1
  have hrecord : ((({} : Keyring).calls before).1.session c).custody.record =
      Record.ofEvents (delivered f before) := by
    rw [← record_calls before f, ← hf]; rfl
  rw [Session.custody_after, hrecord, Record.foldl_observe_ofEvents, Record.request_withDeclined]

/-- **The record of a key is told by the events delivered to it.**  After any
    calls, on this key and on others, the user id hint, the announcement and the
    verdict are those of the last advisories of their sorts that were delivered
    to the key in any of its sessions; a refusal is recorded exactly if the source
    declined in the session started last; and every request made in a session
    shows what was delivered before it. -/
theorem record_told_by_events (calls : List Call) (f : String) :
    let r := (({} : Keyring).calls calls).1.record f
    (r.userIdHint = lastArgs Status.isHint (delivered f calls) ∧
      r.announcement = lastArgs Status.isNeed (delivered f calls) ∧
      (r.previousWasBad = true ↔
        lastStatus? Status.isVerdict (delivered f calls) = some .badPassphrase)) ∧
    (r.declined = true ↔ ∃ before c, LastOn f calls before c ∧
      c.source.declinesAny (((({} : Keyring).calls before).1.session c).requests c.events) = true) ∧
    ∀ before c after, calls = before ++ c :: after → c.startsOn f = true →
      ∀ i request, (i, request) ∈ ((({} : Keyring).calls before).1.call c).2.requests →
        let told := delivered f before ++ c.events.take i
        request.userId = (lastArgs Status.isHint told).map userIdOfHint ∧
          request.key = (lastArgs Status.isNeed told).bind KeyAnnouncement.ofText? ∧
          (request.previousWasBad = true ↔
            lastStatus? Status.isVerdict told = some .badPassphrase) := by
  refine ⟨?_, declined_calls calls f, ?_⟩
  · have h := record_calls calls f
    have hbad : ((({} : Keyring).calls calls).1.record f).previousWasBad =
        (lastStatus? Status.isVerdict (delivered f calls) == some .badPassphrase) :=
      congrArg Record.previousWasBad h
    exact ⟨congrArg Record.userIdHint h, congrArg Record.announcement h, by rw [hbad, beq_iff_eq]⟩
  · rintro before c after - hc i request hr
    obtain ⟨purpose, rfl⟩ := request_call before c hc hr
    exact ⟨rfl, rfl, beq_iff_eq⟩

/-! ## The calls of an editor -/

/-- The engine does nothing to a session but to deliver events to it. -/
def Conversational (engine : Session → Course) : Prop :=
  ∀ s, ∃ events outcome, engine s = s.course events outcome

theorem Rehearsal.conversational (r : Rehearsal) : Conversational r.conduct :=
  fun s => ⟨r.heard s, _, r.conduct_eq s⟩

theorem Backend.conversational (b : Backend) (child : Option Child) (fingerprint : String) :
    Conversational fun s => (b.conduct child fingerprint s).course := fun s => by
  obtain ⟨heard, outcome, -, h⟩ := b.conduct_eq_course child fingerprint s
  exact ⟨heard, outcome, h⟩

/-- An edit leaves the source where its requests took it. -/
theorem Editor.source_edit (ed : Editor) {engine : Session → Course} (h : Conversational engine)
    (fingerprint : String) (edit : Edit) :
    (ed.edit engine fingerprint edit).1.source =
      ed.source.after (ed.edit engine fingerprint edit).2.consulted := by
  unfold Editor.edit
  cases edit.fault? ed.source with
  | some fault => rfl
  | none =>
    obtain ⟨events, outcome, hcourse⟩ := h (ed.session fingerprint edit)
    rw [hcourse]
    exact congrArg Custody.source (Session.custody_after _ _)

theorem Editor.today_edit (ed : Editor) (engine : Session → Course) (fingerprint : String)
    (edit : Edit) : (ed.edit engine fingerprint edit).1.today = ed.today := by
  unfold Editor.edit
  cases edit.fault? ed.source <;> rfl

/-- An edit with a conversational engine is a call. -/
theorem Editor.edit_eq_call (ed : Editor) {engine : Session → Course} (h : Conversational engine)
    (fingerprint : String) (edit : Edit) :
    ∃ c : Call, c.fingerprint = fingerprint ∧ c.edit = edit ∧
      ((ed.edit engine fingerprint edit).1.keyring, (ed.edit engine fingerprint edit).2) =
        ed.keyring.call c := by
  obtain ⟨events, outcome, hs⟩ := h (ed.session fingerprint edit)
  refine ⟨⟨ed.source, ed.today, fingerprint, edit, events, outcome⟩, rfl, rfl, ?_⟩
  cases hf : edit.fault? ed.source with
  | some fault => simp [Editor.edit, Keyring.call, Keyring.editor, hf]
  | none => simp [Editor.edit, Keyring.call, Keyring.editor, hf, hs]

/-- Edits of one editor are calls in a row. -/
theorem Editor.editAll_eq_calls (ed : Editor) (edits : List ((Session → Course) × String × Edit))
    (h : ∀ x ∈ edits, Conversational x.1) :
    ∃ calls : List Call, calls.map (fun c => (c.fingerprint, c.edit)) = edits.map Prod.snd ∧
      ((ed.editAll edits).1.keyring, (ed.editAll edits).2) = ed.keyring.calls calls := by
  induction edits generalizing ed with
  | nil => exact ⟨[], rfl, rfl⟩
  | cons x rest ih =>
    obtain ⟨engine, fingerprint, edit⟩ := x
    obtain ⟨c, hc, he, hcall⟩ := ed.edit_eq_call (h _ (List.mem_cons_self ..)) fingerprint edit
    obtain ⟨calls, hmap, hcalls⟩ := ih (ed.edit engine fingerprint edit).1
      fun x hx => h x (List.mem_cons_of_mem _ hx)
    refine ⟨c :: calls, by simp [hc, he, hmap], ?_⟩
    simp only [Editor.editAll, Keyring.calls, ← hcall, ← hcalls]

end KeyDialogue
