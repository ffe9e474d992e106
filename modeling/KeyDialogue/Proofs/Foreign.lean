/-
  Key dialogue — events that an edit does not act on.

  The backend may tell of more than an edit knows: status lines of other kinds,
  questions of later versions, questions that belong to other edits.

  * `Event.Foreign` lists the events that an edit of a kind does not act on.  Such an
    event changes nothing, and needs no answer (`Session.respond_of_foreign`), while
    a question of the kind is answered by a line (`Session.line_of_mem`);
  * `Woven`: the turns of a run are those of another one with turns of inserted
    events in between that have no answer.  Runs are woven if the inserted events
    are foreign (`Session.runAll_woven`, `Session.run_woven`);
  * `foreign_events_are_passed_over`: so nothing else can be told from a run, or from
    an edit, into which foreign events were inserted.
-/
import KeyDialogue.Proofs.Consultation

namespace KeyDialogue

/-! ## Events of no concern -/

namespace Event

/-- An event that an edit of a kind does not act on. -/
inductive Foreign (kind : EditKind) (e : Event) : Prop where
  /-- A status of no known kind. -/
  | other (h : e.status = .other)
  /-- The report of a signature, while nothing is signed. -/
  | alreadySigned (h : e.status = .alreadySigned) (hkind : kind ≠ .sign)
  /-- A question without an identifier. -/
  | nameless (h : e.status.asks = true) (hargs : e.args = none)
  /-- A question with an unknown identifier. -/
  | unknown (h : e.status.asks = true) (id : String) (hargs : e.args = some id)
      (hid : Question.ofId? id = none)
  /-- A question that only other edits answer. -/
  | ofOthers (q : Question) (h : e.question? = some q) (hq : q ≠ .passphrase)
      (hkind : q ∉ kind.questions)
  /-- The question for the passphrase, asked for an answer that is not hidden. -/
  | unhidden (h : e.question? = some .passphrase) (hs : e.status ≠ .getHidden)

namespace Foreign
variable {kind : EditKind} {e : Event} (h : e.Foreign kind)
include h

theorem not_isAdvisory : e.status.isAdvisory = false := by
  cases h with
  | other h => rw [h]; rfl
  | alreadySigned h _ => rw [h]; rfl
  | nameless h _ => exact isAdvisory_of_asks h
  | unknown h _ _ _ => exact isAdvisory_of_asks h
  | ofOthers q h _ _ => exact isAdvisory_of_asks (asks_of_question? h)
  | unhidden h _ => exact isAdvisory_of_asks (asks_of_question? h)

/-- A foreign event asks no question that the edit answers. -/
theorem not_mem_questions : ∀ q, e.question? = some q → q ∉ kind.questions := by
  intro q hsome
  cases h with
  | other h => rw [question?_of_not_asks (by rw [h]; rfl)] at hsome; cases hsome
  | alreadySigned h _ => rw [question?_of_not_asks (by rw [h]; rfl)] at hsome; cases hsome
  | nameless h hargs => simp [question?, hargs] at hsome
  | unknown h id hargs hid => simp [question?, hargs, hid] at hsome
  | ofOthers q' h _ hkind =>
    obtain rfl : q' = q := by rw [h] at hsome; exact Option.some.inj hsome
    exact hkind
  | unhidden h _ =>
    obtain rfl : Question.passphrase = q := by rw [h] at hsome; exact Option.some.inj hsome
    exact kind.passphrase_not_mem_questions

theorem not_asksPassphrase : e.asksPassphrase = false := by
  rw [Bool.eq_false_iff]
  intro hask
  have hq := question?_of_asksPassphrase hask
  have hhidden : e.status = .getHidden := by rw [asksPassphrase_iff.1 hask]
  cases h with
  | other h => rw [hhidden] at h; cases h
  | alreadySigned h _ => rw [hhidden] at h; cases h
  | nameless _ hargs => simp [question?, hargs] at hq
  | unknown _ id hargs hid => simp [question?, hargs, hid] at hq
  | ofOthers q h hne _ => rw [hq] at h; exact hne (Option.some.inj h).symm
  | unhidden _ hs => exact hs hhidden

/-- Only a signing minds that something is signed already. -/
theorem ne_alreadySigned (hkind : kind = .sign) : e.status ≠ .alreadySigned := by
  intro hs
  have hasks : e.status.asks = false := by rw [hs]; rfl
  cases h with
  | other h => rw [hs] at h; cases h
  | alreadySigned _ hne => exact hne hkind
  | nameless h _ => rw [hasks] at h; cases h
  | unknown h _ _ _ => rw [hasks] at h; cases h
  | ofOthers q h _ _ => rw [question?_of_not_asks hasks] at h; cases h
  | unhidden h _ => rw [question?_of_not_asks hasks] at h; cases h

end Foreign

end Event

/-! ## What a session makes of them -/

section
variable {σ : Type} {kind : EditKind} {e : Event} {s : σ} {r : σ × Reply}
  (h : kind.Replies e s r)
include h

theorem EditKind.Replies.eq_of_foreign (hf : e.Foreign kind) : r = (s, .nothing) := by
  cases h with
  | answered hq hmem _ _ => exact absurd hmem (hf.not_mem_questions _ hq)
  | failed hkind hs _ => exact absurd hs (hf.ne_alreadySigned hkind)
  | passedOver _ _ hr => exact hr

theorem EditKind.Replies.line_of_mem {q : Question} (hq : e.question? = some q)
    (hmem : q ∈ kind.questions) : ∃ text, r.2.outcome = .ok (.line text) := by
  cases h with
  | answered _ _ ho _ => exact ⟨_, ho⟩
  | failed _ hs _ => exact absurd hs (Event.status_ne_of_question? hq rfl)
  | passedOver hnot _ _ => exact absurd hmem (hnot q hq)

end

namespace Progress
variable (p : Progress) {e : Event}

theorem respond_of_foreign (h : e.Foreign p.kind) : p.respond e = (p, .nothing) := by
  cases p with
  | plain p =>
    simp only [respond, h.not_isAdvisory, Bool.false_eq_true, if_false,
      (p.replies e).eq_of_foreign h]
    rfl
  | passphrase p =>
    simp only [respond, h.not_isAdvisory, Bool.false_eq_true, if_false,
      (p.replies_answer e).eq_of_foreign h]
    rfl

theorem line_of_mem {q : Question} (hq : e.question? = some q) (hmem : q ∈ p.kind.questions) :
    ∃ text, (p.respond e).2.outcome = .ok (.line text) := by
  have ha := Event.isAdvisory_of_asks (Event.asks_of_question? hq)
  cases p with
  | plain p =>
    simp only [respond, ha, Bool.false_eq_true, if_false]
    exact (p.replies e).line_of_mem hq hmem
  | passphrase p =>
    simp only [respond, ha, Bool.false_eq_true, if_false]
    exact (p.replies_answer e).line_of_mem hq hmem

end Progress

namespace Session
variable (s : Session) {e : Event}

/-- A foreign event leaves a session as it was, and needs no answer. -/
theorem respond_of_foreign (h : e.Foreign s.progress.kind) : s.respond e = (s, .nothing) := by
  have hobs : s.custody.observe e = s.custody := by
    rw [Custody.observe, Record.observe_of_not_isAdvisory _ h.not_isAdvisory]
  rw [s.respond_of_not_asksPassphrase h.not_asksPassphrase, s.progress.respond_of_foreign h, hobs]

/-- The questions of its kind are not foreign to an edit: it answers each by a line. -/
theorem line_of_mem {q : Question} (hq : e.question? = some q)
    (hmem : q ∈ s.progress.kind.questions) :
    ∃ text, (s.respond e).2.outcome = .ok (.line text) := by
  have hask : e.asksPassphrase = false := by
    rw [Bool.eq_false_iff]
    intro hask
    obtain rfl : Question.passphrase = q :=
      Option.some.inj ((Event.question?_of_asksPassphrase hask).symm.trans hq)
    exact s.progress.kind.passphrase_not_mem_questions hmem
  rw [s.respond_of_not_asksPassphrase hask]
  exact s.progress.line_of_mem hq hmem

/-- A session is a session of one edit. -/
theorem kind_respond (e : Event) : (s.respond e).1.progress.kind = s.progress.kind := by
  obtain ⟨p | p, c⟩ := s
  · cases h : e.concernsPassphrase with
    | true => rw [respond_plain_of_concerns _ _ h]
    | false => rw [respond_plain_of_not_concerns _ _ h]; exact p.kind_respond e
  · rfl

end Session

/-! ## Inserted events -/

/-- An event of a run, marked if it was inserted. -/
structure Marked where
  event : Event
  inserted : Bool

namespace Marked

/-- All events, the inserted ones with the others. -/
def all (ms : List Marked) : List Event := ms.map event

/-- The events that were not inserted. -/
def own (ms : List Marked) : List Event := (ms.filter fun m => !m.inserted).map event

end Marked

/-- Of two sequences of turns, the first one is the second one with turns of the
    inserted events in between, which need no answer.  Both may stop at a turn that
    fails. -/
inductive Woven : List Marked → List Turn → List Turn → Prop where
  | nil : Woven [] [] []
  | stopped (t : Turn) (ms : List Marked) (h : t.failure?.isSome = true) :
      Woven (⟨t.event, false⟩ :: ms) [t] [t]
  | own (t : Turn) {ms : List Marked} {long short : List Turn} (h : Woven ms long short) :
      Woven (⟨t.event, false⟩ :: ms) (t :: long) (t :: short)
  | inserted (e : Event) {ms : List Marked} {long short : List Turn} (h : Woven ms long short) :
      Woven (⟨e, true⟩ :: ms) (⟨e, .nothing⟩ :: long) short

/-- What cannot be seen of turns without an answer is the same in both. -/
theorem Woven.filterMap_eq {α : Type} {ms : List Marked} {long short : List Turn}
    (h : Woven ms long short) (view : Turn → Option α) (hview : ∀ e, view ⟨e, .nothing⟩ = none) :
    long.filterMap view = short.filterMap view := by
  induction h with
  | nil => rfl
  | stopped t ms _ => rfl
  | own t _ ih => rw [List.filterMap_cons, List.filterMap_cons, ih]
  | inserted e _ ih => rw [List.filterMap_cons, hview, ih]

theorem Woven.outcomeOf_eq {ms : List Marked} {long short : List Turn} (h : Woven ms long short)
    (ending : Except Failure Unit) : outcomeOf long ending = outcomeOf short ending := by
  have hfailures := h.filterMap_eq Turn.failure? fun _ => rfl
  rw [outcomeOf, outcomeOf, ← List.head?_filterMap, ← List.head?_filterMap, hfailures]

namespace Session
variable (s : Session)

theorem runAll_cons_of_foreign {e : Event} (h : e.Foreign s.progress.kind) (rest : List Event) :
    s.runAll (e :: rest) = ((s.runAll rest).1, ⟨e, .nothing⟩ :: (s.runAll rest).2) := by
  rw [runAll, turn, s.respond_of_foreign h]

theorem run_cons_of_foreign {e : Event} (h : e.Foreign s.progress.kind) (rest : List Event) :
    s.run (e :: rest) = ((s.run rest).1, ⟨e, .nothing⟩ :: (s.run rest).2) := by
  rw [run, turn, s.respond_of_foreign h]
  rfl

variable (ms : List Marked) (h : ∀ m ∈ ms, m.inserted = true → m.event.Foreign s.progress.kind)
include h

theorem runAll_woven :
    (s.runAll (Marked.all ms)).1 = (s.runAll (Marked.own ms)).1 ∧
      Woven ms (s.runAll (Marked.all ms)).2 (s.runAll (Marked.own ms)).2 := by
  induction ms generalizing s with
  | nil => exact ⟨rfl, .nil⟩
  | cons m ms ih =>
    obtain ⟨e, inserted⟩ := m
    obtain ⟨hm, hrest⟩ := List.forall_mem_cons.1 h
    cases inserted with
    | true =>
      obtain ⟨hlast, hturns⟩ := ih s hrest
      have hall : s.runAll (Marked.all (⟨e, true⟩ :: ms)) = _ :=
        s.runAll_cons_of_foreign (hm rfl) (Marked.all ms)
      rw [hall]
      exact ⟨hlast, .inserted e hturns⟩
    | false =>
      obtain ⟨hlast, hturns⟩ := ih (s.respond e).1 (by rwa [s.kind_respond])
      exact ⟨hlast, .own (s.turn e) hturns⟩

/-- A foreign event does not fail, so a run stops where it would have stopped
    without it. -/
theorem run_woven :
    (s.run (Marked.all ms)).1 = (s.run (Marked.own ms)).1 ∧
      Woven ms (s.run (Marked.all ms)).2 (s.run (Marked.own ms)).2 := by
  induction ms generalizing s with
  | nil => exact ⟨rfl, .nil⟩
  | cons m ms ih =>
    obtain ⟨e, inserted⟩ := m
    obtain ⟨hm, hrest⟩ := List.forall_mem_cons.1 h
    cases inserted with
    | true =>
      obtain ⟨hlast, hturns⟩ := ih s hrest
      have hall : s.run (Marked.all (⟨e, true⟩ :: ms)) = _ :=
        s.run_cons_of_foreign (hm rfl) (Marked.all ms)
      rw [hall]
      exact ⟨hlast, .inserted e hturns⟩
    | false =>
      have hall : Marked.all (⟨e, false⟩ :: ms) = e :: Marked.all ms := rfl
      have hown : Marked.own (⟨e, false⟩ :: ms) = e :: Marked.own ms := rfl
      rw [hall, hown, run, run]
      split
      · next hfails => exact ⟨rfl, .stopped (s.turn e) ms hfails⟩
      · obtain ⟨hlast, hturns⟩ := ih (s.respond e).1 (by rwa [s.kind_respond])
        exact ⟨hlast, .own (s.turn e) hturns⟩

end Session

/-! ## Rehearsals and edits -/

/-- A rehearsal of events among which there are inserted ones. -/
def Marked.rehearsal (ms : List Marked) (ending : Except Failure Unit) (keepGoing : Bool) :
    Rehearsal :=
  ⟨all ms, ending, keepGoing⟩

/-- The same rehearsal without the inserted events. -/
def Marked.ownRehearsal (ms : List Marked) (ending : Except Failure Unit) (keepGoing : Bool) :
    Rehearsal :=
  ⟨own ms, ending, keepGoing⟩

/-- Of two courses of a session, the first one is the second one with turns of
    inserted events in between. -/
structure Course.Woven (ms : List Marked) (long short : Course) : Prop where
  session : long.session = short.session
  turns : KeyDialogue.Woven ms long.turns short.turns
  outcome : long.outcome = short.outcome

section
variable {ms : List Marked} {ending : Except Failure Unit} {keepGoing : Bool}

theorem Session.conduct_woven (s : Session)
    (h : ∀ m ∈ ms, m.inserted = true → m.event.Foreign s.progress.kind) :
    ((Marked.rehearsal ms ending keepGoing).conduct s).Woven ms
      ((Marked.ownRehearsal ms ending keepGoing).conduct s) := by
  cases keepGoing with
  | true =>
    obtain ⟨hlast, hturns⟩ := s.runAll_woven ms h
    exact ⟨hlast, hturns, hturns.outcomeOf_eq ending⟩
  | false =>
    obtain ⟨hlast, hturns⟩ := s.run_woven ms h
    exact ⟨hlast, hturns, hturns.outcomeOf_eq ending⟩

end

/-- **Foreign events are passed over.**  Among the events of a session, any number of
    events that its edit does not act on may be inserted anywhere.  Each of them is
    taken without an answer, and apart from this nothing changes: neither the other
    turns, with their answers, failures and requests, nor the session and its
    outcome, nor what an edit reports and leaves behind. -/
theorem foreign_events_are_passed_over (kind : EditKind) (ms : List Marked)
    (h : ∀ m ∈ ms, m.inserted = true → m.event.Foreign kind) (ending : Except Failure Unit)
    (keepGoing : Bool) :
    let long := Marked.rehearsal ms ending keepGoing
    let short := Marked.ownRehearsal ms ending keepGoing
    (∀ s : Session, s.progress.kind = kind → (long.conduct s).Woven ms (short.conduct s)) ∧
    ∀ (ed : Editor) (fingerprint : String) (edit : Edit), edit.kind = kind →
      let x := ed.edit long.conduct fingerprint edit
      let y := ed.edit short.conduct fingerprint edit
      x.1 = y.1 ∧ (x.2.started = true → Woven ms x.2.turns y.2.turns) ∧
        x.2.consulted = y.2.consulted ∧ x.2.result = y.2.result ∧ x.2.record = y.2.record := by
  intro long short
  have hwoven : ∀ s : Session, s.progress.kind = kind →
      (long.conduct s).Woven ms (short.conduct s) := by
    rintro s rfl; exact s.conduct_woven h
  refine ⟨hwoven, fun ed fingerprint edit hkind => ?_⟩
  obtain ⟨hsession, hturns, houtcome⟩ :=
    hwoven (ed.session fingerprint edit) (by rw [← hkind]; exact edit.kind_start ed.today)
  have hrequests := hturns.filterMap_eq (fun t => t.reply.consulted) fun _ => rfl
  unfold Editor.edit
  cases edit.fault? ed.source with
  | some fault => exact ⟨rfl, nofun, rfl, rfl, rfl⟩
  | none =>
    simp only [Editor.conclude, hsession, houtcome, true_and, and_true]
    exact ⟨fun _ => hturns, hrequests⟩

/-- A change of passphrase among events of all foreign sorts; the third report of a
    missing passphrase ends it. -/
theorem foreign_events_are_passed_over_change :
    let ask : Event := ⟨.getHidden, some "passphrase.enter"⟩
    let missing : Event := ⟨.missingPassphrase, none⟩
    let ms : List Marked :=
      [⟨⟨.other, some "KEY"⟩, true⟩, ⟨⟨.getLine, some "keyedit.prompt"⟩, false⟩,
        ⟨⟨.getLine, some "passphrase.enter"⟩, true⟩, ⟨ask, false⟩,
        ⟨⟨.alreadySigned, none⟩, true⟩, ⟨missing, false⟩, ⟨⟨.getBool, none⟩, true⟩,
        ⟨missing, false⟩, ⟨⟨.getBool, some "no.such.question"⟩, true⟩,
        ⟨⟨.getLine, some "keygen.algo"⟩, true⟩, ⟨missing, false⟩, ⟨⟨.other, none⟩, true⟩]
    let long := Marked.rehearsal ms (.ok ()) false
    let short := Marked.ownRehearsal ms (.ok ()) false
    let ed : Editor :=
      { source := .stored "old"
        today := ⟨2026, 10, 19, by decide, by decide, by decide, by decide⟩ }
    let edit : Edit := .changePassphrase { newPassphrase := some "new" }
    (∀ m ∈ ms, m.inserted = true → m.event.Foreign .passphrase) ∧
      Woven ms (ed.edit long.conduct "F" edit).2.turns (ed.edit short.conduct "F" edit).2.turns ∧
      (ed.edit long.conduct "F" edit).2.turns.length = 11 ∧
      (ed.edit long.conduct "F" edit).2.result = (ed.edit short.conduct "F" edit).2.result ∧
      (ed.edit short.conduct "F" edit).2.result = .error .missingPassphrase := by
  intro ask missing ms long short ed edit
  have h : ∀ m ∈ ms, m.inserted = true → m.event.Foreign .passphrase := by
    simp only [ms, List.forall_mem_cons]
    refine ⟨fun _ => .other rfl, nofun, fun _ => .unhidden rfl nofun, nofun,
      fun _ => .alreadySigned rfl nofun, nofun, fun _ => .nameless rfl rfl, nofun,
      fun _ => .unknown rfl _ rfl (by decide +kernel),
      fun _ => .ofOthers .keyAlgorithm (by decide +kernel) nofun (by decide), nofun,
      fun _ => .other rfl, List.forall_mem_nil _⟩
  obtain ⟨-, hedit⟩ := foreign_events_are_passed_over .passphrase ms h (.ok ()) false
  obtain ⟨-, hturns, -, hresult, -⟩ := hedit ed "F" edit rfl
  exact ⟨h, hturns rfl, by decide +kernel, hresult, rfl⟩

end KeyDialogue
