/-
  Key dialogue — what a single turn does to the two sides of a session.

  * In a plain edit, an event goes either to the edit or, if it concerns a
    passphrase, to the passphrase side (`respond_plain_of_concerns`,
    `respond_plain_of_not_concerns`);
  * a question for the passphrase is dealt with as `Session.pass` says, in the
    same way for all edits but for three things: where the passphrase comes from
    (`Progress.slot`), what is answered after a refusal (`Progress.refusal`), and
    what it means to the edit (`Progress.pass`) (`respond_of_asksPassphrase`,
    `progress_respond_of_asksPassphrase`);
  * every other event is replied to by the edit alone (`Progress.respond`), and the
    record takes it in (`respond_of_not_asksPassphrase`).  It is replied to in
    the open: no secret is asked for or given (`respond_open`);
  * what is no question gets no answer (`respond_silent`).
-/
import KeyDialogue.Proofs.Edits
import KeyDialogue.Proofs.Run

namespace KeyDialogue

/-! ## Events that concern a passphrase -/

/-- The event is an advisory about a passphrase, or asks for one. -/
def Event.concernsPassphrase (e : Event) : Bool := e.status.isAdvisory || e.asksPassphrase

namespace Event
variable {e : Event}

theorem asks_of_asksPassphrase (h : e.asksPassphrase = true) : e.status.asks = true := by
  rw [asksPassphrase_iff] at h; subst h; rfl

theorem isAdvisory_of_asks (h : e.status.asks = true) : e.status.isAdvisory = false := by
  cases ha : e.status.isAdvisory
  · rfl
  · rw [Status.asks_of_isAdvisory ha] at h; cases h

theorem isAdvisory_of_asksPassphrase (h : e.asksPassphrase = true) : e.status.isAdvisory = false :=
  isAdvisory_of_asks (asks_of_asksPassphrase h)

theorem status_ne_of_question? {q : Question} (h : e.question? = some q) {status : Status}
    (hs : status.asks = false) : e.status ≠ status := fun he => by
  have hasks := asks_of_question? h
  rw [he, hs] at hasks; cases hasks

/-- A question other than that for the passphrase is none of its business. -/
theorem concernsPassphrase_of_question? {q : Question} (h : e.question? = some q)
    (hq : q ≠ .passphrase) : e.concernsPassphrase = false := by
  have ha := isAdvisory_of_asks (asks_of_question? h)
  simp [concernsPassphrase, ha, asksPassphrase, h, hq]

theorem question?_of_isAdvisory (h : e.status.isAdvisory = true) : e.question? = none :=
  question?_of_not_asks (Status.asks_of_isAdvisory h)

theorem question?_of_asksPassphrase (h : e.asksPassphrase = true) :
    e.question? = some .passphrase := by
  simp only [asksPassphrase, Bool.and_eq_true, beq_iff_eq] at h; exact h.2

/-- An event that concerns a passphrase asks no other question. -/
theorem question?_ne_of_concernsPassphrase (h : e.concernsPassphrase = true) {q : Question}
    (hq : q ≠ .passphrase) : e.question? ≠ some q := fun hsome => by
  rw [concernsPassphrase_of_question? hsome hq] at h; cases h

end Event

/-! ## Replies in the open -/

/-- A reply for which no secret was asked, and which gives none: a line,
    nothing, or a failure. -/
structure Reply.Open (r : Reply) : Prop where
  consulted : r.consulted = none
  outcome : ∀ a, r.outcome = .ok a → a = .nothing ∨ ∃ text, a = .line text

namespace Reply

theorem open_nothing : nothing.Open := ⟨rfl, fun _ h => by cases h; exact Or.inl rfl⟩

theorem open_failed (f : Failure) : (failed f).Open := ⟨rfl, fun _ h => by cases h⟩

variable {r : Reply} (h : r.Open)
include h

theorem Open.ne_secret (text : String) : r.outcome ≠ .ok (.secret text) := fun hr => by
  rcases h.outcome _ hr with h | ⟨_, h⟩ <;> cases h

theorem Open.ne_abort : r.outcome ≠ .ok .abort := fun hr => by
  rcases h.outcome _ hr with h | ⟨_, h⟩ <;> cases h

end Reply

theorem EditKind.Replies.isOpen {σ : Type} {kind : EditKind} {e : Event} {s : σ} {r : σ × Reply}
    (h : kind.Replies e s r) : r.2.Open := by
  cases h with
  | answered _ _ ho hc =>
    exact ⟨hc, fun a ha => Or.inr ⟨_, Except.ok.inj (ha.symm.trans ho)⟩⟩
  | failed _ _ hr => rw [hr]; exact Reply.open_failed _
  | passedOver _ _ hr => rw [hr]; exact Reply.open_nothing

theorem PlainProgress.respond_open (p : PlainProgress) (e : Event) : (p.respond e).2.Open :=
  (p.replies e).isOpen

/-- A change of passphrase takes an advisory in silence, or gives up on it. -/
theorem PassphraseChange.advise_open (p : PassphraseChange) (e : Event) : (p.advise e).2.Open := by
  unfold advise; split
  · exact Reply.open_nothing
  · simp only; split
    · exact ⟨rfl, (Reply.open_failed _).outcome⟩
    · exact Reply.open_nothing
  · exact ⟨rfl, Reply.open_nothing.outcome⟩

/-! ## Turns of a plain edit -/

/-- The passphrase side alone: it replies to the events that concern a
    passphrase. -/
def Custody.respond (c : Custody) (e : Event) : Custody × Reply :=
  (c.respond? e).getD (c, .nothing)

theorem Custody.respond?_eq (c : Custody) (e : Event) :
    c.respond? e = if e.concernsPassphrase then some (c.respond e) else none := by
  cases ha : e.status.isAdvisory <;> cases hp : e.asksPassphrase <;>
    simp [respond, respond?, Event.concernsPassphrase, ha, hp]

namespace Session
variable (p : PlainProgress) (c : Custody) {e : Event}

theorem respond_plain_of_concerns (h : e.concernsPassphrase = true) :
    (⟨.plain p, c⟩ : Session).respond e = (⟨.plain p, (c.respond e).1⟩, (c.respond e).2) := by
  simp [respond, c.respond?_eq e, h]

theorem respond_plain_of_not_concerns (h : e.concernsPassphrase = false) :
    (⟨.plain p, c⟩ : Session).respond e = (⟨.plain (p.respond e).1, c⟩, (p.respond e).2) := by
  simp [respond, c.respond?_eq e, h]

end Session

/-! ## Refusals -/

namespace Record

/-- The record with or without a refusal. -/
def withDeclined (r : Record) (b : Bool) : Record := { r with declined := b }

variable (r : Record) (b : Bool)

theorem begin_eq : r.begin = r.withDeclined false := rfl

@[simp] theorem declined_withDeclined : (r.withDeclined b).declined = b := rfl

@[simp] theorem withDeclined_withDeclined (b' : Bool) :
    (r.withDeclined b).withDeclined b' = r.withDeclined b' := rfl

@[simp] theorem withDeclined_declined : r.withDeclined r.declined = r := rfl

@[simp] theorem request_withDeclined (purpose : Purpose) :
    (r.withDeclined b).request purpose = r.request purpose := rfl

theorem withDeclined_self {r : Record} {b : Bool} (h : r.declined = b) : r.withDeclined b = r := by
  subst h; rfl

theorem observe_withDeclined (e : Event) :
    (r.withDeclined b).observe e = (r.observe e).withDeclined b := by
  unfold observe withDeclined; split <;> rfl

/-- Taking in events does not look at a refusal. -/
theorem foldl_observe_withDeclined (events : List Event) :
    events.foldl observe (r.withDeclined b) = (events.foldl observe r).withDeclined b := by
  induction events generalizing r with
  | nil => rfl
  | cons e rest ih => rw [List.foldl_cons, observe_withDeclined, ih, List.foldl_cons]

end Record

/-! ## Where a passphrase comes from -/

/-- Where the passphrase that is asked for comes from. -/
inductive Slot where
  /-- The source is to be asked for it. -/
  | source (purpose : Purpose)
  /-- It was given beforehand. -/
  | inHand (secret : String)
  deriving DecidableEq

namespace Progress

/-- Where the next passphrase of an edit comes from. -/
def slot : Progress → Slot
  | plain _ => .source .unlock
  | passphrase p =>
    if p.unlocked then
      match p.options.newPassphrase with
      | some secret => .inHand secret
      | none => .source .new
    else .source .current

/-- What an edit answers to a question for the passphrase once a request was
    declined. -/
def refusal : Progress → Answer
  | plain _ => .secret ""
  | passphrase _ => .abort

/-- An edit under way after a question for the passphrase: once one is given, the
    reports of a missing passphrase are counted anew. -/
def pass (p : Progress) (refused : Bool) : Progress :=
  match p with
  | plain p => plain p
  | passphrase p => passphrase (if refused then p else { p with missing := 0 })

end Progress

namespace Custody
variable (c : Custody) {purpose : Purpose}

theorem supply_of_declined (purpose : Purpose) (hd : c.record.declined = true) :
    c.supply purpose = ⟨c, "", none, []⟩ := by
  simp [supply, hd]

theorem supply_of_obtain (hd : c.record.declined = false) {reply : Option String}
    {source : Source} (ho : c.source.obtain (c.record.request purpose) = (reply, source)) :
    (c.supply purpose).custody = ⟨c.record.withDeclined reply.isNone, source⟩ ∧
      (c.supply purpose).secret = reply.getD "" ∧
      (c.supply purpose).consulted = some (c.record.request purpose) := by
  cases reply with
  | none => simp [supply, hd, ho, Record.withDeclined]
  | some secret => simp [supply, hd, ho, Record.withDeclined_self hd]

end Custody

/-- A change of passphrase takes the passphrase from where its slot says. -/
theorem PassphraseChange.obtain_eq (p : PassphraseChange) (c : Custody) :
    p.obtain c =
      match (Progress.passphrase p).slot with
      | .inHand secret => ⟨c, secret, none, []⟩
      | .source purpose => c.supply purpose := by
  cases hu : p.unlocked <;> cases hn : p.options.newPassphrase <;>
    simp [obtain, Progress.slot, hu, hn]

/-- How a question for the passphrase is dealt with: the passphrase side
    afterwards, the request that the source is consulted for, and the answer. -/
def Session.pass (s : Session) : Custody × Option Request × Answer :=
  if s.custody.record.declined then (s.custody, none, s.progress.refusal)
  else
    match s.progress.slot with
    | .inHand secret => (s.custody, none, .secret secret)
    | .source purpose =>
      let request := s.custody.record.request purpose
      let (reply, source) := s.custody.source.obtain request
      (⟨s.custody.record.withDeclined reply.isNone, source⟩, some request,
        reply.elim s.progress.refusal .secret)

namespace Session
variable (s : Session) {e : Event}

theorem pass_of_declined (hd : s.custody.record.declined = true) :
    s.pass = (s.custody, none, s.progress.refusal) := by
  simp [pass, hd]

theorem pass_of_inHand {secret : String} (hd : s.custody.record.declined = false)
    (hs : s.progress.slot = .inHand secret) : s.pass = (s.custody, none, .secret secret) := by
  simp [pass, hd, hs]

theorem pass_of_source {purpose : Purpose} (hd : s.custody.record.declined = false)
    (hs : s.progress.slot = .source purpose) {reply : Option String} {source : Source}
    (ho : s.custody.source.obtain (s.custody.record.request purpose) = (reply, source)) :
    s.pass = (⟨s.custody.record.withDeclined reply.isNone, source⟩,
      some (s.custody.record.request purpose), reply.elim s.progress.refusal .secret) := by
  simp [pass, hd, hs, ho]

theorem respond_of_asksPassphrase (h : e.asksPassphrase = true) :
    ((s.respond e).1.custody, (s.respond e).2.consulted, (s.respond e).2.outcome) =
      (s.pass.1, s.pass.2.1, .ok s.pass.2.2) := by
  have ha := Event.isAdvisory_of_asksPassphrase h
  obtain ⟨p | p, c⟩ := s
  · simp only [respond, Custody.respond?, ha, h, Bool.false_eq_true, if_true, if_false]
    cases hd : c.record.declined with
    | true => simp [c.supply_of_declined _ hd, pass_of_declined ⟨.plain p, c⟩ hd, Progress.refusal]
    | false =>
      rcases ho : c.source.obtain (c.record.request .unlock) with ⟨reply, source⟩
      obtain ⟨hc, hsecret, hr⟩ := c.supply_of_obtain hd ho
      simp only [hc, hsecret, hr, pass_of_source ⟨.plain p, c⟩ hd rfl ho, Progress.refusal]
      cases reply <;> rfl
  · simp only [respond, PassphraseChange.respond, ha, h, PassphraseChange.enter, p.obtain_eq c,
      Bool.false_eq_true, if_true, if_false]
    cases hd : c.record.declined with
    | true => simp [pass_of_declined ⟨.passphrase p, c⟩ hd, Progress.refusal, Reply.answer]
    | false =>
      cases hs : (Progress.passphrase p).slot with
      | inHand secret => simp [pass_of_inHand ⟨.passphrase p, c⟩ hd hs, hd]
      | source purpose =>
        rcases ho : c.source.obtain (c.record.request purpose) with ⟨reply, source⟩
        obtain ⟨hc, hsecret, hr⟩ := c.supply_of_obtain hd ho
        simp only [hc, hsecret, hr, pass_of_source ⟨.passphrase p, c⟩ hd hs ho, Progress.refusal]
        cases reply <;> rfl

variable (h : e.asksPassphrase = true)
include h

/-- The passphrase side after a question for the passphrase. -/
theorem custody_pass : (s.respond e).1.custody = s.pass.1 :=
  congrArg (·.1) (s.respond_of_asksPassphrase h)

/-- The request that a question for the passphrase leads to. -/
theorem consulted_respond : (s.respond e).2.consulted = s.pass.2.1 :=
  congrArg (·.2.1) (s.respond_of_asksPassphrase h)

/-- The answer to a question for the passphrase. -/
theorem outcome_respond : (s.respond e).2.outcome = .ok s.pass.2.2 :=
  congrArg (·.2.2) (s.respond_of_asksPassphrase h)

/-- The edit after a question for the passphrase depends on nothing else but
    whether it was refused. -/
theorem progress_respond_of_asksPassphrase :
    (s.respond e).1.progress = s.progress.pass s.pass.1.record.declined := by
  have ha := Event.isAdvisory_of_asksPassphrase h
  rw [← s.custody_pass h]
  obtain ⟨p | p, c⟩ := s
  · simp [respond, Custody.respond?, ha, h, Progress.pass]
  · simp only [respond, PassphraseChange.respond, ha, h, Progress.pass, PassphraseChange.enter,
      Bool.false_eq_true, if_false, if_true]
    cases hd : c.record.declined with
    | true => simp [hd]
    | false => cases ho : (p.obtain c).custody.record.declined <;> simp [ho]

end Session

/-! ## Turns that do not ask for the passphrase -/

namespace Progress

/-- The reply of an edit under way to an event that does not ask for the
    passphrase. -/
def respond (p : Progress) (e : Event) : Progress × Reply :=
  match p with
  | plain p =>
    if e.status.isAdvisory then (plain p, { outcome := .ok .nothing, notes := Custody.notesOf e })
    else (p.respond e).map plain id
  | passphrase p =>
    if e.status.isAdvisory then (p.advise e).map passphrase id
    else (p.answer e).map passphrase id

theorem respond_open (p : Progress) (e : Event) : (p.respond e).2.Open := by
  cases p with
  | plain p =>
    unfold respond; simp only; split
    · exact ⟨rfl, Reply.open_nothing.outcome⟩
    · exact p.respond_open e
  | passphrase p =>
    unfold respond; simp only; split
    · exact p.advise_open e
    · exact (p.replies_answer e).isOpen

end Progress

namespace Session
variable (s : Session) {e : Event} (h : e.asksPassphrase = false)
include h

/-- Every event but a question for the passphrase is replied to by the edit
    alone, while the passphrase side takes it in. -/
theorem respond_of_not_asksPassphrase :
    s.respond e =
      (⟨(s.progress.respond e).1, s.custody.observe e⟩, (s.progress.respond e).2) := by
  cases ha : e.status.isAdvisory with
  | true =>
    obtain ⟨p | p, c⟩ := s
    · simp [respond, Custody.respond?, Progress.respond, ha]
    · simp [respond, PassphraseChange.respond, Progress.respond, ha]
  | false =>
    have hobs : s.custody.observe e = s.custody := by
      simp [Custody.observe, Record.observe_of_not_isAdvisory _ ha]
    rw [hobs]
    obtain ⟨p | p, c⟩ := s
    · simp [respond, Custody.respond?, Progress.respond, ha, h]
    · simp [respond, PassphraseChange.respond, Progress.respond, ha, h]

/-- Every event but a question for the passphrase is only taken into the
    record. -/
theorem custody_respond_of_not_asksPassphrase : (s.respond e).1.custody = s.custody.observe e := by
  rw [s.respond_of_not_asksPassphrase h]

/-- Every event but a question for the passphrase is replied to in the open. -/
theorem respond_open : (s.respond e).2.Open := by
  rw [s.respond_of_not_asksPassphrase h]; exact s.progress.respond_open e

end Session

/-- Only at a question for the passphrase is a secret given, or the session
    broken off. -/
theorem Session.asksPassphrase_of_outcome (s : Session) {e : Event} {a : Answer}
    (ho : (s.respond e).2.outcome = .ok a) (ha : (∃ text, a = .secret text) ∨ a = .abort) :
    e.asksPassphrase = true := by
  cases h : e.asksPassphrase with
  | true => rfl
  | false =>
    rcases ha with ⟨text, rfl⟩ | rfl
    · exact absurd ho ((s.respond_open h).ne_secret text)
    · exact absurd ho (s.respond_open h).ne_abort

/-! ## What is no question -/

/-- A reply without an answer: nothing, or a failure. -/
def Reply.Silent (r : Reply) : Prop := ∀ a, r.outcome = .ok a → a = .nothing

theorem Reply.silent_nothing : nothing.Silent := fun _ h => by cases h; rfl

theorem Reply.silent_failed (f : Failure) : (failed f).Silent := fun _ h => by cases h

theorem EditKind.Replies.silent {σ : Type} {kind : EditKind} {e : Event} {s : σ} {r : σ × Reply}
    (h : kind.Replies e s r) (hnone : e.question? = none) : r.2.Silent := by
  cases h with
  | answered hq _ _ _ => rw [hnone] at hq; cases hq
  | failed _ _ hr => rw [hr]; exact Reply.silent_failed _
  | passedOver _ _ hr => rw [hr]; exact Reply.silent_nothing

theorem PassphraseChange.advise_silent (p : PassphraseChange) (e : Event) :
    (p.advise e).2.Silent := by
  unfold advise; split
  · exact Reply.silent_nothing
  · simp only; split
    · exact Reply.silent_failed _
    · exact Reply.silent_nothing
  · exact Reply.silent_nothing

theorem Progress.respond_silent (p : Progress) {e : Event} (h : e.question? = none) :
    (p.respond e).2.Silent := by
  cases p with
  | plain p =>
    unfold respond; simp only; split
    · exact Reply.silent_nothing
    · exact (p.replies e).silent h
  | passphrase p =>
    unfold respond; simp only; split
    · exact p.advise_silent e
    · exact (p.replies_answer e).silent h

/-- An event that asks for nothing gets no answer. -/
theorem Session.respond_silent (s : Session) {e : Event} (h : e.status.asks = false) :
    (s.respond e).2.Silent := by
  have hq := Event.question?_of_not_asks h
  have hp : e.asksPassphrase = false := by simp [Event.asksPassphrase, hq]
  rw [s.respond_of_not_asksPassphrase hp]
  exact s.progress.respond_silent hq

end KeyDialogue
