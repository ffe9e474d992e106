/-
  Key dialogue — what a session asks of its source of secrets.

  * `Source.replies` and `Source.after`: a source that is asked several times;
    `Source.declinesAny`: it declined some request;
  * `Session.requests`: the requests that a session makes in the course of
    events.  `consulted_eq_some_iff`: when a request is made, and which;
  * `custody_after`: the passphrase side after a run is determined by the events
    and the replies of the source alone.  The source is where the requests took
    it, the record has taken in every event, and a refusal is recorded exactly
    if the source declined.
-/
import KeyDialogue.Proofs.Turn

namespace KeyDialogue

/-! ## A source that is asked several times -/

namespace Source

/-- The replies to requests made one after the other. -/
def replies : Source → List Request → List (Option String)
  | _, [] => []
  | s, r :: rest => (s.obtain r).1 :: (s.obtain r).2.replies rest

/-- The source after requests. -/
def after : Source → List Request → Source
  | s, [] => s
  | s, r :: rest => (s.obtain r).2.after rest

/-- The source declines some of the requests. -/
def declinesAny (s : Source) (requests : List Request) : Bool :=
  (s.replies requests).any Option.isNone

variable (s : Source) (first second : List Request)

@[simp] theorem after_append : s.after (first ++ second) = (s.after first).after second := by
  induction first generalizing s with
  | nil => rfl
  | cons r first ih => simp [after, ih]

@[simp] theorem replies_append :
    s.replies (first ++ second) = s.replies first ++ (s.after first).replies second := by
  induction first generalizing s with
  | nil => rfl
  | cons r first ih => simp [replies, after, ih]

@[simp] theorem declinesAny_nil : s.declinesAny [] = false := rfl

@[simp] theorem declinesAny_append :
    s.declinesAny (first ++ second) = (s.declinesAny first || (s.after first).declinesAny second) := by
  simp [declinesAny]

end Source

namespace Session
variable (s : Session) {e : Event}

/-! ## One turn -/

/-- The source is consulted for a question for the passphrase, unless it
    declined before, or the passphrase is in hand. -/
theorem consulted_eq_some_iff {r : Request} :
    (s.respond e).2.consulted = some r ↔
      e.asksPassphrase = true ∧ s.custody.record.declined = false ∧
        ∃ purpose, s.progress.slot = .source purpose ∧ s.custody.record.request purpose = r := by
  cases h : e.asksPassphrase with
  | false => simp [(s.respond_open h).consulted]
  | true =>
    rw [s.consulted_respond h]
    cases hd : s.custody.record.declined with
    | true => simp [s.pass_of_declined hd]
    | false =>
      cases hs : s.progress.slot with
      | inHand secret => simp [s.pass_of_inHand hd hs]
      | source purpose => simp [s.pass_of_source hd hs rfl]

/-- The passphrase side after one event. -/
theorem custody_respond (e : Event) :
    (s.respond e).1.custody =
      ⟨(s.custody.record.observe e).withDeclined
          (s.custody.record.declined ||
            s.custody.source.declinesAny (s.respond e).2.consulted.toList),
        s.custody.source.after (s.respond e).2.consulted.toList⟩ := by
  cases h : e.asksPassphrase with
  | false =>
    rw [s.custody_respond_of_not_asksPassphrase h, (s.respond_open h).consulted]
    simp [Custody.observe, Source.after, Record.withDeclined_self]
  | true =>
    have hobs := s.custody.record.observe_of_not_isAdvisory (Event.isAdvisory_of_asksPassphrase h)
    rw [s.custody_pass h, s.consulted_respond h, hobs]
    cases hd : s.custody.record.declined with
    | true => simp [s.pass_of_declined hd, Source.after, Record.withDeclined_self hd]
    | false =>
      cases hs : s.progress.slot with
      | inHand secret => simp [s.pass_of_inHand hd hs, Source.after, Record.withDeclined_self hd]
      | source purpose =>
        rcases ho : s.custody.source.obtain (s.custody.record.request purpose) with ⟨reply, source⟩
        simp [s.pass_of_source hd hs ho, Source.after, Source.declinesAny, Source.replies, ho]

/-- The source after a turn has been asked what the turn asked it. -/
theorem source_respond (e : Event) :
    (s.respond e).1.custody.source = s.custody.source.after (s.respond e).2.consulted.toList :=
  congrArg Custody.source (s.custody_respond e)

/-! ## A run -/

/-- The requests made in the course of events. -/
def requests (events : List Event) : List Request :=
  (s.turns events).filterMap fun t => t.reply.consulted

@[simp] theorem requests_nil : s.requests [] = [] := rfl

@[simp] theorem requests_cons (rest : List Event) :
    s.requests (e :: rest) = (s.respond e).2.consulted.toList ++ (s.respond e).1.requests rest := by
  cases h : (s.respond e).2.consulted <;> simp [requests, turn, h]

@[simp] theorem requests_append (pre post : List Event) :
    s.requests (pre ++ post) = s.requests pre ++ (s.after pre).requests post := by
  simp [requests]

/-- The passphrase side after a run. -/
theorem custody_after (events : List Event) :
    (s.after events).custody =
      ⟨(events.foldl Record.observe s.custody.record).withDeclined
          (s.custody.record.declined || s.custody.source.declinesAny (s.requests events)),
        s.custody.source.after (s.requests events)⟩ := by
  induction events generalizing s with
  | nil => simp [Source.after]
  | cons e rest ih =>
    rw [after_cons, ih, custody_respond]
    simp [Record.foldl_observe_withDeclined, Bool.or_assoc]

end Session

/-- The requests for which the source of secrets was consulted. -/
def Report.consulted (r : Report) : List Request := r.turns.filterMap fun t => t.reply.consulted

end KeyDialogue
