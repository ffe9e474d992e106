/-
  Key dialogue — runs of a session.

  * `drive` lets any machine that replies to single events reply to a sequence;
  * `Session.after` and `Session.turns` are the state and the turns after a
    sequence of events, all of which are replied to (`Session.runAll`).  A turn
    of a run is a turn of the state that its place was reached with
    (`getElem?_turns`, `mem_turns`);
  * `Session.run_eq`: a run that stops at the first failure is the whole run
    over the events up to there (`Session.heard`);
  * `Session.course`: all that an engine can do is to deliver events and to
    end.  `Rehearsal.conduct_eq`, `Backend.conduct_eq_course`: the
    engines of this library do just that.
-/
import KeyDialogue.Backend.Exchange

namespace KeyDialogue

/-- A session of an edit that has not begun. -/
def Edit.session (edit : Edit) (today : Date) (c : Custody) : Session := ⟨edit.start today, c⟩

/-- Lets a machine reply to events in order. -/
def drive {σ : Type} (respond : σ → Event → σ × Reply) (s : σ) : List Event → σ × List Turn
  | [] => (s, [])
  | e :: rest =>
    let (last, turns) := drive respond (respond s e).1 rest
    (last, ⟨e, (respond s e).2⟩ :: turns)

namespace Session

/-- The session after events. -/
def after (s : Session) (events : List Event) : Session := (s.runAll events).1

/-- The turns of events. -/
def turns (s : Session) (events : List Event) : List Turn := (s.runAll events).2

@[simp] theorem after_nil (s : Session) : s.after [] = s := rfl

@[simp] theorem turns_nil (s : Session) : s.turns [] = [] := rfl

@[simp] theorem after_cons (s : Session) (e : Event) (rest : List Event) :
    s.after (e :: rest) = (s.respond e).1.after rest := rfl

@[simp] theorem turns_cons (s : Session) (e : Event) (rest : List Event) :
    s.turns (e :: rest) = s.turn e :: (s.respond e).1.turns rest := rfl

@[simp] theorem after_append (s : Session) (pre post : List Event) :
    s.after (pre ++ post) = (s.after pre).after post := by
  induction pre generalizing s with
  | nil => rfl
  | cons e pre ih => simp [ih]

@[simp] theorem turns_append (s : Session) (pre post : List Event) :
    s.turns (pre ++ post) = s.turns pre ++ (s.after pre).turns post := by
  induction pre generalizing s with
  | nil => rfl
  | cons e pre ih => simp [ih]

@[simp] theorem length_turns (s : Session) (events : List Event) :
    (s.turns events).length = events.length := by
  induction events generalizing s with
  | nil => rfl
  | cons e rest ih => simp [ih]

/-- The turns are turns of the events, in their order. -/
@[simp] theorem map_event_turns (s : Session) (events : List Event) :
    (s.turns events).map Turn.event = events := by
  induction events generalizing s with
  | nil => rfl
  | cons e rest ih => simp [ih, turn]

/-- The turn at a place is that of the session after the events before it. -/
theorem getElem?_turns (s : Session) (events : List Event) (i : Nat) :
    (s.turns events)[i]? = events[i]?.map fun e => (s.after (events.take i)).turn e := by
  induction events generalizing s i with
  | nil => simp
  | cons e rest ih => cases i <;> simp [ih]

theorem mem_turns {s : Session} {events : List Event} {t : Turn} (h : t ∈ s.turns events) :
    ∃ pre e post, events = pre ++ e :: post ∧ t = (s.after pre).turn e := by
  induction events generalizing s with
  | nil => simp at h
  | cons e rest ih =>
    rcases List.mem_cons.1 h with rfl | h
    · exact ⟨[], e, rest, rfl, rfl⟩
    · obtain ⟨pre, e', post, rfl, rfl⟩ := ih h
      exact ⟨e :: pre, e', post, rfl, rfl⟩

/-! ## Runs that stop at a failure -/

/-- The events that a session hears if it stops at its first failure. -/
def heard (s : Session) : List Event → List Event
  | [] => []
  | e :: rest =>
    if (s.turn e).failure?.isSome then [e] else e :: (s.respond e).1.heard rest

@[simp] theorem heard_nil (s : Session) : s.heard [] = [] := rfl

theorem heard_cons_of_failure (s : Session) {e : Event} {f : Failure}
    (h : (s.turn e).failure? = some f) (rest : List Event) : s.heard (e :: rest) = [e] := by
  simp [heard, h]

theorem heard_cons_of_no_failure (s : Session) {e : Event} (h : (s.turn e).failure? = none)
    (rest : List Event) : s.heard (e :: rest) = e :: (s.respond e).1.heard rest := by
  simp [heard, h]

/-- A run that stops at the first failure has replied to all events up to
    there. -/
theorem run_eq (s : Session) (events : List Event) :
    s.run events = (s.after (s.heard events), s.turns (s.heard events)) := by
  induction events generalizing s with
  | nil => rfl
  | cons e rest ih =>
    cases h : (s.turn e).failure? with
    | some f => simp [run, s.heard_cons_of_failure h, h]
    | none => simp [run, s.heard_cons_of_no_failure h, h, ih]

/-! ## Engines -/

/-- The course of a session in which an engine delivers events, and then ends
    with some outcome. -/
def course (s : Session) (events : List Event) (outcome : Except Failure Unit) : Course :=
  ⟨s.after events, s.turns events, outcome⟩

end Session

namespace Rehearsal

/-- The events that a rehearsal delivers: all of them, or those up to the first
    failure. -/
def heard (r : Rehearsal) (s : Session) : List Event :=
  if r.keepGoing then r.events else s.heard r.events

theorem conduct_eq (r : Rehearsal) (s : Session) :
    r.conduct s = s.course (r.heard s) (outcomeOf (s.turns (r.heard s)) r.ending) := by
  cases hk : r.keepGoing with
  | true => simp [conduct, heard, hk, Session.course, Session.after, Session.turns]
  | false => simp [conduct, heard, hk, Session.course, s.run_eq]

end Rehearsal

/-- A conversation over pipes delivers the events of the lines, or those up to
    the turn that breaks it off. -/
theorem converse_eq (takes : List UInt8 → Bool) (s : Session) (written : List UInt8)
    (lines : List (List UInt8)) :
    ∃ heard, heard <+: lines.filterMap Wire.eventOf? ∧
      (converse takes s written lines).session = s.after heard ∧
      (converse takes s written lines).turns = s.turns heard := by
  induction lines generalizing s written with
  | nil => exact ⟨[], List.nil_prefix, rfl, rfl⟩
  | cons line rest ih =>
    cases he : Wire.eventOf? line with
    | none =>
      have hhear : s.hear line = none := by simp [Session.hear, he]
      simpa [converse, hhear, he] using ih s written
    | some e =>
      have hhear : s.hear line = some ((s.respond e).1, s.turn e) := by simp [Session.hear, he]
      simp only [converse, hhear, List.filterMap_cons, he]
      have hone : [e] <+: e :: rest.filterMap Wire.eventOf? := ⟨_, rfl⟩
      cases hr : (s.turn e).reply? with
      | error f => exact ⟨[e], hone, rfl, rfl⟩
      | ok reply =>
        simp only
        split
        · exact ⟨[e], hone, rfl, rfl⟩
        · obtain ⟨heard, hpre, hs, ht⟩ := ih (s.respond e).1 (written ++ reply)
          exact ⟨e :: heard, List.cons_prefix_cons.2 ⟨rfl, hpre⟩, by simp [hs], by simp [ht]⟩

/-- The backend delivers the events that its output tells of, or the first of
    them. -/
theorem Backend.conduct_eq_course (b : Backend) (child : Option Child) (fingerprint : String)
    (s : Session) :
    ∃ heard outcome, heard <+: (child.elim [] fun c => Wire.eventsOf c.output) ∧
      (b.conduct child fingerprint s).course = s.course heard outcome := by
  cases child with
  | none => exact ⟨[], .error notStarted, List.nil_prefix, rfl⟩
  | some c =>
    by_cases hp : canPass (b.arguments fingerprint) = true
    · obtain ⟨heard, hpre, hs, ht⟩ := converse_eq c.takes s [] (Wire.lines c.output)
      exact ⟨heard, _, hpre, by simp only [conduct, hp, Session.course, hs, ht]; rfl⟩
    · exact ⟨[], .error notStarted, List.nil_prefix, by simp [conduct, hp, Session.course]⟩

end KeyDialogue
