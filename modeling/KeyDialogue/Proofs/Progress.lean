/-
  Key dialogue — how far an edit has come after any events.

  A plain edit keeps no other memory of a session than how often certain
  questions were asked (`asked`): its agenda advances with the menu, a walk over
  signatures with the signatures, an explanation with its lines.

  * `PlainEdit.reached` is the state of a plain edit in terms of these numbers,
    and `PassphraseChange.reached` that of a change of passphrase.  Every event
    leads from one such state to the next (`PlainEdit.fst_respond_reached`,
    `PassphraseChange.fst_respond_reached`), so every session is in one
    (`Session.progress_after_plain`, `Session.progress_after_change`) and replies
    as that state does (`Session.reply_after_plain`, `Session.reply_after_change`);
  * `Session.slot_after`: a change of passphrase asks for the present one until
    one is accepted, and for the replacement from then on; every other edit asks
    for the present one.  What a session answers once a request was declined
    depends on its edit alone (`Session.refusal_after`);
  * `Session.turns_plain_congr`: plain edits that reply alike, however far they have
    come, take the same turns;
  * `Session.linesTo` are the lines answered to a question (`Session.linesTo_eq_map`,
    `Session.linesTo_eq_take`).
-/
import KeyDialogue.Proofs.Turn
import Mathlib.Data.List.Induction

namespace KeyDialogue

/-! ## Counting questions -/

/-- How often a question was asked. -/
def asked (q : Question) (events : List Event) : Nat :=
  (events.filterMap Event.question?).count q

@[simp] theorem asked_nil (q : Question) : asked q [] = 0 := rfl

theorem asked_append_singleton (q : Question) (events : List Event) (e : Event) :
    asked q (events ++ [e]) =
      if e.question? = some q then asked q events + 1 else asked q events := by
  cases h : e.question? with
  | none => simp [asked, h]
  | some q' => by_cases hq : q' = q <;> simp [asked, h, hq]

/-- Events that concern a passphrase do not count. -/
theorem asked_append_of_concerns {q : Question} (hq : q ≠ .passphrase) (events : List Event)
    {e : Event} (h : e.concernsPassphrase = true) : asked q (events ++ [e]) = asked q events := by
  rw [asked_append_singleton, if_neg (Event.question?_ne_of_concernsPassphrase h hq)]

/-! ## Agendas -/

/-- The command at a place of an agenda; it is `quit` past the end. -/
def Agenda.command (a : Agenda) (n : Nat) : MenuCommand := a[n]?.getD .quit

theorem Agenda.next_drop (a : Agenda) (n : Nat) :
    Agenda.next (a.drop n) = (a.command n, a.drop (n + 1)) := by
  cases h : a[n]? with
  | none =>
    have hn := List.getElem?_eq_none_iff.1 h
    simp [next, command, h, List.drop_eq_nil_of_le hn,
      List.drop_eq_nil_of_le (Nat.le_succ_of_le hn)]
  | some c =>
    obtain ⟨hn, hc⟩ := List.getElem?_eq_some_iff.1 h
    simp [List.drop_eq_getElem_cons hn, next, command, h, hc]

/-- Where no agenda says `quit`, it comes only past the end. -/
theorem Agenda.command_eq_quit_iff {a : Agenda} (h : .quit ∉ a) (n : Nat) :
    a.command n = .quit ↔ a.length ≤ n := by
  cases hn : a[n]? with
  | none => simpa [command, hn] using List.getElem?_eq_none_iff.1 hn
  | some c =>
    have hc : c ≠ .quit := by rintro rfl; exact h (List.mem_of_getElem? hn)
    have hlt : n < a.length := (List.getElem?_eq_some_iff.1 hn).1
    have hcommand : a.command n = c := by rw [command, hn]; rfl
    rw [hcommand]
    exact ⟨fun h => absurd h hc, fun h => by omega⟩

/-! ## Plain edits -/

/-- A signing after events. -/
def Signing.reached (o : SigningOptions) (events : List Event) : Signing :=
  ⟨o, o.agenda.drop (asked .menu events)⟩

theorem Signing.fst_respond_reached (o : SigningOptions) (events : List Event) (e : Event) :
    ((reached o events).respond e).1 = reached o (events ++ [e]) := by
  unfold respond; split
  · next h =>
    have hq : e.question? = none := Event.question?_of_not_asks (by rw [h]; rfl)
    simp [reached, asked_append_singleton, hq]
  · split <;> simp_all [reached, asked_append_singleton, Agenda.next_drop]

/-- A revocation after events. -/
def Revocation.reached (o : RevocationOptions) (events : List Event) : Revocation :=
  ⟨o, o.agenda.drop (asked .menu events),
    ⟨o.signatures, asked .revokeOne events + asked .revokeExpired events⟩,
    (reasonLines o.description).drop (asked .reasonText events)⟩

theorem Revocation.fst_respond_reached (o : RevocationOptions) (events : List Event) (e : Event) :
    ((reached o events).respond e).1 = reached o (events ++ [e]) := by
  unfold respond; split
  case h_2 hq | h_3 hq =>
    simp [reached, asked_append_singleton, SignatureWalk.next, hq]; omega
  case h_5 hq =>
    have ht := List.tail_drop (l := reasonLines o.description) (i := asked .reasonText events)
    split <;> next hl =>
      simp only [reached] at hl
      rw [hl] at ht
      simp [reached, asked_append_singleton, hq, ← ht, hl]
  all_goals simp_all [reached, asked_append_singleton, Agenda.next_drop]

/-- What a revocation replies hangs on its user id and its reason, on which signatures are
    selected, and on the lines of its explanation. -/
theorem Revocation.reply_congr (o o' : RevocationOptions) (huser : o'.userId = o.userId)
    (hreason : o'.reason = o.reason) (hselected : ∀ n, n ∈ o'.signatures ↔ n ∈ o.signatures)
    (hlines : reasonLines o'.description = reasonLines o.description)
    (events : List Event) (e : Event) :
    ((reached o' events).respond e).2 = ((reached o events).respond e).2 := by
  simp only [respond]
  split
  case h_1 => simp [reached, RevocationOptions.agenda, huser]
  case h_2 | h_3 => simp [reached, SignatureWalk.next, hselected]
  case h_4 => simp [reached, hreason]
  case h_5 =>
    simp only [reached, hlines]
    cases (reasonLines o.description).drop (asked .reasonText events) <;> rfl
  all_goals rfl

/-- A deletion after events. -/
def Deletion.reached (o : DeletionOptions) (events : List Event) : Deletion :=
  ⟨o, o.agenda.drop (asked .menu events), ⟨o.signatures,
    asked .deleteValid events + asked .deleteInvalid events + asked .deleteUnknown events⟩⟩

theorem Deletion.fst_respond_reached (o : DeletionOptions) (events : List Event) (e : Event) :
    ((reached o events).respond e).1 = reached o (events ++ [e]) := by
  unfold respond; split <;>
    simp_all [reached, asked_append_singleton, Agenda.next_drop, SignatureWalk.next] <;> omega

/-- An enabling, or disabling, after events. -/
def Switching.reached (enable : Bool) (events : List Event) : Switching :=
  ⟨(start enable).agenda.drop (asked .menu events)⟩

theorem Switching.fst_respond_reached (enable : Bool) (events : List Event) (e : Event) :
    ((reached enable events).respond e).1 = reached enable (events ++ [e]) := by
  unfold respond; split <;> simp_all [reached, asked_append_singleton, Agenda.next_drop]

/-- A setting of owner trust after events. -/
def Trusting.reached (trust : OwnerTrust) (events : List Event) : Trusting :=
  ⟨trust, (start trust).agenda.drop (asked .menu events)⟩

theorem Trusting.fst_respond_reached (trust : OwnerTrust) (events : List Event) (e : Event) :
    ((reached trust events).respond e).1 = reached trust (events ++ [e]) := by
  unfold respond; split <;> simp_all [reached, asked_append_singleton, Agenda.next_drop]

/-- A change of expiry after events: the menu is left once the agenda is used
    up. -/
def Expiry.reached (today : Date) (o : ExpiryOptions) (events : List Event) : Expiry :=
  ⟨o, today, o.agenda.drop (asked .menu events), o.agenda.length < asked .menu events⟩

theorem Expiry.fst_respond_reached (today : Date) (o : ExpiryOptions) (events : List Event)
    (e : Event) : ((reached today o events).respond e).1 = reached today o (events ++ [e]) := by
  unfold respond; split
  case h_1 hq =>
    have hquit : .quit ∉ o.agenda := by simp [ExpiryOptions.agenda]
    have hleft : (decide (o.agenda.length < asked .menu events) ||
        o.agenda.command (asked .menu events) == .quit) =
        decide (o.agenda.length < asked .menu events + 1) := by
      rw [Bool.eq_iff_iff]
      simp only [Bool.or_eq_true, decide_eq_true_eq, beq_iff_eq,
        Agenda.command_eq_quit_iff hquit]
      omega
    simp [reached, asked_append_singleton, Agenda.next_drop, hq, hleft]
  all_goals simp_all [reached, asked_append_singleton]

/-- The agenda of an addition in which the algorithm was asked for some times.
    From the second time on there is nothing to save. -/
def SubkeyOptions.agendaAt (o : SubkeyOptions) (algorithms : Nat) : Agenda :=
  if 2 ≤ algorithms then [.addkey] else o.agenda

theorem SubkeyOptions.filter_drop_agendaAt (o : SubkeyOptions) (algorithms n : Nat) :
    ((o.agendaAt algorithms).drop n).filter (· ≠ .save) = [MenuCommand.addkey].drop n := by
  unfold agendaAt; split
  · cases n <;> simp
  · rcases n with _ | _ | n <;> simp [agenda]

/-- An addition of a subkey after events. -/
def SubkeyAddition.reached (today : Date) (o : SubkeyOptions) (events : List Event) :
    SubkeyAddition :=
  ⟨o, today, (o.agendaAt (asked .keyAlgorithm events)).drop (asked .menu events),
    0 < asked .keyAlgorithm events, 2 ≤ asked .keyAlgorithm events,
    o.capabilities.toggles.drop (asked .keyFlags events)⟩

theorem SubkeyAddition.fst_giveAlgorithm_reached (today : Date) (o : SubkeyOptions)
    (events : List Event) {e : Event} (h : e.question? = some .keyAlgorithm) :
    (reached today o events).giveAlgorithm.1 = reached today o (events ++ [e]) := by
  unfold giveAlgorithm; split
  · next hg =>
    have hpos : 0 < asked .keyAlgorithm events := by simpa [reached] using hg
    have hn : 2 ≤ asked .keyAlgorithm events + 1 := by omega
    simp only [reached, o.filter_drop_agendaAt, asked_append_singleton, h]
    simp [hpos, hn, SubkeyOptions.agendaAt]
  · next hg =>
    have hn : asked .keyAlgorithm events = 0 := by simpa [reached] using hg
    simp [reached, asked_append_singleton, h, hn, SubkeyOptions.agendaAt]

theorem SubkeyAddition.fst_respond_reached (today : Date) (o : SubkeyOptions)
    (events : List Event) (e : Event) :
    ((reached today o events).respond e).1 = reached today o (events ++ [e]) := by
  unfold respond; split
  case h_2 hq => exact fst_giveAlgorithm_reached today o events hq
  case h_3 hq =>
    have ht := List.tail_drop (l := o.capabilities.toggles) (i := asked .keyFlags events)
    split <;> next hl =>
      simp only [reached] at hl
      rw [hl] at ht
      simp [reached, asked_append_singleton, hq, ← ht, hl]
  all_goals simp_all [reached, asked_append_singleton, Agenda.next_drop]

/-- A plain edit after events. -/
def PlainEdit.reached (today : Date) (edit : PlainEdit) (events : List Event) : PlainProgress :=
  match edit with
  | sign o => .signing (.reached o events)
  | revokeSignature o => .revocation (.reached o events)
  | deleteSignature o => .deletion (.reached o events)
  | setEnabled enable => .switching (.reached enable events)
  | setOwnerTrust trust => .trusting (.reached trust events)
  | setExpiration o => .expiry (.reached today o events)
  | addSubkey o => .subkeyAddition (.reached today o events)

theorem PlainEdit.reached_nil (today : Date) (edit : PlainEdit) :
    edit.reached today [] = edit.start today := by
  cases edit <;> rfl

/-- An event leads from the state after the events before it to the state after
    all of them. -/
theorem PlainEdit.fst_respond_reached (today : Date) (edit : PlainEdit) (events : List Event)
    (e : Event) :
    ((edit.reached today events).respond e).1 = edit.reached today (events ++ [e]) := by
  cases edit with
  | sign o => exact congrArg _ (Signing.fst_respond_reached o events e)
  | revokeSignature o => exact congrArg _ (Revocation.fst_respond_reached o events e)
  | deleteSignature o => exact congrArg _ (Deletion.fst_respond_reached o events e)
  | setEnabled enable => exact congrArg _ (Switching.fst_respond_reached enable events e)
  | setOwnerTrust trust => exact congrArg _ (Trusting.fst_respond_reached trust events e)
  | setExpiration o => exact congrArg _ (Expiry.fst_respond_reached today o events e)
  | addSubkey o => exact congrArg _ (SubkeyAddition.fst_respond_reached today o events e)

theorem PlainEdit.reached_append_of_concerns (today : Date) (edit : PlainEdit)
    (events : List Event) {e : Event} (h : e.concernsPassphrase = true) :
    edit.reached today (events ++ [e]) = edit.reached today events := by
  have hasked : ∀ q, q ≠ .passphrase → asked q (events ++ [e]) = asked q events :=
    fun q hq => asked_append_of_concerns hq events h
  cases edit <;>
    simp [reached, Signing.reached, Revocation.reached, Deletion.reached, Switching.reached,
      Trusting.reached, Expiry.reached, SubkeyAddition.reached, hasked]

/-! ## A change of passphrase -/

/-- The event reports that a passphrase was accepted. -/
def Event.isAcceptance (e : Event) : Bool := e.status == .goodPassphrase

theorem Event.isAcceptance_of_not_isAdvisory {e : Event} (h : e.status.isAdvisory = false) :
    e.isAcceptance = false := by
  cases hs : e.status <;> simp_all [isAcceptance, Status.isAdvisory]

namespace PassphraseChange

/-- A change of passphrase after events, with some number of reports of a missing
    passphrase that count. -/
def reached (o : PassphraseOptions) (events : List Event) (missing : UInt32) : PassphraseChange :=
  ⟨o, o.agenda.drop (asked .menu events), events.any Event.isAcceptance, missing⟩

variable (o : PassphraseOptions) (events : List Event) (missing : UInt32) (c : Custody) (e : Event)

theorem fst_respond (p : PassphraseChange) : (p.respond c e).1 =
    if e.status.isAdvisory then (p.advise e).1
    else if e.asksPassphrase then (p.enter c).1
    else (p.answer e).1 := by
  unfold respond; split
  · rfl
  · split <;> rfl

theorem fst_advise_reached (h : e.status.isAdvisory = true) :
    ∃ missing', ((reached o events missing).advise e).1 = reached o (events ++ [e]) missing' := by
  have hq := Event.question?_of_isAdvisory h
  unfold advise; split
  case h_2 hs =>
    refine ⟨missing + 1, ?_⟩
    simp only; split <;> simp [reached, asked_append_singleton, hq, Event.isAcceptance, hs]
  case h_1 hs =>
    exact ⟨0, by simp [reached, asked_append_singleton, hq, Event.isAcceptance, hs]⟩
  case h_3 hs _ =>
    exact ⟨missing, by simp_all [reached, asked_append_singleton, Event.isAcceptance]⟩

theorem fst_enter_reached (h : e.asksPassphrase = true) :
    ∃ missing', ((reached o events missing).enter c).1 = reached o (events ++ [e]) missing' := by
  have hq := Event.question?_of_asksPassphrase h
  have hacc := Event.isAcceptance_of_not_isAdvisory (Event.isAdvisory_of_asksPassphrase h)
  have hreached : ∀ n, reached o (events ++ [e]) n = reached o events n := fun n => by
    simp [reached, asked_append_singleton, hq, hacc]
  unfold enter; split
  · exact ⟨missing, (hreached missing).symm⟩
  · simp only; split
    · exact ⟨missing, (hreached missing).symm⟩
    · exact ⟨0, (hreached 0).symm⟩

theorem fst_answer_reached (h : e.status.isAdvisory = false) :
    ((reached o events missing).answer e).1 = reached o (events ++ [e]) missing := by
  have hacc := Event.isAcceptance_of_not_isAdvisory h
  unfold answer; split <;> simp_all [reached, asked_append_singleton, Agenda.next_drop]

theorem fst_respond_reached :
    ∃ missing', ((reached o events missing).respond c e).1 =
      reached o (events ++ [e]) missing' := by
  rw [fst_respond]; split
  · next ha => exact fst_advise_reached o events missing e ha
  · next ha =>
    split
    · next h => exact fst_enter_reached o events missing c e h
    · exact ⟨missing, fst_answer_reached o events missing e (by simpa using ha)⟩

end PassphraseChange

/-! ## Sessions -/

namespace Session
variable (today : Date) (c : Custody)

/-- A plain edit after a session's events. -/
theorem progress_after_plain (edit : PlainEdit) (events : List Event) :
    (((Edit.plain edit).session today c).after events).progress =
      .plain (edit.reached today events) := by
  induction events using List.reverseRecOn with
  | nil => exact congrArg Progress.plain (edit.reached_nil today).symm
  | append_singleton before e ih =>
    -- all that the edit knows before the last event is in `ih`, so one turn decides
    rw [after_append, after_cons, after_nil]
    generalize ((Edit.plain edit).session today c).after before = s at ih
    obtain ⟨progress, c'⟩ := s
    subst ih
    cases h : e.concernsPassphrase with
    | true => rw [respond_plain_of_concerns _ _ h, edit.reached_append_of_concerns today before h]
    | false => rw [respond_plain_of_not_concerns _ _ h, edit.fst_respond_reached]

/-- A change of passphrase after a session's events. -/
theorem progress_after_change (o : PassphraseOptions) (events : List Event) :
    ∃ missing, (((Edit.changePassphrase o).session today c).after events).progress =
      .passphrase (.reached o events missing) := by
  induction events using List.reverseRecOn with
  | nil => exact ⟨0, rfl⟩
  | append_singleton before e ih =>
    obtain ⟨missing, ih⟩ := ih
    rw [after_append, after_cons, after_nil]
    generalize ((Edit.changePassphrase o).session today c).after before = s at ih
    obtain ⟨progress, c'⟩ := s
    subst ih
    obtain ⟨missing', h⟩ := PassphraseChange.fst_respond_reached o before missing c' e
    exact ⟨missing', congrArg Progress.passphrase h⟩

theorem after_plain (edit : PlainEdit) (events : List Event) :
    ∃ c', ((Edit.plain edit).session today c).after events =
      ⟨.plain (edit.reached today events), c'⟩ :=
  ⟨_, by rw [← progress_after_plain]⟩

theorem after_change (o : PassphraseOptions) (events : List Event) :
    ∃ missing c', ((Edit.changePassphrase o).session today c).after events =
      ⟨.passphrase (.reached o events missing), c'⟩ := by
  obtain ⟨missing, hp⟩ := progress_after_change today c o events
  exact ⟨missing, _, by rw [← hp]⟩

/-- What a session of a plain edit replies to an event that concerns no
    passphrase. -/
theorem reply_after_plain (edit : PlainEdit) (before : List Event) {e : Event}
    (h : e.concernsPassphrase = false) :
    ((((Edit.plain edit).session today c).after before).respond e).2 =
      ((edit.reached today before).respond e).2 := by
  obtain ⟨c', hs⟩ := after_plain today c edit before
  rw [hs, respond_plain_of_not_concerns _ _ h]

/-- What a session of a plain edit answers to a question other than that for the
    passphrase. -/
theorem outcome_after_plain (edit : PlainEdit) (before : List Event) {e : Event} {q : Question}
    (h : e.question? = some q) (hq : q ≠ .passphrase) :
    ((((Edit.plain edit).session today c).after before).turn e).reply.outcome =
      ((edit.reached today before).respond e).2.outcome := by
  have hconcerns := Event.concernsPassphrase_of_question? h hq
  rw [turn, reply_after_plain today c edit before hconcerns]

/-- The passphrase side of a session does not depend on which plain edit is under
    way. -/
theorem custody_after_plain_eq (edit edit' : PlainEdit) (events : List Event) :
    (((Edit.plain edit').session today c).after events).custody =
      (((Edit.plain edit).session today c).after events).custody := by
  induction events using List.reverseRecOn with
  | nil => rfl
  | append_singleton before e ih =>
    obtain ⟨c₁, hs⟩ := after_plain today c edit before
    obtain ⟨c₂, hs'⟩ := after_plain today c edit' before
    obtain rfl : c₂ = c₁ := by simpa [hs, hs'] using ih
    cases h : e.concernsPassphrase with
    | true => simp [hs, hs', respond_plain_of_concerns _ _ h]
    | false => simp [hs, hs', respond_plain_of_not_concerns _ _ h]

/-- Plain edits that reply alike, however far they have come, take the same turns. -/
theorem turns_plain_congr {edit edit' : PlainEdit}
    (h : ∀ before e,
      ((edit'.reached today before).respond e).2 = ((edit.reached today before).respond e).2)
    (events : List Event) :
    ((Edit.plain edit').session today c).turns events =
      ((Edit.plain edit).session today c).turns events := by
  have hturn : ∀ before e, (((Edit.plain edit').session today c).after before).turn e =
      (((Edit.plain edit).session today c).after before).turn e := by
    intro before e
    cases hc : e.concernsPassphrase with
    | true =>
      have hcustody := custody_after_plain_eq today c edit edit' before
      obtain ⟨c₁, hs⟩ := after_plain today c edit before
      obtain ⟨c₂, hs'⟩ := after_plain today c edit' before
      obtain rfl : c₂ = c₁ := by simpa [hs, hs'] using hcustody
      rw [turn, turn, hs, hs', respond_plain_of_concerns _ _ hc, respond_plain_of_concerns _ _ hc]
    | false =>
      rw [turn, turn, reply_after_plain today c edit before hc,
        reply_after_plain today c edit' before hc, h before e]
  refine List.ext_getElem? fun i => ?_
  rw [getElem?_turns, getElem?_turns]
  exact Option.map_congr fun e _ => hturn _ e

/-- What a session of a change of passphrase replies to an event. -/
theorem reply_after_change (o : PassphraseOptions) (before : List Event) (e : Event) :
    ∃ missing c', ((((Edit.changePassphrase o).session today c).after before).respond e).2 =
      ((PassphraseChange.reached o before missing).respond c' e).2.2 := by
  obtain ⟨missing, c', hs⟩ := after_change today c o before
  exact ⟨missing, c', by rw [hs]; rfl⟩

end Session

/-! ## The passphrase of a session -/

namespace Edit

/-- Where the passphrase that a session asks for comes from, when the backend
    has accepted one in the session, and when it has not. -/
def slot (edit : Edit) (accepted : Bool) : Slot :=
  match edit with
  | plain _ => .source .unlock
  | changePassphrase o =>
    if accepted then
      match o.newPassphrase with
      | some secret => .inHand secret
      | none => .source .new
    else .source .current

/-- What a session answers to a question for the passphrase once a request was
    declined. -/
def refusal : Edit → Answer
  | plain _ => .secret ""
  | changePassphrase _ => .abort

end Edit

namespace Session
variable (today : Date) (c : Custody)

theorem slot_after (edit : Edit) (events : List Event) :
    ((edit.session today c).after events).progress.slot =
      edit.slot (events.any Event.isAcceptance) := by
  cases edit with
  | plain edit =>
    rw [progress_after_plain]; rfl
  | changePassphrase o =>
    obtain ⟨missing, hp⟩ := progress_after_change today c o events
    rw [hp]; rfl

theorem refusal_after (edit : Edit) (events : List Event) :
    ((edit.session today c).after events).progress.refusal = edit.refusal := by
  cases edit with
  | plain edit =>
    rw [progress_after_plain]; rfl
  | changePassphrase o =>
    obtain ⟨missing, hp⟩ := progress_after_change today c o events
    rw [hp]; rfl

end Session

/-! ## The lines that answer a question -/

/-- The line that a turn answers to a question. -/
def Turn.lineTo? (q : Question) (t : Turn) : Option String :=
  match t.reply.outcome with
  | .ok (.line text) => if t.event.question? = some q then some text else none
  | _ => none

/-- The lines answered to a question in the course of events. -/
def Session.linesTo (s : Session) (q : Question) (events : List Event) : List String :=
  (s.turns events).filterMap (Turn.lineTo? q)

/-- Where the answer to a question hangs on nothing but how often it was asked
    before, the answers are those at the first places. -/
theorem Session.linesTo_eq_map (s : Session) {q : Question} (line : Nat → String)
    (h : ∀ before e, e.question? = some q →
      ((s.after before).turn e).reply.outcome = .ok (.line (line (asked q before))))
    (events : List Event) : s.linesTo q events = (List.range (asked q events)).map line := by
  induction events using List.reverseRecOn with
  | nil => rfl
  | append_singleton before e ih =>
    have happend : s.linesTo q (before ++ [e]) =
        s.linesTo q before ++ (((s.after before).turn e).lineTo? q).toList := by
      simp only [linesTo, turns_append, turns_cons, turns_nil, List.filterMap_append]
      cases hl : ((s.after before).turn e).lineTo? q <;> simp [hl]
    rw [happend, ih, asked_append_singleton]
    by_cases hq : e.question? = some q
    · have hline : ((s.after before).turn e).lineTo? q = some (line (asked q before)) := by
        rw [Turn.lineTo?, h before e hq]
        exact if_pos hq
      rw [hline, if_pos hq, List.range_succ, List.map_append]
      rfl
    · have hnone : ((s.after before).turn e).lineTo? q = none := by
        unfold Turn.lineTo?
        split
        · exact if_neg hq
        · rfl
      rw [hnone, if_neg hq, Option.toList_none, List.append_nil]

/-- The places of a list up to some number, filled up once the list is used up. -/
theorem map_range_getD {α : Type} (l : List α) (d : α) (n : ℕ) :
    ((List.range n).map fun k => l[k]?.getD d) = l.take n ++ List.replicate (n - l.length) d := by
  induction n with
  | zero => simp
  | succ n ih =>
    rw [List.range_succ, List.map_append, ih, List.map_singleton]
    cases h : l[n]? with
    | some a =>
      obtain ⟨hn, rfl⟩ := List.getElem?_eq_some_iff.1 h
      have hnone : n - l.length = 0 ∧ n + 1 - l.length = 0 := by omega
      simp [hnone, List.take_append_getElem hn]
    | none =>
      have hn := List.getElem?_eq_none_iff.1 h
      have hmore : n + 1 - l.length = (n - l.length) + 1 := by omega
      rw [hmore, List.replicate_succ', List.take_of_length_le hn,
        List.take_of_length_le (Nat.le_succ_of_le hn)]
      simp

/-- Where the answers are some lines, one after the other, and another line from then on,
    they are given in this order. -/
theorem Session.linesTo_eq_take (s : Session) {q : Question} (lines : List String) (last : String)
    (h : ∀ before e, e.question? = some q →
      ((s.after before).turn e).reply.outcome = .ok (.line (lines[asked q before]?.getD last)))
    (events : List Event) :
    s.linesTo q events = lines.take (asked q events) ++
      List.replicate (asked q events - lines.length) last := by
  rw [s.linesTo_eq_map (fun k => lines[k]?.getD last) h events, map_range_getD]

end KeyDialogue
