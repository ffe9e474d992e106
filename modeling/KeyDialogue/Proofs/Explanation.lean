/-
  Key dialogue — how failed edits are explained.

  * `explain_eq_canceled_iff`, `explain_eq_badPassphrase_iff`: which failures are
    explained, and by what.  Only a failure that leaves its cause open (`Vague`) is
    explained at all, and there is no third explanation (`explain_cases`);
  * `RejectedAtLast`: events tell of a rejected passphrase, and of none accepted
    after it (`lastStatus?_eq_badPassphrase_iff`);
  * `Keyring.result_call_of_failure`: what a failed call reports is explained by the
    record that it leaves, and `Keyring.record_call_told`: that record is told by
    all events delivered to the key, and by the refusals of this session alone;
  * `failures_explained`: so the explanation in terms of events;
  * `badPassphrase_follows_rejection`: a passphrase is blamed only if the last
    verdict on the key was a rejection.  It need not be of the same session
    (`badPassphrase_of_earlier_session`).
-/
import KeyDialogue.Proofs.Announcement
import KeyDialogue.Proofs.History

namespace KeyDialogue

/-! ## Explanations -/

/-- The failure leaves its cause open: the session was broken off, or the backend
    ended badly. -/
def Failure.Vague (f : Failure) : Prop := f = .aborted ∨ ∃ code, f = .backend code

theorem Failure.vague_backend (code : Option Int) : (Failure.backend code).Vague :=
  Or.inr ⟨code, rfl⟩

section
variable {r : Record} {f : Failure}

theorem explain_of_not_vague (h : ¬ f.Vague) : explain r f = f := by
  cases f with
  | aborted => exact absurd (Or.inl rfl) h
  | backend code => exact absurd (Failure.vague_backend code) h
  | _ => rfl

theorem explain_of_declined (hd : r.declined = true) (h : f.Vague) : explain r f = .canceled := by
  rcases h with rfl | ⟨code, rfl⟩ <;> simp [explain, hd]

theorem explain_aborted (hd : r.declined = false) : explain r .aborted = .aborted := by
  simp [explain, hd]

theorem explain_backend (hd : r.declined = false) (code : Option Int) :
    explain r (.backend code) =
      if r.previousWasBad then
        .badPassphrase (r.request .unlock).userId ((r.request .unlock).key.map (·.keyId))
      else .backend code := by
  simp [explain, hd]

/-- A failure is put down to a refusal exactly if it leaves its cause open and
    there was one. -/
theorem explain_eq_canceled_iff :
    explain r f = .canceled ↔ f = .canceled ∨ f.Vague ∧ r.declined = true := by
  constructor
  · intro h
    by_cases hf : f.Vague
    · cases hd : r.declined with
      | true => exact Or.inr ⟨hf, rfl⟩
      | false =>
        rcases hf with rfl | ⟨code, rfl⟩
        · rw [explain_aborted hd] at h; cases h
        · rw [explain_backend hd] at h; split at h <;> cases h
    · rw [explain_of_not_vague hf] at h; exact Or.inl h
  · rintro (rfl | ⟨hf, hd⟩)
    · rfl
    · exact explain_of_declined hd hf

/-- A failure is put down to the passphrase exactly if the backend ended badly, no
    request was declined, and the last passphrase was rejected. -/
theorem explain_eq_badPassphrase_iff {userId keyId : Option String} :
    explain r f = .badPassphrase userId keyId ↔ f = .badPassphrase userId keyId ∨
      (∃ code, f = .backend code) ∧ r.declined = false ∧ r.previousWasBad = true ∧
        userId = (r.request .unlock).userId ∧
        keyId = (r.request .unlock).key.map (·.keyId) := by
  constructor
  · intro h
    by_cases hf : f.Vague
    · cases hd : r.declined with
      | true => rw [explain_of_declined hd hf] at h; cases h
      | false =>
        rcases hf with rfl | ⟨code, rfl⟩
        · rw [explain_aborted hd] at h; cases h
        · rw [explain_backend hd] at h
          split at h
          · next hb =>
            obtain ⟨rfl, rfl⟩ := Failure.badPassphrase.inj h
            exact Or.inr ⟨⟨code, rfl⟩, rfl, hb, rfl, rfl⟩
          · cases h
    · rw [explain_of_not_vague hf] at h; exact Or.inl h
  · rintro (rfl | ⟨⟨code, rfl⟩, hd, hb, rfl, rfl⟩)
    · rfl
    · rw [explain_backend hd, if_pos hb]

/-- A failure is reported as it is, or put down to a refusal or to the passphrase. -/
theorem explain_cases (r : Record) (f : Failure) : explain r f = f ∨ explain r f = .canceled ∨
    ∃ userId keyId, explain r f = .badPassphrase userId keyId := by
  by_cases hf : f.Vague
  · cases hd : r.declined with
    | true => exact Or.inr (Or.inl (explain_of_declined hd hf))
    | false =>
      rcases hf with rfl | ⟨code, rfl⟩
      · exact Or.inl (explain_aborted hd)
      · rw [explain_backend hd]
        split
        · exact Or.inr (Or.inr ⟨_, _, rfl⟩)
        · exact Or.inl rfl
  · exact Or.inl (explain_of_not_vague hf)

theorem eq_of_explain_eq_customizationIgnored (h : explain r f = .customizationIgnored) :
    f = .customizationIgnored := by
  rcases explain_cases r f with hf | hf | ⟨_, _, hf⟩
  · rw [← hf, h]
  · rw [h] at hf; cases hf
  · rw [h] at hf; cases hf

end

/-! ## Verdicts -/

/-- The events tell of a rejected passphrase, and of none accepted after it. -/
def RejectedAtLast (events : List Event) : Prop :=
  ∃ before e after, events = before ++ e :: after ∧ e.status = .badPassphrase ∧
    ∀ g ∈ after, g.status ≠ .goodPassphrase

theorem lastStatus?_append (isSort : Status → Bool) (first second : List Event) :
    lastStatus? isSort (first ++ second) =
      (lastStatus? isSort second).or (lastStatus? isSort first) := by
  simp [lastStatus?, List.filter_append, List.getLast?_append, Option.map_or]

theorem lastStatus?_eq_none_iff {isSort : Status → Bool} {events : List Event} :
    lastStatus? isSort events = none ↔ ∀ e ∈ events, isSort e.status = false := by
  simp [lastStatus?]

theorem lastStatus?_eq_some_iff {isSort : Status → Bool} {events : List Event}
    {status : Status} :
    lastStatus? isSort events = some status ↔ ∃ before e after, events = before ++ e :: after ∧
      e.status = status ∧ isSort status = true ∧ ∀ g ∈ after, isSort g.status = false := by
  simp only [lastStatus?, Option.map_eq_some_iff, List.getLast?_eq_some_iff]
  constructor
  · rintro ⟨e, ⟨earlier, hfilter⟩, rfl⟩
    obtain ⟨before, rest, rfl, -, hrest⟩ := List.filter_eq_append_iff.1 hfilter
    obtain ⟨between, after, rfl, -, he, hafter⟩ := List.filter_eq_cons_iff.1 hrest
    exact ⟨before ++ between, e, after, by simp, rfl, he, by simpa using hafter⟩
  · rintro ⟨before, e, after, rfl, rfl, he, hafter⟩
    exact ⟨e, ⟨before.filter fun e => isSort e.status, by simpa [he] using hafter⟩, rfl⟩

theorem Status.eq_of_isVerdict {s : Status} (h : s.isVerdict = true) :
    s = .goodPassphrase ∨ s = .badPassphrase := by
  simpa [isVerdict] using h

theorem lastStatus?_eq_badPassphrase_iff {events : List Event} :
    lastStatus? Status.isVerdict events = some .badPassphrase ↔ RejectedAtLast events := by
  constructor
  · intro h
    obtain ⟨before, e, after, rfl, he, -, hafter⟩ := lastStatus?_eq_some_iff.1 h
    refine ⟨before, e, after, rfl, he, fun g hg hgood => ?_⟩
    have hverdict := hafter g hg
    rw [hgood] at hverdict; cases hverdict
  · rintro ⟨before, e, after, rfl, he, hafter⟩
    rw [lastStatus?_append, ← List.singleton_append, lastStatus?_append]
    have hone : lastStatus? Status.isVerdict [e] = some .badPassphrase := by
      simp [lastStatus?, he, Status.isVerdict]
    -- what comes after the rejection are rejections at most
    cases hlast : lastStatus? Status.isVerdict after with
    | none => simp [hone]
    | some status =>
      obtain ⟨_, g, _, rfl, rfl, hg, -⟩ := lastStatus?_eq_some_iff.1 hlast
      rcases Status.eq_of_isVerdict hg with hgood | hbad
      · exact absurd hgood (hafter g (by simp))
      · simp [hbad]

theorem RejectedAtLast.of_append {earlier later : List Event}
    (h : RejectedAtLast (earlier ++ later)) :
    ((∃ e ∈ later, e.status.isVerdict = true) → RejectedAtLast later) ∧
      ((∀ e ∈ later, e.status.isVerdict = false) → RejectedAtLast earlier) := by
  rw [← lastStatus?_eq_badPassphrase_iff, lastStatus?_append] at h
  cases hlater : lastStatus? Status.isVerdict later with
  | none =>
    rw [hlater, Option.none_or] at h
    refine ⟨fun ⟨e, he, hverdict⟩ => ?_, fun _ => lastStatus?_eq_badPassphrase_iff.1 h⟩
    rw [lastStatus?_eq_none_iff.1 hlater e he] at hverdict; cases hverdict
  | some status =>
    rw [hlater, Option.some_or] at h
    refine ⟨fun _ => lastStatus?_eq_badPassphrase_iff.1 (hlater.trans h), fun hnone => ?_⟩
    rw [lastStatus?_eq_none_iff.2 hnone] at hlater; cases hlater

namespace Record
variable {told earlier later : List Event}

theorem previousWasBad_ofEvents_iff :
    (ofEvents told).previousWasBad = true ↔
      lastStatus? Status.isVerdict told = some .badPassphrase := beq_iff_eq

theorem previousWasBad_ofEvents_append {status : Status}
    (h : lastStatus? Status.isVerdict later = some status) :
    (ofEvents (earlier ++ later)).previousWasBad = (status == .badPassphrase) := by
  simp [ofEvents, lastStatus?_append, h]

theorem previousWasBad_ofEvents_of_none (h : ∀ e ∈ told, e.status ≠ .badPassphrase) :
    (ofEvents told).previousWasBad = false := by
  rw [Bool.eq_false_iff, ne_eq, previousWasBad_ofEvents_iff]
  intro hlast
  obtain ⟨_, e, _, rfl, he, -⟩ := lastStatus?_eq_some_iff.1 hlast
  exact h e (by simp) he

/-- The key that a request names is that of the last announcement, if this is one
    in full. -/
theorem key_request_ofEvents_iff {purpose : Purpose} {id : String} :
    ((ofEvents told).request purpose).key.map (·.keyId) = some id ↔
      ∃ text a, lastArgs Status.isNeed told = some text ∧ KeyAnnouncement.Spells a text ∧
        a.keyId = id := by
  simp only [request, ofEvents, Option.map_eq_some_iff, Option.bind_eq_some_iff,
    KeyAnnouncement.ofText?_eq_some_iff]
  constructor
  · rintro ⟨a, ⟨text, htext, ha⟩, rfl⟩
    exact ⟨text, a, htext, ha, rfl⟩
  · rintro ⟨text, a, htext, ha, rfl⟩
    exact ⟨a, ⟨text, htext, ha⟩, rfl⟩

end Record

/-! ## What a failed call reports -/

theorem Editor.result_edit (ed : Editor) (engine : Session → Course) (fingerprint : String)
    (edit : Edit) (h : edit.fault? ed.source = none) :
    let x := engine (ed.session fingerprint edit)
    (ed.edit engine fingerprint edit).2.result =
      (x.outcome.mapError (explain x.session.custody.record)).bind
        fun () => Editor.resultOf x.session.progress := by
  simp [Editor.edit, h, Editor.conclude]

/-- An edit that was started fails by what its engine failed with, explained, or
    because the algorithm of a subkey was refused. -/
theorem Editor.result_edit_eq_error_iff (ed : Editor) (engine : Session → Course)
    (fingerprint : String) (edit : Edit) (h : edit.fault? ed.source = none) {f : Failure} :
    let x := engine (ed.session fingerprint edit)
    (ed.edit engine fingerprint edit).2.result = .error f ↔
      (∃ g, x.outcome = .error g ∧ explain x.session.custody.record g = f) ∨
        x.outcome = .ok () ∧ x.session.progress.refused = true ∧ f = .customizationIgnored := by
  intro x
  rw [ed.result_edit engine fingerprint edit h]
  show (Except.bind (x.outcome.mapError (explain x.session.custody.record))
    fun _ => resultOf x.session.progress) = .error f ↔ _
  cases x.outcome with
  | error g => simp [Except.mapError, Except.bind]
  | ok _ =>
    have hok : ∀ g, (.ok () : Except Failure Unit) ≠ .error g := fun _ => nofun
    simp only [Except.mapError, Except.bind, resultOf, hok, false_and, exists_false, false_or,
      true_and]
    cases x.session.progress.refused <;> simp [eq_comm]

/-- A session is started exactly if the options have no fault. -/
theorem Editor.started_edit_iff (ed : Editor) (engine : Session → Course) (fingerprint : String)
    (edit : Edit) :
    (ed.edit engine fingerprint edit).2.started = true ↔ edit.fault? ed.source = none := by
  unfold Editor.edit
  cases edit.fault? ed.source <;> simp [rejection, conclude]

/-- A failure of an engine that was started is reported as the record explains
    it. -/
theorem Editor.result_edit_of_failure (ed : Editor) (engine : Session → Course)
    (fingerprint : String) (edit : Edit) {f : Failure}
    (hstarted : (ed.edit engine fingerprint edit).2.started = true)
    (hf : (engine (ed.session fingerprint edit)).outcome = .error f) :
    let report := (ed.edit engine fingerprint edit).2
    report.result = .error (explain report.record f) := by
  intro report
  have hfault := (ed.started_edit_iff engine fingerprint edit).1 hstarted
  have hrecord : report.record =
      (engine (ed.session fingerprint edit)).session.custody.record := by
    simp [report, Editor.edit, hfault, conclude]
  rw [hrecord]
  exact (ed.result_edit_eq_error_iff engine fingerprint edit hfault).2 (Or.inl ⟨f, hf, rfl⟩)

namespace Keyring
variable (k : Keyring) (c : Call)

theorem startsOn_of_no_fault {c : Call} (h : c.edit.fault? c.source = none) :
    c.startsOn c.fingerprint = true := by
  simp [Call.startsOn, h]

theorem result_call (h : c.edit.fault? c.source = none) :
    (k.call c).2.result =
      (c.outcome.mapError (explain ((k.call c).1.record c.fingerprint))).bind
        fun () => Editor.resultOf ((k.session c).after c.events).progress := by
  rw [k.record_call_of_startsOn c (startsOn_of_no_fault h)]
  exact (k.editor c).result_edit (fun s => s.course c.events c.outcome) c.fingerprint c.edit h

/-- The failure that a call reports is the engine's, explained by the record that
    the call leaves. -/
theorem result_call_of_failure (h : c.edit.fault? c.source = none) {e : Failure}
    (he : c.outcome = .error e) :
    (k.call c).2.result = .error (explain ((k.call c).1.record c.fingerprint) e) := by
  rw [k.result_call c h, he]; rfl

theorem result_call_of_ok (h : c.edit.fault? c.source = none) (hok : c.outcome = .ok ()) :
    (k.call c).2.result = .ok () ∨ (k.call c).2.result = .error .customizationIgnored := by
  rw [k.result_call c h, hok]
  simp only [Except.mapError, Except.bind, Editor.resultOf]
  split
  · exact Or.inr rfl
  · exact Or.inl rfl

theorem result_call_of_fault {fault : OptionFault} (h : c.edit.fault? c.source = some fault) :
    (k.call c).2.result = .error (.invalidOptions fault) := by
  simp [call, editor, Editor.edit, h, Editor.rejection]

/-- The record that a call leaves after earlier ones is told by all events
    delivered to the key, and a refusal by this session alone. -/
theorem record_call_told (before : List Call) (c : Call) (h : c.edit.fault? c.source = none) :
    let k := (({} : Keyring).calls before).1
    (k.call c).1.record c.fingerprint =
      (Record.ofEvents (delivered c.fingerprint before ++ c.events)).withDeclined
        (c.source.declinesAny ((k.session c).requests c.events)) := by
  intro k
  rw [k.record_call_eq c (startsOn_of_no_fault h), ← Record.foldl_observe_ofEvents, ← record_calls before,
    Record.foldl_observe_withDeclined, Record.withDeclined_withDeclined]

end Keyring

/-- **Failed edits are explained by what happened to the passphrase.**  After any
    earlier calls, a call whose engine fails reports a refusal exactly if the
    failure leaves its cause open and the source declined a request in this very
    session.  If none was declined and the backend ended badly, the passphrase is
    blamed if the session's last verdict is a rejection, and not if it is an
    acceptance or no passphrase of the key was ever rejected; who blames it tells
    the user id and the key that were announced last.  Every other failure is
    reported as it is, and none as a success.  (An engine can also report these
    failures of its own accord.) -/
theorem failures_explained (before : List Call) (c : Call) (e : Failure)
    (hstart : c.edit.fault? c.source = none) (he : c.outcome = .error e) :
    let k := (({} : Keyring).calls before).1
    let result := (k.call c).2.result
    let declined := c.source.declinesAny ((k.session c).requests c.events) = true
    let told := delivered c.fingerprint before ++ c.events
    (result = .error .canceled ↔ e = .canceled ∨ e.Vague ∧ declined) ∧
    (∀ code, e = .backend code → ¬ declined →
      (lastStatus? Status.isVerdict c.events = some .badPassphrase →
        ∃ userId keyId, result = .error (.badPassphrase userId keyId)) ∧
      (lastStatus? Status.isVerdict c.events = some .goodPassphrase ∨
          (∀ x ∈ told, x.status ≠ .badPassphrase) →
        result = .error (.backend code))) ∧
    (∀ userId keyId, result = .error (.badPassphrase userId keyId) →
      e = .badPassphrase userId keyId ∨
        userId = (lastArgs Status.isHint told).map userIdOfHint ∧
        ∀ id, keyId = some id ↔ ∃ text a, lastArgs Status.isNeed told = some text ∧
          KeyAnnouncement.Spells a text ∧ a.keyId = id) ∧
    (¬ e.Vague → result = .error e) ∧
    (e = .aborted → ¬ declined → result = .error .aborted) ∧
    result ≠ .ok () ∧ (result = .error .customizationIgnored → e = .customizationIgnored) := by
  intro k result declined told
  have hrecord := Keyring.record_call_told before c hstart
  have hresult : result = .error (explain _ e) := k.result_call_of_failure c hstart he
  rw [hrecord] at hresult
  rw [hresult]
  refine ⟨?_, ?_, ?_, ?_, ?_, nofun, ?_⟩
  · rw [Except.error.injEq]; exact explain_eq_canceled_iff
  · rintro code rfl hnot
    rw [explain_backend (Bool.eq_false_iff.2 hnot)]
    constructor
    · intro hrejected
      have hbad : (Record.ofEvents told).previousWasBad = true :=
        Record.previousWasBad_ofEvents_append hrejected
      exact ⟨_, _, congrArg Except.error (if_pos hbad)⟩
    · intro hnone
      have hbad : (Record.ofEvents told).previousWasBad = false := by
        rcases hnone with haccepted | hnone
        · exact Record.previousWasBad_ofEvents_append haccepted
        · exact Record.previousWasBad_ofEvents_of_none hnone
      exact congrArg Except.error (if_neg (Bool.eq_false_iff.1 hbad))
  · intro userId keyId h
    rcases explain_eq_badPassphrase_iff.1 (Except.error.inj h) with h | ⟨-, -, -, rfl, rfl⟩
    · exact Or.inl h
    · exact Or.inr ⟨rfl, fun id => Record.key_request_ofEvents_iff⟩
  · intro hvague; rw [explain_of_not_vague hvague]
  · rintro rfl hnot; rw [explain_aborted (Bool.eq_false_iff.2 hnot)]
  · intro h; exact eq_of_explain_eq_customizationIgnored (Except.error.inj h)

/-- The first session on a key brings its announcements, the second one a rejection;
    the failure of the second tells whose passphrase it was. -/
theorem failures_explained_rejected :
    let today : Date := ⟨2026, 10, 19, by decide, by decide, by decide, by decide⟩
    let edit : Edit := .plain (.setOwnerTrust .full)
    let hint : Event := ⟨.userIdHint, some "1111222233334444 Alice <alice@example.org>"⟩
    let need : Event := ⟨.needPassphrase, some "1111222233334444 5555666677778888 1 3072"⟩
    let ask : Event := ⟨.getHidden, some "passphrase.enter"⟩
    let first : Call := ⟨.absent, today, "F", edit, [hint, need, ⟨.goodPassphrase, none⟩], .ok ()⟩
    let second : Call := ⟨.stored "guess", today, "F", edit, [ask, ⟨.badPassphrase, none⟩],
      .error (.backend (some 2))⟩
    let k := (({} : Keyring).calls [first]).1
    second.edit.fault? second.source = none ∧
      (k.call second).2.result = .error
        (.badPassphrase (some "Alice <alice@example.org>") (some "1111222233334444")) := by
  intro today edit hint need ask first second k
  refine ⟨rfl, ?_⟩
  obtain ⟨-, hbackend, hblamed, -⟩ :=
    failures_explained [first] second (.backend (some 2)) rfl rfl
  obtain ⟨userId, keyId, h⟩ := (hbackend _ rfl (by decide)).1 (by decide)
  rcases hblamed userId keyId h with hother | ⟨huser, hkey⟩
  · cases hother
  · have hid : keyId = some "1111222233334444" :=
      (hkey _).2 ⟨_, ⟨"1111222233334444", "5555666677778888", 1, 3072⟩, rfl,
        KeyAnnouncement.ofText?_eq_some_iff.1 (by decide), rfl⟩
    have huser' : userId = some "Alice <alice@example.org>" := huser.trans (by decide)
    rw [h, hid, huser']

/-! ## Who is blamed -/

/-- **A passphrase is blamed only after a rejection.**  If a call reports a bad
    passphrase, and not because its engine did, then the backend ended badly and
    the last verdict that was ever delivered to the key is a rejection.  It is one
    of this session if the session tells of any verdict, and of an earlier one
    otherwise. -/
theorem badPassphrase_follows_rejection (before : List Call) (c : Call)
    (userId keyId : Option String)
    (h : ((({} : Keyring).calls before).1.call c).2.result =
      .error (.badPassphrase userId keyId)) :
    c.outcome = .error (.badPassphrase userId keyId) ∨
      (∃ code, c.outcome = .error (.backend code)) ∧
      RejectedAtLast (delivered c.fingerprint before ++ c.events) ∧
      ((∃ e ∈ c.events, e.status.isVerdict = true) → RejectedAtLast c.events) ∧
      ((∀ e ∈ c.events, e.status.isVerdict = false) →
        RejectedAtLast (delivered c.fingerprint before)) := by
  cases hfault : c.edit.fault? c.source with
  | some fault => rw [Keyring.result_call_of_fault _ c hfault] at h; cases h
  | none =>
    cases he : c.outcome with
    | ok _ =>
      rcases Keyring.result_call_of_ok _ c hfault he with hok | hrefused
      · rw [hok] at h; cases h
      · rw [hrefused] at h; cases h
    | error e =>
      rw [Keyring.result_call_of_failure _ c hfault he, Keyring.record_call_told before c hfault,
        Except.error.injEq, explain_eq_badPassphrase_iff] at h
      rcases h with rfl | ⟨⟨code, rfl⟩, -, hbad, -, -⟩
      · exact Or.inl rfl
      · have hlast : RejectedAtLast (delivered c.fingerprint before ++ c.events) :=
          lastStatus?_eq_badPassphrase_iff.1 (Record.previousWasBad_ofEvents_iff.1 hbad)
        obtain ⟨hsession, hearlier⟩ := hlast.of_append
        exact Or.inr ⟨⟨code, rfl⟩, hlast, hsession, hearlier⟩

/-- In the session that fails, the passphrase is rejected after it was accepted. -/
theorem badPassphrase_follows_rejection_same_session :
    let today : Date := ⟨2026, 10, 19, by decide, by decide, by decide, by decide⟩
    let good : Event := ⟨.goodPassphrase, none⟩
    let bad : Event := ⟨.badPassphrase, none⟩
    let c : Call := ⟨.stored "guess", today, "F", .plain (.setOwnerTrust .full),
      [good, bad, ⟨.missingPassphrase, none⟩], .error (.backend none)⟩
    ((({} : Keyring).calls []).1.call c).2.result = .error (.badPassphrase none none) ∧
      RejectedAtLast c.events := by
  intro today good bad c
  have h : ((({} : Keyring).calls []).1.call c).2.result = .error (.badPassphrase none none) := by
    decide
  refine ⟨h, ?_⟩
  rcases badPassphrase_follows_rejection [] c none none h with hother | ⟨-, -, hsession, -⟩
  · cases hother
  · exact hsession ⟨bad, by simp [c], rfl⟩

/-- A rejection that no acceptance followed is blamed for the failure of a later
    session in which no passphrase was so much as asked for. -/
theorem badPassphrase_of_earlier_session :
    let today : Date := ⟨2026, 10, 19, by decide, by decide, by decide, by decide⟩
    let edit : Edit := .plain (.setOwnerTrust .full)
    let hint : Event := ⟨.userIdHint, some "1111222233334444 Alice <alice@example.org>"⟩
    let first : Call :=
      ⟨.absent, today, "F", edit, [hint, ⟨.badPassphrase, none⟩], .error (.backend (some 2))⟩
    let second : Call := ⟨.absent, today, "F", edit, [⟨.getLine, some "keyedit.prompt"⟩],
      .error (.backend (some 2))⟩
    ((({} : Keyring).calls [first]).1.call second).2.result =
        .error (.badPassphrase (some "Alice <alice@example.org>") none) ∧
      ¬ ∃ e ∈ second.events, e.status = .badPassphrase := by
  decide

end KeyDialogue
