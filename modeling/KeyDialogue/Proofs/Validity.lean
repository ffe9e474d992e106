/-
  Key dialogue — which edits are rejected, and when.

  * `Edit.Valid` says which options make sense, given where passphrases come from.
    The checks find a fault exactly in the others (`Edit.fault?_eq_none_iff`);
  * `Session.failure_respond`: a turn fails in two ways only, and neither has to do
    with the options;
  * `Editor.result_edit_invalidOptions`: an edit whose options have no fault
    reports one only if its engine does;
  * `Backend.ofSession_outcome`: the backend does not, for it fails by a turn, by the
    pipe or as its child ends;
  * `misuse_is_rejected_first`: so a caller is told of a fault exactly if there is
    one, and before anything has happened.
-/
import KeyDialogue.Proofs.Cancellation
import KeyDialogue.Proofs.Explanation

namespace KeyDialogue

/-! ## Options that make sense -/

/-- User ids are counted from 1, there are four levels of certification, and two of
    trust. -/
structure SigningOptions.Valid (o : SigningOptions) : Prop where
  userIds : 0 ∉ o.userIds
  certificationLevel : o.certificationLevel ≤ 3
  trust : ∀ t ∈ o.trust, t.level = 1 ∨ t.level = 2

/-- Some signatures of a user id are selected; all are counted from 1. -/
structure SelectionValid (userId : Nat) (signatures : List Nat) : Prop where
  userId : 1 ≤ userId
  nonempty : signatures ≠ []
  signatures : 0 ∉ signatures

/-- The options of a plain edit make sense. -/
def PlainEdit.Valid : PlainEdit → Prop
  | sign o => o.Valid
  | revokeSignature o => SelectionValid o.userId o.signatures
  | deleteSignature o => SelectionValid o.userId o.signatures
  | setEnabled _ => True
  | setOwnerTrust _ => True
  | setExpiration o => 0 ∉ o.subkeys
  | addSubkey o => o.length ≠ 0

/-- The options of an edit make sense: a replacement of the passphrase is given, or
    there is someone to ask for it. -/
def Edit.Valid (source : Source) : Edit → Prop
  | plain edit => edit.Valid
  | changePassphrase o => o.newPassphrase.isSome = true ∨ source.isInteractive = true

/-! ## The checks -/

theorem zeroFault?_eq_none_iff {indices : List Nat} {fault : OptionFault} :
    zeroFault? indices fault = none ↔ 0 ∉ indices := by
  simp [zeroFault?]

theorem SigningOptions.fault?_eq_none_iff (o : SigningOptions) : o.fault? = none ↔ o.Valid := by
  have hvalid : o.Valid ↔ 0 ∉ o.userIds ∧ o.certificationLevel ≤ 3 ∧
      ∀ t ∈ o.trust, t.level = 1 ∨ t.level = 2 :=
    ⟨fun ⟨hids, hlevel, htrust⟩ => ⟨hids, hlevel, htrust⟩,
      fun ⟨hids, hlevel, htrust⟩ => ⟨hids, hlevel, htrust⟩⟩
  rw [hvalid, fault?, Option.or_eq_none_iff, zeroFault?_eq_none_iff]
  refine and_congr_right fun _ => ?_
  by_cases hlevel : 3 < o.certificationLevel
  · simp [hlevel, Nat.not_le.2 hlevel]
  · cases ht : o.trust with
    | none => simp [Nat.not_lt.1 hlevel]
    | some t =>
      by_cases hboth : t.level = 1 ∨ t.level = 2 <;> simp [hlevel, Nat.not_lt.1 hlevel, hboth]

/-- Revocations and deletions check their selections alike. -/
theorem selectionFault?_eq_none_iff (userId : Nat) (signatures : List Nat) :
    (if userId = 0 then some OptionFault.userIdZero
      else if signatures = [] then some .noSignatures
      else zeroFault? signatures .signatureZero) = none ↔ SelectionValid userId signatures := by
  constructor
  · intro h
    split at h
    · cases h
    · next huser =>
      split at h
      · cases h
      · next hsome => exact ⟨Nat.pos_of_ne_zero huser, hsome, zeroFault?_eq_none_iff.1 h⟩
  · rintro ⟨huser, hsome, hzero⟩
    rw [if_neg (Nat.pos_iff_ne_zero.1 huser), if_neg hsome]
    exact zeroFault?_eq_none_iff.2 hzero

theorem SubkeyOptions.fault?_eq_none_iff (o : SubkeyOptions) : o.fault? = none ↔ o.length ≠ 0 := by
  simp [fault?]

theorem PassphraseOptions.fault?_eq_none_iff (o : PassphraseOptions) (source : Source) :
    o.fault? source = none ↔ o.newPassphrase.isSome = true ∨ source.isInteractive = true := by
  unfold fault?
  cases o.newPassphrase <;> cases source.isInteractive <;> simp

theorem PlainEdit.fault?_eq_none_iff (edit : PlainEdit) : edit.fault? = none ↔ edit.Valid := by
  cases edit with
  | sign o => exact o.fault?_eq_none_iff
  | revokeSignature o => exact selectionFault?_eq_none_iff o.userId o.signatures
  | deleteSignature o => exact selectionFault?_eq_none_iff o.userId o.signatures
  | setEnabled enable => exact ⟨fun _ => trivial, fun _ => rfl⟩
  | setOwnerTrust trust => exact ⟨fun _ => trivial, fun _ => rfl⟩
  | setExpiration o => exact zeroFault?_eq_none_iff
  | addSubkey o => exact o.fault?_eq_none_iff

/-- The checks find a fault in exactly those options that make no sense. -/
theorem Edit.fault?_eq_none_iff (edit : Edit) (source : Source) :
    edit.fault? source = none ↔ edit.Valid source := by
  cases edit with
  | plain edit => exact edit.fault?_eq_none_iff
  | changePassphrase o => exact o.fault?_eq_none_iff source

instance (edit : Edit) (source : Source) : Decidable (edit.Valid source) :=
  decidable_of_iff _ (edit.fault?_eq_none_iff source)

/-! ## What a turn can fail with -/

theorem EditKind.Replies.failure {σ : Type} {kind : EditKind} {e : Event} {s : σ} {r : σ × Reply}
    (h : kind.Replies e s r) {f : Failure} (hf : r.2.outcome = .error f) :
    kind = .sign ∧ e.status = .alreadySigned ∧ f = .alreadySigned (e.args.getD "") := by
  cases h with
  | answered _ _ ho _ => rw [hf] at ho; cases ho
  | failed hkind hs hr => rw [hr] at hf; exact ⟨hkind, hs, (Except.error.inj hf).symm⟩
  | passedOver _ _ hr => rw [hr] at hf; cases hf

theorem PassphraseChange.failure_advise (p : PassphraseChange) {e : Event} {f : Failure}
    (h : (p.advise e).2.outcome = .error f) :
    e.status = .missingPassphrase ∧ f = .missingPassphrase := by
  unfold advise at h
  split at h
  · cases h
  · next hs =>
    simp only at h
    split at h
    · exact ⟨hs, (Except.error.inj h).symm⟩
    · cases h
  · cases h

/-- A turn fails in two ways only: something that is to be signed is signed already,
    or too many passphrases are missing when one is to be changed. -/
theorem Session.failure_respond (s : Session) {e : Event} {f : Failure}
    (h : (s.respond e).2.outcome = .error f) :
    (s.progress.kind = .sign ∧ e.status = .alreadySigned ∧ f = .alreadySigned (e.args.getD "")) ∨
      (s.progress.kind = .passphrase ∧ e.status = .missingPassphrase ∧ f = .missingPassphrase) := by
  cases hask : e.asksPassphrase with
  | true => rw [s.outcome_respond hask] at h; cases h
  | false =>
    rw [s.respond_of_not_asksPassphrase hask] at h
    obtain ⟨p | p, c⟩ := s
    · simp only [Progress.respond] at h
      split at h
      · -- the passphrase side of a plain edit takes advisories in silence
        cases h
      · exact Or.inl ((p.replies e).failure h)
    · simp only [Progress.respond] at h
      split at h
      · exact Or.inr ⟨rfl, p.failure_advise h⟩
      · exact Or.inl ((p.replies_answer e).failure h)

/-- No turn finds fault with the options. -/
theorem Session.outcome_ne_invalidOptions (s : Session) (e : Event) (fault : OptionFault) :
    (s.respond e).2.outcome ≠ .error (.invalidOptions fault) := fun h => by
  rcases s.failure_respond h with ⟨-, -, hf⟩ | ⟨-, -, hf⟩ <;> cases hf

/-! ## What an edit reports -/

/-- A failure is put down to the options only if it was one of the options. -/
theorem eq_of_explain_eq_invalidOptions {r : Record} {f : Failure} {fault : OptionFault}
    (h : explain r f = .invalidOptions fault) : f = .invalidOptions fault := by
  rcases explain_cases r f with hf | hf | ⟨_, _, hf⟩
  · rw [← hf, h]
  · rw [h] at hf; cases hf
  · rw [h] at hf; cases hf

/-- The outcome is not a fault in the options. -/
def BlamesNoOptions (outcome : Except Failure Unit) : Prop :=
  ∀ fault, outcome ≠ .error (.invalidOptions fault)

/-- Once a session is started, only its engine can find fault with the options. -/
theorem Editor.result_edit_invalidOptions (ed : Editor) (engine : Session → Course)
    (fingerprint : String) (edit : Edit) (h : edit.fault? ed.source = none)
    (hengine : BlamesNoOptions (engine (ed.session fingerprint edit)).outcome) :
    BlamesNoOptions (ed.edit engine fingerprint edit).2.result := by
  intro fault hresult
  rcases (ed.result_edit_eq_error_iff engine fingerprint edit h).1 hresult with
    ⟨f, hf, hexplain⟩ | ⟨-, -, hfault⟩
  · exact hengine fault (by rw [hf, eq_of_explain_eq_invalidOptions hexplain])
  · cases hfault

/-- The failure is one of a turn, of the pipe or of the child's ending. -/
def Failure.ofSession : Failure → Bool
  | alreadySigned _ | missingPassphrase | aborted | backend _ | io _ => true
  | badPassphrase .. | canceled | customizationIgnored | invalidOptions _ | backendNotFound => false

theorem Ending.ofSession_outcome {ending : Ending} {f : Failure}
    (h : ending.outcome = .error f) : f.ofSession = true := by
  cases ending with
  | exit code =>
    simp only [outcome] at h
    split at h
    · cases h
    · cases h; rfl
  | signal => cases h; rfl

theorem Session.ofSession_failure? (s : Session) {e : Event} {f : Failure}
    (h : (s.turn e).failure? = some f) : f.ofSession = true := by
  unfold Turn.failure? Reply.failure? at h
  split at h
  · next ho =>
    cases h
    rcases s.failure_respond ho with ⟨-, -, rfl⟩ | ⟨-, -, rfl⟩ <;> rfl
  · cases h; rfl
  · cases h

/-- A session with the backend fails by a turn, by the pipe, or as the child
    ends. -/
theorem Backend.ofSession_outcome (b : Backend) (child : Option Child) (fingerprint : String)
    (s : Session) {f : Failure}
    (h : (b.conduct child fingerprint s).course.outcome = .error f) : f.ofSession = true := by
  cases child with
  | none => cases h; rfl
  | some child =>
    cases hstart : canPass (b.arguments fingerprint) with
    | false => simp only [conduct, hstart] at h; cases h; rfl
    | true =>
      rw [b.course_conduct child fingerprint s hstart] at h
      simp only at h
      cases hx : (converse child.takes s [] (Wire.lines child.output)).failure with
      | none => rw [hx] at h; exact Ending.ofSession_outcome h
      | some g =>
        rw [hx] at h
        cases h
        obtain ⟨events, -, -, -, hbroken⟩ :=
          converse_stops child.takes s [] (Wire.lines child.output)
        -- a conversation is broken off by the pipe, or by a turn that fails
        rcases hbroken _ hx with rfl | ⟨t, ht, hfail⟩
        · rfl
        · obtain ⟨earlier, e, later, -, rfl⟩ := Session.mem_turns ht
          exact Session.ofSession_failure? _ hfail

/-- The backend does not find fault with the options. -/
theorem Backend.outcome_blamesNoOptions (b : Backend) (child : Option Child)
    (fingerprint : String) (s : Session) :
    BlamesNoOptions (b.conduct child fingerprint s).course.outcome := by
  intro fault h
  cases b.ofSession_outcome child fingerprint s h

/-- **Misuse is rejected before anything happens, and nothing else is.**  An engine is
    started exactly if the options make sense.  Otherwise the caller is told of a
    fault, and that is all: the editor is left as it was, with its source and with
    the records of the keys and the refusals in them, no request is made and nothing
    is noted.  The backend, too, is started exactly if the options make sense, and an
    edit through it fails for its options exactly if they do not; for no event
    makes a session find fault with them. -/
theorem misuse_is_rejected_first (ed : Editor) (fingerprint : String) (edit : Edit) :
    (∀ engine,
      let x := ed.edit engine fingerprint edit
      (x.2.started = true ↔ edit.Valid ed.source) ∧
      (edit.Valid ed.source →
        x = ed.conclude fingerprint edit.kind (engine (ed.session fingerprint edit))) ∧
      (¬ edit.Valid ed.source →
        x.1 = ed ∧ x.2.record = ed.keyring.record fingerprint ∧ x.2.turns = [] ∧
          x.2.requests = [] ∧ x.2.notes = [] ∧
          ∃ fault, edit.fault? ed.source = some fault ∧
            x.2.result = .error (.invalidOptions fault))) ∧
    (∀ (b : Backend) child,
      let x := b.edit child ed fingerprint edit
      (x.2.2.isSome = true ↔ edit.Valid ed.source) ∧
        ((∃ fault, x.2.1.result = .error (.invalidOptions fault)) ↔ ¬ edit.Valid ed.source)) ∧
    ∀ events, ∀ t ∈ (ed.session fingerprint edit).turns events,
      ∀ fault, t.reply.outcome ≠ .error (.invalidOptions fault) := by
  rw [← edit.fault?_eq_none_iff ed.source]
  refine ⟨fun engine => ?_, fun b child => ?_, fun events t ht fault => ?_⟩
  · unfold Editor.edit
    cases hfault : edit.fault? ed.source with
    | none => exact ⟨⟨fun _ => rfl, fun _ => rfl⟩, fun _ => rfl, fun h => absurd rfl h⟩
    | some fault =>
      exact ⟨⟨nofun, nofun⟩, nofun, fun _ => ⟨rfl, rfl, rfl, rfl, rfl, fault, rfl, rfl⟩⟩
  · intro x
    have hx := b.edit_eq child ed fingerprint edit
    cases hfault : edit.fault? ed.source with
    | none =>
      have hresult : BlamesNoOptions x.2.1.result := by
        rw [congrArg (·.2.result) hx]
        exact ed.result_edit_invalidOptions (fun s => (b.conduct child fingerprint s).course)
          fingerprint edit hfault (b.outcome_blamesNoOptions child fingerprint _)
      refine ⟨⟨fun _ => rfl, fun _ => ?_⟩, ?_, fun h => absurd rfl h⟩
      · simp [x, Backend.edit, hfault]
      · rintro ⟨fault, h⟩
        exact absurd h (hresult fault)
    | some fault =>
      have hedit : x = (ed, ed.rejection fingerprint fault, none) := by
        simp only [x, Backend.edit, hfault]
      rw [hedit]
      exact ⟨iff_of_false (by simp) (by simp), fun _ => by simp, fun _ => ⟨fault, rfl⟩⟩
  · obtain ⟨earlier, e, later, -, rfl⟩ := Session.mem_turns ht
    exact Session.outcome_ne_invalidOptions _ e fault

end KeyDialogue
