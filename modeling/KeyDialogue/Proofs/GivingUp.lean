/-
  Key dialogue — when a change of passphrase gives up.

  The backend reports each time that a passphrase is missing.  The edit counts the
  reports, and gives up at the third one and at those after it.  The count begins anew
  with a passphrase that is accepted, and with one that is given.  It is kept in 32 bits,
  and so begins anew of itself at the `2 ^ 32`-th report in a row; to get there, an engine
  has to go on after nearly as many failures.

  * `missingReports` are the reports that count after some turns;
    `Session.missing_after`: the edit has counted just these, modulo `2 ^ 32`;
  * `Session.outcome_report`: a report is given up on if it is the third one that counts,
    or a later one; `Session.outcome_report_in_a_row`: if there are only reports;
  * `Session.missingReports_le_of_no_failure`: up to the first failure there are no more
    than three;
  * `gives_up_at_third_report`: the statement for whole sessions;
  * `questions_start_the_count_anew`: an empty passphrase is a passphrase that is given.
    So who gives nothing else is asked for one again and again
    (`empty_passphrases_never_end`).
-/
import KeyDialogue.Proofs.Product
import KeyDialogue.Proofs.Slots
import KeyDialogue.Proofs.Validity
import Mathlib.Algebra.Group.Nat.Defs
import Mathlib.Data.List.DropRight

namespace KeyDialogue

/-! ## Counting since -/

/-- How many elements count that come after the last one with which the count begins
    anew. -/
def countSince {α : Type} (anew counts : α → Bool) (l : List α) : ℕ :=
  (l.rtakeWhile fun a => !anew a).countP counts

theorem countSince_nil {α : Type} (anew counts : α → Bool) : countSince anew counts [] = 0 := by
  simp [countSince]

theorem countSince_append_singleton {α : Type} (anew counts : α → Bool) (l : List α) (a : α) :
    countSince anew counts (l ++ [a]) =
      if anew a then 0 else countSince anew counts l + if counts a then 1 else 0 := by
  rw [countSince, List.rtakeWhile_concat]
  cases h : anew a with
  | true => rfl
  | false => simp [countSince, List.countP_append, List.countP_singleton]

/-! ## Reports of a missing passphrase -/

/-- The event reports that a passphrase is missing. -/
def Event.reportsMissing (e : Event) : Bool := e.status == .missingPassphrase

/-- The count of missing passphrases begins anew with the turn: a passphrase is
    accepted, or one is given. -/
def Turn.beginsAnew (t : Turn) : Bool := t.event.isAcceptance || t.secret?.isSome

/-- The reports of a missing passphrase that count after some turns. -/
def missingReports (turns : List Turn) : ℕ :=
  countSince Turn.beginsAnew (fun t => t.event.reportsMissing) turns

theorem Event.reportsMissing_of_not_isAdvisory {e : Event} (h : e.status.isAdvisory = false) :
    e.reportsMissing = false := by
  cases hs : e.status <;> simp_all [reportsMissing, Status.isAdvisory]

/-- The reports that an edit has counted. -/
def Progress.missing : Progress → UInt32
  | plain _ => 0
  | passphrase p => p.missing

/-! ## One turn -/

namespace PassphraseChange
variable (p : PassphraseChange) {e : Event}

theorem missing_answer : (p.answer e).1.missing = p.missing := by
  unfold answer; split <;> rfl

theorem missing_advise :
    (p.advise e).1.missing =
      if e.isAcceptance then 0 else p.missing + if e.reportsMissing then 1 else 0 := by
  unfold advise; split
  · next hs => simp [Event.isAcceptance, hs]
  · next hs =>
    simp only; split <;> simp [Event.isAcceptance, Event.reportsMissing, hs]
  · simp_all [Event.isAcceptance, Event.reportsMissing]

theorem outcome_advise (hs : e.status = .missingPassphrase) :
    (p.advise e).2.outcome =
      if missingLimit ≤ p.missing + 1 then .error .missingPassphrase else .ok .nothing := by
  by_cases hlimit : missingLimit ≤ p.missing + 1 <;>
    simp [advise, hs, hlimit, Reply.nothing, Reply.answer]

/-- Whether a count has reached the limit is told by what 32 bits hold of it. -/
theorem missingLimit_le_ofNat_iff {n : ℕ} : missingLimit ≤ .ofNat n ↔ 3 ≤ n % 2 ^ 32 := by
  rw [UInt32.le_iff_toNat_le, UInt32.toNat_ofNat']
  rfl

end PassphraseChange

namespace Session
variable (s : Session) {e : Event}

/-- Who breaks off at a refusal gives a passphrase to every question without one. -/
theorem pass_cases (hr : s.progress.refusal = .abort) :
    (s.pass.1.record.declined = true ∧ s.pass.2.2 = .abort) ∨
      (s.pass.1.record.declined = false ∧ ∃ secret, s.pass.2.2 = .secret secret) := by
  cases hd : s.custody.record.declined with
  | true => rw [s.pass_of_declined hd, hr]; exact Or.inl ⟨hd, rfl⟩
  | false =>
    cases hs : s.progress.slot with
    | inHand secret => rw [s.pass_of_inHand hd hs]; exact Or.inr ⟨hd, secret, rfl⟩
    | source purpose =>
      rcases ho : s.custody.source.obtain (s.custody.record.request purpose) with ⟨reply, source⟩
      rw [s.pass_of_source hd hs ho, hr]
      cases reply with
      | none => exact Or.inl ⟨rfl, rfl⟩
      | some secret => exact Or.inr ⟨rfl, secret, rfl⟩

variable {p : PassphraseChange} (hp : s.progress = .passphrase p)
include hp

/-- What a turn makes of the count. -/
theorem missing_respond :
    (s.respond e).1.progress.missing =
      if (s.turn e).beginsAnew then 0
      else s.progress.missing + if e.reportsMissing then 1 else 0 := by
  cases h : e.asksPassphrase with
  | true =>
    have ha := Event.isAdvisory_of_asksPassphrase h
    have hr : s.progress.refusal = .abort := by rw [hp]; rfl
    rw [s.progress_respond_of_asksPassphrase h, Event.reportsMissing_of_not_isAdvisory ha, hp]
    have hsecret : (s.turn e).beginsAnew = (s.turn e).secret?.isSome := by
      rw [Turn.beginsAnew, show (s.turn e).event = e from rfl,
        Event.isAcceptance_of_not_isAdvisory ha, Bool.false_or]
    have hanswer : (s.turn e).reply.outcome = .ok s.pass.2.2 := s.outcome_respond h
    rcases s.pass_cases hr with ⟨hd, ho⟩ | ⟨hd, secret, ho⟩
    · simp [hsecret, Turn.secret?, hanswer, ho, hd, Progress.pass, Progress.missing]
    · simp [hsecret, Turn.secret?, hanswer, ho, hd, Progress.pass, Progress.missing]
  | false =>
    have hopen : (s.turn e).beginsAnew = e.isAcceptance := by
      rw [Turn.beginsAnew, Turn.secret?_of_open (s.respond_open h), Option.isSome_none,
        Bool.or_false]
      rfl
    rw [hopen, s.respond_of_not_asksPassphrase h, hp]
    show ((Progress.passphrase p).respond e).1.missing = _
    cases ha : e.status.isAdvisory with
    | true => simp only [Progress.respond, ha]; exact p.missing_advise
    | false =>
      rw [Event.isAcceptance_of_not_isAdvisory ha, Event.reportsMissing_of_not_isAdvisory ha]
      simp only [Progress.respond, ha, Bool.false_eq_true, if_false, UInt32.add_zero]
      exact p.missing_answer

/-- A report is given up on if two were counted before it, and taken in silence
    otherwise. -/
theorem outcome_respond_report (hs : e.status = .missingPassphrase) :
    (s.turn e).reply.outcome =
      if PassphraseChange.missingLimit ≤ s.progress.missing + 1 then .error .missingPassphrase
      else .ok .nothing := by
  have hask : e.asksPassphrase = false := by simp [Event.asksPassphrase, hs]
  have hadvisory : e.status.isAdvisory = true := by rw [hs]; rfl
  have hreply : (s.turn e).reply = (p.advise e).2 := by
    rw [turn, s.respond_of_not_asksPassphrase hask, hp, Progress.respond]
    simp only [hadvisory, if_true]
    rfl
  rw [hreply, hp, Progress.missing, p.outcome_advise hs]

end Session

/-! ## Whole sessions -/

namespace Session

/-- What a turn makes of the reports that count. -/
theorem missingReports_append (s : Session) (before : List Event) (e : Event) :
    missingReports (s.turns (before ++ [e])) =
      if ((s.after before).turn e).beginsAnew then 0
      else missingReports (s.turns before) + if e.reportsMissing then 1 else 0 := by
  rw [turns_append, turns_cons, turns_nil, missingReports, countSince_append_singleton]
  rfl

/-- Only reports, acceptances and passphrases that are given bear on the count. -/
theorem missingReports_append_singleton (s : Session) (before : List Event) {e : Event}
    (haccepted : e.status ≠ .goodPassphrase)
    (hgiven : ∀ text, ((s.after before).turn e).reply.outcome ≠ .ok (.secret text)) :
    missingReports (s.turns (before ++ [e])) =
      missingReports (s.turns before) + if e.status = .missingPassphrase then 1 else 0 := by
  have hgoes : ((s.after before).turn e).beginsAnew = false := by
    have hsecret : ((s.after before).turn e).secret? = none := by
      unfold Turn.secret?
      split
      · next text ho => exact absurd ho (hgiven text)
      · rfl
    have hevent : ((s.after before).turn e).event = e := rfl
    simp [Turn.beginsAnew, hsecret, hevent, Event.isAcceptance, haccepted]
  rw [missingReports_append, hgoes]
  simp [Event.reportsMissing]

theorem missingReports_append_report (s : Session) (before : List Event) {e : Event}
    (hs : e.status = .missingPassphrase) :
    missingReports (s.turns (before ++ [e])) = missingReports (s.turns before) + 1 := by
  have hgiven : ∀ text, ((s.after before).turn e).reply.outcome ≠ .ok (.secret text) := by
    intro text ho
    have hask := asksPassphrase_of_outcome _ ho (Or.inl ⟨text, rfl⟩)
    simp [Event.asksPassphrase, hs] at hask
  rw [missingReports_append_singleton s before (by simp [hs]) hgiven, if_pos hs]

variable (today : Date) (c : Custody) (o : PassphraseOptions)

/-- A change of passphrase has counted the reports that count, in 32 bits. -/
theorem missing_after (events : List Event) :
    let s := (Edit.changePassphrase o).session today c
    (s.after events).progress.missing = .ofNat (missingReports (s.turns events)) := by
  intro s
  induction events using List.reverseRecOn with
  | nil => rfl
  | append_singleton before e ih =>
    obtain ⟨missing, hp⟩ := progress_after_change today c o before
    rw [after_append, after_cons, after_nil, missing_respond _ hp, ih, missingReports_append]
    cases ((s.after before).turn e).beginsAnew <;> cases e.reportsMissing <;>
      simp [UInt32.ofNat_add]

/-- A change of passphrase gives up at the third report that counts, and takes the ones
    before it in silence. -/
theorem outcome_report (before : List Event) {e : Event} (hs : e.status = .missingPassphrase) :
    let s := (Edit.changePassphrase o).session today c
    ((s.after before).turn e).reply.outcome =
      if 3 ≤ missingReports (s.turns (before ++ [e])) % 2 ^ 32 then .error .missingPassphrase
      else .ok .nothing := by
  intro s
  obtain ⟨missing, hp⟩ := progress_after_change today c o before
  have hcount : (s.after before).progress.missing + 1 =
      .ofNat (missingReports (s.turns (before ++ [e]))) := by
    rw [missing_after today c o before, missingReports_append_report s before hs, UInt32.ofNat_add]
    rfl
  rw [outcome_respond_report _ hp hs, hcount]
  simp only [PassphraseChange.missingLimit_le_ofNat_iff]

/-- If there are only reports, all are given up on but those that are the first or the
    second one in 32 bits, or that bring the count back to zero. -/
theorem outcome_report_in_a_row (n : ℕ) :
    let s := (Edit.changePassphrase o).session today c
    let report : Event := ⟨.missingPassphrase, none⟩
    ((s.after (List.replicate n report)).turn report).reply.outcome =
      if 3 ≤ (n + 1) % 2 ^ 32 then .error .missingPassphrase else .ok .nothing := by
  intro s report
  have hcount (n : ℕ) : missingReports (s.turns (List.replicate n report)) = n := by
    induction n with
    | zero => rfl
    | succ n ih => rw [List.replicate_succ', missingReports_append_report s _ rfl, ih]
  rw [outcome_report today c o _ rfl, ← List.replicate_succ', hcount]

/-- A change of passphrase gives up at a report that is the third one or a later one in
    32 bits. -/
theorem gives_up_iff (before : List Event) (e : Event) :
    let s := (Edit.changePassphrase o).session today c
    ((s.after before).turn e).reply.outcome = .error .missingPassphrase ↔
      e.status = .missingPassphrase ∧ 3 ≤ missingReports (s.turns (before ++ [e])) % 2 ^ 32 := by
  intro s
  constructor
  · intro h
    rcases failure_respond _ h with ⟨-, -, hf⟩ | ⟨-, hs, -⟩
    · cases hf
    · rw [outcome_report today c o before hs] at h
      split at h
      · next hlimit => exact ⟨hs, hlimit⟩
      · cases h
  · rintro ⟨hs, hlimit⟩
    rw [outcome_report today c o before hs, if_pos hlimit]

end Session

/-- The source answers every request, and always by the same secret. -/
inductive Source.AlwaysGives (secret : String) : Source → Prop where
  | stored : AlwaysGives secret (.stored secret)
  | callbacks {reply : List Request → Request → Option String} (asked : List Request)
      (h : ∀ asked r, reply asked r = some secret) : AlwaysGives secret (.callbacks reply asked)

namespace Source.AlwaysGives
variable {secret : String} {source : Source} (h : source.AlwaysGives secret)
include h

theorem obtain_eq (r : Request) :
    (source.obtain r).1 = some secret ∧ (source.obtain r).2.AlwaysGives secret := by
  cases h with
  | stored => exact ⟨rfl, .stored⟩
  | callbacks asked h => exact ⟨h asked r, .callbacks _ h⟩

theorem after (requests : List Request) : (source.after requests).AlwaysGives secret := by
  induction requests generalizing source with
  | nil => exact h
  | cons r rest ih => exact ih (h.obtain_eq r).2

theorem declinesAny_eq_false (requests : List Request) :
    source.declinesAny requests = false := by
  induction requests generalizing source with
  | nil => rfl
  | cons r rest ih =>
    obtain ⟨hreply, hnext⟩ := h.obtain_eq r
    have hrest : (((source.obtain r).2.replies rest).any Option.isNone) = false := ih hnext
    simp [Source.declinesAny, Source.replies, hreply, hrest]

end Source.AlwaysGives

namespace Editor
variable (ed : Editor) (fingerprint : String) (o : PassphraseOptions) {secret : String}
  (hgives : ed.source.AlwaysGives secret)
include hgives

/-- Until a passphrase is accepted, every question for one is answered by the secret of
    the source. -/
theorem outcome_of_asksPassphrase (before : List Event)
    (hnone : ∀ g ∈ before, g.status ≠ .goodPassphrase) {e : Event} (h : e.asksPassphrase = true) :
    (((ed.session fingerprint (.changePassphrase o)).after before).turn e).reply.outcome =
      .ok (.secret secret) := by
  have haccepted : before.any Event.isAcceptance = false := by
    simpa [Event.isAcceptance] using hnone
  have hslot := ed.slot_after_session fingerprint (.changePassphrase o) before
  rw [haccepted] at hslot
  have hdeclined := ed.declined_after_session fingerprint (.changePassphrase o) before
  rw [hgives.declinesAny_eq_false] at hdeclined
  have hrefusal := ed.refusal_after_session fingerprint (.changePassphrase o) before
  have hsource : ((ed.session fingerprint (.changePassphrase o)).after before).custody.source =
      ed.source.after ((ed.session fingerprint (.changePassphrase o)).requests before) := by
    rw [Session.custody_after]; rfl
  rw [(Session.asksSource_of_slot _ h hdeclined hrefusal hslot).outcome, hsource,
    ((hgives.after _).obtain_eq _).1]
  rfl

/-- Until a passphrase is accepted, the reports that count are those since the last
    question for one. -/
theorem missingReports_eq_countSince (events : List Event)
    (hnone : ∀ g ∈ events, g.status ≠ .goodPassphrase) :
    missingReports ((ed.session fingerprint (.changePassphrase o)).turns events) =
      countSince Event.asksPassphrase Event.reportsMissing events := by
  induction events using List.reverseRecOn with
  | nil => rfl
  | append_singleton before e ih =>
    have hbefore : ∀ g ∈ before, g.status ≠ .goodPassphrase := fun g hg =>
      hnone g (List.mem_append_left _ hg)
    have haccepted : e.isAcceptance = false := by
      simpa [Event.isAcceptance] using hnone e (by simp)
    have hanew : (((ed.session fingerprint (.changePassphrase o)).after before).turn e).beginsAnew =
        e.asksPassphrase := by
      have hevent : (((ed.session fingerprint (.changePassphrase o)).after before).turn e).event =
          e := rfl
      rw [Turn.beginsAnew, hevent, haccepted, Bool.false_or]
      cases h : e.asksPassphrase with
      | false => rw [Turn.secret?_of_open (Session.respond_open _ h)]; rfl
      | true =>
        have hsecret := ed.outcome_of_asksPassphrase fingerprint o hgives before hbefore h
        rw [Turn.secret?, hsecret]
        rfl
    rw [Session.missingReports_append, hanew, countSince_append_singleton, ← ih hbefore]

end Editor

/-- A round with a backend that asks for the passphrase and does not find one in the
    answer. -/
def missingRound : List Event := [⟨.getHidden, some "passphrase.enter"⟩, ⟨.missingPassphrase, none⟩]

/-- After some rounds, or in the midst of one, at most one report follows the last
    question. -/
theorem countSince_missingRounds (rounds : ℕ) {events : List Event}
    (h : events <+: (List.replicate rounds missingRound).flatten) :
    countSince Event.asksPassphrase Event.reportsMissing events ≤ 1 := by
  induction rounds with
  | zero =>
    have hnil : events = [] := by simpa using h
    rw [hnil, countSince_nil]
    exact Nat.zero_le 1
  | succ n ih =>
    have hasked (earlier : List Event) : countSince Event.asksPassphrase Event.reportsMissing
        (earlier ++ [⟨.getHidden, some "passphrase.enter"⟩]) = 0 := by
      rw [countSince_append_singleton]; rfl
    have hsplit : (List.replicate (n + 1) missingRound).flatten =
        ((List.replicate n missingRound).flatten ++ [⟨.getHidden, some "passphrase.enter"⟩]) ++
          [⟨.missingPassphrase, none⟩] := by
      simp [List.replicate_succ', missingRound]
    rw [hsplit] at h
    -- the last report was delivered, or only the last question, or neither
    rcases List.prefix_concat_iff.1 h with rfl | h
    · rw [countSince_append_singleton, hasked]
      decide
    · rcases List.prefix_concat_iff.1 h with rfl | h
      · rw [hasked]
        exact Nat.zero_le 1
      · exact ih h

theorem eq_of_mem_missingRounds {rounds : ℕ} {e : Event}
    (h : e ∈ (List.replicate rounds missingRound).flatten) :
    e = ⟨.getHidden, some "passphrase.enter"⟩ ∨ e = ⟨.missingPassphrase, none⟩ := by
  obtain ⟨round, hround, he⟩ := List.mem_flatten.1 h
  rw [List.eq_of_mem_replicate hround] at he
  exact List.mem_pair.1 he

/-- No turn of these rounds fails. -/
theorem Editor.failure?_missingRounds (ed : Editor) (fingerprint : String)
    (o : PassphraseOptions) {secret : String} (hgives : ed.source.AlwaysGives secret) (rounds : ℕ) :
    ∀ t ∈ (ed.session fingerprint (.changePassphrase o)).turns
      (List.replicate rounds missingRound).flatten, t.failure? = none := by
  intro t ht
  obtain ⟨before, e, after, hevents, rfl⟩ := Session.mem_turns ht
  have hbefore : before ++ [e] <+: (List.replicate rounds missingRound).flatten :=
    ⟨after, by simp [hevents]⟩
  have hnone : ∀ g ∈ before ++ [e], g.status ≠ .goodPassphrase := by
    intro g hg
    rcases eq_of_mem_missingRounds (hbefore.subset hg) with rfl | rfl <;> decide
  have he : e ∈ (List.replicate rounds missingRound).flatten := hbefore.subset (by simp)
  rcases eq_of_mem_missingRounds he with rfl | rfl
  · have hanswer := ed.outcome_of_asksPassphrase fingerprint o hgives before
      (fun g hg => hnone g (List.mem_append_left _ hg))
      (e := ⟨.getHidden, some "passphrase.enter"⟩) rfl
    rw [Turn.failure?, Reply.failure?, hanswer]
  · have hcount : ¬ 3 ≤ missingReports ((ed.session fingerprint (.changePassphrase o)).turns
        (before ++ [⟨.missingPassphrase, none⟩])) % 2 ^ 32 := by
      rw [ed.missingReports_eq_countSince fingerprint o hgives _ hnone]
      have hle := countSince_missingRounds rounds hbefore
      omega
    have hanswer : (((ed.session fingerprint (.changePassphrase o)).after before).turn
        ⟨.missingPassphrase, none⟩).reply.outcome = .ok .nothing :=
      (Session.outcome_report ed.today ⟨(ed.keyring.record fingerprint).begin, ed.source⟩ o before
        rfl).trans (if_neg hcount)
    rw [Turn.failure?, Reply.failure?, hanswer]

/-- **Questions start the count of missing passphrases anew.**  If the source gives
    one and the same secret to every request, be it empty or not, then a change of
    passphrase answers this secret to every question until one is accepted, and it
    gives up exactly from the third report since the last question on, as long as there
    are fewer than `2 ^ 32` of them.  So a backend that asks again after every report is
    never given up, in however many rounds. -/
theorem questions_start_the_count_anew (ed : Editor) (fingerprint : String)
    (o : PassphraseOptions) {secret : String} (hgives : ed.source.AlwaysGives secret) :
    let s := ed.session fingerprint (.changePassphrase o)
    (∀ before e, (∀ g ∈ before, g.status ≠ .goodPassphrase) →
      let outcome := ((s.after before).turn e).reply.outcome
      (e.asksPassphrase = true → outcome = .ok (.secret secret)) ∧
      let count := countSince Event.asksPassphrase Event.reportsMissing (before ++ [e])
      (count < 2 ^ 32 →
        (outcome = .error .missingPassphrase ↔ e.status = .missingPassphrase ∧ 3 ≤ count))) ∧
    ∀ rounds, ∀ t ∈ s.turns (List.replicate rounds missingRound).flatten, t.failure? = none := by
  intro s
  refine ⟨fun before e hnone => ⟨?_, fun hlt => ?_⟩,
    ed.failure?_missingRounds fingerprint o hgives⟩
  · exact ed.outcome_of_asksPassphrase fingerprint o hgives before hnone
  · refine (Session.gives_up_iff ed.today _ o before e).trans (and_congr_right fun hs => ?_)
    have hall : ∀ g ∈ before ++ [e], g.status ≠ .goodPassphrase := by
      intro g hg
      rcases List.mem_append.1 hg with hg | hg
      · exact hnone g hg
      · rw [List.mem_singleton.1 hg, hs]; decide
    show 3 ≤ missingReports (s.turns (before ++ [e])) % 2 ^ 32 ↔ _
    rw [ed.missingReports_eq_countSince fingerprint o hgives _ hall, Nat.mod_eq_of_lt hlt]

/-- The third report in a row is given up on. -/
theorem third_report_in_a_row_is_given_up_on :
    let ed : Editor :=
      { source := .stored ""
        today := ⟨2026, 10, 19, by decide, by decide, by decide, by decide⟩ }
    let before : List Event :=
      [⟨.getLine, some "keyedit.prompt"⟩, ⟨.getHidden, some "passphrase.enter"⟩,
        ⟨.missingPassphrase, none⟩, ⟨.missingPassphrase, none⟩]
    ed.source.AlwaysGives "" ∧
      (((ed.session "F" (.changePassphrase { newPassphrase := some "new" })).after before).turn
        ⟨.missingPassphrase, none⟩).reply.outcome = .error .missingPassphrase := by
  intro ed before
  have hgives : ed.source.AlwaysGives "" := .stored
  have h := questions_start_the_count_anew ed "F" { newPassphrase := some "new" } hgives
  exact ⟨hgives, ((h.1 before ⟨.missingPassphrase, none⟩ (by decide)).2 (by decide)).2 (by decide)⟩

/-- With nothing but empty passphrases, three reports are taken in silence, for there
    was a question before each of them. -/
theorem empty_passphrases_never_end :
    let ed : Editor :=
      { source := .stored ""
        today := ⟨2026, 10, 19, by decide, by decide, by decide, by decide⟩ }
    let events : List Event :=
      ⟨.getLine, some "keyedit.prompt"⟩ :: (List.replicate 3 missingRound).flatten
    let s := ed.session "F" (.changePassphrase { newPassphrase := some "new" })
    ed.source.AlwaysGives "" ∧ (∀ g ∈ events, g.status ≠ .goodPassphrase) ∧
      events.countP Event.reportsMissing = 3 ∧ ∀ t ∈ s.turns events, t.failure? = none := by
  intro ed events s
  exact ⟨.stored, by decide, by decide, by decide⟩

end KeyDialogue
