/-
  Key dialogue — which signatures of a user id are taken.

  While signatures are deleted or revoked, the backend visits the signatures of a user
  id one after the other, by one question for each class of signature.

  * `Edit.Walks` says by which questions an edit is visited and what it selects, and
    `visited` counts the visits, of all classes together (`visited_cons`);
  * `Session.outcome_visit`: a visit is agreed to exactly if its number is selected, so
    the visits that are agreed to are counted by `countP_range_succ_mem`;
  * `Edit.turns_reselect`, `Edit.fault?_reselect`: in what order signatures are selected,
    and how often, does not matter;
  * `selected_signatures_are_taken`: so exactly the selected signatures are taken.
-/
import KeyDialogue.Proofs.Validity
import Mathlib.Data.Finset.Card
import Mathlib.Data.Finset.Dedup

namespace KeyDialogue

/-! ## Visits -/

/-- The edit is visited by the given questions, and selects some of the signatures. -/
inductive Edit.Walks : Edit → List Question → List ℕ → Prop where
  | deletion (o : DeletionOptions) :
    Walks (.plain (.deleteSignature o)) [.deleteValid, .deleteInvalid, .deleteUnknown] o.signatures
  | revocation (o : RevocationOptions) :
    Walks (.plain (.revokeSignature o)) [.revokeOne, .revokeExpired] o.signatures

/-- The event is a visit, by one of the questions. -/
def Event.visits (questions : List Question) (e : Event) : Bool :=
  e.question?.any fun q => q ∈ questions

theorem Event.visits_iff {questions : List Question} {e : Event} :
    e.visits questions = true ↔ ∃ q ∈ questions, e.question? = some q := by
  cases h : e.question? <;> simp [visits, h]

/-- How many signatures were visited. -/
def visited (questions : List Question) (events : List Event) : ℕ :=
  events.countP (Event.visits questions)

@[simp] theorem visited_nil (events : List Event) : visited [] events = 0 := by
  simp [visited, Event.visits_iff]

/-- The visits by one more question count as well. -/
theorem visited_cons {q : Question} {questions : List Question} (hq : q ∉ questions)
    (events : List Event) :
    visited (q :: questions) events = asked q events + visited questions events := by
  induction events using List.reverseRecOn with
  | nil => rfl
  | append_singleton before e ih =>
    have hlast : ∀ qs, visited qs (before ++ [e]) =
        visited qs before + if e.visits qs = true then 1 else 0 := fun qs => by
      simp [visited, List.countP_append, List.countP_singleton]
    rw [hlast, hlast, ih, asked_append_singleton]
    by_cases he : e.question? = some q
    · have hcons : e.visits (q :: questions) = true := Event.visits_iff.2 ⟨q, by simp, he⟩
      have hrest : e.visits questions = false := by simp [Event.visits, he, hq]
      rw [if_pos hcons, if_pos he, if_neg (by simp [hrest])]
      omega
    · have hsame : e.visits (q :: questions) = true ↔ e.visits questions = true := by
        simp only [Event.visits_iff, List.mem_cons]
        constructor
        · rintro ⟨q', rfl | hmem, h⟩
          · exact absurd h he
          · exact ⟨q', hmem, h⟩
        · rintro ⟨q', hmem, h⟩
          exact ⟨q', Or.inr hmem, h⟩
      simp only [if_neg he, hsame]
      omega

namespace Session
variable {edit : Edit} {questions : List Question} {selected : List ℕ}

/-- A visit is agreed to exactly if its number is selected. -/
theorem outcome_visit (h : edit.Walks questions selected) (today : Date) (c : Custody)
    (before : List Event) {e : Event} (hvisit : e.visits questions = true) :
    (((edit.session today c).after before).turn e).reply.outcome =
      .ok (.line (if visited questions before + 1 ∈ selected then "Y" else "N")) := by
  obtain ⟨q, hmem, hq⟩ := Event.visits_iff.1 hvisit
  cases h with
  | deletion o =>
    have hcount : visited [.deleteValid, .deleteInvalid, .deleteUnknown] before =
        asked .deleteValid before + asked .deleteInvalid before + asked .deleteUnknown before := by
      rw [visited_cons (by decide), visited_cons (by decide), visited_cons (by decide), visited_nil]
      omega
    simp only [List.mem_cons, List.not_mem_nil, or_false] at hmem
    rcases hmem with rfl | rfl | rfl <;>
    · rw [outcome_after_plain today c (.deleteSignature o) before hq (by decide), hcount]
      simp [PlainEdit.reached, PlainProgress.respond, Deletion.respond, hq, Deletion.reached,
        SignatureWalk.next, Reply.answer, Answer.yesNo]
  | revocation o =>
    have hcount : visited [.revokeOne, .revokeExpired] before =
        asked .revokeOne before + asked .revokeExpired before := by
      rw [visited_cons (by decide), visited_cons (by decide), visited_nil]
      rfl
    simp only [List.mem_cons, List.not_mem_nil, or_false] at hmem
    rcases hmem with rfl | rfl <;>
    · rw [outcome_after_plain today c (.revokeSignature o) before hq (by decide), hcount]
      simp [PlainEdit.reached, PlainProgress.respond, Revocation.respond, hq, Revocation.reached,
        SignatureWalk.next, Reply.answer, Answer.yesNo]

/-- The outcomes of the visits, in their order. -/
def visitOutcomes (s : Session) (questions : List Question) (events : List Event) :
    List (Except Failure Answer) :=
  ((s.turns events).filter fun t => t.event.visits questions).map fun t => t.reply.outcome

theorem visitOutcomes_eq (h : edit.Walks questions selected) (today : Date) (c : Custody)
    (events : List Event) :
    (edit.session today c).visitOutcomes questions events =
      (List.range (visited questions events)).map fun i =>
        .ok (.line (if i + 1 ∈ selected then "Y" else "N")) := by
  induction events using List.reverseRecOn with
  | nil => rfl
  | append_singleton before e ih =>
    simp only [visitOutcomes] at ih
    cases hvisit : e.visits questions with
    | true =>
      have hcount : visited questions (before ++ [e]) = visited questions before + 1 := by
        simp [visited, hvisit]
      have hlast := outcome_visit h today c before hvisit
      simp only [turn] at hlast
      rw [hcount, List.range_succ, List.map_append, ← ih]
      simp [visitOutcomes, turn, hvisit, hlast]
    | false =>
      have hcount : visited questions (before ++ [e]) = visited questions before := by
        simp [visited, hvisit]
      rw [hcount, ← ih]
      simp [visitOutcomes, turn, hvisit]

end Session

/-! ## How many signatures are taken -/

/-- The numbers up to `n` that are selected are as many as the distinct ones among those
    that are selected, which may be listed in any order and repeatedly. -/
theorem countP_range_succ_mem (selected : List ℕ) (n : ℕ) :
    (List.range n).countP (fun i => i + 1 ∈ selected) =
      (selected.toFinset.filter fun k => 1 ≤ k ∧ k ≤ n).card := by
  induction n with
  | zero =>
    have hempty : (selected.toFinset.filter fun k => 1 ≤ k ∧ k ≤ 0) = ∅ :=
      Finset.filter_false_of_mem fun k _ => by omega
    rw [hempty]
    rfl
  | succ n ih =>
    rw [List.range_succ, List.countP_append, ih, List.countP_singleton]
    by_cases hmem : n + 1 ∈ selected
    · have hinsert : (selected.toFinset.filter fun k => 1 ≤ k ∧ k ≤ n + 1) =
          insert (n + 1) (selected.toFinset.filter fun k => 1 ≤ k ∧ k ≤ n) := by
        ext k
        simp only [Finset.mem_filter, List.mem_toFinset, Finset.mem_insert]
        constructor
        · rintro ⟨hk, hpos, hle⟩
          rcases Nat.lt_or_eq_of_le hle with hlt | rfl
          · exact Or.inr ⟨hk, hpos, by omega⟩
          · exact Or.inl rfl
        · rintro (rfl | ⟨hk, hpos, hle⟩)
          · exact ⟨hmem, by omega, by omega⟩
          · exact ⟨hk, hpos, by omega⟩
      have hnew : n + 1 ∉ selected.toFinset.filter fun k => 1 ≤ k ∧ k ≤ n := by simp
      rw [hinsert, Finset.card_insert_of_notMem hnew]
      simp [hmem]
    · have hsame : (selected.toFinset.filter fun k => 1 ≤ k ∧ k ≤ n + 1) =
          selected.toFinset.filter fun k => 1 ≤ k ∧ k ≤ n := by
        refine Finset.filter_congr fun k hk => ?_
        have hne : k ≠ n + 1 := by rintro rfl; exact hmem (List.mem_toFinset.1 hk)
        omega
      rw [hsame]
      simp [hmem]

/-! ## Selections with the same elements -/

/-- The edit with another list of signatures. -/
def Edit.reselect (edit : Edit) (signatures : List ℕ) : Edit :=
  match edit with
  | .plain (.deleteSignature o) => .plain (.deleteSignature { o with signatures })
  | .plain (.revokeSignature o) => .plain (.revokeSignature { o with signatures })
  | edit => edit

section
variable {edit : Edit} {questions : List Question} {selected selected' : List ℕ}

/-- The walk looks at nothing but which signatures are selected. -/
theorem Edit.turns_reselect (h : edit.Walks questions selected)
    (hsame : ∀ k, k ∈ selected' ↔ k ∈ selected) (today : Date) (c : Custody)
    (events : List Event) :
    ((edit.reselect selected').session today c).turns events =
      (edit.session today c).turns events := by
  cases h with
  | deletion o =>
    refine Session.turns_plain_congr today c (fun before e => ?_) events
    simp only [PlainEdit.reached, PlainProgress.respond, Deletion.respond]
    split <;> simp [Deletion.reached, DeletionOptions.agenda, SignatureWalk.next, hsame]
  | revocation o =>
    refine Session.turns_plain_congr today c (fun before e => ?_) events
    exact Revocation.reply_congr o { o with signatures := selected' } rfl rfl hsame rfl before e

/-- The check of the options does not look at more either. -/
theorem Edit.fault?_reselect (h : edit.Walks questions selected)
    (hsame : ∀ k, k ∈ selected' ↔ k ∈ selected) (source : Source) :
    (edit.reselect selected').fault? source = edit.fault? source := by
  have hnil : selected' = [] ↔ selected = [] := by
    simp only [List.eq_nil_iff_forall_not_mem, hsame]
  have hzero : ∀ fault, zeroFault? selected' fault = zeroFault? selected fault := fun fault => by
    simp [zeroFault?, hsame]
  cases h with
  | deletion o =>
    simp [reselect, fault?, PlainEdit.fault?, DeletionOptions.fault?, hnil, hzero]
  | revocation o =>
    simp [reselect, fault?, PlainEdit.fault?, RevocationOptions.fault?, hnil, hzero]

/-- Signatures are counted from 1, so a session is started only if 0 is not selected. -/
theorem Edit.Walks.zero_not_mem (h : edit.Walks questions selected) {source : Source}
    (hfault : edit.fault? source = none) : 0 ∉ selected := by
  cases h <;> exact ((Edit.fault?_eq_none_iff _ source).1 hfault).signatures

/-- **Exactly the selected signatures are taken.**  Whatever comes between, the visits are
    numbered from 1 over all classes of signatures, and a visit is agreed to if its number
    is selected and to no other one.  So as many are agreed to as there are distinct
    selected numbers among those of the visits; in a session that is started, these are
    all selected numbers up to the number of visits.  A list with the same elements, in
    any order and with any repetitions, is checked alike and leads to the same turns. -/
theorem selected_signatures_are_taken (h : edit.Walks questions selected) (today : Date)
    (c : Custody) :
    let s := edit.session today c
    (∀ before e, e.visits questions = true →
      ((s.after before).turn e).reply.outcome =
        .ok (.line (if visited questions before + 1 ∈ selected then "Y" else "N"))) ∧
    (∀ events,
      let n := visited questions events
      let taken := (s.visitOutcomes questions events).count (.ok (.line "Y"))
      s.visitOutcomes questions events =
          (List.range n).map (fun i => .ok (.line (if i + 1 ∈ selected then "Y" else "N"))) ∧
        taken = (selected.toFinset.filter fun k => 1 ≤ k ∧ k ≤ n).card ∧
        (edit.fault? c.source = none → taken = (selected.toFinset.filter fun k => k ≤ n).card)) ∧
    ∀ selected', (∀ k, k ∈ selected' ↔ k ∈ selected) →
      (edit.reselect selected').fault? c.source = edit.fault? c.source ∧
        ∀ events, ((edit.reselect selected').session today c).turns events = s.turns events := by
  intro s
  have htaken : ∀ events, (s.visitOutcomes questions events).count (.ok (.line "Y")) =
      (selected.toFinset.filter fun k => 1 ≤ k ∧ k ≤ visited questions events).card := by
    intro events
    rw [Session.visitOutcomes_eq h today c events, ← countP_range_succ_mem, List.count,
      List.countP_map]
    refine List.countP_congr fun i _ => ?_
    by_cases hmem : i + 1 ∈ selected <;> simp [hmem]
  refine ⟨fun before e => Session.outcome_visit h today c before, fun events => ?_, ?_⟩
  · refine ⟨Session.visitOutcomes_eq h today c events, htaken events, fun hfault => ?_⟩
    have hzero := h.zero_not_mem hfault
    rw [htaken events]
    congr 1
    refine Finset.filter_congr fun k hk => ⟨And.right, fun hle => ⟨?_, hle⟩⟩
    have hne : k ≠ 0 := by rintro rfl; exact hzero (List.mem_toFinset.1 hk)
    omega
  · intro selected' hsame
    exact ⟨Edit.fault?_reselect h hsame c.source, Edit.turns_reselect h hsame today c⟩

end

/-- Two signatures are selected, one of them twice; three are visited, with other questions
    and an advisory in between. -/
theorem selected_signatures_are_taken_repeated :
    let today : Date := ⟨2026, 10, 19, by decide, by decide, by decide, by decide⟩
    let o : DeletionOptions := { userId := 1, signatures := [3, 1, 3] }
    let edit := Edit.plain (.deleteSignature o)
    let questions : List Question := [.deleteValid, .deleteInvalid, .deleteUnknown]
    let s := edit.session today ⟨{}, .absent⟩
    let events : List Event :=
      [⟨.getLine, some "keyedit.prompt"⟩, ⟨.getBool, some "keyedit.delsig.valid"⟩,
        ⟨.getBool, some "keyedit.delsig.selfsig"⟩, ⟨.getBool, some "keyedit.delsig.unknown"⟩,
        ⟨.userIdHint, some "1111222233334444 Alice"⟩, ⟨.getBool, some "keyedit.delsig.invalid"⟩]
    edit.Walks questions [3, 1, 3] ∧ edit.fault? .absent = none ∧
      s.visitOutcomes questions events =
        [.ok (.line "Y"), .ok (.line "N"), .ok (.line "Y")] ∧
      (s.visitOutcomes questions events).count (.ok (.line "Y")) = 2 ∧
      ((edit.reselect [1, 3]).session today ⟨{}, .absent⟩).turns events = s.turns events := by
  intro today o edit questions s events
  have hwalks : edit.Walks questions [3, 1, 3] := .deletion o
  have hfault : edit.fault? .absent = none := by decide
  obtain ⟨-, htaken, hsame⟩ := selected_signatures_are_taken hwalks today ⟨{}, .absent⟩
  obtain ⟨houtcomes, -, hcount⟩ := htaken events
  refine ⟨hwalks, hfault, houtcomes.trans (by decide), (hcount hfault).trans (by decide), ?_⟩
  exact (hsame [1, 3] (by simp)).2 events

end KeyDialogue
