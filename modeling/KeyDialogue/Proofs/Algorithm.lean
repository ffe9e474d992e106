/-
  Key dialogue — what becomes of a subkey whose algorithm is refused.

  Outside expert mode the backend refuses an algorithm by asking for it again.
  Nothing else tells of the refusal, so the edit counts how often it was asked.

  * `Session.outcome_keyAlgorithm`, `Session.outcome_menu_of_refused`,
    `Session.outcome_saveOkay_of_addition`: what an addition answers to the three
    questions that a refusal bears on, after any events;
  * `Editor.result_addition_iff`: what is reported hangs on how the engine ended, and
    then on the number of times the algorithm was asked for;
  * `refused_algorithm_is_not_saved`: the statement for whole sessions and for
    edits.
-/
import KeyDialogue.Proofs.Script
import KeyDialogue.Proofs.Validity

namespace KeyDialogue

open KeyDialogue.Text

/-! ## Answers -/

namespace Session
variable (today : Date) (c : Custody) (o : SubkeyOptions) (before : List Event) {e : Event}

/-- The algorithm that was wanted is given once. -/
theorem outcome_keyAlgorithm (h : e.question? = some .keyAlgorithm) :
    ((((Edit.plain (.addSubkey o)).session today c).after before).turn e).reply.outcome =
      .ok (.line (if asked .keyAlgorithm before = 0 then numeral o.algorithm else "2")) := by
  rw [outcome_after_plain today c (.addSubkey o) before h (by decide)]
  have hgive : ((SubkeyAddition.reached today o before).respond e).2 =
      (SubkeyAddition.reached today o before).giveAlgorithm.2 := by
    simp only [SubkeyAddition.respond, h]
  show ((SubkeyAddition.reached today o before).respond e).2.outcome = _
  rw [hgive]
  unfold SubkeyAddition.giveAlgorithm
  by_cases hn : asked .keyAlgorithm before = 0
  · have hnot : (SubkeyAddition.reached today o before).algorithmGiven = false := by
      simp [SubkeyAddition.reached, hn]
    rw [hnot, if_pos hn]
    rfl
  · have hgiven : (SubkeyAddition.reached today o before).algorithmGiven = true := by
      simp [SubkeyAddition.reached, Nat.pos_of_ne_zero hn]
    rw [hgiven, if_neg hn]
    rfl

/-- Once the algorithm was refused, nothing follows the command. -/
theorem outcome_menu_of_refused (hrefused : 2 ≤ asked .keyAlgorithm before)
    (h : e.question? = some .menu) :
    let s := (Edit.plain (.addSubkey o)).session today c
    ((s.after before).turn e).reply.outcome =
      .ok (.line (if "addkey" ∈ s.menuLines before then "quit" else "addkey")) := by
  intro s
  have hscript : (Edit.plain (.addSubkey o)).script (asked .keyAlgorithm before) = ["addkey"] := by
    simp [Edit.script, Edit.selection, Edit.commandWord, Edit.saving, hrefused]
  -- the command was given exactly if the menu came up before
  have hcount : (s.menuLines before).count "addkey" = if 0 < asked .menu before then 1 else 0 :=
    count_commandWord (.plain (.addSubkey o)) today c before
  rw [outcome_menu (.plain (.addSubkey o)) today c before h, Edit.scriptLine, hscript]
  cases hm : asked .menu before with
  | zero =>
    have hnot : "addkey" ∉ s.menuLines before := by
      rw [← List.count_eq_zero, hcount, hm]; rfl
    rw [if_neg hnot]
    rfl
  | succ n =>
    have hmem : "addkey" ∈ s.menuLines before := by
      rw [← List.count_pos_iff, hcount, hm]
      exact Nat.one_pos
    rw [if_pos hmem]
    rfl

/-- An addition agrees to save until the algorithm was refused. -/
theorem outcome_saveOkay_of_addition (h : e.question? = some .saveOkay) :
    ((((Edit.plain (.addSubkey o)).session today c).after before).turn e).reply.outcome =
      .ok (.line (if asked .keyAlgorithm before < 2 then "Y" else "N")) := by
  rw [outcome_after_plain today c (.addSubkey o) before h (by decide)]
  show ((SubkeyAddition.reached today o before).respond e).2.outcome = _
  simp only [SubkeyAddition.respond, h]
  by_cases hn : asked .keyAlgorithm before < 2
  · simp [SubkeyAddition.reached, Reply.answer, Answer.yesNo, hn]
  · simp [SubkeyAddition.reached, Reply.answer, Answer.yesNo, hn, Nat.not_lt.1 hn]

/-- An addition knows of the refusal exactly if the algorithm was asked for twice. -/
theorem refused_after (events : List Event) :
    (((Edit.plain (.addSubkey o)).session today c).after events).progress.refused = true ↔
      2 ≤ asked .keyAlgorithm events := by
  rw [progress_after_plain]
  exact decide_eq_true_iff

end Session

/-! ## What is reported -/

namespace Editor
variable (ed : Editor) {engine : Session → Course} (fingerprint : String) (o : SubkeyOptions)

theorem refused_course (h : Conversational engine) :
    let x := engine (ed.session fingerprint (.plain (.addSubkey o)))
    x.session.progress.refused = true ↔
      2 ≤ asked .keyAlgorithm (x.turns.map Turn.event) := by
  intro x
  obtain ⟨events, outcome, hx⟩ := h (ed.session fingerprint (.plain (.addSubkey o)))
  have hturns : x.turns.map Turn.event = events := by
    rw [show x = _ from hx]
    exact Session.map_event_turns _ events
  rw [hturns, show x = _ from hx]
  exact Session.refused_after ed.today _ o events

/-- A refusal is reported exactly if the engine was started, ended the session well
    and asked for the algorithm twice, or if the engine reports it itself. -/
theorem result_addition_iff (h : Conversational engine) :
    let x := engine (ed.session fingerprint (.plain (.addSubkey o)))
    let report := (ed.edit engine fingerprint (.plain (.addSubkey o))).2
    report.result = .error .customizationIgnored ↔ report.started = true ∧
      (x.outcome = .ok () ∧ 2 ≤ asked .keyAlgorithm (x.turns.map Turn.event) ∨
        x.outcome = .error .customizationIgnored) := by
  intro x report
  have hstarted := ed.started_edit_iff engine fingerprint (.plain (.addSubkey o))
  cases hfault : (Edit.plain (.addSubkey o)).fault? ed.source with
  | some fault =>
    have hreport : report = ed.rejection fingerprint fault := by simp [report, edit, hfault]
    rw [hreport]
    constructor
    · intro h; cases h
    · rintro ⟨hnot, -⟩; cases hnot
  | none =>
    have hrefused := ed.refused_course fingerprint o h
    have hresult := ed.result_edit_eq_error_iff engine fingerprint _ hfault
      (f := .customizationIgnored)
    refine hresult.trans ⟨?_, ?_⟩
    · rintro (⟨g, hg, hexplain⟩ | ⟨hok, href, -⟩)
      · obtain rfl := eq_of_explain_eq_customizationIgnored hexplain
        exact ⟨hstarted.2 hfault, Or.inr hg⟩
      · exact ⟨hstarted.2 hfault, Or.inl ⟨hok, hrefused.1 href⟩⟩
    · rintro ⟨-, ⟨hok, hasked⟩ | herror⟩
      · exact Or.inr ⟨hok, hrefused.2 hasked, rfl⟩
      · exact Or.inl ⟨_, herror, rfl⟩

end Editor

/-- **A subkey whose algorithm was refused is not saved.**  The algorithm that was
    wanted is given once, and another one from then on.  Once it was asked for
    twice, nothing but quitting follows the command at the menu, and the edit no
    longer agrees to save, as it did before.  With an engine that does nothing but
    deliver events, the refusal is reported exactly if the engine was started, ended
    the session well and asked for the algorithm twice, or if it reports a refusal
    of its own accord, which the backend does not; every failure of the engine is
    reported as the record explains it. -/
theorem refused_algorithm_is_not_saved (o : SubkeyOptions) :
    let edit := Edit.plain (.addSubkey o)
    (∀ today c before e,
      let s := edit.session today c
      let times := asked .keyAlgorithm before
      let outcome := ((s.after before).turn e).reply.outcome
      (e.question? = some .keyAlgorithm →
        outcome = .ok (.line (if times = 0 then numeral o.algorithm else "2"))) ∧
      (e.question? = some .menu → 2 ≤ times →
        outcome = .ok (.line (if "addkey" ∈ s.menuLines before then "quit" else "addkey"))) ∧
      (e.question? = some .saveOkay →
        outcome = .ok (.line (if times < 2 then "Y" else "N")))) ∧
    (∀ (ed : Editor) engine fingerprint, Conversational engine →
      let x := engine (ed.session fingerprint edit)
      let report := (ed.edit engine fingerprint edit).2
      (report.result = .error .customizationIgnored ↔ report.started = true ∧
        (x.outcome = .ok () ∧ 2 ≤ asked .keyAlgorithm (x.turns.map Turn.event) ∨
          x.outcome = .error .customizationIgnored)) ∧
      (report.started = true →
        ∀ f, x.outcome = .error f → report.result = .error (explain report.record f))) ∧
    ∀ (b : Backend) child (ed : Editor) fingerprint,
      let x := (b.conduct child fingerprint (ed.session fingerprint edit)).course
      let report := (b.edit child ed fingerprint edit).2.1
      report.result = .error .customizationIgnored ↔ report.started = true ∧
        x.outcome = .ok () ∧ 2 ≤ asked .keyAlgorithm (x.turns.map Turn.event) := by
  intro edit
  refine ⟨fun today c before e => ⟨?_, ?_, ?_⟩, ?_, ?_⟩
  · exact Session.outcome_keyAlgorithm today c o before
  · intro hmenu hrefused
    exact Session.outcome_menu_of_refused today c o before hrefused hmenu
  · exact Session.outcome_saveOkay_of_addition today c o before
  · intro ed engine fingerprint hengine
    refine ⟨ed.result_addition_iff fingerprint o hengine, fun hstarted f hf => ?_⟩
    exact ed.result_edit_of_failure engine fingerprint edit hstarted hf
  · intro b child ed fingerprint x report
    have hreport : report = (ed.edit (fun s => (b.conduct child fingerprint s).course)
        fingerprint edit).2 :=
      congrArg Prod.snd (b.edit_eq child ed fingerprint edit)
    have hiff := ed.result_addition_iff fingerprint o (b.conversational child fingerprint)
    rw [hreport]
    refine hiff.trans (and_congr_right fun _ => ⟨?_, Or.inl⟩)
    rintro (h | hown)
    · exact h
    · cases b.ofSession_outcome child fingerprint _ hown

end KeyDialogue
