/-
  Key dialogue — what is selected when a command is given.

  At the backend nothing is selected at first, and a line of the menu that names a
  user id or a subkey selects it, or no longer selects it if it was selected.

  * `flipped` is what one line makes of what is held, and lines go by parity
    (`mem_foldl_flipped_iff`).  So does `selectedBy`, what lines of the menu select
    (`mem_selectedBy_iff`);
  * `Session.menuLines_eq_selection`: when the command is given, its selection was
    sent line by line, and nothing else (`Session.selectedBy_menuLines`);
  * `selected_by_parity`: so an edit affects what its options list an odd number of
    times.  That is all they list only if they list nothing an even number of times
    (`repeated_index_not_selected`);
  * `signing_all_always_agreed_to`: whether a selection was wanted does not bear on
    the question whether to sign all user ids (`signing_all_agreed_to_for_one`).
-/
import KeyDialogue.Proofs.Script
import Mathlib.Algebra.Order.Ring.Canonical
import Mathlib.Algebra.Order.Ring.Nat
import Mathlib.Data.List.Count
import Mathlib.Data.List.Nodup
import Mathlib.Data.Set.Basic

namespace KeyDialogue

open KeyDialogue.Text

/-! ## At the backend -/

/-- What is held after one more line.  A line flips what it names: it is taken back if it
    was held, and held if it was not. -/
def flipped {α : Type} (name : α → String) (held : Set α) (line : String) : Set α :=
  {x | if line = name x then x ∉ held else x ∈ held}

/-- Lines leave things as they were if an even number of them name it, and flip it
    otherwise. -/
theorem mem_foldl_flipped_iff {α : Type} {name : α → String} {held : Set α}
    {lines : List String} {x : α} :
    x ∈ lines.foldl (flipped name) held ↔ (x ∈ held ↔ Even (lines.count (name x))) := by
  -- from the right, for a line acts on what the lines before it left
  induction lines using List.reverseRecOn with
  | nil => simp
  | append_singleton before line ih =>
    have hlast : (before ++ [line]).foldl (flipped name) held =
        flipped name (before.foldl (flipped name) held) line := by
      simp
    rw [hlast, List.count_append, List.count_singleton]
    by_cases hline : line = name x
    · simp only [flipped, hline, Set.mem_ofPred_eq, if_true, ih, beq_self_eq_true, Nat.even_add_one]
      tauto
    · simp [flipped, hline, ih]

/-- What is selected after one more line of the menu.  A line selects the index that
    it names after the given word, or no longer selects it if it was selected. -/
def toggled (word : String) (selected : Set ℕ) (line : String) : Set ℕ :=
  {n | if line = word ++ numeral n then n ∉ selected else n ∈ selected}

/-- What lines of the menu select. -/
def selectedBy (word : String) (lines : List String) : Set ℕ := lines.foldl (toggled word) ∅

/-- An index is selected exactly if an odd number of lines name it. -/
theorem mem_selectedBy_iff {word : String} {lines : List String} {n : ℕ} :
    n ∈ selectedBy word lines ↔ Odd (lines.count (word ++ numeral n)) := by
  have hflips : toggled word = flipped fun n => word ++ numeral n := rfl
  rw [selectedBy, hflips, mem_foldl_flipped_iff]
  simp

/-! ## Selections -/

/-- The edit selects indices one by one, each by a line with the given word. -/
inductive Edit.Selects : Edit → String → List ℕ → Prop where
  | userIds (o : SigningOptions) : Selects (.plain (.sign o)) "uid " o.userIds
  | subkeys (o : ExpiryOptions) : Selects (.plain (.setExpiration o)) "key " o.subkeys

section
variable {edit : Edit} {word : String} {indices : List ℕ}

theorem Edit.Selects.selection_eq (h : edit.Selects word indices) :
    edit.selection = indices.map fun n => word ++ numeral n := by
  cases h <;> rfl

/-- Lines that select indices name an index as often as it is listed. -/
theorem Edit.Selects.count_selection (h : edit.Selects word indices) (n : ℕ) :
    edit.selection.count (word ++ numeral n) = indices.count n := by
  have hinj : Function.Injective fun n => word ++ numeral n := by
    intro m n hmn
    exact numeral_inj.1 ((String.append_right_inj word).1 hmn)
  rw [h.selection_eq]
  exact List.count_map_of_injective indices _ hinj n

namespace Session
variable (today : Date) (c : Custody)

/-- As long as there is something to select, the menu is told nothing else. -/
theorem menuLines_eq_take (edit : Edit) (events : List Event)
    (h : asked .menu events ≤ edit.selection.length) :
    (edit.session today c).menuLines events = edit.selection.take (asked .menu events) := by
  induction events using List.reverseRecOn with
  | nil => rfl
  | append_singleton before e ih =>
    rw [menuLines_append_singleton]
    rw [asked_append_singleton] at h ⊢
    by_cases hq : e.question? = some .menu
    · rw [if_pos hq] at h
      have hlt : asked .menu before < edit.selection.length := h
      have hline : edit.scriptLine (asked .menu before) (asked .keyAlgorithm before) =
          edit.selection[asked .menu before] := by
        simp [Edit.scriptLine, Edit.script, List.getElem?_append_left hlt, hlt]
      rw [if_pos hq, if_pos hq, ih (Nat.le_of_lt hlt), hline, List.take_append_getElem hlt]
    · rw [if_neg hq] at h
      rw [if_neg hq, if_neg hq, ih h, List.append_nil]

/-- When the command is given, the selection was sent and nothing else. -/
theorem menuLines_eq_selection (edit : Edit) (before : List Event) {e : Event}
    (hmenu : e.question? = some .menu)
    (hcommand : (((edit.session today c).after before).turn e).reply.outcome =
      .ok (.line edit.commandWord)) :
    (edit.session today c).menuLines before = edit.selection := by
  rw [outcome_menu edit today c before hmenu] at hcommand
  have hword : edit.scriptLine (asked .menu before) (asked .keyAlgorithm before) =
      edit.commandWord := by
    injection hcommand with hline; injection hline
  have hplace := (edit.scriptLine_eq_commandWord_iff _ _).1 hword
  rw [menuLines_eq_take today c edit before (Nat.le_of_eq hplace), hplace, List.take_length]

/-- When the command is given, what is listed an odd number of times is selected. -/
theorem selectedBy_menuLines (h : edit.Selects word indices) (before : List Event) {e : Event}
    (hmenu : e.question? = some .menu)
    (hcommand : (((edit.session today c).after before).turn e).reply.outcome =
      .ok (.line edit.commandWord)) :
    selectedBy word ((edit.session today c).menuLines before) = {n | Odd (indices.count n)} := by
  ext n
  rw [mem_selectedBy_iff, menuLines_eq_selection today c edit before hmenu hcommand,
    h.count_selection]
  rfl

end Session

/-- **What is selected goes by parity.**  When a signing or a change of expiry gives
    its command, exactly those indices are selected that its options list an odd
    number of times.  These are all that are listed if none is listed an even number
    of times, as in options without repetition, and only then.  If all are, nothing
    is selected, as if nothing was listed. -/
theorem selected_by_parity (h : edit.Selects word indices) (today : Date) (c : Custody)
    (before : List Event) (e : Event) (hmenu : e.question? = some .menu)
    (hcommand : (((edit.session today c).after before).turn e).reply.outcome =
      .ok (.line edit.commandWord)) :
    let selected := selectedBy word ((edit.session today c).menuLines before)
    selected = {n | Odd (indices.count n)} ∧
      (selected = {n | n ∈ indices} ↔ ∀ n ∈ indices, Odd (indices.count n)) ∧
      (indices.Nodup → selected = {n | n ∈ indices}) ∧
      (selected = ∅ ↔ ∀ n ∈ indices, Even (indices.count n)) := by
  intro selected
  have hodd : selected = {n | Odd (indices.count n)} :=
    Session.selectedBy_menuLines today c h before hmenu hcommand
  have hlisted : ∀ n, Odd (indices.count n) → n ∈ indices := by
    intro n hn
    exact List.count_pos_iff.1 hn.pos
  have hall : selected = {n | n ∈ indices} ↔ ∀ n ∈ indices, Odd (indices.count n) := by
    rw [hodd]
    constructor
    · intro heq n hn
      exact (Set.ext_iff.1 heq n).2 hn
    · intro hall
      ext n
      exact ⟨hlisted n, hall n⟩
  refine ⟨hodd, hall, fun hnodup => hall.2 fun n hn => ?_, ?_⟩
  · rw [List.count_eq_one_of_mem hnodup hn]
    exact odd_one
  · rw [hodd, Set.eq_empty_iff_forall_notMem]
    constructor
    · intro hnone n _
      exact Nat.not_odd_iff_even.1 (hnone n)
    · intro heven n hn
      exact Nat.not_odd_iff_even.2 (heven n (hlisted n hn)) hn

end

/-- One user id is listed twice, and another one between. -/
theorem selected_by_parity_repeated :
    let today : Date := ⟨2026, 10, 19, by decide, by decide, by decide, by decide⟩
    let o : SigningOptions := { userIds := [5, 2, 5] }
    let s := (Edit.plain (.sign o)).session today ⟨{}, .absent⟩
    let menu : Event := ⟨.getLine, some "keyedit.prompt"⟩
    let valid : Event := ⟨.getLine, some "siggen.valid"⟩
    ((s.after [menu, valid, menu, menu]).turn menu).reply.outcome = .ok (.line "sign") ∧
      selectedBy "uid " (s.menuLines [menu, valid, menu, menu]) = {n | Odd ([5, 2, 5].count n)} ∧
      selectedBy "uid " (s.menuLines [menu, valid, menu, menu]) ≠ {n | n ∈ [5, 2, 5]} := by
  intro today o s menu valid
  have hcommand : ((s.after [menu, valid, menu, menu]).turn menu).reply.outcome =
      .ok (.line "sign") := by decide
  obtain ⟨hodd, hall, -⟩ := selected_by_parity (.userIds o) today ⟨{}, .absent⟩
    [menu, valid, menu, menu] menu rfl hcommand
  refine ⟨hcommand, hodd, fun heq => ?_⟩
  exact absurd (hall.1 heq 5 (by decide)) (by decide)

/-- A user id that is listed twice is not selected when the sign command is given,
    and nothing else is. -/
theorem repeated_index_not_selected :
    let today : Date := ⟨2026, 10, 19, by decide, by decide, by decide, by decide⟩
    let o : SigningOptions := { userIds := [2, 2] }
    let s := (Edit.plain (.sign o)).session today ⟨{}, .absent⟩
    let menu : Event := ⟨.getLine, some "keyedit.prompt"⟩
    o.fault? = none ∧
      ((s.after [menu, menu]).turn menu).reply.outcome = .ok (.line "sign") ∧
      selectedBy "uid " (s.menuLines [menu, menu]) = ∅ ∧ 2 ∈ o.userIds := by
  intro today o s menu
  have hcommand : ((s.after [menu, menu]).turn menu).reply.outcome = .ok (.line "sign") := by
    decide
  have hodd : selectedBy "uid " (s.menuLines [menu, menu]) = {n | Odd (o.userIds.count n)} :=
    Session.selectedBy_menuLines today ⟨{}, .absent⟩ (.userIds o) [menu, menu] (e := menu) rfl
      hcommand
  refine ⟨by decide, hcommand, ?_, by decide⟩
  rw [hodd, Set.eq_empty_iff_forall_notMem]
  intro n hn
  by_cases h : n = 2
  · subst h
    exact absurd hn (by decide)
  · have hzero : o.userIds.count n = 0 := List.count_eq_zero.2 (by simp [o, h])
    have hlisted : Odd (o.userIds.count n) := hn
    rw [hzero] at hlisted
    exact absurd hlisted (by decide)

/-! ## Signing all user ids -/

/-- A signing agrees to sign all user ids. -/
theorem Session.outcome_signAllOkay (o : SigningOptions) (today : Date) (c : Custody)
    (before : List Event) {e : Event} (h : e.question? = some .signAllOkay) :
    ((((Edit.plain (.sign o)).session today c).after before).turn e).reply.outcome =
      .ok (.line "Y") := by
  have hs : e.status ≠ .alreadySigned := Event.status_ne_of_question? h rfl
  rw [outcome_after_plain today c (.sign o) before h (by decide)]
  show ((Signing.reached o before).respond e).2.outcome = _
  simp only [Signing.respond, hs, h, if_false]
  rfl

/-- **Signing all user ids is agreed to, whatever was selected.**  In every session of
    a signing, each time the backend asks whether to sign all user ids, it is told to.
    So the consent is confined to signings without a selection only where there is
    none. -/
theorem signing_all_always_agreed_to (o : SigningOptions) (today : Date) (c : Custody) :
    let s := (Edit.plain (.sign o)).session today c
    (∀ events, ∀ t ∈ s.turns events, t.event.question? = some .signAllOkay →
      t.reply.outcome = .ok (.line "Y")) ∧
    ((∀ events, ∀ t ∈ s.turns events, t.event.question? = some .signAllOkay →
      t.reply.outcome = .ok (.line "Y") → o.userIds = []) ↔ o.userIds = []) := by
  intro s
  have hagreed : ∀ events, ∀ t ∈ s.turns events, t.event.question? = some .signAllOkay →
      t.reply.outcome = .ok (.line "Y") := by
    intro events t ht hq
    obtain ⟨before, e, after, -, rfl⟩ := Session.mem_turns ht
    exact Session.outcome_signAllOkay o today c before hq
  refine ⟨hagreed, fun hconfined => ?_, fun hempty _ _ _ _ _ => hempty⟩
  have hmem : s.turn ⟨.getBool, some "keyedit.sign_all.okay"⟩ ∈
      s.turns [⟨.getBool, some "keyedit.sign_all.okay"⟩] := by simp
  exact hconfined _ _ hmem rfl (hagreed _ _ hmem rfl)

/-- One user id is selected, and signing all of them is agreed to. -/
theorem signing_all_agreed_to_for_one :
    let today : Date := ⟨2026, 10, 19, by decide, by decide, by decide, by decide⟩
    let o : SigningOptions := { userIds := [2] }
    let s := (Edit.plain (.sign o)).session today ⟨{}, .absent⟩
    let menu : Event := ⟨.getLine, some "keyedit.prompt"⟩
    let all : Event := ⟨.getBool, some "keyedit.sign_all.okay"⟩
    o.fault? = none ∧ s.menuLines [menu, menu] = ["uid 2", "sign"] ∧
      ((s.after [menu, menu]).turn all).reply.outcome = .ok (.line "Y") ∧ o.userIds ≠ [] := by
  decide

end KeyDialogue
