/-
  Key dialogue — what is said at the menu.

  Every edit has a script for the menu: it makes its selections, gives its
  command, saves if there is something to save, and then quits again and again.

  * `Edit.script` spells it out, and `Edit.scriptLine` is the line at a place of
    it;
  * `Session.outcome_menu`: what a session answers when the menu comes up is the
    line at the number of menus before, whatever else happened between them;
  * `menu_follows_script`: the statement for whole sessions, and what follows from
    it: the command is given once and before anything is saved.
-/
import KeyDialogue.Proofs.Progress

namespace KeyDialogue

open KeyDialogue.Text

/-! ## Scripts -/

namespace Edit

/-- The lines that select what an edit is about. -/
def selection : Edit → List String
  | plain (.sign o) => o.userIds.map fun n => "uid " ++ numeral n
  | plain (.revokeSignature o) => ["uid " ++ numeral o.userId]
  | plain (.deleteSignature o) => ["uid " ++ numeral o.userId]
  | plain (.setExpiration o) => o.subkeys.map fun n => "key " ++ numeral n
  | plain (.setEnabled _) | plain (.setOwnerTrust _) | plain (.addSubkey _) => []
  | changePassphrase _ => []

/-- The line that gives the command of an edit. -/
def commandWord : Edit → String
  | plain (.sign o) =>
    (if o.isLocal then "l" else "") ++ (if o.trust.isSome then "t" else "") ++
      (if o.nonRevocable then "nr" else "") ++ "sign"
  | plain (.revokeSignature _) => "revsig"
  | plain (.deleteSignature _) => "delsig"
  | plain (.setEnabled enable) => if enable then "enable" else "disable"
  | plain (.setOwnerTrust _) => "trust"
  | plain (.setExpiration _) => "expire"
  | plain (.addSubkey _) => "addkey"
  | changePassphrase _ => "passwd"

/-- The line that saves, if there is something to save once the algorithm of a
    subkey was asked for some times. -/
def saving (edit : Edit) (algorithms : Nat) : List String :=
  match edit with
  | plain (.setEnabled _) | plain (.setOwnerTrust _) => []
  | plain (.addSubkey _) => if 2 ≤ algorithms then [] else ["save"]
  | _ => ["save"]

/-- All lines of an edit before it quits. -/
def script (edit : Edit) (algorithms : Nat) : List String :=
  edit.selection ++ edit.commandWord :: edit.saving algorithms

/-- The line that is given when the menu comes up after some menus; the edit quits
    once the script is used up. -/
def scriptLine (edit : Edit) (menus algorithms : Nat) : String :=
  (edit.script algorithms)[menus]?.getD "quit"

/-- The agenda that a session of the edit starts out with, or would have started
    out with, had it known how often the algorithm is asked for. -/
def agendaAt (edit : Edit) (algorithms : Nat) : Agenda :=
  match edit with
  | plain (.sign o) => o.agenda
  | plain (.revokeSignature o) => o.agenda
  | plain (.deleteSignature o) => o.agenda
  | plain (.setEnabled enable) => (Switching.start enable).agenda
  | plain (.setOwnerTrust trust) => (Trusting.start trust).agenda
  | plain (.setExpiration o) => o.agenda
  | plain (.addSubkey o) => o.agendaAt algorithms
  | changePassphrase o => o.agenda

variable (edit : Edit) (menus algorithms : Nat)

/-- The script is the agenda, line by line. -/
theorem map_text_agendaAt :
    (edit.agendaAt algorithms).map MenuCommand.text = edit.script algorithms := by
  obtain edit | o := edit
  · cases edit with
    | sign o =>
      simp [agendaAt, SigningOptions.agenda, script, selection, commandWord, saving,
        SigningOptions.command, MenuCommand.text, Function.comp_def]
    | setExpiration o =>
      simp [agendaAt, ExpiryOptions.agenda, script, selection, commandWord, saving,
        MenuCommand.text, Function.comp_def]
    | setEnabled enable => cases enable <;> rfl
    | addSubkey o =>
      simp only [agendaAt, SubkeyOptions.agendaAt, script, selection, commandWord, saving]
      split <;> rfl
    | _ => rfl
  · rfl

example : ((Edit.plain (.sign { userIds := [3, 1], isLocal := true })).agendaAt 0).map
    MenuCommand.text = ["uid 3", "uid 1", "lsign", "save"] := by decide

theorem text_command_agendaAt :
    ((edit.agendaAt algorithms).command menus).text = edit.scriptLine menus algorithms := by
  rw [scriptLine, ← map_text_agendaAt, List.getElem?_map, Agenda.command]
  cases (edit.agendaAt algorithms)[menus]? <;> rfl

/-! ### Where each line stands -/

/-- A selection is told from all other lines by its blank. -/
theorem blank_mem_of_mem_selection {line : String} (h : line ∈ edit.selection) :
    ' ' ∈ line.toList := by
  obtain edit | o := edit
  · cases edit with
    | sign o | setExpiration o => obtain ⟨n, -, rfl⟩ := List.mem_map.1 h; simp
    | revokeSignature o | deleteSignature o => rw [List.mem_singleton.1 h]; simp
    | setEnabled _ | setOwnerTrust _ | addSubkey _ => cases h
  · cases h

theorem blank_not_mem_commandWord : ' ' ∉ edit.commandWord.toList := by
  obtain edit | o := edit
  · cases edit with
    | sign o => simp only [commandWord]; split <;> split <;> split <;> decide
    | setEnabled enable => cases enable <;> decide
    | _ => simp only [commandWord]; decide
  · simp only [commandWord]; decide

theorem commandWord_ne : edit.commandWord ≠ "save" ∧ edit.commandWord ≠ "quit" := by
  obtain edit | o := edit
  · cases edit with
    | sign o => simp only [commandWord]; split <;> split <;> split <;> decide
    | setEnabled enable => cases enable <;> decide
    | _ => simp only [commandWord]; decide
  · simp only [commandWord]; decide

theorem saving_eq : edit.saving algorithms = [] ∨ edit.saving algorithms = ["save"] := by
  unfold saving; split
  · exact Or.inl rfl
  · exact Or.inl rfl
  · split
    · exact Or.inl rfl
    · exact Or.inr rfl
  · exact Or.inr rfl

/-- Edits of the trust database have nothing to save. -/
theorem saving_of_trustDatabase {edit : Edit} {algorithms : Nat}
    (h : edit.kind = .enableDisable ∨ edit.kind = .trust) : edit.saving algorithms = [] := by
  obtain edit | o := edit
  · cases edit <;> simp [kind, PlainEdit.kind, saving] at h ⊢
  · simp [kind] at h

theorem scriptLine_cases :
    (menus < edit.selection.length ∧ edit.scriptLine menus algorithms ∈ edit.selection) ∨
    (menus = edit.selection.length ∧ edit.scriptLine menus algorithms = edit.commandWord) ∨
    (menus = edit.selection.length + 1 ∧ edit.saving algorithms = ["save"] ∧
      edit.scriptLine menus algorithms = "save") ∨
    (edit.selection.length < menus ∧ edit.scriptLine menus algorithms = "quit") := by
  rcases Nat.lt_trichotomy menus edit.selection.length with h | h | h
  · refine Or.inl ⟨h, ?_⟩
    simp [scriptLine, script, List.getElem?_append_left h, h]
  · exact Or.inr (Or.inl ⟨h, by simp [scriptLine, script, h]⟩)
  · obtain ⟨k, rfl⟩ := Nat.exists_eq_add_of_lt h
    have hline : edit.scriptLine (edit.selection.length + k + 1) algorithms =
        (edit.saving algorithms)[k]?.getD "quit" := by
      rw [scriptLine, script, List.getElem?_append_right (by omega)]
      simp [Nat.add_assoc]
    rcases edit.saving_eq algorithms with hs | hs
    · exact Or.inr (Or.inr (Or.inr ⟨h, by rw [hline, hs]; rfl⟩))
    · cases k with
      | zero => exact Or.inr (Or.inr (Or.inl ⟨rfl, hs, by rw [hline, hs]; rfl⟩))
      | succ k => exact Or.inr (Or.inr (Or.inr ⟨h, by rw [hline, hs]; rfl⟩))

theorem scriptLine_eq_commandWord_iff :
    edit.scriptLine menus algorithms = edit.commandWord ↔ menus = edit.selection.length := by
  rcases edit.scriptLine_cases menus algorithms with ⟨h, hl⟩ | ⟨h, hl⟩ | ⟨h, -, hl⟩ | ⟨h, hl⟩
  · have hne : edit.scriptLine menus algorithms ≠ edit.commandWord := fun heq =>
      edit.blank_not_mem_commandWord (heq ▸ edit.blank_mem_of_mem_selection hl)
    exact ⟨fun heq => absurd heq hne, fun heq => by omega⟩
  · exact ⟨fun _ => h, fun _ => hl⟩
  · exact ⟨fun heq => absurd (heq.symm.trans hl) edit.commandWord_ne.1, fun heq => by omega⟩
  · exact ⟨fun heq => absurd (heq.symm.trans hl) edit.commandWord_ne.2, fun heq => by omega⟩

theorem of_scriptLine_eq_save (hl : edit.scriptLine menus algorithms = "save") :
    menus = edit.selection.length + 1 ∧ edit.saving algorithms = ["save"] := by
  rcases edit.scriptLine_cases menus algorithms with ⟨-, h⟩ | ⟨-, h⟩ | ⟨h, hs, -⟩ | ⟨-, h⟩
  · rw [hl] at h
    exact absurd (edit.blank_mem_of_mem_selection h) (by decide)
  · exact absurd (h.symm.trans hl) edit.commandWord_ne.1
  · exact ⟨h, hs⟩
  · rw [hl] at h; exact absurd h (by decide)

theorem scriptLine_eq_quit_iff (hs : edit.saving algorithms = ["save"]) :
    edit.scriptLine menus algorithms = "quit" ↔ edit.selection.length + 2 ≤ menus := by
  have hsave : edit.scriptLine (edit.selection.length + 1) algorithms = "save" := by
    simp [scriptLine, script, hs]
  rcases edit.scriptLine_cases menus algorithms with ⟨h, hl⟩ | ⟨h, hl⟩ | ⟨h, -, hl⟩ | ⟨h, hl⟩
  · have hne : edit.scriptLine menus algorithms ≠ "quit" := fun heq =>
      absurd (heq ▸ edit.blank_mem_of_mem_selection hl) (by decide)
    exact ⟨fun heq => absurd heq hne, fun hle => by omega⟩
  · exact ⟨fun heq => absurd (hl.symm.trans heq) edit.commandWord_ne.2, fun hle => by omega⟩
  · exact ⟨fun heq => absurd (hl.symm.trans heq) (by decide), fun hle => by omega⟩
  · refine ⟨fun _ => ?_, fun _ => hl⟩
    by_cases hne : menus = edit.selection.length + 1
    · rw [← hne, hl] at hsave; exact absurd hsave (by decide)
    · omega

end Edit

/-! ## The menu in a session -/

namespace Progress

/-- What is left of the agenda of an edit. -/
def agenda : Progress → Agenda
  | plain (.signing s) => s.agenda
  | plain (.revocation r) => r.agenda
  | plain (.deletion d) => d.agenda
  | plain (.switching s) => s.agenda
  | plain (.trusting t) => t.agenda
  | plain (.expiry x) => x.agenda
  | plain (.subkeyAddition a) => a.agenda
  | passphrase p => p.agenda

end Progress

/-- At the menu, a plain edit gives the next command of its agenda. -/
theorem PlainProgress.outcome_respond_menu (p : PlainProgress) {e : Event}
    (h : e.question? = some .menu) :
    (p.respond e).2.outcome = .ok (.line (Progress.plain p).agenda.next.1.text) := by
  cases p with
  | signing s =>
    have hs : e.status ≠ .alreadySigned := Event.status_ne_of_question? h rfl
    simp only [respond, Signing.respond, hs, h, if_false]; rfl
  | revocation r => simp only [respond, Revocation.respond, h]; rfl
  | deletion d => simp only [respond, Deletion.respond, h]; rfl
  | switching s => simp only [respond, Switching.respond, h]; rfl
  | trusting t => simp only [respond, Trusting.respond, h]; rfl
  | expiry x => simp only [respond, Expiry.respond, h]; rfl
  | subkeyAddition a => simp only [respond, SubkeyAddition.respond, h]; rfl

namespace Session

/-- At the menu, every edit gives the next command of its agenda. -/
theorem outcome_respond_menu (s : Session) {e : Event} (h : e.question? = some .menu) :
    (s.respond e).2.outcome = .ok (.line s.progress.agenda.next.1.text) := by
  have hconcerns : e.concernsPassphrase = false :=
    Event.concernsPassphrase_of_question? h (by decide)
  obtain ⟨p | p, c⟩ := s
  · rw [respond_plain_of_not_concerns p c hconcerns]
    exact p.outcome_respond_menu h
  · simp only [Event.concernsPassphrase, Bool.or_eq_false_iff] at hconcerns
    simp only [respond, PassphraseChange.respond, hconcerns.1, hconcerns.2, Bool.false_eq_true,
      if_false, PassphraseChange.answer, h]
    rfl

variable (edit : Edit) (today : Date) (c : Custody)

/-- The agenda after events depends on how often the menu came up, and on how often
    the algorithm was asked for. -/
theorem agenda_after (events : List Event) :
    ((edit.session today c).after events).progress.agenda =
      (edit.agendaAt (asked .keyAlgorithm events)).drop (asked .menu events) := by
  cases edit with
  | plain edit => rw [progress_after_plain]; cases edit <;> rfl
  | changePassphrase o =>
    obtain ⟨missing, hp⟩ := progress_after_change today c o events
    rw [hp]; rfl

/-- What is answered at the menu is the line of the script. -/
theorem outcome_menu (before : List Event) {e : Event} (h : e.question? = some .menu) :
    (((edit.session today c).after before).turn e).reply.outcome =
      .ok (.line (edit.scriptLine (asked .menu before) (asked .keyAlgorithm before))) := by
  rw [turn, outcome_respond_menu _ h, agenda_after, Agenda.next_drop, edit.text_command_agendaAt]

end Session

/-! ## All that is said at the menu -/

/-- The line that a turn answers at the menu. -/
def Turn.menuLine? (t : Turn) : Option String :=
  match t.event.question?, t.reply.outcome with
  | some .menu, .ok (.line text) => some text
  | _, _ => none

/-- The lines answered at the menu in the course of events. -/
def Session.menuLines (s : Session) (events : List Event) : List String :=
  (s.turns events).filterMap Turn.menuLine?

namespace Session
variable (edit : Edit) (today : Date) (c : Custody)

theorem menuLines_append_singleton (events : List Event) (e : Event) :
    (edit.session today c).menuLines (events ++ [e]) =
      (edit.session today c).menuLines events ++
        if e.question? = some .menu then
          [edit.scriptLine (asked .menu events) (asked .keyAlgorithm events)]
        else [] := by
  simp only [menuLines, turns_append, turns_cons, turns_nil, List.filterMap_append]
  congr 1
  by_cases h : e.question? = some .menu
  · have hline : (((edit.session today c).after events).turn e).menuLine? =
        some (edit.scriptLine (asked .menu events) (asked .keyAlgorithm events)) := by
      rw [Turn.menuLine?, outcome_menu edit today c events h]
      simp only [turn, h]
    simp [hline, h]
  · have hnone : (((edit.session today c).after events).turn e).menuLine? = none := by
      unfold Turn.menuLine?; split
      · next hq _ => exact absurd hq h
      · rfl
    simp [hnone, h]

theorem length_menuLines (events : List Event) :
    ((edit.session today c).menuLines events).length = asked .menu events := by
  induction events using List.reverseRecOn with
  | nil => rfl
  | append_singleton before e ih =>
    rw [menuLines_append_singleton, List.length_append, ih, asked_append_singleton]
    split <;> rfl

theorem mem_menuLines {events : List Event} {line : String}
    (h : line ∈ (edit.session today c).menuLines events) :
    ∃ menus algorithms, edit.scriptLine menus algorithms = line := by
  obtain ⟨t, ht, hline⟩ := List.mem_filterMap.1 h
  obtain ⟨before, e, _, -, rfl⟩ := mem_turns ht
  unfold Turn.menuLine? at hline
  split at hline
  · next hq ho =>
    have hq : e.question? = some .menu := hq
    rw [outcome_menu edit today c before hq] at ho
    cases ho; cases hline
    exact ⟨_, _, rfl⟩
  · cases hline

/-- The command is given at its place in the script, and nowhere else. -/
theorem count_commandWord (events : List Event) :
    ((edit.session today c).menuLines events).count edit.commandWord =
      if edit.selection.length < asked .menu events then 1 else 0 := by
  induction events using List.reverseRecOn with
  | nil => rfl
  | append_singleton before e ih =>
    rw [menuLines_append_singleton, List.count_append, ih, asked_append_singleton]
    by_cases h : e.question? = some .menu
    · have hiff := edit.scriptLine_eq_commandWord_iff (asked .menu before) (asked .keyAlgorithm before)
      simp only [h, if_true, List.count_singleton, beq_iff_eq, hiff]
      split <;> split <;> split <;> omega
    · simp [h]

theorem count_save_le (events : List Event) :
    ((edit.session today c).menuLines events).count "save" ≤
      if edit.selection.length + 1 < asked .menu events then 1 else 0 := by
  induction events using List.reverseRecOn with
  | nil => exact Nat.le_refl _
  | append_singleton before e ih =>
    rw [menuLines_append_singleton, List.count_append, asked_append_singleton]
    by_cases h : e.question? = some .menu
    · have hsave := edit.of_scriptLine_eq_save (asked .menu before) (asked .keyAlgorithm before)
      simp only [h, if_true, List.count_singleton, beq_iff_eq]
      by_cases hl : edit.scriptLine (asked .menu before) (asked .keyAlgorithm before) = "save"
      · have hm := (hsave hl).1
        rw [if_neg (by omega)] at ih
        rw [if_pos hl, if_pos (by omega)]; omega
      · rw [if_neg hl]
        exact Nat.le_trans ih (by split <;> split <;> omega)
    · simpa [h] using ih

/-- An expiry quits exactly if the menu came up once more after saving. -/
theorem quit_mem_menuLines_iff (o : ExpiryOptions) (events : List Event) :
    "quit" ∈ ((Edit.plain (.setExpiration o)).session today c).menuLines events ↔
      o.agenda.length < asked .menu events := by
  induction events using List.reverseRecOn with
  | nil => simp [menuLines]
  | append_singleton before e ih =>
    rw [menuLines_append_singleton, List.mem_append, ih, asked_append_singleton]
    by_cases h : e.question? = some .menu
    · have hquit := (Edit.plain (.setExpiration o)).scriptLine_eq_quit_iff
        (asked .menu before) (asked .keyAlgorithm before) rfl
      have hlen : o.agenda.length =
          (Edit.plain (.setExpiration o)).selection.length + 2 := by
        simp [ExpiryOptions.agenda, Edit.selection]
      simp only [h, if_true, List.mem_singleton, eq_comm (a := "quit"), hquit, hlen]
      omega
    · simp [h]

/-- What an expiry answers to the question whether to save. -/
theorem outcome_saveOkay (o : ExpiryOptions) (before : List Event) {e : Event}
    (h : e.question? = some .saveOkay) :
    ((((Edit.plain (.setExpiration o)).session today c).after before).turn
        e).reply.outcome = .ok (.yesNo !decide (o.agenda.length < asked .menu before)) := by
  rw [outcome_after_plain today c (.setExpiration o) before h (by decide)]
  simp only [PlainEdit.reached, PlainProgress.respond, Expiry.respond, h]
  rfl

end Session

/-- **The menu follows the script.**  Each time the menu comes up, the answer is
    the next line of the script, whatever events came between.  So the command is
    given once, as soon as the menu came up often enough, and before anything is
    saved; nothing is saved twice, and edits of the trust database never save.  A
    change of expiry agrees to save until it has quit. -/
theorem menu_follows_script (edit : Edit) (today : Date) (c : Custody) :
    let s := edit.session today c
    (∀ before e, e.question? = some .menu →
      ((s.after before).turn e).reply.outcome =
        .ok (.line (edit.scriptLine (asked .menu before) (asked .keyAlgorithm before)))) ∧
    (∀ events, (s.menuLines events).length = asked .menu events ∧
      ((s.menuLines events).count edit.commandWord =
        if edit.selection.length < asked .menu events then 1 else 0) ∧
      (s.menuLines events).count "save" ≤ 1 ∧
      (edit.kind = .enableDisable ∨ edit.kind = .trust → "save" ∉ s.menuLines events)) ∧
    (∀ before e, e.question? = some .menu →
      ((s.after before).turn e).reply.outcome = .ok (.line "save") →
        edit.commandWord ∈ s.menuLines before) ∧
    ∀ o, edit = .plain (.setExpiration o) → ∀ before e, e.question? = some .saveOkay →
      ((s.after before).turn e).reply.outcome =
        .ok (.yesNo !decide ("quit" ∈ s.menuLines before)) := by
  intro s
  refine ⟨fun before e h => Session.outcome_menu edit today c before h, fun events => ?_, ?_, ?_⟩
  · refine ⟨Session.length_menuLines edit today c events,
      Session.count_commandWord edit today c events, ?_, ?_⟩
    · have hcount := Session.count_save_le edit today c events
      exact Nat.le_trans hcount (by split <;> omega)
    · intro hkind hmem
      obtain ⟨menus, algorithms, hline⟩ := Session.mem_menuLines edit today c hmem
      have hsaving := (edit.of_scriptLine_eq_save menus algorithms hline).2
      rw [Edit.saving_of_trustDatabase hkind] at hsaving
      cases hsaving
  · intro before e h hsave
    rw [Session.outcome_menu edit today c before h] at hsave
    have hline : edit.scriptLine (asked .menu before) (asked .keyAlgorithm before) = "save" := by
      injection hsave with hsave; injection hsave
    have hplace := (edit.of_scriptLine_eq_save _ _ hline).1
    have hcount := Session.count_commandWord edit today c before
    rw [if_pos (by omega)] at hcount
    exact List.count_pos_iff.1 (by rw [hcount]; exact Nat.one_pos)
  · rintro o rfl before e h
    rw [Session.outcome_saveOkay today c o before h]
    simp only [s, Session.quit_mem_menuLines_iff]

end KeyDialogue
