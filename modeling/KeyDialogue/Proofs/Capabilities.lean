/-
  Key dialogue — capabilities, from the letters of a usage text to the backend.

  A usage text names the capabilities of a subkey by letters, in either case and in
  any order.  The backend starts from a default and flips a capability for each letter
  that it is answered.

  * `Capability.chars` are the letters that name a capability, and
    `addCapabilities_eq_ok_iff` says which texts are read, and as what;
  * `Capabilities.differing`: each capability that differs from the default is flipped
    once (`Capabilities.toggles_eq`), and then the edit finishes
    (`Session.linesTo_keyFlags`);
  * `enabledBy` is what answers make of the default (`Capabilities.mem_enabledBy_iff`);
  * `capabilities_end_up_as_written`: so the backend ends up with what the text names.
-/
import KeyDialogue.CommandLine.Value
import KeyDialogue.Proofs.Selection

namespace KeyDialogue

/-! ## Single capabilities -/

/-- One thing that a subkey may be used for. -/
inductive Capability where
  | sign
  | encrypt
  | authenticate
  deriving DecidableEq, Repr

namespace Capability

/-- The letter by which the backend is told of a capability. -/
def letter : Capability → String
  | sign => "S"
  | encrypt => "E"
  | authenticate => "A"

/-- The letters that name a capability in a usage text. -/
def chars : Capability → List Char
  | sign => ['s', 'S']
  | encrypt => ['e', 'E']
  | authenticate => ['a', 'A']

theorem letter_injective : Function.Injective letter := by
  intro x y h
  cases x <;> cases y <;> first | rfl | exact absurd h (by decide)

theorem letter_ne_quit (x : Capability) : x.letter ≠ "Q" := by
  cases x <;> decide

/-- No letter names two capabilities. -/
theorem eq_of_mem_chars {l : Char} {x y : Capability} (hx : l ∈ x.chars) (hy : l ∈ y.chars) :
    x = y := by
  cases x <;> cases y <;> simp_all [chars] <;> rcases hx with rfl | rfl <;> simp_all

end Capability

namespace Capabilities

/-- A capability is among the capabilities of a subkey. -/
def has (c : Capabilities) : Capability → Bool
  | .sign => c.sign
  | .encrypt => c.encrypt
  | .authenticate => c.authenticate

/-- The capabilities with one more. -/
def insert (c : Capabilities) : Capability → Capabilities
  | .sign => { c with sign := true }
  | .encrypt => { c with encrypt := true }
  | .authenticate => { c with authenticate := true }

theorem ext_has {c c' : Capabilities} (h : ∀ x, c.has x = c'.has x) : c = c' := by
  obtain ⟨sign, encrypt, authenticate⟩ := c
  obtain ⟨sign', encrypt', authenticate'⟩ := c'
  have hsign : sign = sign' := h .sign
  have hencrypt : encrypt = encrypt' := h .encrypt
  have hauthenticate : authenticate = authenticate' := h .authenticate
  rw [hsign, hencrypt, hauthenticate]

theorem has_insert_iff {c : Capabilities} {x y : Capability} :
    (c.insert x).has y = true ↔ c.has y = true ∨ x = y := by
  cases x <;> cases y <;> simp [has, insert]

end Capabilities

/-! ## Reading capabilities -/

namespace CommandLine

/-- A small letter comes from itself and from its capital. -/
theorem toLower_eq_iff {c small : Char} (h : 97 ≤ small.toNat ∧ small.toNat ≤ 122) :
    toLower c = small ↔ c = small ∨ c = Char.ofNat (small.toNat - 32) := by
  have hcode : ∀ n < 0xD800, (Char.ofNat n).toNat = n := by
    intro n hn
    rw [Char.ofNat, dif_pos (Or.inl hn)]
    rfl
  have hcapital := hcode (small.toNat - 32) (by omega)
  unfold toLower
  rw [← Char.toNat_inj, ← Char.toNat_inj, ← Char.toNat_inj, hcapital]
  split
  · next hc =>
    have hc : 65 ≤ c.toNat ∧ c.toNat ≤ 90 := hc
    rw [hcode _ (by omega)]
    omega
  · next hc =>
    have hc : ¬ (65 ≤ c.toNat ∧ c.toNat ≤ 90) := hc
    omega

/-- A letter that names a capability adds it. -/
theorem addCapabilities_cons_of_mem (c : Capabilities) {letter : Char} {x : Capability}
    (h : letter ∈ x.chars) (rest : List Char) :
    addCapabilities c (letter :: rest) = addCapabilities (c.insert x) rest := by
  cases x <;> simp only [Capability.chars, List.mem_cons, List.not_mem_nil, or_false] at h <;>
    rcases h with rfl | rfl <;> rfl

/-- Every other letter is refused. -/
theorem addCapabilities_cons_of_not_mem (c : Capabilities) {letter : Char}
    (h : ∀ x : Capability, letter ∉ x.chars) (rest : List Char) :
    addCapabilities c (letter :: rest) =
      .error (.usage (.unknownCapability (toLower letter))) := by
  unfold addCapabilities
  split
  · next hs =>
    have hnot := h .sign
    exact absurd ((toLower_eq_iff (by decide)).1 hs) (by simpa [Capability.chars] using hnot)
  · next he =>
    have hnot := h .encrypt
    exact absurd ((toLower_eq_iff (by decide)).1 he) (by simpa [Capability.chars] using hnot)
  · next ha =>
    have hnot := h .authenticate
    exact absurd ((toLower_eq_iff (by decide)).1 ha) (by simpa [Capability.chars] using hnot)
  · rfl

/-- Letters are read if each of them names a capability, and then exactly those that
    are named are added. -/
theorem addCapabilities_eq_ok_iff {c c' : Capabilities} {letters : List Char} :
    addCapabilities c letters = .ok c' ↔
      (∀ l ∈ letters, ∃ x : Capability, l ∈ x.chars) ∧
        ∀ x, c'.has x = true ↔ c.has x = true ∨ ∃ l ∈ letters, l ∈ x.chars := by
  induction letters generalizing c with
  | nil =>
    have hnil : addCapabilities c [] = .ok c' ↔ c = c' := Except.ok.injEq c c' ▸ Iff.rfl
    rw [hnil]
    constructor
    · rintro rfl
      simp
    · rintro ⟨-, hhas⟩
      refine Capabilities.ext_has fun x => ?_
      rw [Bool.eq_iff_iff, hhas x]
      simp
  | cons letter rest ih =>
    by_cases hletter : ∃ x : Capability, letter ∈ x.chars
    · obtain ⟨x, hx⟩ := hletter
      rw [addCapabilities_cons_of_mem c hx, ih]
      have hsame : ∀ y : Capability, letter ∈ y.chars ↔ x = y := fun y =>
        ⟨fun hy => Capability.eq_of_mem_chars hx hy, fun h => h ▸ hx⟩
      simp only [List.forall_mem_cons, List.exists_mem_cons_iff, Capabilities.has_insert_iff, hsame,
        or_assoc, exists_eq', true_and]
    · rw [addCapabilities_cons_of_not_mem c (not_exists.1 hletter)]
      constructor
      · intro h; cases h
      · rintro ⟨hall, -⟩
        exact absurd (hall letter (List.mem_cons_self ..)) hletter

theorem exists_addCapabilities {letters : List Char}
    (h : ∀ l ∈ letters, ∃ x : Capability, l ∈ x.chars) (c : Capabilities) :
    ∃ c', addCapabilities c letters = .ok c' := by
  induction letters generalizing c with
  | nil => exact ⟨c, rfl⟩
  | cons letter rest ih =>
    obtain ⟨x, hx⟩ := h letter (List.mem_cons_self ..)
    rw [addCapabilities_cons_of_mem c hx]
    exact ih (fun l hl => h l (List.mem_cons_of_mem _ hl)) _

/-- A usage text is read as the capabilities that it names. -/
theorem readCapabilities_eq_ok_iff {text : String} {wanted : Capabilities} :
    readCapabilities (some text) = .ok wanted ↔
      (∀ l ∈ text.toList, ∃ x : Capability, l ∈ x.chars) ∧
        ∀ x, wanted.has x = true ↔ ∃ l ∈ text.toList, l ∈ x.chars := by
  refine addCapabilities_eq_ok_iff.trans (and_congr_right fun _ => forall_congr' fun x => ?_)
  have hnone : (⟨false, false, false⟩ : Capabilities).has x = false := by cases x <;> rfl
  simp [hnone]

end CommandLine

/-! ## Telling the backend -/

namespace Capabilities

/-- The capabilities in which a subkey differs from the default, in the order in which
    the backend is told of them. -/
def differing (c : Capabilities) : List Capability :=
  [.authenticate, .sign, .encrypt].filter fun x => c.has x != default.has x

theorem toggles_eq (c : Capabilities) : c.toggles = c.differing.map Capability.letter := by
  obtain ⟨sign, encrypt, authenticate⟩ := c
  cases sign <;> cases encrypt <;> cases authenticate <;> rfl

theorem nodup_differing (c : Capabilities) : c.differing.Nodup :=
  List.Nodup.filter _ (by decide)

theorem mem_differing_iff {c : Capabilities} {x : Capability} :
    x ∈ c.differing ↔ c.has x ≠ default.has x := by
  have hmem : x ∈ [Capability.authenticate, .sign, .encrypt] := by cases x <;> simp
  simp [differing, List.mem_filter, hmem]

end Capabilities

namespace Session
variable (today : Date) (c : Custody) (o : SubkeyOptions)

/-- To the question for capabilities, an addition answers one letter after the other,
    and then it finishes. -/
theorem outcome_keyFlags (before : List Event) {e : Event} (h : e.question? = some .keyFlags) :
    ((((Edit.plain (.addSubkey o)).session today c).after before).turn e).reply.outcome =
      .ok (.line (o.capabilities.toggles[asked .keyFlags before]?.getD "Q")) := by
  rw [outcome_after_plain today c (.addSubkey o) before h (by decide)]
  show ((SubkeyAddition.reached today o before).respond e).2.outcome = _
  have hleft : (SubkeyAddition.reached today o before).toggles =
      o.capabilities.toggles.drop (asked .keyFlags before) := rfl
  have hnext : o.capabilities.toggles[asked .keyFlags before]? =
      (SubkeyAddition.reached today o before).toggles.head? := by
    rw [hleft, List.head?_drop]
  rw [hnext]
  simp only [SubkeyAddition.respond, h]
  cases (SubkeyAddition.reached today o before).toggles <;> rfl

theorem linesTo_keyFlags (events : List Event) :
    let flips := o.capabilities.differing
    let times := asked .keyFlags events
    ((Edit.plain (.addSubkey o)).session today c).linesTo .keyFlags events =
      (flips.take times).map Capability.letter ++ List.replicate (times - flips.length) "Q" := by
  intro flips times
  have hlines := linesTo_eq_take ((Edit.plain (.addSubkey o)).session today c)
    o.capabilities.toggles "Q" (fun before e h => outcome_keyFlags today c o before h) events
  rw [hlines, Capabilities.toggles_eq, List.map_take, List.length_map]

end Session

/-! ## At the backend -/

/-- The capabilities that the backend has enabled after answers.  It starts from its
    default, and a letter flips the capability that it names. -/
def enabledBy (answers : List String) : Set Capability :=
  answers.foldl (flipped Capability.letter) {.sign, .encrypt}

theorem Capabilities.has_default_iff {x : Capability} :
    Capabilities.default.has x = true ↔ x ∈ ({.sign, .encrypt} : Set Capability) := by
  cases x <;> simp [has, default]

/-- Once an edit has finished, the capabilities that were wanted are enabled. -/
theorem Capabilities.mem_enabledBy_iff (c : Capabilities) (finishing : ℕ) {x : Capability} :
    x ∈ enabledBy (c.differing.map Capability.letter ++ List.replicate finishing "Q") ↔
      c.has x = true := by
  have hquit : (List.replicate finishing "Q").count x.letter = 0 :=
    List.count_eq_zero.2 fun hmem => x.letter_ne_quit (List.eq_of_mem_replicate hmem)
  rw [enabledBy, mem_foldl_flipped_iff, List.count_append, hquit, Nat.add_zero,
    List.count_map_of_injective _ _ Capability.letter_injective, ← has_default_iff]
  by_cases hx : x ∈ c.differing
  · rw [List.count_eq_one_of_mem c.nodup_differing hx]
    have hne := mem_differing_iff.1 hx
    cases hc : c.has x <;> cases hd : default.has x <;> simp_all
  · rw [List.count_eq_zero.2 hx]
    have heq : c.has x = default.has x := not_not.1 fun h => hx (mem_differing_iff.2 h)
    simp [heq]

/-- Once an addition has finished answering, what it wanted is enabled. -/
theorem Session.enabledBy_linesTo (today : Date) (c : Custody) (o : SubkeyOptions)
    (events : List Event) :
    let answers := ((Edit.plain (.addSubkey o)).session today c).linesTo .keyFlags events
    "Q" ∈ answers → enabledBy answers = {x | o.capabilities.has x = true} := by
  intro answers hquit
  have hanswers : answers = _ := linesTo_keyFlags today c o events
  rw [hanswers] at hquit ⊢
  rcases List.mem_append.1 hquit with hletter | hfinished
  · obtain ⟨x, -, hx⟩ := List.mem_map.1 hletter
    exact absurd hx x.letter_ne_quit
  · -- it has finished, so all letters were sent before
    have hpos := List.length_pos_of_mem hfinished
    rw [List.length_replicate] at hpos
    rw [List.take_of_length_le (by omega)]
    ext x
    exact o.capabilities.mem_enabledBy_iff _

/-- **Capabilities end up as they are written.**  A usage text is read exactly if each
    of its characters is one of the letters `s`, `e` and `a`, in either case.  An
    addition of a subkey with what was read answers each question for capabilities: by
    different letters first, one after the other, and by `Q` from then on, whatever
    else happens in between.  Once it has answered `Q`, the letters have made of the
    default exactly those capabilities that the text names. -/
theorem capabilities_end_up_as_written (text : String) :
    ((∃ wanted, CommandLine.readCapabilities (some text) = .ok wanted) ↔
      ∀ l ∈ text.toList, ∃ x : Capability, l ∈ x.chars) ∧
    ∀ o : SubkeyOptions, CommandLine.readCapabilities (some text) = .ok o.capabilities →
      ∃ flips : List Capability, flips.Nodup ∧
        ∀ today c events,
          let answers := ((Edit.plain (.addSubkey o)).session today c).linesTo .keyFlags events
          let times := asked .keyFlags events
          answers = (flips.take times).map Capability.letter ++
            List.replicate (times - flips.length) "Q" ∧
          ("Q" ∈ answers → enabledBy answers = {x | ∃ l ∈ text.toList, l ∈ x.chars}) := by
  refine ⟨⟨?_, fun hall => CommandLine.exists_addCapabilities hall _⟩, fun o ho => ?_⟩
  · rintro ⟨wanted, hwanted⟩
    exact (CommandLine.readCapabilities_eq_ok_iff.1 hwanted).1
  · refine ⟨o.capabilities.differing, o.capabilities.nodup_differing, fun today c events => ?_⟩
    intro answers times
    refine ⟨Session.linesTo_keyFlags today c o events, fun hquit => ?_⟩
    have hnamed := (CommandLine.readCapabilities_eq_ok_iff.1 ho).2
    rw [Session.enabledBy_linesTo today c o events hquit]
    ext x
    exact hnamed x

end KeyDialogue
