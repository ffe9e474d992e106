/-
  Key dialogue — what is found wrong before the backend is reached.

  * `CommandFault.beforehand` are the faults of a command line, of what it finds
    around it, and of the options of its edit.  All that can go wrong in a plan is one
    of them (`Surroundings.preparatory_plan`);
  * `Surroundings.plan_eq_ok_iff`: what a plan is made of, part by part;
  * `Surroundings.run_cases`: a command line is turned away with nothing done
    (`Outcome.TurnedAway`), or carries out a plan.  `Surroundings.reaches_run_iff` says
    which ones do;
  * `Backend.beforehand_result_edit`: then nothing that the backend does is reported
    as a fault of the preparation;
  * `wrong_command_lines_reach_nothing`: so a verdict tells whether the backend was
    reached.
-/
import KeyDialogue.CommandLine.Run
import KeyDialogue.Proofs.Validity

namespace KeyDialogue

/-! ## Faults of the preparation -/

/-- The failure is found before the backend is reached. -/
def Failure.beforehand : Failure → Bool
  | backendNotFound | invalidOptions _ => true
  | alreadySigned _ | missingPassphrase | aborted | backend _ | io _ | badPassphrase .. | canceled |
    customizationIgnored => false

namespace CommandLine

/-- The fault is found before the backend is reached. -/
def CommandFault.beforehand : CommandFault → Bool
  | date _ | env _ | missingCommand | missingKey | usage _ => true
  | failure f => f.beforehand

/-- The command line ends before the backend is reached: it cannot be read, it asks
    for help, or it is found at fault. -/
def Verdict.beforehand : Verdict → Bool
  | done => false
  | help _ | badArguments _ => true
  | failed fault => fault.beforehand

/-- A step of the preparation: all that can go wrong is found beforehand. -/
def Preparatory {α : Type} (x : Except CommandFault α) : Prop :=
  ∀ fault, x = .error fault → fault.beforehand = true

namespace Preparatory
variable {α β : Type} {x : Except CommandFault α}

theorem of_ok (a : α) : Preparatory (.ok a) := nofun

theorem of_error {fault : CommandFault} (h : fault.beforehand = true) :
    Preparatory (.error fault : Except CommandFault α) := by
  intro other heq
  rw [← Except.error.inj heq, h]

theorem bind {f : α → Except CommandFault β} (hx : Preparatory x) (hf : ∀ a, Preparatory (f a)) :
    Preparatory (x.bind f) := by
  cases x with
  | ok a => exact hf a
  | error fault => exact of_error (hx fault rfl)

theorem map (hx : Preparatory x) (f : α → β) : Preparatory (x.map f) := by
  cases x with
  | ok a => exact of_ok (f a)
  | error fault => exact of_error (hx fault rfl)

end Preparatory

/-! ## The values of a command -/

theorem preparatory_readDate (text : Option String) : Preparatory (readDate text) := by
  unfold readDate
  split
  · exact .of_ok none
  · split
    · exact .of_ok _
    · exact .of_error rfl

theorem preparatory_readReason (text : Option String) : Preparatory (readReason text) := by
  unfold readReason
  split <;> first | exact .of_ok _ | exact .of_error rfl

theorem preparatory_readTrust (text : Option String) : Preparatory (readTrust text) := by
  unfold readTrust
  split <;> first | exact .of_ok _ | exact .of_error rfl

theorem preparatory_addCapabilities (c : Capabilities) (letters : List Char) :
    Preparatory (addCapabilities c letters) := by
  induction letters generalizing c with
  | nil => exact .of_ok c
  | cons letter rest ih =>
    unfold addCapabilities
    split
    · exact ih _
    · exact ih _
    · exact ih _
    · exact .of_error rfl

theorem preparatory_readCapabilities (letters : Option String) :
    Preparatory (readCapabilities letters) := by
  cases letters with
  | none => exact .of_ok _
  | some letters => exact preparatory_addCapabilities _ _

section
variable (environment : List (String × String))

theorem preparatory_lookupVariable (name : String) :
    Preparatory (lookupVariable environment name) := by
  unfold lookupVariable
  split
  · exact .of_ok _
  · exact .of_error rfl

theorem PasswdValues.preparatory_edit (v : PasswdValues) : Preparatory (v.edit environment) := by
  unfold edit
  split
  · exact .of_ok _
  · refine (preparatory_lookupVariable environment _).bind fun secret => ?_
    split
    · exact .of_error rfl
    · exact .of_ok _

theorem Command.preparatory_edit (c : Command) : Preparatory (c.edit environment) := by
  cases c with
  | sign v => exact (preparatory_readDate v.expire).map _
  | revsig v => exact (preparatory_readReason v.reason).map _
  | delsig v => exact .of_ok _
  | enable => exact .of_ok _
  | disable => exact .of_ok _
  | trust v => exact (preparatory_readTrust v.level).map _
  | expire v => exact (preparatory_readDate v.date).map _
  | addkey v =>
    exact (preparatory_readDate v.expire).bind fun _ =>
      (preparatory_readCapabilities v.usage).map _
  | passwd v => exact v.preparatory_edit environment

end

/-! ## Plans -/

section
variable {ε α β : Type} {x : Except ε α} {b : β}

theorem bind_eq_ok_iff {f : α → Except ε β} :
    x.bind f = .ok b ↔ ∃ a, x = .ok a ∧ f a = .ok b := by
  cases x <;> simp [Except.bind]

theorem map_eq_ok_iff {f : α → β} : x.map f = .ok b ↔ ∃ a, x = .ok a ∧ f a = b := by
  cases x <;> simp [Except.map]

end

theorem singleKey_eq_ok_iff {keys : List String} {fingerprint : String} :
    singleKey keys = .ok fingerprint ↔ keys = [fingerprint] := by
  unfold singleKey
  split
  · simp
  · next h => exact ⟨nofun, fun heq => absurd heq (h fingerprint)⟩

theorem preparatory_singleKey (keys : List String) : Preparatory (singleKey keys) := by
  unfold singleKey
  split
  · exact .of_ok _
  · exact .of_error rfl

namespace Surroundings
variable (w : Surroundings)

theorem preparatory_program (g : Globals) : Preparatory (w.program g) := by
  unfold program
  split
  · exact .of_ok _
  · split
    · exact .of_ok _
    · exact .of_error rfl

theorem preparatory_source (g : Globals) : Preparatory (w.source g) := by
  unfold source
  split
  · exact (preparatory_lookupVariable w.environment _).map _
  · exact .of_ok _

theorem preparatory_plan (i : Invocation) : Preparatory (w.plan i) := by
  unfold plan
  split
  · exact .of_error rfl
  · next given _ =>
    exact (w.preparatory_program i.globals).bind fun _ =>
      (w.preparatory_source i.globals).bind fun _ =>
      (preparatory_singleKey given.keys).bind fun _ =>
      (given.command.preparatory_edit w.environment).map _

/-- A plan is made of the parts that a command line gives it, and there is none
    unless all of them can be had. -/
theorem plan_eq_ok_iff {i : Invocation} {p : Plan} :
    w.plan i = .ok p ↔ ∃ given, i.given = some given ∧ w.program i.globals = .ok p.program ∧
      w.source i.globals = .ok p.source ∧ given.keys = [p.fingerprint] ∧
      given.command.edit w.environment = .ok p.edit ∧
      p.backend = ⟨i.globals.homedir, i.globals.expert⟩ := by
  constructor
  · intro h
    unfold plan at h
    split at h
    · cases h
    · next given hgiven =>
      obtain ⟨program, hprogram, h⟩ := bind_eq_ok_iff.1 h
      obtain ⟨source, hsource, h⟩ := bind_eq_ok_iff.1 h
      obtain ⟨fingerprint, hkey, h⟩ := bind_eq_ok_iff.1 h
      obtain ⟨edit, hedit, rfl⟩ := map_eq_ok_iff.1 h
      exact ⟨given, hgiven, hprogram, hsource, singleKey_eq_ok_iff.1 hkey, hedit, rfl⟩
  · rintro ⟨given, hgiven, hprogram, hsource, hkeys, hedit, hbackend⟩
    have hkey : singleKey given.keys = .ok p.fingerprint := singleKey_eq_ok_iff.2 hkeys
    unfold plan
    rw [hgiven]
    simp only [hprogram, hsource, hkey, hedit, ← hbackend, Except.bind, Except.map]

end Surroundings
end CommandLine

/-! ## What the backend does -/

/-- Whatever a session fails with, its explanation is no fault of the preparation. -/
theorem Failure.beforehand_explain {f : Failure} (h : f.ofSession = true) (r : Record) :
    (explain r f).beforehand = false := by
  rcases explain_cases r f with hf | hf | ⟨_, _, hf⟩
  · rw [hf]
    cases f <;> first | rfl | cases h
  · rw [hf]; rfl
  · rw [hf]; rfl

namespace Backend
variable (b : Backend) (child : Option Child)

/-- An edit that reaches the backend does not fail by a fault of the preparation. -/
theorem beforehand_result_edit (ed : Editor) (fingerprint : String) (edit : Edit)
    (h : edit.fault? ed.source = none) {f : Failure}
    (hresult : (b.edit child ed fingerprint edit).2.1.result = .error f) :
    f.beforehand = false := by
  have hengine := congrArg (·.2.result) (b.edit_eq child ed fingerprint edit)
  rcases (ed.result_edit_eq_error_iff _ fingerprint edit h).1 (hengine.symm.trans hresult) with
    ⟨g, hg, rfl⟩ | ⟨-, -, rfl⟩
  · exact Failure.beforehand_explain (b.ofSession_outcome child fingerprint _ hg) _
  · rfl

/-- A child that is started is given the arguments for the key. -/
theorem eq_of_arguments_conduct (fingerprint : String) (s : Session) {arguments : List String}
    (h : (b.conduct child fingerprint s).arguments = some arguments) :
    arguments = b.arguments fingerprint := by
  cases child with
  | none => cases h
  | some child =>
    simp only [conduct] at h
    split at h
    · cases h
    · exact (Option.some.inj h).symm

end Backend

/-! ## Runs -/

namespace CommandLine

/-- A command line came to nothing: the backend was not reached, and the user was not
    asked for a passphrase. -/
structure Outcome.TurnedAway (x : Outcome) : Prop where
  verdict : x.verdict.beforehand = true
  contact : x.contact = none
  requests : x.requests = []

namespace Surroundings
variable (w : Surroundings)

theorem turnedAway_carryOut {p : Plan} {fault : OptionFault}
    (h : p.edit.fault? p.source = some fault) : (w.carryOut p).TurnedAway := by
  have hout : w.carryOut p = ⟨.failed (.failure (.invalidOptions fault)), none, []⟩ := by
    simp only [carryOut, Backend.edit, h]
    rfl
  rw [hout]
  exact ⟨rfl, rfl, rfl⟩

/-- A plan whose options have no fault reaches the backend. -/
theorem reaches_carryOut {p : Plan} (h : p.edit.fault? p.source = none) :
    (w.carryOut p).verdict.beforehand = false ∧
      ∃ s, (w.carryOut p).contact =
        some (p.backend.conduct (w.launch p.program) p.fingerprint s) := by
  constructor
  · simp only [carryOut]
    split
    · rfl
    · next f hf =>
      exact p.backend.beforehand_result_edit (w.launch p.program) _ p.fingerprint p.edit h hf
  · simp only [carryOut, Backend.edit, h]
    exact ⟨_, rfl⟩

/-- A command line is turned away, or it can be read, asks for no help, and carries
    out a plan whose options have no fault. -/
theorem run_cases (args : List String) :
    (w.run args).TurnedAway ∨
      ∃ i p, Invocation.ofArguments args = .ok i ∧ i.wantsHelp = false ∧ w.plan i = .ok p ∧
        p.edit.fault? p.source = none ∧ w.run args = w.carryOut p := by
  unfold run
  split
  · exact .inl ⟨rfl, rfl, rfl⟩
  · next i hi =>
    split
    · exact .inl ⟨rfl, rfl, rfl⟩
    · next hhelp =>
      split
      · next fault hfault => exact .inl ⟨w.preparatory_plan i fault hfault, rfl, rfl⟩
      · next p hp =>
        cases hfault : p.edit.fault? p.source with
        | some fault => exact .inl (w.turnedAway_carryOut hfault)
        | none => exact .inr ⟨i, p, hi, Bool.eq_false_iff.2 hhelp, hp, hfault, rfl⟩

/-- A command line that can be read, asks for no help, gives a plan and has options
    that make sense reaches the backend, and no other one does. -/
theorem reaches_run_iff (args : List String) :
    (w.run args).contact ≠ none ↔
      ∃ i p, Invocation.ofArguments args = .ok i ∧ i.wantsHelp = false ∧ w.plan i = .ok p ∧
        p.edit.Valid p.source := by
  constructor
  · intro hreached
    rcases w.run_cases args with haway | ⟨i, p, hi, hhelp, hp, hfault, -⟩
    · exact absurd haway.contact hreached
    · exact ⟨i, p, hi, hhelp, hp, (p.edit.fault?_eq_none_iff p.source).1 hfault⟩
  · rintro ⟨i, p, hi, hhelp, hp, hvalid⟩
    have hrun : w.run args = w.carryOut p := by simp [run, hi, hhelp, hp]
    obtain ⟨-, s, hcontact⟩ :=
      w.reaches_carryOut ((p.edit.fault?_eq_none_iff p.source).2 hvalid)
    rw [hrun, hcontact]
    exact Option.some_ne_none _

end Surroundings

/-- **Wrong command lines reach nothing.**  Whatever is found around a command line,
    its verdict tells whether the backend was reached: it was not exactly if the
    command line cannot be read, asks for help, or is found at fault for its values,
    its options or what it needs.  No passphrase is asked for then; every other
    command line does reach it.  A child that is started is given fixed arguments, the
    directory of the keyrings and the leave for any algorithm if the command line gives
    them, and its only free argument as the last one. -/
theorem wrong_command_lines_reach_nothing (w : Surroundings) (args : List String) :
    let x := w.run args
    (x.verdict.beforehand = true ↔ x.contact = none) ∧
    (x.verdict.beforehand = true → x.requests = []) ∧
    (x.contact ≠ none ↔
      ∃ i p, Invocation.ofArguments args = .ok i ∧ i.wantsHelp = false ∧ w.plan i = .ok p ∧
        p.edit.Valid p.source) ∧
    ∀ contact arguments, x.contact = some contact → contact.arguments = some arguments →
      ∃ i given fingerprint, Invocation.ofArguments args = .ok i ∧ i.given = some given ∧
        given.keys = [fingerprint] ∧
        arguments =
          ["--batch", "--no-tty", "--status-fd", "1", "--command-fd", "0", "--pinentry-mode",
            "loopback"] ++
          (match i.globals.homedir with
            | some dir => ["--homedir", dir]
            | none => []) ++
          (if i.globals.expert then ["--expert"] else []) ++ ["--edit-key", fingerprint] := by
  intro x
  have hreaches := w.reaches_run_iff args
  rcases w.run_cases args with haway | ⟨i, p, hi, -, hp, hfault, hrun⟩
  · refine ⟨iff_of_true haway.verdict haway.contact, fun _ => haway.requests, hreaches, ?_⟩
    intro contact _ hcontact
    rw [haway.contact] at hcontact
    cases hcontact
  · obtain ⟨hverdict, s, hreached⟩ := w.reaches_carryOut hfault
    rw [← hrun] at hverdict hreached
    refine ⟨iff_of_false (by simp [x, hverdict]) (by simp [x, hreached]), ?_, hreaches, ?_⟩
    · intro hbeforehand
      rw [hverdict] at hbeforehand
      cases hbeforehand
    · intro contact arguments hcontact harguments
      rw [hreached] at hcontact
      cases hcontact
      obtain ⟨given, hgiven, -, -, hkeys, -, hbackend⟩ := w.plan_eq_ok_iff.1 hp
      refine ⟨i, given, p.fingerprint, hi, hgiven, hkeys, ?_⟩
      rw [p.backend.eq_of_arguments_conduct _ _ _ harguments, hbackend]
      rfl

end CommandLine
end KeyDialogue
