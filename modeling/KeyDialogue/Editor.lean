/-
  Key dialogue — the editor: edits of several keys, one session after the other.

  * An `Editor` has a source of secrets and, in its `Keyring`, the passphrase
    record of every key;
  * `Editor.edit` carries out one edit.  Options with a fault start no session;
    otherwise an engine conducts one, its record is kept, and a failure is
    explained by what happened to the passphrase (`explain`).
-/
import KeyDialogue.Session

namespace KeyDialogue

/-- The passphrase records of keys, by fingerprint; the latest comes first. -/
structure Keyring where
  records : List (String × Record) := []

namespace Keyring

/-- The record of a key. -/
def record (k : Keyring) (fingerprint : String) : Record :=
  (k.records.lookup fingerprint).getD {}

/-- Keeps the record of a key. -/
def store (k : Keyring) (fingerprint : String) (r : Record) : Keyring :=
  ⟨(fingerprint, r) :: k.records.filter (·.1 != fingerprint)⟩

@[simp] theorem record_store_self (k : Keyring) (f : String) (r : Record) :
    (k.store f r).record f = r := by
  simp [record, store]

theorem record_store_of_ne (k : Keyring) {f g : String} (h : g ≠ f) (r : Record) :
    (k.store f r).record g = k.record g := by
  have hg : (g == f) = false := by simpa using h
  simp only [record, store, List.lookup_cons, hg]
  congr 1
  induction k.records with
  | nil => rfl
  | cons p rest ih =>
    obtain ⟨f', r'⟩ := p
    simp only [List.filter_cons, List.lookup_cons]
    by_cases hf : f' = f
    · subst hf
      simp [hg, ih]
    · have : (f' != f) = true := by simpa using hf
      simp only [this, if_true, List.lookup_cons, ih]

end Keyring

/-- Explains the failure of a session by what happened to the passphrase. -/
def explain (r : Record) (f : Failure) : Failure :=
  match f with
  | .aborted => if r.declined then .canceled else f
  | .backend _ =>
    if r.declined then .canceled
    else if r.previousWasBad then
      let request := r.request .unlock
      .badPassphrase request.userId (request.key.map (·.keyId))
    else f
  | _ => f

/-- What came of an edit. -/
structure Report where
  /-- A session was started. -/
  started : Bool
  turns : List Turn
  /-- The requests made to whoever was asked for secrets, each with the turn in
      which it was made. -/
  requests : List (Nat × Request)
  result : Except Failure Unit
  /-- The record of the key afterwards. -/
  record : Record
  notes : List Note

/-- Edits keys. -/
structure Editor where
  source : Source
  /-- The present day. -/
  today : Date
  keyring : Keyring := {}

namespace Editor

/-- The session that an edit starts. -/
def session (ed : Editor) (fingerprint : String) (edit : Edit) : Session :=
  ⟨edit.start ed.today, (ed.keyring.record fingerprint).begin, ed.source⟩

/-- The requests made in the course of turns. -/
def requestsOf (source : Source) (turns : List Turn) : List (Nat × Request) :=
  if source.isInteractive then
    turns.zipIdx.filterMap fun (t, i) => t.reply.consulted.map fun r => (i, r)
  else []

/-- The result of an edit whose session ended well. -/
def resultOf (p : Progress) : Except Failure Unit :=
  if p.refused then .error .customizationIgnored else .ok ()

/-- The report on an edit that is rejected for its options. -/
def rejection (ed : Editor) (fingerprint : String) (fault : OptionFault) : Report where
  started := false
  turns := []
  requests := []
  result := .error (.invalidOptions fault)
  record := ed.keyring.record fingerprint
  notes := []

/-- Concludes an edit whose session took the given course. -/
def conclude (ed : Editor) (fingerprint : String) (kind : EditKind) (course : Course) :
    Editor × Report :=
  let record := course.session.custody.record
  let outcome := course.outcome.mapError (explain record)
  let failureNotes :=
    match outcome with
    | .ok () => []
    | .error f => [.editFailed fingerprint f]
  ({ ed with
      source := course.session.custody.source
      keyring := ed.keyring.store fingerprint record },
    { started := true
      turns := course.turns
      requests := requestsOf ed.source course.turns
      result := outcome.bind fun () => resultOf course.session.progress
      record := record
      notes :=
        .editing fingerprint kind :: course.turns.flatMap (Turn.notes kind) ++ failureNotes })

/-- Carries out an edit in a session that an engine conducts. -/
def edit (ed : Editor) (engine : Session → Course) (fingerprint : String) (edit : Edit) :
    Editor × Report :=
  match edit.fault? ed.source with
  | some fault => (ed, ed.rejection fingerprint fault)
  | none => ed.conclude fingerprint edit.kind (engine (ed.session fingerprint edit))

/-- Carries out edits in order, each with its own engine. -/
def editAll (ed : Editor) : List ((Session → Course) × String × Edit) → Editor × List Report
  | [] => (ed, [])
  | (engine, fingerprint, edit) :: rest =>
    let (ed, report) := ed.edit engine fingerprint edit
    let (ed, reports) := ed.editAll rest
    (ed, report :: reports)

end Editor

end KeyDialogue
