/-
  Key dialogue — what an edit makes of a single event.

  * `EditKind.questions` are the questions that an edit of a kind answers, besides the
    one for the passphrase;
  * `EditKind.Replies`: an edit answers these by a line, a signing fails if
    something is signed already, and every other event changes nothing and is
    given no answer.  All edits reply in this way (`PlainProgress.replies`,
    `PassphraseChange.replies_answer`), and what is true of all replies follows from
    it.
-/
import KeyDialogue.Edit

namespace KeyDialogue

/-- The questions that an edit of a kind answers, besides the one for the
    passphrase. -/
def EditKind.questions : EditKind → List Question
  | sign => [.menu, .signClass, .signExpires, .signOkay, .signPromoteLocal, .signValidity,
      .trustValue, .trustDepth, .trustRegexp, .signAllOkay, .saveOkay]
  | passphrase => [.menu, .emptyPassphraseOkay, .saveOkay]
  | revokeSignature => [.menu, .revokeOne, .revokeExpired, .revokeOkay, .reasonOkay, .reasonCode,
      .reasonText, .saveOkay]
  | deleteSignature => [.menu, .deleteUnknown, .deleteValid, .deleteInvalid, .deleteSelfSignature,
      .saveOkay]
  | enableDisable => [.menu, .saveOkay]
  | trust => [.menu, .ownerTrustValue, .ownerTrustUltimateOkay, .saveOkay]
  | addSubkey => [.menu, .keyAlgorithm, .keyFlags, .keySize, .keyValidity, .saveOkay]
  | expire => [.menu, .keyValidity, .saveOkay]

theorem EditKind.passphrase_not_mem_questions (kind : EditKind) :
    Question.passphrase ∉ kind.questions := by
  cases kind <;> decide

/-- What an edit of a kind, in some state, makes of an event that does not concern a
    passphrase: its next state and its reply. -/
inductive EditKind.Replies {σ : Type} (kind : EditKind) (e : Event) (s : σ) (r : σ × Reply) :
    Prop where
  /-- It answers a question of its kind by a line. -/
  | answered {q : Question} (hq : e.question? = some q) (hmem : q ∈ kind.questions)
      {text : String} (ho : r.2.outcome = .ok (.line text)) (hc : r.2.consulted = none)
  /-- A signing fails on what is signed already. -/
  | failed (hkind : kind = .sign) (hs : e.status = .alreadySigned)
      (hr : r = (s, .failed (.alreadySigned (e.args.getD ""))))
  /-- It passes over all other events. -/
  | passedOver (hq : ∀ q, e.question? = some q → q ∉ kind.questions)
      (hs : kind = .sign → e.status ≠ .alreadySigned) (hr : r = (s, .nothing))

theorem EditKind.Replies.map {σ τ : Type} {kind : EditKind} {e : Event} {s : σ} {r : σ × Reply}
    (h : kind.Replies e s r) (f : σ → τ) : kind.Replies e (f s) (r.map f id) := by
  cases h with
  | answered hq hmem ho hc => exact .answered hq hmem ho hc
  | failed hkind hs hr => exact .failed hkind hs (by rw [hr]; rfl)
  | passedOver hq hs hr => exact .passedOver hq hs (by rw [hr]; rfl)

section
variable (e : Event)

theorem Signing.replies (s : Signing) : EditKind.sign.Replies e s (s.respond e) := by
  unfold respond
  by_cases hs : e.status = .alreadySigned
  · rw [if_pos hs]
    exact .failed rfl hs rfl
  · rw [if_neg hs]
    split
    · next hq => exact .answered hq (by decide) rfl rfl
    · next q hmenu hq =>
      cases q
      case menu => exact absurd rfl hmenu
      case signClass | signExpires | signOkay | signPromoteLocal | signValidity | trustValue
          | trustDepth | trustRegexp | signAllOkay | saveOkay =>
        exact .answered hq (by decide) rfl rfl
      all_goals exact .passedOver (fun q h => by rw [hq] at h; cases h; decide) (fun _ => hs) rfl
    · next hq => exact .passedOver (fun q h => by rw [hq] at h; cases h) (fun _ => hs) rfl

theorem Revocation.replies (r : Revocation) :
    EditKind.revokeSignature.Replies e r (r.respond e) := by
  unfold respond; split
  case h_9 => exact .passedOver (fun q hq => by simp_all [EditKind.questions]) nofun rfl
  case h_5 hq => split <;> exact .answered hq (by decide) rfl rfl
  all_goals next hq => exact .answered hq (by decide) rfl rfl

theorem Deletion.replies (d : Deletion) : EditKind.deleteSignature.Replies e d (d.respond e) := by
  unfold respond; split
  case h_7 => exact .passedOver (fun q hq => by simp_all [EditKind.questions]) nofun rfl
  all_goals next hq => exact .answered hq (by decide) rfl rfl

theorem Switching.replies (s : Switching) : EditKind.enableDisable.Replies e s (s.respond e) := by
  unfold respond; split
  case h_3 => exact .passedOver (fun q hq => by simp_all [EditKind.questions]) nofun rfl
  all_goals next hq => exact .answered hq (by decide) rfl rfl

theorem Trusting.replies (t : Trusting) : EditKind.trust.Replies e t (t.respond e) := by
  unfold respond; split
  case h_5 => exact .passedOver (fun q hq => by simp_all [EditKind.questions]) nofun rfl
  all_goals next hq => exact .answered hq (by decide) rfl rfl

theorem Expiry.replies (x : Expiry) : EditKind.expire.Replies e x (x.respond e) := by
  unfold respond; split
  case h_4 => exact .passedOver (fun q hq => by simp_all [EditKind.questions]) nofun rfl
  all_goals next hq => exact .answered hq (by decide) rfl rfl

theorem SubkeyAddition.replies (a : SubkeyAddition) :
    EditKind.addSubkey.Replies e a (a.respond e) := by
  unfold respond; split
  case h_7 => exact .passedOver (fun q hq => by simp_all [EditKind.questions]) nofun rfl
  case h_2 hq => unfold giveAlgorithm; split <;> exact .answered hq (by decide) rfl rfl
  case h_3 hq => split <;> exact .answered hq (by decide) rfl rfl
  all_goals next hq => exact .answered hq (by decide) rfl rfl

theorem PlainProgress.replies (p : PlainProgress) : p.kind.Replies e p (p.respond e) := by
  cases p with
  | signing s => exact (s.replies e).map signing
  | revocation r => exact (r.replies e).map revocation
  | deletion d => exact (d.replies e).map deletion
  | switching s => exact (s.replies e).map switching
  | trusting t => exact (t.replies e).map trusting
  | expiry x => exact (x.replies e).map expiry
  | subkeyAddition a => exact (a.replies e).map subkeyAddition

theorem PassphraseChange.replies_answer (p : PassphraseChange) :
    EditKind.passphrase.Replies e p (p.answer e) := by
  unfold answer; split
  case h_4 => exact .passedOver (fun q hq => by simp_all [EditKind.questions]) nofun rfl
  all_goals next hq => exact .answered hq (by decide) rfl rfl

end

end KeyDialogue
