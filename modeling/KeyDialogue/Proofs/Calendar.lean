/-
  Key dialogue — the validity period, counted day by day.

  * `a < b` for dates goes by year, then by month, then by day, and the numbers of dates go
    the same way (`number_lt_iff`).  So no two dates share a number (`number_inj`);
  * `iterate_next_eq_iff`: taking the following day leads from one date to another exactly if
    it is taken as often as their numbers differ;
  * `Edit.Expires` are the edits that give a validity period (`Session.outcome_keyValidity`);
  * `validity_counts_days`: it is how often the following day is taken to reach the
    expiration, and 0 if there is none in the future.
-/
import KeyDialogue.Proofs.Progress
import Mathlib.Logic.Function.Iterate

namespace KeyDialogue

open KeyDialogue.Text

namespace Date

/-! ## The order of dates -/

/-- Dates go by year, then by month, then by day. -/
instance : LT Date where
  lt a b := a.year < b.year ∨
    a.year = b.year ∧ (a.month < b.month ∨ a.month = b.month ∧ a.day < b.day)

theorem lt_iff {a b : Date} : a < b ↔ a.year < b.year ∨
    a.year = b.year ∧ (a.month < b.month ∨ a.month = b.month ∧ a.day < b.day) := Iff.rfl

instance (a b : Date) : Decidable (a < b) := decidable_of_iff _ lt_iff.symm

theorem lt_or_eq_or_lt (a b : Date) : a < b ∨ a = b ∨ b < a := by
  by_cases h : a.year = b.year ∧ a.month = b.month ∧ a.day = b.day
  · obtain ⟨hy, hm, hd⟩ := h
    have hparts : ofParts? a.year a.month a.day = some b :=
      ofParts?_eq_some_iff.2 ⟨hy.symm, hm.symm, hd.symm⟩
    rw [ofParts?_self] at hparts
    exact Or.inr (Or.inl (Option.some.inj hparts))
  · rw [lt_iff, lt_iff]
    omega

/-! ## Numbers and the order -/

theorem daysBeforeYear_mono {y y' : Int} (h : y ≤ y') : daysBeforeYear y ≤ daysBeforeYear y' := by
  simp only [daysBeforeYear]
  omega

theorem daysInMonths_mono (year : Int) {m m' : Nat} (h : m ≤ m') :
    daysInMonths year m ≤ daysInMonths year m' := by
  induction h with
  | refl => exact Nat.le_refl _
  | step _ ih => exact Nat.le_trans ih (Nat.le_add_right _ _)

/-- A date lies in its month. -/
theorem daysInMonths_add_day_le (d : Date) :
    daysInMonths d.year (d.month - 1) + d.day ≤ daysInMonths d.year d.month := by
  obtain ⟨m, hm⟩ : ∃ m, d.month = m + 1 := ⟨d.month - 1, by have := d.month_pos; omega⟩
  have hday := d.day_le
  rw [hm] at hday
  rw [hm, Nat.add_sub_cancel, daysInMonths]
  omega

/-- A date comes after all earlier years. -/
theorem daysBeforeYear_lt_number (d : Date) : daysBeforeYear d.year < d.number := by
  have hpos := d.day_pos
  unfold number
  omega

/-- A date lies in its year. -/
theorem number_le_daysBeforeYear_succ (d : Date) : d.number ≤ daysBeforeYear (d.year + 1) := by
  have hmonth := d.daysInMonths_add_day_le
  have hyear := daysInMonths_mono d.year d.month_le
  rw [daysBeforeYear_succ, number]
  omega

theorem number_lt_number {a b : Date} (h : a < b) : a.number < b.number := by
  rcases h with hyear | ⟨hyear, hmonth | ⟨hmonth, hday⟩⟩
  · calc
      a.number ≤ daysBeforeYear (a.year + 1) := a.number_le_daysBeforeYear_succ
      _ ≤ daysBeforeYear b.year := daysBeforeYear_mono hyear
      _ < b.number := b.daysBeforeYear_lt_number
  · have hle := a.daysInMonths_add_day_le
    have hmono := daysInMonths_mono a.year (Nat.le_sub_one_of_lt hmonth)
    have hpos := b.day_pos
    rw [number, number, ← hyear]
    omega
  · rw [number, number, hyear, hmonth]
    omega

theorem number_lt_iff {a b : Date} : a.number < b.number ↔ a < b := by
  refine ⟨fun h => ?_, number_lt_number⟩
  rcases lt_or_eq_or_lt a b with hlt | rfl | hgt
  · exact hlt
  · exact absurd h (Int.lt_irrefl _)
  · have := number_lt_number hgt
    omega

/-- No two dates share a number. -/
theorem number_inj {a b : Date} : a.number = b.number ↔ a = b := by
  refine ⟨fun h => ?_, fun h => h ▸ rfl⟩
  rcases lt_or_eq_or_lt a b with hlt | heq | hgt
  · have := number_lt_number hlt
    omega
  · exact heq
  · have := number_lt_number hgt
    omega

/-! ## Day by day -/

theorem number_iterate_next (d : Date) (n : ℕ) : (next^[n] d).number = d.number + n := by
  induction n with
  | zero => simp
  | succ n ih =>
    rw [Function.iterate_succ_apply', number_next, ih]
    omega

theorem iterate_next_eq_iff {a b : Date} {n : ℕ} : next^[n] a = b ↔ b.number = a.number + n := by
  rw [← number_inj, number_iterate_next]
  exact eq_comm

section
variable {today d : Date}

theorem daysUntil_eq_zero_iff : today.daysUntil d = 0 ↔ ¬ today < d := by
  rw [← number_lt_iff, daysUntil]
  omega

/-- The days until a date in the future are how often the following day is taken to reach
    it. -/
theorem iterate_next_eq_iff_daysUntil (h : today < d) {n : ℕ} :
    next^[n] today = d ↔ n = today.daysUntil d := by
  have hlt := number_lt_iff.2 h
  rw [iterate_next_eq_iff, daysUntil]
  omega

theorem daysUntil_lt_daysUntil {d' : Date} (h : today < d) (h' : d < d') :
    today.daysUntil d < today.daysUntil d' := by
  have hlt := number_lt_iff.2 h
  have hlt' := number_lt_iff.2 h'
  unfold daysUntil
  omega

end

end Date

/-! ## The question for the validity period -/

/-- The edit sets when something expires. -/
inductive Edit.Expires : Edit → Option Date → Prop where
  | keys (o : ExpiryOptions) : Expires (.plain (.setExpiration o)) o.expiration
  | subkey (o : SubkeyOptions) : Expires (.plain (.addSubkey o)) o.expiration

section
variable {edit : Edit} {expiration : Option Date}

theorem Session.outcome_keyValidity (h : edit.Expires expiration) (today : Date) (c : Custody)
    (before : List Event) {e : Event} (hq : e.question? = some .keyValidity) :
    (((edit.session today c).after before).turn e).reply.outcome =
      .ok (.line (numeral (validity today expiration))) := by
  cases h with
  | keys o =>
    rw [outcome_after_plain today c (.setExpiration o) before hq (by decide)]
    simp only [PlainEdit.reached, PlainProgress.respond, Expiry.respond, hq]
    rfl
  | subkey o =>
    rw [outcome_after_plain today c (.addSubkey o) before hq (by decide)]
    simp only [PlainEdit.reached, PlainProgress.respond, SubkeyAddition.respond, hq]
    rfl

/-- **The validity period is exact.**  Whatever came before, a change of expiry and an
    addition of a subkey answer the question for it by a number of days.  The number is 0 if
    there is no expiration or it is not after today.  Otherwise it is positive, and it is
    the only number such that taking the following day so often leads from today to the
    expiration.  So a later expiration has a greater number. -/
theorem validity_counts_days (h : edit.Expires expiration) (today : Date) (c : Custody) :
    let s := edit.session today c
    let days := validity today expiration
    (∀ before e, e.question? = some .keyValidity →
      ((s.after before).turn e).reply.outcome = .ok (.line (numeral days))) ∧
    ((∀ d ∈ expiration, ¬ today < d) → days = 0) ∧
    (∀ d ∈ expiration, today < d →
      0 < days ∧ Date.next^[days] today = d ∧ ∀ n, Date.next^[n] today = d → n = days) ∧
    ∀ d d', today < d → d < d' → validity today (some d) < validity today (some d') := by
  intro s days
  refine ⟨fun before e => Session.outcome_keyValidity h today c before, fun hnone => ?_,
    fun d hd hlater => ?_, fun d d' => Date.daysUntil_lt_daysUntil⟩
  · cases expiration with
    | none => rfl
    | some d => exact Date.daysUntil_eq_zero_iff.2 (hnone d rfl)
  · obtain rfl : expiration = some d := hd
    refine ⟨Nat.pos_of_ne_zero fun hzero => Date.daysUntil_eq_zero_iff.1 hzero hlater,
      (Date.iterate_next_eq_iff_daysUntil hlater).2 rfl,
      fun n => (Date.iterate_next_eq_iff_daysUntil hlater).1⟩

end

/-- From the last day before year 0, which is a leap year, to the first of March. -/
theorem validity_counts_days_leap :
    let today : Date := ⟨-1, 12, 31, by decide, by decide, by decide, by decide⟩
    let d : Date := ⟨0, 3, 1, by decide, by decide, by decide, by decide⟩
    let edit := Edit.plain (.addSubkey { algorithm := 1, length := 3072, expiration := some d })
    let e : Event := ⟨.getLine, some "keygen.valid"⟩
    edit.Expires (some d) ∧ e.question? = some .keyValidity ∧ today < d ∧
      (((edit.session today ⟨{}, .absent⟩).after []).turn e).reply.outcome = .ok (.line "61") ∧
      Date.next^[61] today = d := by
  intro today d edit e
  have hexpires : edit.Expires (some d) := .subkey _
  have hlater : today < d := by decide
  obtain ⟨hanswer, -, hdays, -⟩ := validity_counts_days hexpires today ⟨{}, .absent⟩
  have hvalidity : validity today (some d) = 61 := by decide
  refine ⟨hexpires, rfl, hlater, (hanswer [] e rfl).trans (by rw [hvalidity]; decide), ?_⟩
  rw [← hvalidity]
  exact (hdays d rfl hlater).2.1

end KeyDialogue
