/-
  Key dialogue — what a request for a passphrase shows.

  Before the backend asks for a passphrase it announces whose it is: the key by
  `KeyAnnouncement`, the user by a hint.  A request shows what was announced last.

  * `Text.fields` are the fields of a text, with gaps between them.  The parts of an
    announcement are the first four fields of its text
    (`KeyAnnouncement.Spells.fields_eq`), so a text with too few of them or with too
    large a number is none (`KeyAnnouncement.Spells.not_unfit`);
  * `KeyAnnouncement.spells_of_words`: what is written as an announcement spells it;
  * `userIdOfHint_append`, `userIdOfHint_of_other`: which part of a hint is the user id;
  * `Session.key_request_after`, `Session.userId_request_after`: a request shows the last
    announcement and the last hint, whatever other events come after them;
  * `requests_show_what_was_announced`: so what is written is shown, and nothing is shown
    of a text of another form.
-/
import KeyDialogue.Proofs.Announcement
import KeyDialogue.Proofs.History

namespace KeyDialogue

open KeyDialogue.Text

namespace Text

/-! ## Fields -/

/-- A character of a field. -/
def isText (c : Char) : Bool := !isGap c

/-- The fields of a text: what stands between gaps. -/
def fields (s : List Char) : List (List Char) := (s.splitOnP isGap).filter (· ≠ [])

theorem fields_append_cons (s : List Char) {c : Char} (hc : isGap c = true) (t : List Char) :
    fields (s ++ c :: t) = fields s ++ fields t := by
  rw [fields, List.splitOnP_append_cons s t hc, List.filter_append]
  rfl

@[simp] theorem fields_nil : fields [] = [] := rfl

/-- A gap at the front belongs to no field. -/
theorem fields_gap_append {gap : List Char} (hgap : ∀ c ∈ gap, isGap c = true) (s : List Char) :
    fields (gap ++ s) = fields s := by
  induction gap with
  | nil => rfl
  | cons c gap ih =>
    have hcut := fields_append_cons [] (hgap c (List.mem_cons_self ..)) (gap ++ s)
    rw [List.nil_append, fields_nil, List.nil_append] at hcut
    rw [List.cons_append, hcut]
    exact ih fun d hd => hgap d (List.mem_cons_of_mem _ hd)

theorem fields_of_word {w : List Char} (hw : Word isText w) : fields w = [w] := by
  have hwhole : w.splitOnP isGap = [w] :=
    List.splitOnP_eq_singleton fun c hc => by simpa [isText] using hw.2 c hc
  simp [fields, hwhole, hw.1]

/-- A word at the front belongs to the first field, which goes on up to the next gap. -/
theorem fields_word_append {w : List Char} (hw : Word isText w) (s : List Char) :
    fields (w ++ s) = (w ++ s.takeWhile isText) :: fields (s.dropWhile isText) := by
  have hfirst : Word isText (w ++ s.takeWhile isText) := by
    refine ⟨List.append_ne_nil_of_left_ne_nil hw.1 _, fun c hc => ?_⟩
    rcases List.mem_append.1 hc with hc | hc
    · exact hw.2 c hc
    · exact List.mem_takeWhile_imp hc
  have hsplit : w ++ s = (w ++ s.takeWhile isText) ++ s.dropWhile isText := by
    rw [List.append_assoc, List.takeWhile_append_dropWhile]
  rw [hsplit]
  cases hrest : s.dropWhile isText with
  | nil => rw [List.append_nil, fields_of_word hfirst, fields_nil]
  | cons c t =>
    have hstops := stops_dropWhile isText s
    rw [hrest] at hstops
    have hc : isGap c = true := by simpa [isText] using hstops c rfl
    have htail := fields_append_cons [] hc t
    rw [List.nil_append, fields_nil, List.nil_append] at htail
    rw [fields_append_cons _ hc, fields_of_word hfirst, htail]
    rfl

/-- A word with a gap after it is a field. -/
theorem fields_word_append_gap {w gap : List Char} (hw : Word isText w) (hgap : Word isGap gap)
    (s : List Char) : fields (w ++ (gap ++ s)) = w :: fields s := by
  have hstops : Stops isText (gap ++ s) :=
    hgap.stops (fun c hc => by simp [isText, hc]) s
  have hnone : ∀ c ∈ ([] : List Char), isText c = true := List.forall_mem_nil _
  obtain ⟨htake, hdrop⟩ := takeWhile_append_of_run hnone hstops
  rw [List.nil_append] at htake hdrop
  rw [fields_word_append hw, htake, hdrop, List.append_nil, fields_gap_append hgap.2]

/-! ## Numbers -/

/-- A text of digits writes a number in decimal; zeros may come first. -/
def Writes (n : Nat) (digits : List Char) : Prop := Word isDigit digits ∧ digitsValue digits = n

theorem writes_numeral (n : Nat) : Writes n (numeral n).toList := by
  rw [numeral, String.toList_ofList]
  refine ⟨⟨Nat.toDigits_ne_nil, fun c hc => ?_⟩, Nat.ofDigitChars_ten_toDigits⟩
  simpa [isDigit, Char.isDigit, Char.le_def] using
    Nat.isDigit_of_mem_toDigits (by decide) (by decide) hc

end Text

/-! ## Announcements -/

section
variable {isPart : Char → Bool} {w : List Char}

instance : Decidable (Word isPart w) :=
  decidable_of_iff ((!w.isEmpty && w.all isPart) = true) (by simp [Word])

theorem Word.isText_of_apart (hw : Word isPart w) (h : Apart isGap isPart) : Word isText w :=
  ⟨hw.1, fun c hc => by simp [isText, h.symm c (hw.2 c hc)]⟩

end

namespace KeyAnnouncement

/-- What is written with gaps between the parts spells the announcement. -/
theorem spells_of_words (a : KeyAnnouncement) {gap₁ gap₂ gap₃ : String}
    (hkey : Word isHexDigit a.keyId.toList) (hmain : Word isHexDigit a.mainKeyId.toList)
    (hgap₁ : Word isGap gap₁.toList) (hgap₂ : Word isGap gap₂.toList)
    (hgap₃ : Word isGap gap₃.toList)
    (halgorithm : a.algorithm ≤ maxAlgorithm) (hlength : a.keyLength ≤ maxKeyLength) :
    a.Spells (a.keyId ++ gap₁ ++ a.mainKeyId ++ gap₂ ++ numeral a.algorithm ++ gap₃ ++
      numeral a.keyLength) := by
  obtain ⟨hx, hvalue⟩ := writes_numeral a.algorithm
  obtain ⟨hl, hvalue'⟩ := writes_numeral a.keyLength
  exact ⟨gap₁.toList, gap₂.toList, _, gap₃.toList, _, [], by simp, ⟨hkey, hmain, hx, hl⟩,
    ⟨hgap₁, hgap₂, hgap₃, by simp [Stops]⟩, ⟨hvalue, halgorithm⟩, hvalue', hlength⟩

/-- The parts of an announcement are the first four fields of its text.  The last number
    may be followed by more in its field, but not by a digit. -/
theorem Spells.fields_eq {a : KeyAnnouncement} {text : String} (h : a.Spells text) :
    ∃ algorithm keyLength tail more,
      fields text.toList =
        a.keyId.toList :: a.mainKeyId.toList :: algorithm :: (keyLength ++ tail) :: more ∧
      Writes a.algorithm algorithm ∧ Writes a.keyLength keyLength ∧ Stops isDigit tail := by
  obtain ⟨gap₁, gap₂, x, gap₃, l, rest, htext, ⟨hk, hm, hx, hl⟩, ⟨hgap₁, hgap₂, hgap₃, hrest⟩,
    ⟨hxvalue, -⟩, hlvalue, -⟩ := h
  have hhex : Apart isGap isHexDigit := gap_apart rfl rfl
  have hdigit : Apart isGap isDigit := gap_apart rfl rfl
  refine ⟨x, l, rest.takeWhile isText, fields (rest.dropWhile isText), ?_, ⟨hx, hxvalue⟩,
    ⟨hl, hlvalue⟩, fun c hc => ?_⟩
  · rw [htext, fields_word_append_gap (hk.isText_of_apart hhex) hgap₁,
      fields_word_append_gap (hm.isText_of_apart hhex) hgap₂,
      fields_word_append_gap (hx.isText_of_apart hdigit) hgap₃,
      fields_word_append (hl.isText_of_apart hdigit)]
  · cases rest with
    | nil => simp at hc
    | cons d rest =>
      rw [List.takeWhile_cons] at hc
      split at hc
      · exact hrest c hc
      · cases hc

/-- A word of digits does not go on where the digits end. -/
theorem eq_of_writes_append {n m : Nat} {digits tail : List Char} (hn : Writes n (digits ++ tail))
    (hm : Writes m digits) (htail : Stops isDigit tail) : n = m := by
  cases tail with
  | nil => rw [← hn.2, List.append_nil, hm.2]
  | cons c tail =>
    have hdigit := hn.1.2 c (by simp)
    rw [htail c rfl] at hdigit
    cases hdigit

/-- A text cannot be an announcement: it has too few fields, or one of its numbers is too
    large. -/
inductive Unfit (text : String) : Prop
  | fewFields (h : (fields text.toList).length < 4)
  | largeAlgorithm {field : List Char} {n : Nat} (hfield : (fields text.toList)[2]? = some field)
      (hn : Writes n field) (h : 255 < n)
  | largeKeyLength {field : List Char} {n : Nat} (hfield : (fields text.toList)[3]? = some field)
      (hn : Writes n field) (h : 4294967295 < n)

theorem Spells.not_unfit {a : KeyAnnouncement} {text : String} (h : a.Spells text) :
    ¬ Unfit text := by
  obtain ⟨algorithm, keyLength, tail, more, hfields, halgorithm, hkeyLength, htail⟩ := h.fields_eq
  obtain ⟨-, -, -, -, -, -, -, -, -, ⟨-, hmax⟩, -, hmax'⟩ := h
  rintro (hfew | ⟨hfield, hn, hlarge⟩ | ⟨hfield, hn, hlarge⟩)
  · simp only [hfields, List.length_cons] at hfew
    omega
  · obtain rfl : algorithm = _ := by simpa [hfields] using hfield
    have hvalue : _ = a.algorithm := hn.2.symm.trans halgorithm.2
    exact absurd hmax (by rw [← hvalue]; exact Nat.not_le.2 hlarge)
  · obtain rfl : keyLength ++ tail = _ := by simpa [hfields] using hfield
    have hvalue := eq_of_writes_append hn hkeyLength htail
    exact absurd hmax' (by rw [← hvalue]; exact Nat.not_le.2 hlarge)

/-- An unfit text announces nothing. -/
theorem ofText?_of_unfit {text : String} (h : Unfit text) : ofText? text = none := by
  rw [Option.eq_none_iff_forall_ne_some]
  exact fun a ha => (ofText?_eq_some_iff.1 ha).not_unfit h

end KeyAnnouncement

/-! ## Hints -/

theorem userIdOfHint_append {keyId : String} (h : Word isHexDigit keyId.toList) (userId : String) :
    userIdOfHint (keyId ++ " " ++ userId) = userId := by
  have hstops : Stops isHexDigit (' ' :: userId.toList) := by simp [Stops, isHexDigit, isDigit]
  have hword : word? isHexDigit (keyId ++ " " ++ userId).toList =
      some (keyId.toList, ' ' :: userId.toList) :=
    word?_eq_some_iff.2 ⟨by simp, h, hstops⟩
  simp only [userIdOfHint, hword, String.ofList_toList]

/-- A hint of another form is a user id as a whole. -/
theorem userIdOfHint_of_other {hint : String}
    (h : ∀ keyId userId : String, Word isHexDigit keyId.toList → hint ≠ keyId ++ " " ++ userId) :
    userIdOfHint hint = hint := by
  unfold userIdOfHint
  split
  · next keyId userId hword =>
    obtain ⟨htext, hkey, -⟩ := word?_eq_some_iff.1 hword
    refine absurd ?_ (h (String.ofList keyId) (String.ofList userId) (by simpa using hkey))
    exact String.toList_inj.1 (by simpa using htext)
  · rfl

/-! ## Requests -/

namespace Record

/-- A part of the record that keeps what events of one sort announce is not changed by
    others. -/
theorem part_foldl_observe {part : Record → Option String} {isSort : Status → Bool}
    (hpart : ∀ r e, part (observe r e) = if isSort e.status then e.args else part r) (r : Record)
    {later : List Event} (hlater : ∀ g ∈ later, isSort g.status = false) :
    part (later.foldl observe r) = part r := by
  induction later generalizing r with
  | nil => rfl
  | cons g later ih =>
    have hg : part (r.observe g) = part r := by simp [hpart, hlater g]
    rw [List.foldl_cons, ih _ fun g' h => hlater g' (List.mem_cons_of_mem _ h), hg]

theorem announcement_observe (r : Record) (e : Event) :
    (r.observe e).announcement = if e.status.isNeed then e.args else r.announcement := by
  unfold observe
  cases h : e.status <;> simp [Status.isNeed]

theorem userIdHint_observe (r : Record) (e : Event) :
    (r.observe e).userIdHint = if e.status.isHint then e.args else r.userIdHint := by
  unfold observe
  cases h : e.status <;> simp [Status.isHint]

end Record

/-- What a request shows of the key: its id, that of the main key, the algorithm and the
    length. -/
def Request.parts (r : Request) : Option String × Option String × Option Nat × Option Nat :=
  (r.key.map (·.keyId), r.key.map (·.mainKeyId), r.key.map (·.algorithm),
    r.key.map (·.keyLength))

/-- All parts are shown exactly if the key is. -/
theorem Request.parts_eq_some_iff (r : Request) (a : KeyAnnouncement) :
    r.parts = (some a.keyId, some a.mainKeyId, some a.algorithm, some a.keyLength) ↔
      r.key = some a := by
  cases hkey : r.key with
  | none => simp [parts, hkey]
  | some b => cases a; cases b; simp [parts, hkey]

namespace Session
variable (s : Session) {e : Event} {later : List Event} (purpose : Purpose)

theorem request_after (events : List Event) :
    (s.after events).custody.record.request purpose =
      (events.foldl Record.observe s.custody.record).request purpose := by
  rw [s.custody_after, Record.request_withDeclined]

/-- A request shows the key that was announced last. -/
theorem key_request_after (he : e.status.isNeed = true)
    (hlater : ∀ g ∈ later, g.status.isNeed = false) :
    ((s.after (e :: later)).custody.record.request purpose).key =
      e.args.bind KeyAnnouncement.ofText? := by
  rw [s.request_after, List.foldl_cons, Record.request]
  simp only [Record.part_foldl_observe Record.announcement_observe _ hlater,
    Record.announcement_observe, he, if_true]

/-- A request shows the hint that was given last. -/
theorem userId_request_after (he : e.status.isHint = true)
    (hlater : ∀ g ∈ later, g.status.isHint = false) :
    ((s.after (e :: later)).custody.record.request purpose).userId =
      e.args.map userIdOfHint := by
  rw [s.request_after, List.foldl_cons, Record.request]
  simp only [Record.part_foldl_observe Record.userIdHint_observe _ hlater,
    Record.userIdHint_observe, he, if_true]

end Session

/-- **Requests show what was announced.**  Until another key is announced, all four parts
    of an announcement are shown exactly as they were written, whatever the key ids and the
    numbers within their bounds.  The parts are shown together, and exactly for a text
    that spells an announcement; none is shown if a field is missing or a number too
    large.  Until another hint is given, the user id is what follows the key id in it, be
    it empty or blank or like a key id, and a hint of another form is shown as a whole.
    Whoever is asked for a secret next is shown this very request. -/
theorem requests_show_what_was_announced (s : Session) (e : Event) (later : List Event)
    (purpose : Purpose) :
    let reached := s.after (e :: later)
    let shown := reached.custody.record.request purpose
    (e.status.isNeed = true → (∀ g ∈ later, g.status.isNeed = false) →
      (∀ (keyId gap₁ mainKeyId gap₂ gap₃ : String) (algorithm keyLength : Nat),
        Word isHexDigit keyId.toList → Word isHexDigit mainKeyId.toList →
        Word isGap gap₁.toList → Word isGap gap₂.toList → Word isGap gap₃.toList →
        algorithm ≤ 255 → keyLength ≤ 4294967295 →
        e.args = some (keyId ++ gap₁ ++ mainKeyId ++ gap₂ ++ numeral algorithm ++ gap₃ ++
          numeral keyLength) →
        shown.parts = (some keyId, some mainKeyId, some algorithm, some keyLength)) ∧
      (∀ a : KeyAnnouncement,
        shown.parts = (some a.keyId, some a.mainKeyId, some a.algorithm, some a.keyLength) ↔
          ∃ text, e.args = some text ∧ a.Spells text) ∧
      ((∃ a : KeyAnnouncement,
          shown.parts = (some a.keyId, some a.mainKeyId, some a.algorithm, some a.keyLength)) ∨
        shown.parts = (none, none, none, none)) ∧
      ((∀ text, e.args = some text → KeyAnnouncement.Unfit text) →
        shown.parts = (none, none, none, none))) ∧
    (e.status.isHint = true → (∀ g ∈ later, g.status.isHint = false) →
      (∀ keyId userId : String, Word isHexDigit keyId.toList →
        e.args = some (keyId ++ " " ++ userId) → shown.userId = some userId) ∧
      ∀ hint, e.args = some hint →
        (∀ keyId userId : String, Word isHexDigit keyId.toList →
          hint ≠ keyId ++ " " ++ userId) →
        shown.userId = some hint) ∧
    ∀ ask r, (reached.turn ask).reply.consulted = some r → r.purpose = purpose → r = shown := by
  intro reached shown
  refine ⟨fun he hlater => ?_, fun he hlater => ?_, fun ask r hr hpurpose => ?_⟩
  · have hkey : shown.key = e.args.bind KeyAnnouncement.ofText? :=
      s.key_request_after purpose he hlater
    refine ⟨?_, fun a => ?_, ?_, fun hunfit => ?_⟩
    · intro keyId gap₁ mainKeyId gap₂ gap₃ algorithm keyLength hk hm h₁ h₂ h₃ ha hl hargs
      have hspells := KeyAnnouncement.spells_of_words ⟨keyId, mainKeyId, algorithm, keyLength⟩
        hk hm h₁ h₂ h₃ ha hl
      rw [hargs, Option.bind_some, KeyAnnouncement.ofText?_eq_some_iff.2 hspells] at hkey
      simp only [Request.parts, hkey, Option.map_some]
    · rw [Request.parts_eq_some_iff, hkey, Option.bind_eq_some_iff]
      simp only [KeyAnnouncement.ofText?_eq_some_iff]
    · cases hshown : shown.key with
      | none => exact .inr (by simp only [Request.parts, hshown, Option.map_none])
      | some a => exact .inl ⟨a, (shown.parts_eq_some_iff a).2 hshown⟩
    · have hnone : shown.key = none := by
        rw [hkey, Option.bind_eq_none_iff]
        exact fun text htext => KeyAnnouncement.ofText?_of_unfit (hunfit text htext)
      simp only [Request.parts, hnone, Option.map_none]
  · have huser : shown.userId = e.args.map userIdOfHint := s.userId_request_after purpose he hlater
    refine ⟨fun keyId userId hkeyId hargs => ?_, fun hint hargs hother => ?_⟩
    · rw [huser, hargs, Option.map_some, userIdOfHint_append hkeyId]
    · rw [huser, hargs, Option.map_some, userIdOfHint_of_other hother]
  · obtain ⟨-, -, p, -, rfl⟩ := (reached.consulted_eq_some_iff).1 hr
    obtain rfl : p = purpose := hpurpose
    rfl

/-- An announcement with digits for key ids, a hint with a blank user id and one without a
    key id, and a symmetric cipher, of which no key is announced. -/
theorem requests_show_what_was_announced_blank_user :
    let s := (Edit.plain (.setEnabled true)).session ⟨2026, 10, 19, by decide, by decide, by decide,
      by decide⟩ ⟨{}, .absent⟩
    let need : Event := ⟨.needPassphrase, some "12 34  1 3072"⟩
    let cipher : Event := ⟨.needPassphraseSym, some "7 3 2"⟩
    let blank : Event := ⟨.userIdHint, some "12  "⟩
    let whole : Event := ⟨.userIdHint, some "Alice"⟩
    let request (events : List Event) := (s.after events).custody.record.request .unlock
    (request [need, blank]).parts = (some "12", some "34", some 1, some 3072) ∧
      (request [cipher, blank]).parts = (none, none, none, none) ∧
      (request [blank, need]).userId = some " " ∧ (request [whole, need]).userId = some "Alice" := by
  intro s need cipher blank whole request
  have hblank : ∀ g ∈ [blank], g.status.isNeed = false := by decide
  have hneed : ∀ g ∈ [need], g.status.isHint = false := by decide
  refine ⟨?_, ?_, ?_, ?_⟩
  · obtain ⟨hkey, -⟩ := requests_show_what_was_announced s need [blank] .unlock
    exact (hkey rfl hblank).1 "12" " " "34" "  " " " 1 3072 (by decide) (by decide) (by decide)
      (by decide) (by decide) (by decide) (by decide) (by decide)
  · obtain ⟨hkey, -⟩ := requests_show_what_was_announced s cipher [blank] .unlock
    refine (hkey rfl hblank).2.2.2 fun text htext => .fewFields ?_
    obtain rfl := Option.some.inj htext
    decide
  · obtain ⟨-, huser, -⟩ := requests_show_what_was_announced s blank [need] .unlock
    exact (huser rfl hneed).1 "12" " " (by decide) rfl
  · obtain ⟨-, huser, -⟩ := requests_show_what_was_announced s whole [need] .unlock
    refine (huser rfl hneed).2 "Alice" rfl fun keyId userId _ heq => ?_
    have hspace : ' ' ∈ "Alice".toList := by rw [heq]; simp
    revert hspace
    decide

end KeyDialogue
