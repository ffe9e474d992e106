/-
  Key dialogue — status lines on their way from the backend.

  What a backend writes is a sequence of `Item`s, each on a line of its own: status
  lines, and noise that has nothing to do with them.  Lines may end in either
  way, and the last one need not end at all.

  * `lineText_append_ends`: the end of a line is no part of its text;
  * `eventOf?_item`: a line with a status line is read as its event, and noise as
    none; `eventsOf_written`: an output tells of the events of its items;
  * `converseWith` is a conversation with any party that replies to events, and a
    session is one (`converse_eq_converseWith`).  If no reply breaks it off, the
    party is told all events (`converseWith_eq_drive`);
  * `status_lines_arrive`: so a party is told exactly the status lines, in order
    and with their arguments.
-/
import KeyDialogue.Proofs.Decoding
import KeyDialogue.Proofs.Pipes

namespace KeyDialogue

open KeyDialogue.Text

namespace Wire

/-! ## What a backend writes -/

/-- The byte that stands before a line feed in one of the ways to end a line. -/
def carriageReturn : UInt8 := 13

/-- How a line ends. -/
inductive LineEnd where
  | lf
  | crlf
  deriving DecidableEq, Repr

/-- The bytes that end a line. -/
def LineEnd.bytes : LineEnd → List UInt8
  | lf => [newline]
  | crlf => [carriageReturn, newline]

/-- A text that a status line can carry as its argument: it is on one line, and
    what ends the line can be told from it. -/
structure IsArgument (args : String) : Prop where
  no_lf : '\n' ∉ args.toList
  no_cr_at_end : args.toList.getLast? ≠ some '\r'

instance (args : String) : Decidable (IsArgument args) :=
  decidable_of_iff ('\n' ∉ args.toList ∧ args.toList.getLast? ≠ some '\r')
    ⟨fun ⟨hlf, hcr⟩ => ⟨hlf, hcr⟩, fun ⟨hlf, hcr⟩ => ⟨hlf, hcr⟩⟩

/-- A status line that can be written on a line of its own. -/
structure Writable (line : StatusLine) : Prop where
  keyword : StatusLine.isKeyword line.keyword = true
  args : ∀ args ∈ line.args, IsArgument args

instance (line : StatusLine) : Decidable (Writable line) :=
  decidable_of_iff
    (StatusLine.isKeyword line.keyword = true ∧ ∀ args ∈ line.args, IsArgument args)
    ⟨fun ⟨hk, ha⟩ => ⟨hk, ha⟩, fun ⟨hk, ha⟩ => ⟨hk, ha⟩⟩

/-- What a backend writes on one line. -/
inductive Item where
  | status (line : StatusLine) (writable : Writable line)
  /-- Bytes on one line, text or not, that do not begin as a status line does. -/
  | noise (bytes : List UInt8) (one_line : newline ∉ bytes)
    (unmarked : ¬ StatusLine.mark.toList <+: Utf8.decodeChars bytes)

/-- The bytes of an item, without the end of the line. -/
def Item.bytes : Item → List UInt8
  | status line .. => Utf8.encode line.text
  | noise bytes .. => bytes

/-- The status line of an item. -/
def Item.line? : Item → Option StatusLine
  | status line .. => some line
  | noise .. => none

/-- The event that an item tells of. -/
def Item.event? (i : Item) : Option Event := i.line?.map StatusLine.event

/-- All that a backend writes: items on ended lines, and perhaps one on a last line
    that lacks its end. -/
def written (ended : List (Item × LineEnd)) (last : Option Item) : List UInt8 :=
  (ended.flatMap fun (item, e) => item.bytes ++ e.bytes) ++ last.elim [] Item.bytes

/-! ## The text of a line -/

/-- A byte that may end a line. -/
def IsEnd (b : UInt8) : Prop := b = carriageReturn ∨ b = newline

theorem LineEnd.isEnd_of_mem {e : LineEnd} {b : UInt8} (h : b ∈ e.bytes) : IsEnd b := by
  cases e <;> simp_all [LineEnd.bytes, IsEnd]

/-- The end of a line is no part of its text. -/
theorem lineText_append_ends (s : List UInt8) {z : List UInt8} (hz : ∀ b ∈ z, IsEnd b) :
    lineText (s ++ z) = lineText s := by
  have hascii : ∀ b ∈ z, b < 0x80 := fun b hb => by rcases hz b hb with rfl | rfl <;> decide
  have hterm : ∀ c ∈ (z.map fun b => Char.ofNat b.toNat).reverse, isTerminator c = true := by
    intro c hc
    obtain ⟨b, hb, rfl⟩ := List.mem_map.1 (List.mem_reverse.1 hc)
    rcases hz b hb with rfl | rfl <;> rfl
  unfold lineText
  rw [Utf8.decodeChars_append_of_ascii s hascii, List.reverse_append,
    List.dropWhile_append_of_pos hterm]

/-- A text is the text of its line, unless it ends as a line may. -/
theorem lineText_encode {s : String} (h : ∀ c ∈ s.toList.getLast?, isTerminator c = false) :
    lineText (Utf8.encode s) = s := by
  have hfirst : ∀ c ∈ s.toList.reverse.head?, isTerminator c = false := by
    rwa [List.head?_reverse]
  have hkept : s.toList.reverse.dropWhile isTerminator = s.toList.reverse :=
    (takeWhile_append_of_run (List.forall_mem_nil _) hfirst).2
  rw [lineText, Utf8.decodeChars_encode, hkept, List.reverse_reverse, String.ofList_toList]

/-- The text of a line begins what is read of the line. -/
theorem lineText_begins (line : List UInt8) : (lineText line).toList <+: Utf8.decodeChars line := by
  rw [lineText, String.toList_ofList, ← List.reverse_suffix, List.reverse_reverse]
  exact List.dropWhile_suffix _

/-! ## Items -/

theorem not_isTerminator_of_isKeywordChar {c : Char} (h : StatusLine.isKeywordChar c = true) :
    isTerminator c = false := by
  cases ht : isTerminator c with
  | false => rfl
  | true =>
    rcases Bool.or_eq_true_iff.1 ht with hc | hc <;> rw [beq_iff_eq.1 hc] at h <;> cases h

theorem IsArgument.not_isTerminator_getLast? {args : String} (h : IsArgument args) :
    ∀ c ∈ args.toList.getLast?, isTerminator c = false := by
  intro c hc
  have hlf : c ≠ '\n' := by rintro rfl; exact h.no_lf (List.mem_of_getLast? hc)
  have hcr : c ≠ '\r' := by rintro rfl; exact h.no_cr_at_end hc
  simp [isTerminator, hlf, hcr]

end Wire

namespace StatusLine
variable (line : StatusLine)

/-- A text that does not begin with the mark is no status line. -/
theorem ofText?_of_unmarked {s : String} (h : ¬ mark.toList <+: s.toList) : ofText? s = none := by
  unfold ofText?
  split
  · rfl
  · next rest hrest => exact absurd ⟨rest, (eq_append_of_after? hrest).symm⟩ h

theorem toList_text :
    line.text.toList =
      mark.toList ++ (line.keyword.toList ++ line.args.elim [] fun args => ' ' :: args.toList) := by
  obtain ⟨keyword, args⟩ := line
  cases args <;> simp [text]

section
variable {line} (h : Wire.Writable line)
include h

theorem keyword_ne_nil : line.keyword.toList ≠ [] := by
  intro hnil
  have hk := h.keyword
  simp [isKeyword, hnil] at hk

theorem isKeywordChar_of_mem : ∀ c ∈ line.keyword.toList, isKeywordChar c = true := by
  simpa [isKeyword, keyword_ne_nil h] using h.keyword

/-- A status line is on one line. -/
theorem lf_not_mem_text : '\n' ∉ line.text.toList := by
  have hmark : '\n' ∉ mark.toList := by decide
  have hkeyword : '\n' ∉ line.keyword.toList := fun hmem => by
    cases isKeywordChar_of_mem h _ hmem
  have hargs : '\n' ∉ line.args.elim [] fun args => ' ' :: args.toList := by
    cases hargs : line.args with
    | none => exact List.not_mem_nil
    | some args => simpa using (h.args args hargs).no_lf
  simp [toList_text, hmark, hkeyword, hargs]

/-- The end of its line can be told from a status line. -/
theorem not_isTerminator_getLast?_text :
    ∀ c ∈ line.text.toList.getLast?, Wire.isTerminator c = false := by
  intro c hc
  rw [toList_text, List.getLast?_append, List.getLast?_append, Option.mem_def] at hc
  cases hargs : line.args with
  | none =>
    cases hlast : line.keyword.toList.getLast? with
    | none => exact absurd (List.getLast?_eq_none_iff.1 hlast) (keyword_ne_nil h)
    | some last =>
      simp only [hargs, Option.elim_none, List.getLast?_nil, Option.none_or, hlast,
        Option.some_or, Option.some.injEq] at hc
      subst hc
      exact Wire.not_isTerminator_of_isKeywordChar
        (isKeywordChar_of_mem h last (List.mem_of_getLast? hlast))
  | some args =>
    simp only [hargs, Option.elim_some, List.getLast?_cons, Option.some_or,
      Option.some.injEq] at hc
    -- without a character of its own, the argument leaves the space before it at the end
    cases hlast : args.toList.getLast? with
    | none =>
      rw [hlast, Option.getD_none] at hc
      subst hc; rfl
    | some last =>
      rw [hlast, Option.getD_some] at hc
      subst hc
      exact (h.args args hargs).not_isTerminator_getLast? last hlast

end

end StatusLine

namespace Wire

theorem newline_not_mem_bytes (i : Item) : newline ∉ i.bytes := by
  cases i with
  | status line writable =>
    intro h
    exact StatusLine.lf_not_mem_text writable (Utf8.mem_toList_of_mem_encode h (by decide))
  | noise bytes one_line _ => exact one_line

/-- A line is read as its item, however it ends. -/
theorem eventOf?_item (i : Item) {z : List UInt8} (hz : ∀ b ∈ z, IsEnd b) :
    eventOf? (i.bytes ++ z) = i.event? := by
  unfold eventOf?
  rw [lineText_append_ends _ hz]
  cases i with
  | status line writable =>
    rw [Item.bytes, lineText_encode (StatusLine.not_isTerminator_getLast?_text writable),
      StatusLine.ofText?_text line writable.keyword]
    rfl
  | noise bytes _ unmarked =>
    have hunmarked : ¬ StatusLine.mark.toList <+: (lineText bytes).toList := fun h =>
      unmarked (h.trans (lineText_begins bytes))
    rw [Item.bytes, StatusLine.ofText?_of_unmarked hunmarked]
    rfl

/-! ## Outputs -/

theorem isEnd_newline_of_not_mem {bytes : List UInt8} (h : newline ∉ bytes) :
    ∀ b ∈ bytes, (b == newline) = false := fun b hb => by
  simpa using fun heq : b = newline => h (heq ▸ hb)

theorem lines_cons (i : Item) (e : LineEnd) (rest : List UInt8) :
    lines (i.bytes ++ e.bytes ++ rest) = (i.bytes ++ e.bytes) :: lines rest := by
  have hi := newline_not_mem_bytes i
  cases e with
  | lf =>
    have h := pieces_append_cons (isEnd_newline_of_not_mem hi) (z := newline) rfl rest
    simpa [lines, LineEnd.bytes] using h
  | crlf =>
    have hcr : newline ∉ i.bytes ++ [carriageReturn] := by simp [hi]; decide
    have h := pieces_append_cons (isEnd_newline_of_not_mem hcr) (z := newline) rfl rest
    simpa [lines, LineEnd.bytes] using h

theorem eventsOf_cons (i : Item) (e : LineEnd) (rest : List UInt8) :
    eventsOf (i.bytes ++ e.bytes ++ rest) = i.event?.toList ++ eventsOf rest := by
  unfold eventsOf
  rw [lines_cons, List.filterMap_cons, eventOf?_item i fun b => LineEnd.isEnd_of_mem]
  cases i.event? <;> rfl

/-- The last line need not end. -/
theorem eventsOf_last (i : Item) : eventsOf i.bytes = i.event?.toList := by
  have hitem : eventOf? i.bytes = i.event? := by
    simpa using eventOf?_item i (List.forall_mem_nil IsEnd)
  by_cases hnil : i.bytes = []
  · -- nothing is written for such an item, and it is no status line
    have hnone : i.event? = none := by rw [← hitem, hnil]; rfl
    rw [hnil, hnone]; rfl
  · have hone : lines i.bytes = [i.bytes] :=
      pieces_of_run (isEnd_newline_of_not_mem (newline_not_mem_bytes i)) hnil
    unfold eventsOf
    rw [hone, List.filterMap_cons, hitem]
    cases i.event? <;> rfl

theorem written_cons (i : Item) (e : LineEnd) (rest : List (Item × LineEnd)) (last : Option Item) :
    written ((i, e) :: rest) last = i.bytes ++ e.bytes ++ written rest last := by
  simp [written]

/-- An output tells of the events of its items. -/
theorem eventsOf_written (ended : List (Item × LineEnd)) (last : Option Item) :
    eventsOf (written ended last) =
      (ended.map Prod.fst ++ last.toList).filterMap Item.event? := by
  induction ended with
  | nil =>
    cases last with
    | none => rfl
    | some i =>
      have hlast : eventsOf (written [] (some i)) = i.event?.toList := eventsOf_last i
      cases he : i.event? <;> simp [hlast, he]
  | cons line rest ih =>
    obtain ⟨i, e⟩ := line
    rw [written_cons, eventsOf_cons, ih, List.map_cons, List.cons_append, List.filterMap_cons]
    cases i.event? <;> rfl

end Wire

/-! ## Conversations with any party -/

/-- Converses over the given lines with a party that replies to events as `respond`
    says: the turns, and what broke the conversation off. -/
def converseWith {σ : Type} (respond : σ → Event → σ × Reply) (takes : List UInt8 → Bool) (s : σ)
    (written : List UInt8) : List (List UInt8) → List Turn × Option Failure
  | [] => ([], none)
  | line :: rest =>
    match Wire.eventOf? line with
    | none => converseWith respond takes s written rest
    | some e =>
      let turn : Turn := ⟨e, (respond s e).2⟩
      match turn.reply? with
      | .error f => ([turn], some f)
      | .ok reply =>
        if !reply.isEmpty && !takes written then ([turn], some brokenPipe)
        else
          let (turns, failure) := converseWith respond takes (respond s e).1 (written ++ reply) rest
          (turn :: turns, failure)

/-- A session is such a party. -/
theorem converse_eq_converseWith (takes : List UInt8 → Bool) (s : Session) (written : List UInt8)
    (lines : List (List UInt8)) :
    ((converse takes s written lines).turns, (converse takes s written lines).failure) =
      converseWith Session.respond takes s written lines := by
  induction lines generalizing s written with
  | nil => rfl
  | cons line rest ih =>
    simp only [converse, converseWith, Session.hear, Session.turn]
    cases he : Wire.eventOf? line with
    | none => exact ih s written
    | some e =>
      simp only [Option.map_some]
      cases hr : Turn.reply? ⟨e, (s.respond e).2⟩ with
      | error f => rfl
      | ok reply =>
        simp only
        split
        · rfl
        · rw [← ih]

section
variable {σ : Type} (respond : σ → Event → σ × Reply) (takes : List UInt8 → Bool)

/-- A party is told all events if none of its replies breaks the conversation
    off. -/
theorem converseWith_eq_drive (hopen : ∀ written, takes written = true) (s : σ)
    (written : List UInt8) (lines : List (List UInt8))
    (h : ∀ t ∈ (drive respond s (lines.filterMap Wire.eventOf?)).2, t.failure? = none) :
    converseWith respond takes s written lines =
      ((drive respond s (lines.filterMap Wire.eventOf?)).2, none) := by
  induction lines generalizing s written with
  | nil => rfl
  | cons line rest ih =>
    cases he : Wire.eventOf? line with
    | none =>
      simp only [List.filterMap_cons, he] at h ⊢
      simp only [converseWith, he]
      exact ih s written h
    | some e =>
      simp only [List.filterMap_cons, he, drive, List.forall_mem_cons] at h ⊢
      obtain ⟨hturn, hrest⟩ := h
      simp only [converseWith, he, Turn.reply?_eq, hturn, Option.elim_none, hopen, Bool.not_true,
        Bool.and_false, Bool.false_eq_true, if_false]
      rw [ih _ _ hrest]

end

/-- A party is told of the events in their order. -/
theorem map_event_drive {σ : Type} (respond : σ → Event → σ × Reply) (s : σ)
    (events : List Event) : (drive respond s events).2.map Turn.event = events := by
  induction events generalizing s with
  | nil => rfl
  | cons e rest ih => rw [drive, List.map_cons, ih]

theorem Session.drive_respond (s : Session) (events : List Event) :
    drive Session.respond s events = (s.after events, s.turns events) := by
  induction events generalizing s with
  | nil => rfl
  | cons e rest ih => rw [drive, ih]; rfl

/-- **Status lines arrive.** A backend writes status lines and noise in any order, on
    lines that end in either way, the last one perhaps in none.  The events are
    those of the status lines, in their order: each with the status of its keyword
    and exactly its argument, and with a question only if it waits for an answer.
    Every party is told just these if none of its replies breaks the
    conversation off, and a session is no exception. -/
theorem status_lines_arrive (ended : List (Wire.Item × Wire.LineEnd)) (last : Option Wire.Item) :
    let lines := (ended.map Prod.fst ++ last.toList).filterMap Wire.Item.line?
    let events := lines.map StatusLine.event
    let output := Wire.written ended last
    Wire.eventsOf output = events ∧
    events.map (fun e => (e.status, e.args)) =
      lines.map (fun l => (Status.ofKeyword l.keyword, l.args)) ∧
    (∀ e ∈ events, ∀ q, e.question? = some q → e.status.asks = true) ∧
    ∀ takes : List UInt8 → Bool, (∀ before, takes before = true) →
      (∀ (σ : Type) (respond : σ → Event → σ × Reply) (s : σ),
        (∀ t ∈ (drive respond s events).2, t.failure? = none) →
          let x := converseWith respond takes s [] (Wire.lines output)
          x.1 = (drive respond s events).2 ∧ x.1.map Turn.event = events ∧ x.2 = none) ∧
      ∀ s : Session, (∀ t ∈ s.turns events, t.failure? = none) →
        let x := converse takes s [] (Wire.lines output)
        x.turns = s.turns events ∧ x.turns.map Turn.event = events ∧ x.failure = none := by
  intro lines events output
  have hevents : Wire.eventsOf output = events :=
    (Wire.eventsOf_written ended last).trans List.map_filterMap.symm
  refine ⟨hevents, List.map_map, fun e _ q hq => Event.asks_of_question? hq,
    fun takes hopen => ?_⟩
  have hparty : ∀ (σ : Type) (respond : σ → Event → σ × Reply) (s : σ),
      (∀ t ∈ (drive respond s events).2, t.failure? = none) →
        converseWith respond takes s [] (Wire.lines output) =
          ((drive respond s events).2, none) := by
    intro σ respond s h
    rw [← hevents] at h ⊢
    exact converseWith_eq_drive respond takes hopen s [] (Wire.lines output) h
  constructor
  · intro σ respond s h x
    have hx : x = ((drive respond s events).2, none) := hparty σ respond s h
    rw [hx]
    exact ⟨rfl, map_event_drive respond s events, rfl⟩
  · intro s h x
    have hx : (x.turns, x.failure) = (s.turns events, none) := by
      rw [converse_eq_converseWith, hparty Session Session.respond s (by rwa [s.drive_respond]),
        s.drive_respond]
    obtain ⟨hturns, hfailure⟩ := Prod.mk.inj hx
    exact ⟨hturns, by rw [hturns, s.map_event_turns], hfailure⟩

/-- An argument with blanks at its ends, an empty one and none at all, amid noise that
    is no text; the last line lacks its end. -/
theorem status_lines_arrive_amid_noise :
    let s : Session := ⟨.plain (.trusting (.start .full)), ⟨{}, .stored "guess"⟩⟩
    let hint : Wire.Item := .status ⟨"USERID_HINT", some " Zoë "⟩ (by decide +kernel)
    let menu : Wire.Item := .status ⟨"GET_LINE", some "keyedit.prompt"⟩ (by decide +kernel)
    let need : Wire.Item := .status ⟨"NEED_PASSPHRASE", some ""⟩ (by decide +kernel)
    let hidden : Wire.Item := .status ⟨"GET_HIDDEN", none⟩ (by decide +kernel)
    let noise : Wire.Item := .noise [0xff, 0x70, 0x0d] (by decide) (by decide +kernel)
    let empty : Wire.Item := .noise [] (by decide) (by decide +kernel)
    let ended : List (Wire.Item × Wire.LineEnd) :=
      [(noise, .lf), (hint, .crlf), (empty, .crlf), (menu, .crlf), (need, .lf)]
    let output := Wire.written ended (some hidden)
    let takes := fun _ : List UInt8 => true
    let events : List Event := [⟨.userIdHint, some " Zoë "⟩, ⟨.getLine, some "keyedit.prompt"⟩,
      ⟨.needPassphrase, some ""⟩, ⟨.getHidden, none⟩]
    let mute := fun (_ : Unit) (_ : Event) => ((), Reply.nothing)
    (∀ t ∈ s.turns events, t.failure? = none) ∧
      (converse takes s [] (Wire.lines output)).turns.map Turn.event = events ∧
      (∀ t ∈ (drive mute () events).2, t.failure? = none) ∧
      (converseWith mute takes () [] (Wire.lines output)).1.map Turn.event = events := by
  intro s hint menu need hidden noise empty ended output takes events mute
  obtain ⟨-, -, -, harrive⟩ := status_lines_arrive ended (some hidden)
  obtain ⟨hparty, hsession⟩ := harrive takes fun _ => rfl
  have hturns : ∀ t ∈ s.turns events, t.failure? = none := by decide +kernel
  obtain ⟨-, htold, -⟩ := hsession s hturns
  have hmute : ∀ t ∈ (drive mute () events).2, t.failure? = none := by decide +kernel
  obtain ⟨-, hheard, -⟩ := hparty Unit mute () hmute
  exact ⟨hturns, htold, hmute, hheard⟩

end KeyDialogue
