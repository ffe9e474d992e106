/-
  Key dialogue — which texts announce a key.

  * `Word`: a text that is cut out by `word?` is a nonempty run of characters of a
    class, and no longer run begins there (`word?_eq_some_iff`);
  * `KeyAnnouncement.Spells`: the form of an announcement, as four words with gaps
    between them.  More may follow, as long as it does not go on with the last
    number;
  * `KeyAnnouncement.ofText?_eq_some_iff`: what is read from a text is what it
    spells, and a text of any other form is no announcement.
-/
import KeyDialogue.Passphrase.Announcement
import KeyDialogue.Text.Pieces
import Mathlib.Data.List.TakeWhile

namespace KeyDialogue

open KeyDialogue.Text

/-! ## Words -/

/-- A nonempty text of characters of a class. -/
def Word (isPart : Char → Bool) (w : List Char) : Prop := w ≠ [] ∧ ∀ c ∈ w, isPart c = true

/-- A text does not go on with characters of a class. -/
def Stops (isPart : Char → Bool) (rest : List Char) : Prop := ∀ c ∈ rest.head?, isPart c = false

variable {isPart : Char → Bool} {s w rest : List Char}

theorem stops_dropWhile (isPart : Char → Bool) (s : List Char) :
    Stops isPart (s.dropWhile isPart) := by
  intro c hc
  have h := List.head?_dropWhile_not isPart s
  rw [Option.mem_def.1 hc] at h
  simpa using h

theorem word?_eq_some_iff :
    word? isPart s = some (w, rest) ↔ s = w ++ rest ∧ Word isPart w ∧ Stops isPart rest := by
  unfold word?
  constructor
  · intro h
    split at h
    · cases h
    · next hne =>
      obtain ⟨rfl, rfl⟩ := Prod.mk.inj (Option.some.inj h)
      exact ⟨List.takeWhile_append_dropWhile.symm, ⟨hne, fun c hc => List.mem_takeWhile_imp hc⟩,
        stops_dropWhile isPart s⟩
  · rintro ⟨rfl, ⟨hne, hw⟩, hr⟩
    obtain ⟨htake, hdrop⟩ := takeWhile_append_of_run hw hr
    rw [htake, hdrop, if_neg hne]

/-- Two classes of characters that have none in common. -/
def Apart (isPart isOther : Char → Bool) : Prop := ∀ c, isPart c = true → isOther c = false

/-- A word ends where one of another class begins. -/
theorem Word.stops {isOther : Char → Bool} (hw : Word isPart w) (h : Apart isPart isOther)
    (rest : List Char) : Stops isOther (w ++ rest) := by
  obtain ⟨hne, hall⟩ := hw
  obtain ⟨c, w, rfl⟩ := List.exists_cons_of_ne_nil hne
  intro d hd
  obtain rfl : c = d := by simpa using hd
  exact h c (hall c (List.mem_cons_self ..))

theorem gap_apart (hspace : isPart ' ' = false) (htab : isPart '\t' = false) :
    Apart isGap isPart := by
  intro c h
  simp only [isGap, Bool.or_eq_true, beq_iff_eq] at h
  rcases h with rfl | rfl
  · exact hspace
  · exact htab

theorem Apart.symm {isOther : Char → Bool} (h : Apart isPart isOther) : Apart isOther isPart := by
  intro c hc
  cases hp : isPart c
  · rfl
  · rw [h c hp] at hc; cases hc

namespace KeyAnnouncement

theorem nextWord?_eq_some_iff (h : Apart isGap isPart) :
    nextWord? isPart s = some (w, rest) ↔
      ∃ gap, s = gap ++ (w ++ rest) ∧ Word isGap gap ∧ Word isPart w ∧ Stops isPart rest := by
  simp only [nextWord?, Option.bind_eq_some_iff, Prod.exists, word?_eq_some_iff]
  constructor
  · rintro ⟨gap, _, ⟨rfl, hgap, -⟩, rfl, hw, hr⟩
    exact ⟨gap, rfl, hgap, hw, hr⟩
  · rintro ⟨gap, rfl, hgap, hw, hr⟩
    exact ⟨gap, w ++ rest, ⟨rfl, hgap, hw.stops h.symm rest⟩, rfl, hw, hr⟩

/-! ## Announcements -/

/-- A text announces a key: two key ids, the number of the algorithm and the
    length, with gaps between them, and anything after them. -/
def Spells (a : KeyAnnouncement) (text : String) : Prop :=
  ∃ gap₁ gap₂ algorithm gap₃ keyLength rest : List Char,
    text.toList = a.keyId.toList ++ (gap₁ ++ (a.mainKeyId.toList ++ (gap₂ ++ (algorithm ++
      (gap₃ ++ (keyLength ++ rest)))))) ∧
    (Word isHexDigit a.keyId.toList ∧ Word isHexDigit a.mainKeyId.toList ∧
      Word isDigit algorithm ∧ Word isDigit keyLength) ∧
    (Word isGap gap₁ ∧ Word isGap gap₂ ∧ Word isGap gap₃ ∧ Stops isDigit rest) ∧
    (digitsValue algorithm = a.algorithm ∧ a.algorithm ≤ maxAlgorithm) ∧
    digitsValue keyLength = a.keyLength ∧ a.keyLength ≤ maxKeyLength

/-- What is read from a text is what it announces. -/
theorem ofText?_eq_some_iff {text : String} {a : KeyAnnouncement} :
    ofText? text = some a ↔ a.Spells text := by
  obtain ⟨keyId, mainKeyId, algorithm, keyLength⟩ := a
  have hhex : Apart isGap isHexDigit := gap_apart rfl rfl
  have hdigit : Apart isGap isDigit := gap_apart rfl rfl
  unfold ofText? Spells
  simp only [Option.bind_eq_bind, Option.bind_eq_some_iff, Prod.exists, word?_eq_some_iff,
    nextWord?_eq_some_iff hhex, nextWord?_eq_some_iff hdigit]
  constructor
  · rintro ⟨k, _, ⟨htext, hk, -⟩, m, _, ⟨gap₁, rfl, hgap₁, hm, -⟩, x, _, ⟨gap₂, rfl, hgap₂, hx, -⟩,
      l, rest, ⟨gap₃, rfl, hgap₃, hl, hrest⟩, h⟩
    split at h
    · next hbound =>
      obtain ⟨rfl, rfl, rfl, rfl⟩ := KeyAnnouncement.mk.inj (Option.some.inj h)
      simp only [String.toList_ofList]
      exact ⟨gap₁, gap₂, x, gap₃, l, rest, htext, ⟨hk, hm, hx, hl⟩, ⟨hgap₁, hgap₂, hgap₃, hrest⟩,
        ⟨rfl, hbound.1⟩, rfl, hbound.2⟩
    · cases h
  · rintro ⟨gap₁, gap₂, x, gap₃, l, rest, htext, ⟨hk, hm, hx, hl⟩, ⟨hgap₁, hgap₂, hgap₃, hrest⟩,
      ⟨rfl, hbound⟩, rfl, hbound'⟩
    refine ⟨keyId.toList, _, ⟨htext, hk, hgap₁.stops hhex _⟩,
      mainKeyId.toList, _, ⟨gap₁, rfl, hgap₁, hm, hgap₂.stops hhex _⟩,
      x, _, ⟨gap₂, rfl, hgap₂, hx, hgap₃.stops hdigit _⟩,
      l, rest, ⟨gap₃, rfl, hgap₃, hl, hrest⟩, ?_⟩
    rw [if_pos ⟨hbound, hbound'⟩]
    simp only [String.ofList_toList]

end KeyAnnouncement

end KeyDialogue
