/-
  Key dialogue — cutting a sequence into pieces after every terminator.

  * `pieces` cuts after each element that satisfies the test, and keeps the
    terminator at the end of its piece; only the last piece can lack one;
  * `flatten_pieces`: the pieces in order are the sequence, so cutting loses
    nothing;
  * `ne_nil_of_mem_pieces`: no piece is empty;
  * `pieces_append_cons`, `pieces_of_run`: a run without terminators belongs to one
    piece, up to the terminator after it or the end;
  * `takeWhile_append_of_run`: a run of elements that satisfy a test is taken from
    the front of a sequence as a whole.
-/
namespace KeyDialogue.Text

variable {α : Type}

/-- The pieces of a sequence, each running up to and including the next
    element that satisfies `isEnd`. -/
def pieces (isEnd : α → Bool) : List α → List (List α)
  | [] => []
  | a :: rest =>
    if isEnd a then [a] :: pieces isEnd rest
    else
      match pieces isEnd rest with
      | [] => [[a]]
      | p :: ps => (a :: p) :: ps

@[simp] theorem pieces_nil (isEnd : α → Bool) : pieces isEnd [] = [] := rfl

theorem pieces_cons_of_end {isEnd : α → Bool} {a : α} (h : isEnd a = true) (rest : List α) :
    pieces isEnd (a :: rest) = [a] :: pieces isEnd rest := by
  simp [pieces, h]

/-- Nothing is lost by cutting. -/
theorem flatten_pieces (isEnd : α → Bool) (s : List α) : (pieces isEnd s).flatten = s := by
  induction s with
  | nil => rfl
  | cons a rest ih =>
    simp only [pieces]
    split
    · simp [ih]
    · split
      · next h => rw [h] at ih; simpa using ih
      · next p ps h => rw [h] at ih; simpa using ih

/-- Every piece holds at least one element. -/
theorem ne_nil_of_mem_pieces {isEnd : α → Bool} {s p : List α} (h : p ∈ pieces isEnd s) :
    p ≠ [] := by
  induction s generalizing p with
  | nil => simp at h
  | cons a rest ih =>
    simp only [pieces] at h
    split at h
    · rcases List.mem_cons.1 h with rfl | h
      · simp
      · exact ih h
    · split at h
      · simp_all
      · next q qs hq =>
        rcases List.mem_cons.1 h with rfl | h
        · simp
        · exact ih (by rw [hq]; exact List.mem_cons_of_mem _ h)

section
variable {isEnd : α → Bool} {run : List α} (hrun : ∀ a ∈ run, isEnd a = false)
include hrun

/-- A piece runs up to its terminator. -/
theorem pieces_append_cons {z : α} (hz : isEnd z = true) (rest : List α) :
    pieces isEnd (run ++ z :: rest) = (run ++ [z]) :: pieces isEnd rest := by
  induction run with
  | nil => exact pieces_cons_of_end hz rest
  | cons a run ih =>
    have ha : isEnd a = false := hrun a (List.mem_cons_self ..)
    have hrest := ih fun b hb => hrun b (List.mem_cons_of_mem _ hb)
    simp [pieces, ha, hrest]

/-- What holds no terminator is a single piece. -/
theorem pieces_of_run (hne : run ≠ []) : pieces isEnd run = [run] := by
  induction run with
  | nil => exact absurd rfl hne
  | cons a run ih =>
    have ha : isEnd a = false := hrun a (List.mem_cons_self ..)
    cases run with
    | nil => simp [pieces, ha]
    | cons b run =>
      have hrest := ih (fun c hc => hrun c (List.mem_cons_of_mem _ hc)) (List.cons_ne_nil b run)
      rw [pieces, hrest]
      simp [ha]

end

theorem takeWhile_append_of_run {test : α → Bool} {run rest : List α}
    (hrun : ∀ a ∈ run, test a = true) (hrest : ∀ a ∈ rest.head?, test a = false) :
    (run ++ rest).takeWhile test = run ∧ (run ++ rest).dropWhile test = rest := by
  rw [List.takeWhile_append_of_pos hrun, List.dropWhile_append_of_pos hrun]
  cases rest with
  | nil => simp
  | cons a rest => simp [hrest a rfl]

end KeyDialogue.Text
