import Switchboard.Text.Blank

/-!
# Words and the texts they make

`runs` cuts a text at the characters of any class with the splitting of the standard library;
`words` is the cutting at blanks (`words_eq_runs`). Words that hold no character of the class are
found again in the text that joins them with spaces (`runs_intercalate`).
-/

namespace Switchboard.Text

/-- The maximal runs of characters that are in no class of separators, in order. -/
def runs (separator : Char → Bool) (cs : List Char) : List (List Char) :=
  (cs.splitOnP separator).filter (· ≠ [])

variable {separator : Char → Bool}

theorem runs_cons_separator {c : Char} (h : separator c) (cs : List Char) :
    runs separator (c :: cs) = runs separator cs := by
  rw [runs, List.splitOnP_cons_eq_if_modifyHead, if_pos h]
  rfl

/-- A run goes on until the next separator. -/
theorem runs_append_separator {w : List Char} (hw : w ≠ []) (h : ∀ c ∈ w, separator c = false)
    {c : Char} (hc : separator c) (cs : List Char) :
    runs separator (w ++ c :: cs) = w :: runs separator cs := by
  rw [runs, List.splitOnP_append_cons_of_forall_mem h c hc, List.filter_cons_of_pos (by simpa)]
  rfl

theorem runs_of_forall_not {w : List Char} (hw : w ≠ []) (h : ∀ c ∈ w, separator c = false) :
    runs separator w = [w] := by
  rw [runs, List.splitOnP_eq_singleton h, List.filter_cons_of_pos (by simpa), List.filter_nil]

/-- Words joined with spaces are the runs of their text. -/
theorem runs_intercalate {ws : List (List Char)} (space : separator ' ')
    (h : ∀ w ∈ ws, w ≠ [] ∧ ∀ c ∈ w, separator c = false) :
    runs separator ([' '].intercalate ws) = ws := by
  induction ws with
  | nil => rfl
  | cons w ws ih =>
    obtain ⟨⟨hw, hc⟩, hws⟩ := List.forall_mem_cons.1 h
    cases ws with
    | nil => rw [List.intercalate_singleton, runs_of_forall_not hw hc]
    | cons v ws =>
      rw [List.intercalate_cons_cons, List.append_assoc, List.singleton_append,
        runs_append_separator hw hc space, ih hws]

/-- The characters of a text of words are those of the words, and the spaces between them. -/
theorem mem_intercalate_iff {c : Char} (hc : c ≠ ' ') {ws : List (List Char)} :
    c ∈ [' '].intercalate ws ↔ ∃ w ∈ ws, c ∈ w := by
  induction ws with
  | nil => simp
  | cons w ws ih =>
    cases ws with
    | nil => simp
    | cons v ws => simp [List.intercalate_cons_cons, ih, hc]

/-- A character that is no separator goes on with the run that follows it. -/
theorem runs_cons_of_run {c d : Char} (hc : separator c = false) (hd : separator d = false)
    (cs : List Char) :
    ∃ w ws, runs separator (d :: cs) = w :: ws ∧
      runs separator (c :: d :: cs) = (c :: w) :: ws := by
  obtain ⟨w, ws, h⟩ := List.exists_cons_of_ne_nil (List.splitOnP_ne_nil separator cs)
  refine ⟨d :: w, ws.filter (· ≠ []), ?_, ?_⟩ <;>
    simp [runs, List.splitOnP_cons_eq_if_modifyHead, hc, hd, h]

/-- Words are the runs of characters that are not blank. -/
theorem words_eq_runs (cs : List Char) : words cs = runs isBlank cs := by
  induction cs with
  | nil => rfl
  | cons c cs ih =>
    rw [words.eq_def]
    by_cases hc : isBlank c
    · simp only [if_pos hc, ih, runs_cons_separator hc]
    · simp only [if_neg hc]
      have hs : ∀ b ∈ [c], isBlank b = false := by simpa using hc
      cases cs with
      | nil => exact (runs_of_forall_not (List.cons_ne_nil c []) hs).symm
      | cons d cs =>
        cases hd : isBlank d with
        | true =>
          have h := runs_append_separator (List.cons_ne_nil c []) hs hd cs
          rw [List.singleton_append] at h
          simp only [ih, hd, h, runs_cons_separator hd]
        | false =>
          obtain ⟨w, ws, h, h'⟩ := runs_cons_of_run (hs c (by simp)) hd cs
          simp only [ih, hd, h, h']

end Switchboard.Text
