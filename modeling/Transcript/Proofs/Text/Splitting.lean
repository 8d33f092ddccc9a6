import Mathlib.Data.List.Basic
import Mathlib.Data.List.Infix
import Transcript.Proofs.Text.Lines

/-!
# Texts, split and normalised

A text that is split at a character is put together again by joining the pieces, and pieces are
parts of the text without that character. Where carriage returns are joined with the line feeds
behind them, the first of two is left in front of a line feed. Normalised texts have no carriage
return, and texts without one are normalised already.

## Main results

- `Chars.splitAt_eq_splitOn`: splitting as in the library of lists
- `Chars.splitAt_append`: splitting in two steps
- `Chars.notMem_of_mem_splitAt`, `Chars.isInfix_of_mem_splitAt`: what the pieces are
- `Chars.joinCrLf_eq_self_iff`, `Chars.crLf_infix_joinCrLf_iff`: what is joined, and what is left
- `Chars.normalizeNewlines_of_notMem`, `Chars.notMem_normalizeNewlines`: carriage returns
-/

namespace Transcript.Chars

variable {separator c : Char} {s t piece : List Char}

/-! ## Pieces -/

theorem splitAt_eq_splitOn (separator : Char) (s : List Char) :
    splitAt separator s = s.splitOn separator := by
  induction s with
  | nil => rfl
  | cons c rest ih =>
    rw [splitAt, ih, List.splitOn_cons_eq_if_modifyHead]
    simp only [beq_iff_eq]
    split
    · rfl
    · obtain ⟨first, others, hpieces⟩ :=
        List.exists_cons_of_ne_nil (List.splitOn_ne_nil separator rest)
      rw [hpieces]
      rfl

/-- Both sides of a separator are split by themselves. -/
theorem splitAt_append (s t : List Char) :
    splitAt separator (s ++ separator :: t) = splitAt separator s ++ splitAt separator t := by
  simp only [splitAt_eq_splitOn, List.splitOn_append_cons_self]

theorem splitAt_of_notMem (h : separator ∉ s) : splitAt separator s = [s] := by
  rw [splitAt_eq_splitOn, List.splitOn_eq_singleton h]

/-- The pieces are put together again. -/
theorem intercalate_splitAt (separator : Char) (s : List Char) :
    [separator].intercalate (splitAt separator s) = s := by
  rw [splitAt_eq_splitOn, List.intercalate_splitOn]

theorem notMem_of_mem_splitAt (h : piece ∈ splitAt separator s) : separator ∉ piece := by
  induction s generalizing piece with
  | nil =>
    obtain rfl := List.mem_singleton.mp h
    exact List.not_mem_nil
  | cons c rest ih =>
    rw [splitAt_eq_splitOn, List.splitOn_cons_eq_if_modifyHead, ← splitAt_eq_splitOn] at h
    split at h
    · rcases List.mem_cons.mp h with rfl | hrest
      · exact List.not_mem_nil
      · exact ih hrest
    · rename_i hc
      cases hpieces : splitAt separator rest with
      | nil => simp [hpieces] at h
      | cons first others =>
        rw [hpieces] at h ih
        rcases List.mem_cons.mp h with rfl | hothers
        · exact List.not_mem_cons_of_ne_of_not_mem (fun heq => hc (by simp [heq]))
            (ih List.mem_cons_self)
        · exact ih (List.mem_cons_of_mem _ hothers)

theorem isInfix_intercalate {ls : List (List Char)} (h : piece ∈ ls) :
    piece <:+: s.intercalate ls := by
  induction ls with
  | nil => cases h
  | cons first others ih =>
    cases others with
    | nil =>
      obtain rfl := List.mem_singleton.mp h
      simp
    | cons second others =>
      rw [List.intercalate_cons_cons]
      rcases List.mem_cons.mp h with rfl | hothers
      · exact (List.prefix_append _ _).isInfix.trans (List.prefix_append _ _).isInfix
      · exact (ih hothers).trans (List.suffix_append _ _).isInfix

theorem isInfix_of_mem_splitAt (h : piece ∈ splitAt separator s) : piece <:+: s := by
  have hjoined := isInfix_intercalate (s := [separator]) h
  rwa [intercalate_splitAt] at hjoined

/-! ## Carriage returns -/

/-- Where two characters are not joined, no carriage return stands in front of a line feed. -/
theorem not_prefix_crLf (h : ∀ rest, c = '\r' → s = '\n' :: rest → False) :
    ¬ ['\r', '\n'] <+: c :: s := by
  rintro ⟨rest, hrest⟩
  obtain ⟨rfl, rfl⟩ := List.cons.inj hrest
  exact h rest rfl rfl

theorem lineFeed_prefix_joinCrLf_iff (s : List Char) :
    ['\n'] <+: joinCrLf s ↔ ['\n'] <+: s ∨ ['\r', '\n'] <+: s := by
  fun_cases joinCrLf s with
  | case1 => simp
  | case2 rest => simp
  | case3 c rest hpair =>
    rw [or_iff_left (not_prefix_crLf hpair), List.cons_prefix_cons, List.cons_prefix_cons]
    simp

/-- What is left in front of a line feed is the first of two carriage returns. -/
theorem crLf_infix_joinCrLf_iff (s : List Char) :
    ['\r', '\n'] <:+: joinCrLf s ↔ ['\r', '\r', '\n'] <:+: s := by
  fun_induction joinCrLf s with
  | case1 => simp
  | case2 rest ih => simp [List.infix_cons_iff, ih]
  | case3 c rest hpair ih =>
    -- The feed does not stand next, since it would have been joined; it may come next by joining.
    have hnext : c = '\r' → ¬ ['\n'] <+: rest := by
      rintro rfl ⟨more, rfl⟩
      exact hpair more rfl rfl
    rw [List.infix_cons_iff, List.infix_cons_iff, ih, List.cons_prefix_cons, List.cons_prefix_cons,
      lineFeed_prefix_joinCrLf_iff]
    refine or_congr_left (and_congr_right ?_)
    rintro rfl
    exact or_iff_right (hnext rfl)

/-- Joining changes nothing just if there is nothing to join. -/
theorem joinCrLf_eq_self_iff (s : List Char) : joinCrLf s = s ↔ ¬ ['\r', '\n'] <:+: s := by
  fun_induction joinCrLf s with
  | case1 => simp
  | case2 rest ih =>
    have hpair : ['\r', '\n'] <:+: '\r' :: '\n' :: rest :=
      (List.prefix_append ['\r', '\n'] rest).isInfix
    simp [hpair]
  | case3 c rest hpair ih =>
    rw [List.infix_cons_iff, or_iff_right (not_prefix_crLf hpair), ← ih, List.cons_inj_right]

theorem mem_of_mem_joinCrLf (h : c ∈ joinCrLf s) : c ∈ s := by
  fun_induction joinCrLf s with
  | case1 => exact h
  | case2 rest ih =>
    refine List.mem_cons_of_mem _ ?_
    rcases List.mem_cons.mp h with rfl | hrest
    · exact List.mem_cons_self
    · exact List.mem_cons_of_mem _ (ih hrest)
  | case3 d rest hpair ih =>
    rcases List.mem_cons.mp h with rfl | hrest
    · exact List.mem_cons_self
    · exact List.mem_cons_of_mem _ (ih hrest)

theorem joinCrLf_of_notMem (h : '\r' ∉ s) : joinCrLf s = s :=
  (joinCrLf_eq_self_iff s).mpr fun hpair => h (hpair.subset List.mem_cons_self)

/-- A text without carriage returns is normalised. -/
theorem normalizeNewlines_of_notMem (h : '\r' ∉ s) : normalizeNewlines s = s := by
  have hkept : ∀ c ∈ s, (if c = '\r' then '\n' else c) = c := by
    intro c hc
    rw [if_neg]
    rintro rfl
    exact h hc
  rw [normalizeNewlines, joinCrLf_of_notMem h, List.map_congr_left hkept, List.map_id']

/-- A normalised text has no carriage return. -/
theorem notMem_normalizeNewlines (s : List Char) : '\r' ∉ normalizeNewlines s := by
  intro h
  obtain ⟨c, -, hc⟩ := List.mem_map.mp h
  split at hc
  · exact absurd hc (by decide)
  · contradiction

end Transcript.Chars
