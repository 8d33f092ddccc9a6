import Mathlib.Data.List.DropRight
import Transcript.Text.Blank

/-!
# Blanks at the ends

Cutting the blanks off a text that ends visibly changes nothing at its end, and it makes no
difference which end comes first. So blanks behind a text are lost, and what stands in front of a
visible end is kept.

## Main definitions

- `Chars.EndsVisibly`: a text whose last character is no blank

## Main results

- `Text.trimEnd_append_of_isAllBlank`: blanks behind a text are lost
- `Text.trim_eq_of_trimEnd`: the blanks at the beginning of a text whose end is cut
-/

namespace Transcript

namespace Chars

variable {s t : List Char}

/-- A text whose last character is no blank. -/
def EndsVisibly (s : List Char) : Prop :=
  ∃ before c, s = before ++ [c] ∧ isBlank c = false

theorem EndsVisibly.append (s : List Char) (h : EndsVisibly t) : EndsVisibly (s ++ t) := by
  obtain ⟨before, c, rfl, hc⟩ := h
  exact ⟨s ++ before, c, (List.append_assoc ..).symm, hc⟩

theorem trimEnd_eq_rdropWhile (s : List Char) : trimEnd s = s.rdropWhile isBlank := rfl

theorem EndsVisibly.trimEnd_eq (h : EndsVisibly s) : trimEnd s = s := by
  obtain ⟨before, c, rfl, hc⟩ := h
  rw [trimEnd_eq_rdropWhile, List.rdropWhile_concat_neg _ _ _ (by simp [hc])]

theorem trimEnd_append_of_blank (s : List Char) (h : ∀ c ∈ t, isBlank c = true) :
    trimEnd (s ++ t) = trimEnd s := by
  induction t using List.reverseRecOn with
  | nil => rw [List.append_nil]
  | append_singleton t c ih =>
    obtain ⟨ht, hc⟩ := List.forall_mem_append.mp h
    rw [← List.append_assoc, trimEnd_eq_rdropWhile,
      List.rdropWhile_concat_pos _ _ _ (hc c (by simp)), ← trimEnd_eq_rdropWhile, ih ht]

/-- What is left when the end is cut ends visibly, if anything is left. -/
theorem endsVisibly_trimEnd (h : trimEnd s ≠ []) : EndsVisibly (trimEnd s) := by
  refine ⟨(trimEnd s).dropLast, (trimEnd s).getLast h, (List.dropLast_append_getLast h).symm, ?_⟩
  exact eq_false_of_ne_true (List.rdropWhile_last_not isBlank s h)

/-- A text that does not begin with a blank is left alone at its beginning, also by what is put
behind it. -/
theorem trimStart_append (h : trimStart s ≠ []) (t : List Char) :
    trimStart (s ++ t) = trimStart s ++ t := by
  have hsome : (s.dropWhile isBlank).isEmpty = false := by simpa [trimStart] using h
  rw [trimStart, List.dropWhile_append, hsome]
  rfl

theorem trimEnd_append (s : List Char) (h : trimEnd t ≠ []) :
    trimEnd (s ++ t) = s ++ trimEnd t := by
  have hsome : (t.reverse.dropWhile isBlank).isEmpty = false := by
    simpa [trimEnd, dropEndWhile] using h
  rw [trimEnd, dropEndWhile, List.reverse_append, List.dropWhile_append, hsome]
  simp [trimEnd, dropEndWhile]

/-- What is left when the beginning is cut, if anything, begins visibly, and still does when the end
is cut as well. -/
theorem trimStart_trimEnd_trimStart (s : List Char) :
    trimStart (trimEnd (trimStart s)) = trimEnd (trimStart s) := by
  obtain ⟨cut, hprefix⟩ := List.rdropWhile_prefix isBlank (trimStart s)
  rw [← trimEnd_eq_rdropWhile] at hprefix
  cases hkept : trimEnd (trimStart s) with
  | nil => rfl
  | cons c rest =>
    have hhead : s.dropWhile isBlank = c :: (rest ++ cut) := by
      rw [← List.cons_append, ← hkept]
      exact hprefix.symm
    have hc : isBlank c = false := by
      have hnot := List.head_dropWhile_not isBlank (l := s) (by simp [hhead])
      simpa [hhead] using hnot
    simp [trimStart, hc]

/-- The end may be cut first. -/
theorem trim_eq (s : List Char) : trim s = trimStart (trimEnd s) := by
  have hsplit : s.takeWhile isBlank ++ trimStart s = s := List.takeWhile_append_dropWhile
  have hblank : ∀ c ∈ s.takeWhile isBlank, isBlank c = true := fun c => List.mem_takeWhile_imp
  cases hkept : trimEnd (trimStart s) with
  | nil =>
    -- Everything is blank.
    have hall : ∀ c ∈ trimStart s, isBlank c = true := List.rdropWhile_eq_nil_iff.mp hkept
    have hnone : trimEnd s = [] := by
      rw [← hsplit]
      exact List.rdropWhile_eq_nil_iff.mpr (List.forall_mem_append.mpr ⟨hblank, hall⟩)
    rw [trim, hkept, hnone]
    rfl
  | cons c rest =>
    have hsome : trimEnd (trimStart s) ≠ [] := by simp [hkept]
    have hend : trimEnd s = s.takeWhile isBlank ++ trimEnd (trimStart s) := by
      rw [← trimEnd_append _ hsome, hsplit]
    rw [hend, trimStart, List.dropWhile_append_of_pos hblank]
    exact (trimStart_trimEnd_trimStart s).symm

theorem trim_trim (s : List Char) : trim (trim s) = trim s := by
  rw [trim, trim, trimStart_trimEnd_trimStart, trimEnd_eq_rdropWhile, trimEnd_eq_rdropWhile,
    List.rdropWhile_idempotent]

theorem trim_eq_nil_iff : trim s = [] ↔ ∀ c ∈ s, isBlank c = true := by
  have hstart : ∀ c ∈ s.takeWhile isBlank, isBlank c = true := fun c => List.mem_takeWhile_imp
  have hsplit : s.takeWhile isBlank ++ trimStart s = s := List.takeWhile_append_dropWhile
  calc
    trim s = [] ↔ ∀ c ∈ trimStart s, isBlank c = true := List.rdropWhile_eq_nil_iff
    _ ↔ ∀ c ∈ s.takeWhile isBlank ++ trimStart s, isBlank c = true := by
      rw [List.forall_mem_append, and_iff_right hstart]
    _ ↔ ∀ c ∈ s, isBlank c = true := by rw [hsplit]

/-- What is left of a text begins visibly, if at all. -/
theorem not_isBlank_of_mem_head?_trim {c : Char} (h : c ∈ (trim s).head?) : isBlank c = false := by
  have htrimmed : trimStart (trim s) = trim s := trimStart_trimEnd_trimStart s
  cases hkept : trim s with
  | nil => simp [hkept] at h
  | cons d rest =>
    obtain rfl : d = c := by simpa [hkept] using h
    rw [hkept] at htrimmed
    simpa using List.dropWhile_eq_self_iff.mp htrimmed

/-- What is left of a text ends visibly, if it is anything. -/
theorem not_isBlank_of_mem_getLast?_trim {c : Char} (h : c ∈ (trim s).getLast?) :
    isBlank c = false := by
  by_cases hkept : trim s = []
  · simp [hkept] at h
  · obtain ⟨before, d, hd, hvisible⟩ := endsVisibly_trimEnd hkept
    obtain rfl : d = c := by simpa [trim, hd] using h
    exact hvisible

/-- What is left of a text is a part of it. -/
theorem trim_infix (s : List Char) : trim s <:+: s :=
  (List.rdropWhile_prefix _ _).isInfix.trans (List.dropWhile_suffix _).isInfix

theorem trimEnd_ne_nil_of_trim (h : trim s ≠ []) : trimEnd s ≠ [] := by
  intro hnone
  rw [trim_eq, hnone] at h
  exact h rfl

/-- What stands behind a text with something visible in it is left alone at the beginning. -/
theorem trim_eq_of_trimEnd (hs : trim s ≠ []) {u : List Char} (hu : trimEnd u = trimEnd s ++ t) :
    trim u = trim s ++ t := by
  rw [trim_eq, hu, trimStart_append, ← trim_eq]
  rwa [← trim_eq]

end Chars

namespace Text

/-- A text whose last character is no blank. -/
def EndsVisibly (s : String) : Prop :=
  Chars.EndsVisibly s.toList

theorem EndsVisibly.append (s : String) {t : String} (h : EndsVisibly t) :
    EndsVisibly (s ++ t) := by
  rw [EndsVisibly, String.toList_append]
  exact Chars.EndsVisibly.append _ h

theorem EndsVisibly.trimEnd_eq {s : String} (h : EndsVisibly s) : trimEnd s = s := by
  rw [← String.toList_inj, trimEnd, toList_onChars]
  exact Chars.EndsVisibly.trimEnd_eq h

/-- Blanks behind a text are lost. -/
theorem trimEnd_append_of_isAllBlank (s : String) {t : String} (h : isAllBlank t = true) :
    trimEnd (s ++ t) = trimEnd s := by
  have hblank : ∀ c ∈ t.toList, Chars.isBlank c = true := List.all_eq_true.mp h
  rw [← String.toList_inj, trimEnd, toList_onChars, toList_onChars, String.toList_append,
    Chars.trimEnd_append_of_blank _ hblank]

theorem toList_trim_ne_nil {s : String} (h : trim s ≠ "") : Chars.trim s.toList ≠ [] := by
  intro hnone
  refine h ?_
  rw [← String.toList_inj, trim, toList_onChars, hnone]
  rfl

theorem endsVisibly_trimEnd {s : String} (h : trim s ≠ "") : EndsVisibly (trimEnd s) := by
  rw [EndsVisibly, trimEnd, toList_onChars]
  exact Chars.endsVisibly_trimEnd (Chars.trimEnd_ne_nil_of_trim (toList_trim_ne_nil h))

theorem endsVisibly_trim {s : String} (h : trim s ≠ "") : EndsVisibly (trim s) := by
  rw [EndsVisibly, trim, toList_onChars]
  exact Chars.endsVisibly_trimEnd (toList_trim_ne_nil h)

/-- Of a text whose end is known when it is cut, the beginning is cut as if nothing stood behind. -/
theorem trim_eq_of_trimEnd {s t u : String} (hs : trim s ≠ "") (hu : trimEnd u = trimEnd s ++ t) :
    trim u = trim s ++ t := by
  have hchars : Chars.trimEnd u.toList = Chars.trimEnd s.toList ++ t.toList := by
    simpa [trimEnd] using congrArg String.toList hu
  rw [← String.toList_inj, String.toList_append, trim, toList_onChars, toList_onChars]
  exact Chars.trim_eq_of_trimEnd (toList_trim_ne_nil hs) hchars

end Text

end Transcript
