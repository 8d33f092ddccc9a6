import Mathlib.Data.List.Basic
import Transcript.Text.Case
import Transcript.Text.Search

/-!
# How texts begin

A text begins with another one if the second is a prefix of the first. To replace a single character
it is enough to look at each character by itself. Lower-casing a text that begins with ASCII
characters lower-cases these letter by letter, whatever stands behind them, though it may take the
rest of the text in a different way than the rest alone.

## Main results

- `Chars.startsWith_iff_prefix`, `Chars.contains_iff_infix`: beginning with a text, and holding one
- `Chars.replace_singleton`: replacing a character
- `Chars.lowerFrom_append_of_ascii`: how a lower-cased text begins
-/

namespace Transcript.Chars

/-! ## Beginning with a text -/

theorem dropStart?_append (start rest : List Char) :
    dropStart? start (start ++ rest) = some rest := by
  induction start with
  | nil => rfl
  | cons c others ih => simp [dropStart?, ih]

/-- What starts with a text is this text and a rest. -/
theorem eq_append_of_startsWith {start s : List Char} (h : startsWith start s = true) :
    ∃ rest, s = start ++ rest := by
  induction start generalizing s with
  | nil => exact ⟨s, rfl⟩
  | cons p ps ih =>
    cases s with
    | nil => simp [startsWith, dropStart?] at h
    | cons d rest =>
      by_cases heq : p = d
      · subst heq
        obtain ⟨others, hothers⟩ := ih (s := rest) (by simpa [startsWith, dropStart?] using h)
        exact ⟨others, by rw [hothers, List.cons_append]⟩
      · simp [startsWith, dropStart?, heq] at h

theorem startsWith_iff_prefix {start s : List Char} :
    startsWith start s = true ↔ start <+: s := by
  constructor
  · intro h
    obtain ⟨rest, rfl⟩ := eq_append_of_startsWith h
    exact List.prefix_append start rest
  · rintro ⟨rest, rfl⟩
    rw [startsWith, dropStart?_append]
    rfl

/-- A text occurs in another one as a run of its characters. -/
theorem contains_iff_infix {part s : List Char} : contains part s = true ↔ part <:+: s := by
  induction s with
  | nil => simp [contains]
  | cons c rest ih =>
    rw [contains, Bool.or_eq_true, startsWith_iff_prefix, ih, List.infix_cons_iff]

theorem startsWith_singleton (d c : Char) (rest : List Char) :
    startsWith [d] (c :: rest) = (d == c) := by
  by_cases h : d = c <;> simp [startsWith, dropStart?, h]

/-- Replacing a character works on each character by itself. -/
theorem replace_singleton (d : Char) (new s : List Char) :
    replace [d] new s = s.flatMap fun c => if c = d then new else [c] := by
  unfold replace
  induction s with
  | nil => rfl
  | cons c rest ih =>
    rw [replaceFrom, startsWith_singleton, List.flatMap_cons, ← ih]
    by_cases h : c = d
    · subst h
      simp
    · rw [if_neg h, if_neg (by simpa using Ne.symm h)]
      rfl

/-! ## Lower case -/

/-- Lower-casing changes capital ASCII letters only. -/
theorem toLower_eq_self {c : Char} (h : c.toNat < 65 ∨ 90 < c.toNat) : c.toLower = c := by
  have hnot : ¬(c.val ≥ 'A'.val ∧ c.val ≤ 'Z'.val) := by
    rintro ⟨hfirst, hlast⟩
    have hlow : 65 ≤ c.toNat := UInt32.le_iff_toNat_le.mp hfirst
    have hhigh : c.toNat ≤ 90 := UInt32.le_iff_toNat_le.mp hlast
    omega
  unfold Char.toLower
  rw [dif_neg hnot]

/-- A character whose lower-case form is an ASCII character is one itself. -/
theorem toNat_lt_of_toLower {c : Char} (h : c.toLower.toNat < 128) : c.toNat < 128 := by
  by_cases hlarge : 90 < c.toNat
  · rwa [toLower_eq_self (.inr hlarge)] at h
  · omega

/-- Blanks have no case. -/
theorem toLower_of_isBlank {c : Char} (h : isBlank c = true) : c.toLower = c := by
  simp only [isBlank, Bool.or_eq_true, Bool.and_eq_true, decide_eq_true_eq, beq_iff_eq] at h
  exact toLower_eq_self (by omega)

/-- ASCII characters are lower-cased letter by letter, whatever stands around them. -/
theorem lowerFrom_append_of_ascii {s : List Char} (h : ∀ c ∈ s, c.toNat < 128)
    (before rest : List Char) :
    lowerFrom before (s ++ rest) = s.map Char.toLower ++ lowerFrom (s.reverse ++ before) rest := by
  induction s generalizing before with
  | nil => rfl
  | cons c others ih =>
    obtain ⟨hc, hothers⟩ := List.forall_mem_cons.mp h
    have hsigma : c ≠ 'Σ' := by
      rintro rfl
      exact absurd hc (by decide)
    rw [List.cons_append, lowerFrom, if_neg hsigma, lowerChar, if_pos hc, ih hothers]
    simp

/-- Plain ASCII text is lower-cased letter by letter. -/
theorem lower_of_ascii {s : List Char} (h : ∀ c ∈ s, c.toNat < 128) :
    lower s = s.map Char.toLower := by
  have happend := lowerFrom_append_of_ascii h [] []
  rwa [List.append_nil, lowerFrom, List.append_nil] at happend

end Transcript.Chars
