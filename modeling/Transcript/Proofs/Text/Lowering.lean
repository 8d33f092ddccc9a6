import Mathlib.Algebra.GroupWithZero.Nat
import Transcript.Proofs.Text.Beginning

/-!
# Texts that are the same up to case

Two texts are the same up to case if they have the same lower-case form. No character is lowered to
nothing, so a text is never the same as a proper part of itself. The form of a part is found in that
of the whole text unless a capital sigma is in the text, whose form depends on its neighbours. What is
found there is the form of a part unless a character of the text is lowered to two, of which one alone
may be found. Texts that differ in the case of ASCII letters alone are the same up to case.

## Main definitions

- `Chars.lowerWidth`: how many characters a character is lowered to
- `Chars.LowersInPlace`: a character that is lowered by itself and to a single one
- `Chars.OccursFolded`: a text that occurs in another one up to case

## Main results

- `Chars.eq_of_infix_of_lower`: a part that is the same as the whole text up to case
- `Chars.infix_lower_iff`: looking for a lowered text in a lowered text
- `Text.lower_eq_of_asciiLower`: texts that differ in the case of ASCII letters
-/

namespace Transcript.Chars

/-! ## Single characters -/

/-- The one character that is lowered to two is the capital I with a dot. -/
theorem exists_lowerChar_eq {c : Char} (h : c ≠ 'İ') : ∃ d, lowerChar c = [d] := by
  unfold lowerChar
  split
  · exact ⟨_, rfl⟩
  · have hnumber : (c.toNat == 304) = false := by
      rw [beq_eq_false_iff_ne]
      intro hnumber
      exact h (Char.toNat_inj.mp hnumber)
    exact ⟨_, by simp [Text.mapCase, Text.lowerExpansions, List.lookup_cons, hnumber]; rfl⟩

theorem lowerChar_ne_nil (c : Char) : lowerChar c ≠ [] := by
  by_cases hdotted : c = 'İ'
  · subst hdotted
    decide
  · obtain ⟨d, hd⟩ := exists_lowerChar_eq hdotted
    simp [hd]

/-- How many characters a character is lowered to. -/
def lowerWidth (c : Char) : Nat :=
  if c = 'Σ' then 1 else (lowerChar c).length

theorem lowerWidth_pos (c : Char) : 0 < lowerWidth c := by
  unfold lowerWidth
  split
  · exact Nat.one_pos
  · exact List.length_pos_of_ne_nil (lowerChar_ne_nil c)

/-! ## Parts of a text -/

/-- The form of a sigma depends on its neighbours, but not the length of the form. -/
theorem length_lowerFrom (before s : List Char) :
    (lowerFrom before s).length = (s.map lowerWidth).sum := by
  induction s generalizing before with
  | nil => rfl
  | cons c rest ih =>
    rw [lowerFrom, List.length_append, ih, List.map_cons, List.sum_cons, lowerWidth]
    split
    · split <;> rfl
    · rfl

theorem eq_nil_of_lowerWidth {s : List Char} (h : (s.map lowerWidth).sum = 0) : s = [] := by
  cases s with
  | nil => rfl
  | cons c rest =>
    have hwidth := lowerWidth_pos c
    simp only [List.map_cons, List.sum_cons] at h
    omega

/-- A part of a text that is the same up to case is the whole text. -/
theorem eq_of_infix_of_lower {part s : List Char} (hpart : part <:+: s)
    (hlower : lower part = lower s) : part = s := by
  obtain ⟨before, behind, rfl⟩ := hpart
  -- If it were a proper part, its form would be shorter.
  have hlength := congrArg List.length hlower
  simp only [lower, length_lowerFrom, List.map_append, List.sum_append] at hlength
  have hbefore : before = [] := eq_nil_of_lowerWidth (by omega)
  have hbehind : behind = [] := eq_nil_of_lowerWidth (by omega)
  simp [hbefore, hbehind]

/-! ## Looking for a text up to case -/

/-- A character that is lowered by itself and to a single one. -/
def LowersInPlace (c : Char) : Prop :=
  c ≠ 'Σ' ∧ c ≠ 'İ'

/-- A text occurs in another one up to case: some part is the same up to case. -/
def OccursFolded (part s : List Char) : Prop :=
  ∃ found, found <:+: s ∧ lower found = lower part

/-- Where all characters are lowered in place, lowering goes character by character. -/
theorem lower_eq_map {s : List Char} (h : ∀ c ∈ s, LowersInPlace c) :
    lower s = s.map fun c => (lowerChar c).headD c := by
  -- Without a sigma it does not matter what stands in front.
  have hfrom : ∀ before, lowerFrom before s = s.map fun c => (lowerChar c).headD c := by
    induction s with
    | nil => exact fun before => rfl
    | cons c rest ih =>
      obtain ⟨⟨hsigma, hdotted⟩, hrest⟩ := List.forall_mem_cons.mp h
      obtain ⟨d, hd⟩ := exists_lowerChar_eq hdotted
      intro before
      rw [lowerFrom, if_neg hsigma, ih hrest, hd, List.map_cons, hd]
      rfl
  exact hfrom []

/-- In a text of such characters a lowered text is found where the text itself occurs up to case. -/
theorem infix_lower_iff {part s : List Char} (h : ∀ c ∈ s, LowersInPlace c) :
    lower part <:+: lower s ↔ OccursFolded part s := by
  constructor
  -- What is found is the image of a run of characters, one for one.
  · rintro ⟨before, behind, hsplit⟩
    rw [lower_eq_map h, eq_comm, List.map_eq_append_iff] at hsplit
    obtain ⟨left, last, rfl, hleft, -⟩ := hsplit
    obtain ⟨first, found, rfl, -, hfound⟩ := List.map_eq_append_iff.mp hleft
    refine ⟨found, ⟨first, last, rfl⟩, ?_⟩
    rw [lower_eq_map fun c hc => h c (by simp [hc]), hfound]
  · rintro ⟨found, hpart, hfound⟩
    rw [← hfound, lower_eq_map h, lower_eq_map fun c hc => h c (hpart.subset hc)]
    exact hpart.map _

/-! ## The case of ASCII letters -/

/-- Lower-casing an ASCII letter changes neither whether it has case nor whether it is passed over. -/
theorem case_asciiLower (c : Char) :
    isCased (asciiLower c) = isCased c ∧ isCaseIgnorable (asciiLower c) = isCaseIgnorable c ∧
      (asciiLower c = 'Σ' ↔ c = 'Σ') ∧ lowerChar (asciiLower c) = lowerChar c := by
  by_cases hsmall : c.toNat < 65 ∨ 90 < c.toNat
  · rw [asciiLower, toLower_eq_self hsmall]
    exact ⟨rfl, rfl, Iff.rfl, rfl⟩
  · have hcapitals : ∀ n < 91, 65 ≤ n →
        isCased (asciiLower (Char.ofNat n)) = isCased (Char.ofNat n) ∧
        isCaseIgnorable (asciiLower (Char.ofNat n)) = isCaseIgnorable (Char.ofNat n) ∧
        (asciiLower (Char.ofNat n) = 'Σ' ↔ Char.ofNat n = 'Σ') ∧
        lowerChar (asciiLower (Char.ofNat n)) = lowerChar (Char.ofNat n) := by decide
    have hletter := hcapitals c.toNat (by omega) (by omega)
    rwa [Char.ofNat_toNat] at hletter

theorem meetsCased_map_asciiLower (s : List Char) :
    meetsCased (s.map asciiLower) = meetsCased s := by
  induction s with
  | nil => rfl
  | cons c rest ih =>
    obtain ⟨hcased, hignorable, -, -⟩ := case_asciiLower c
    unfold meetsCased at ih ⊢
    rw [List.map_cons, List.dropWhile_cons, List.dropWhile_cons, hignorable]
    cases isCaseIgnorable c with
    | true => exact ih
    | false => exact hcased

theorem lowerFrom_map_asciiLower (before s : List Char) :
    lowerFrom (before.map asciiLower) (s.map asciiLower) = lowerFrom before s := by
  induction s generalizing before with
  | nil => rfl
  | cons c rest ih =>
    obtain ⟨-, -, hsigma, hlower⟩ := case_asciiLower c
    have hrest := ih (c :: before)
    rw [List.map_cons] at hrest
    rw [List.map_cons, lowerFrom, lowerFrom, hrest, hlower, meetsCased_map_asciiLower,
      meetsCased_map_asciiLower]
    simp only [hsigma]

end Transcript.Chars

namespace Transcript.Text

theorem lower_asciiLower (s : String) : lower (asciiLower s) = lower s := by
  simp only [lower, asciiLower, onChars, String.toList_ofList]
  exact congrArg String.ofList (Chars.lowerFrom_map_asciiLower [] s.toList)

/-- Texts that differ in the case of ASCII letters alone are the same up to case. -/
theorem lower_eq_of_asciiLower {s other : String} (h : asciiLower s = asciiLower other) :
    lower s = lower other := by
  rw [← lower_asciiLower s, h, lower_asciiLower]

end Transcript.Text
