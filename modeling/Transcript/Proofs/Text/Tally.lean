import Mathlib.Algebra.GroupWithZero.Nat
import Transcript.Proofs.Text.Beginning
import Transcript.Proofs.Text.Visible

/-!
# Counting kept characters

Text operations add and drop blanks, digits and punctuation. Every other character is *kept*: it
occurs as often after trimming, after splitting into words, lines or pieces, and after a replacement
among punctuation as before.

## Main definitions

- `Chars.isKept`: neither blank nor an ASCII digit nor ASCII punctuation
- `Text.tally`: how often a character occurs

## Main results

- `Chars.count_trim`, `count_words`, `count_lines`, `count_splitAt`, `count_replace`
- `Text.tally_join`: joining pieces by a separator that lacks the character
-/

namespace Transcript

namespace Chars

/-- The ASCII characters that are neither letters nor digits nor blanks nor controls. -/
def isAsciiPunctuation (c : Char) : Bool :=
  let n := c.toNat
  (33 ≤ n && n ≤ 47) || (58 ≤ n && n ≤ 64) || (91 ≤ n && n ≤ 96) || (123 ≤ n && n ≤ 126)

/-- The digits from zero to nine. -/
def isAsciiDigit (c : Char) : Bool :=
  let n := c.toNat
  48 ≤ n && n ≤ 57

/-- A character that is neither blank nor an ASCII digit nor ASCII punctuation. -/
def isKept (c : Char) : Bool :=
  !isBlank c && !isAsciiDigit c && !isAsciiPunctuation c

theorem not_isKept_of_isDigit {c : Char} (h : c.isDigit = true) : isKept c = false := by
  have hbounds : 48 ≤ c.toNat ∧ c.toNat ≤ 57 := by
    simpa [Char.isDigit, UInt32.le_iff_toNat_le] using h
  have hdigit : isAsciiDigit c = true := by
    simpa [isAsciiDigit] using hbounds
  simp [isKept, hdigit]

theorem not_isBlank_of_isKept {c : Char} (h : isKept c = true) : isBlank c = false := by
  simp only [isKept, Bool.and_eq_true, Bool.not_eq_true'] at h
  exact h.1.1

/-- Whatever ends a line is blank. -/
theorem isBlank_of_isLineBoundary {c : Char} (h : isLineBoundary c = true) : isBlank c = true := by
  simp only [isLineBoundary, isBlank, Bool.or_eq_true, Bool.and_eq_true, decide_eq_true_eq,
    beq_iff_eq] at h ⊢
  omega

theorem not_isLineBoundary_of_isKept {c : Char} (h : isKept c = true) :
    isLineBoundary c = false := by
  cases hboundary : isLineBoundary c with
  | false => rfl
  | true =>
    have hblank := isBlank_of_isLineBoundary hboundary
    rw [not_isBlank_of_isKept h] at hblank
    cases hblank

/-! ## Trimming -/

section

variable {p : Char → Bool} {c : Char}

theorem ne_of_separator {d : Char} (hp : p c = false) (hd : p d = true) : d ≠ c := by
  rintro rfl
  rw [hp] at hd
  cases hd

/-- Dropping other characters from the beginning loses none. -/
theorem count_dropWhile (hp : p c = false) (s : List Char) :
    (s.dropWhile p).count c = s.count c := by
  induction s with
  | nil => rfl
  | cons d rest ih =>
    cases hd : p d with
    | false => simp [List.dropWhile, hd]
    | true =>
      rw [List.dropWhile_cons_of_pos hd, ih, List.count_cons_of_ne (ne_of_separator hp hd)]

theorem count_takeWhile (hp : p c = false) (s : List Char) : (s.takeWhile p).count c = 0 := by
  have hsplit : (s.takeWhile p).count c + (s.dropWhile p).count c = s.count c := by
    rw [← List.count_append, List.takeWhile_append_dropWhile]
  rw [count_dropWhile hp] at hsplit
  omega

theorem count_dropEndWhile (hp : p c = false) (s : List Char) :
    (dropEndWhile p s).count c = s.count c := by
  rw [dropEndWhile, List.count_reverse, count_dropWhile hp, List.count_reverse]

/-! ## Splitting -/

/-- The lines of a text hold everything but line boundaries. -/
theorem count_linesFrom (hc : isLineBoundary c = false) (line s : List Char) :
    (linesFrom line s).flatten.count c = line.count c + s.count c := by
  have hreturn : '\r' ≠ c := ne_of_separator hc rfl
  have hfeed : '\n' ≠ c := ne_of_separator hc rfl
  fun_induction linesFrom line s with
  | case1 line hempty =>
    obtain rfl : line = [] := by simpa using hempty
    rfl
  | case2 line hfull => simp
  | case3 line rest ih =>
    simp only [List.flatten_cons, List.count_append, List.count_reverse, ih, List.count_nil,
      Nat.zero_add, List.count_cons_of_ne hreturn, List.count_cons_of_ne hfeed]
  | case4 line d rest hpair hd ih =>
    rw [List.flatten_cons, List.count_append, List.count_reverse, ih,
      List.count_cons_of_ne (ne_of_separator hc hd), List.count_nil, Nat.zero_add]
  | case5 line d rest hpair hd ih =>
    rw [ih, List.count_cons, List.count_cons]
    omega

/-- The pieces between separators hold everything but the separator. -/
theorem count_splitAt {separator : Char} (hc : separator ≠ c) (s : List Char) :
    (splitAt separator s).flatten.count c = s.count c := by
  induction s with
  | nil => rfl
  | cons d rest ih =>
    unfold splitAt
    split
    -- A separator: it opens a piece of its own, and is no character of any piece.
    · rename_i heq
      subst heq
      rw [List.flatten_cons, List.nil_append, ih, List.count_cons_of_ne hc]
    · split
      · rename_i hnone
        rw [hnone] at ih
        simp_all [List.count_cons]
      · rename_i piece pieces hpieces
        rw [hpieces] at ih
        simp only [List.flatten_cons, List.cons_append, List.count_cons] at ih ⊢
        rw [ih]

end

section

variable {c : Char} (h : isKept c = true)
include h

theorem count_trimStart (s : List Char) : (trimStart s).count c = s.count c :=
  count_dropWhile (not_isBlank_of_isKept h) s

theorem count_trimEnd (s : List Char) : (trimEnd s).count c = s.count c :=
  count_dropEndWhile (not_isBlank_of_isKept h) s

theorem count_trim (s : List Char) : (trim s).count c = s.count c := by
  rw [trim, count_trimEnd h, count_trimStart h]

theorem count_words (s : List Char) : (words s).flatten.count c = s.count c := by
  rw [flatten_words, visible, List.count_filter (by simp [not_isBlank_of_isKept h])]

theorem count_lines (s : List Char) : (lines s).flatten.count c = s.count c := by
  rw [lines, count_linesFrom (not_isLineBoundary_of_isKept h), List.count_nil, Nat.zero_add]

end

/-! ## Replacing -/

/-- Replacing a text without the character by another such text loses and adds none. -/
theorem count_replaceFrom {c : Char} {old new : List Char} (hold : c ∉ old) (hnew : c ∉ new)
    (hne : old ≠ []) (skip : Nat) (s : List Char) :
    (replaceFrom old new skip s).count c = (s.drop skip).count c := by
  induction s generalizing skip with
  | nil => cases skip <;> rfl
  | cons d rest ih =>
    cases skip with
    -- A character that belongs to an occurrence already replaced.
    | succ skip => exact ih skip
    | zero =>
      simp only [replaceFrom, List.drop_zero]
      split
      · rename_i hstart
        -- Neither the old text nor the new one has the character, so what follows them decides.
        obtain ⟨others, hothers⟩ := eq_append_of_startsWith hstart
        have hrest : rest.drop (old.length - 1) = others := by
          have hlength : 0 < old.length := List.length_pos_iff.mpr hne
          have hdrop : (d :: rest).drop old.length = others := by
            rw [hothers, List.drop_left]
          obtain ⟨n, hn⟩ : ∃ n, old.length = n + 1 := ⟨old.length - 1, by omega⟩
          rw [hn] at hdrop ⊢
          exact hdrop
        rw [List.count_append, ih, hrest, hothers, List.count_append,
          List.count_eq_zero_of_not_mem hold, List.count_eq_zero_of_not_mem hnew]
      · rw [List.count_cons, List.count_cons, ih, List.drop_zero]

theorem count_replace {c : Char} {old new : List Char} (hold : c ∉ old) (hnew : c ∉ new)
    (hne : old ≠ []) (s : List Char) : (replace old new s).count c = s.count c := by
  rw [replace, count_replaceFrom hold hnew hne, List.drop_zero]

end Chars

/-! ## Strings -/

namespace Text

/-- How often a character occurs in a text. -/
def tally (c : Char) (s : String) : Nat :=
  s.toList.count c

variable {c : Char}

@[simp] theorem tally_append (s t : String) : tally c (s ++ t) = tally c s + tally c t := by
  simp [tally]

@[simp] theorem tally_ofList (s : List Char) : tally c (String.ofList s) = s.count c := by
  simp [tally]

@[simp] theorem tally_empty : tally c "" = 0 := rfl

@[simp] theorem tally_joined (parts : List String) :
    tally c (String.join parts) = (parts.map (tally c)).sum := by
  induction parts with
  | nil => rfl
  | cons s rest ih => simp [ih]

/-- Pieces given as lists of characters have the tallies of the pieces together. -/
theorem sum_tally_ofList (pieces : List (List Char)) :
    ((pieces.map String.ofList).map (tally c)).sum = pieces.flatten.count c := by
  induction pieces with
  | nil => rfl
  | cons piece rest ih =>
    rw [List.map_cons, List.map_cons, List.sum_cons, ih, tally_ofList, List.flatten_cons,
      List.count_append]

/-- Joining pieces by a separator that lacks the character adds none. -/
theorem tally_join {separator : String} (h : tally c separator = 0) (parts : List String) :
    tally c (join separator parts) = (parts.map (tally c)).sum := by
  unfold join
  induction parts with
  | nil => simp
  | cons s rest ih =>
    cases rest with
    | nil => simp
    | cons t others =>
      rw [String.intercalate_cons_cons, tally_append, tally_append, h, ih]
      simp

section

variable (h : Chars.isKept c = true)
include h

/-- A text of blanks, digits and punctuation has no kept character. -/
theorem tally_eq_zero {s : String} (hs : s.toList.any Chars.isKept = false) : tally c s = 0 := by
  refine List.count_eq_zero_of_not_mem fun hc => ?_
  rw [List.any_eq_false] at hs
  exact hs c hc h

theorem tally_of_isAllBlank {s : String} (hs : isAllBlank s = true) : tally c s = 0 := by
  refine List.count_eq_zero_of_not_mem fun hc => ?_
  have hblank := List.all_eq_true.mp hs c hc
  rw [Chars.not_isBlank_of_isKept h] at hblank
  cases hblank

@[simp] theorem tally_trim (s : String) : tally c (trim s) = tally c s := by
  simp [tally, trim, Chars.count_trim h]

@[simp] theorem tally_trimEnd (s : String) : tally c (trimEnd s) = tally c s := by
  simp [tally, trimEnd, Chars.count_trimEnd h]

/-- The words of a text have the tallies of the text together. -/
theorem sum_tally_words (s : String) : ((words s).map (tally c)).sum = tally c s := by
  rw [words, sum_tally_ofList, Chars.count_words h]
  rfl

theorem sum_tally_lines (s : String) : ((lines s).map (tally c)).sum = tally c s := by
  rw [lines, sum_tally_ofList, Chars.count_lines h]
  rfl

theorem sum_tally_splitAt {separator : Char} (hs : Chars.isKept separator = false) (s : String) :
    ((splitAt separator s).map (tally c)).sum = tally c s := by
  have hne : separator ≠ c := by
    rintro rfl
    rw [h] at hs
    cases hs
  rw [splitAt, sum_tally_ofList, Chars.count_splitAt hne]
  rfl

theorem tally_replace {old new : String} (hold : old.toList.any Chars.isKept = false)
    (hnew : new.toList.any Chars.isKept = false) (hne : old.toList ≠ []) (s : String) :
    tally c (replace old new s) = tally c s := by
  have hlacks : ∀ {t : String}, t.toList.any Chars.isKept = false → c ∉ t.toList := by
    intro t ht hc
    rw [List.any_eq_false] at ht
    exact ht c hc h
  simp [tally, replace, Chars.count_replace (hlacks hold) (hlacks hnew) hne]

end

end Text

end Transcript
