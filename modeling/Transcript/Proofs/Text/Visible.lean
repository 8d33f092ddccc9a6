import Mathlib.Data.List.TakeWhile
import Transcript.Proofs.Text.Splitting

/-!
# What is visible of a text

The visible part of a text is the text without its blanks. It does not depend on how line ends are
written, and a text that is split at a blank shows what its pieces show, one after another.

## Main definitions

- `Chars.visible`: the characters that are not blank

## Main results

- `Chars.visible_trim`: blanks at the ends do not show
- `Chars.visible_normalizeNewlines`: line ends do not show
- `Chars.visible_splitAt`: pieces between blanks
- `Chars.flatten_words`: words
-/

namespace Transcript.Chars

/-- The characters of a text that are not blank. -/
def visible (s : List Char) : List Char :=
  s.filter fun c => !isBlank c

variable {s t : List Char}

@[simp] theorem visible_append (s t : List Char) : visible (s ++ t) = visible s ++ visible t :=
  List.filter_append ..

theorem visible_cons (c : Char) (s : List Char) : visible (c :: s) = visible [c] ++ visible s :=
  visible_append [c] s

theorem visible_reverse (s : List Char) : visible s.reverse = (visible s).reverse :=
  List.filter_reverse ..

theorem visible_eq_nil_iff : visible s = [] ↔ s.all isBlank = true := by
  simp [visible, List.filter_eq_nil_iff]

theorem visible_of_blank (h : ∀ c ∈ s, isBlank c = true) : visible s = [] :=
  visible_eq_nil_iff.mpr (List.all_eq_true.mpr h)

/-- The blanks that are cut off a text do not show. -/
theorem visible_trim (s : List Char) : visible (trim s) = visible s := by
  have hstart : ∀ s, visible (s.dropWhile isBlank) = visible s := by
    intro s
    have hcut : ∀ c ∈ s.takeWhile isBlank, isBlank c = true := fun c => List.mem_takeWhile_imp
    calc
      visible (s.dropWhile isBlank) =
          visible (s.takeWhile isBlank) ++ visible (s.dropWhile isBlank) := by
        rw [visible_of_blank hcut, List.nil_append]
      _ = visible s := by rw [← visible_append, List.takeWhile_append_dropWhile]
  rw [trim, trimEnd, dropEndWhile, visible_reverse, hstart, visible_reverse, List.reverse_reverse,
    trimStart, hstart]

/-! ## Line ends -/

theorem visible_joinCrLf (s : List Char) : visible (joinCrLf s) = visible s := by
  fun_induction joinCrLf s with
  | case1 => rfl
  | case2 rest ih =>
    have hboth : visible ['\r', '\n'] = visible ['\n'] := by decide
    calc
      visible ('\n' :: joinCrLf rest) = visible ['\r', '\n'] ++ visible rest := by
        rw [visible_cons, ih, hboth]
      _ = visible ('\r' :: '\n' :: rest) := (visible_append ['\r', '\n'] rest).symm
  | case3 c rest hpair ih => rw [visible_cons, ih, ← visible_cons]

/-- Line ends do not show, however they are written. -/
theorem visible_normalizeNewlines (s : List Char) : visible (normalizeNewlines s) = visible s := by
  rw [← visible_joinCrLf s, normalizeNewlines]
  induction joinCrLf s with
  | nil => rfl
  | cons c rest ih =>
    have hend : visible [if c = '\r' then '\n' else c] = visible [c] := by
      split
      · rename_i hreturn
        subst hreturn
        decide
      · rfl
    rw [List.map_cons, visible_cons, hend, ih, ← visible_cons]

/-! ## Pieces -/

/-- Joined pieces show what each of them shows, if nothing shows between them. -/
theorem visible_intercalate (h : visible t = []) (pieces : List (List Char)) :
    visible (t.intercalate pieces) = pieces.flatMap visible := by
  induction pieces with
  | nil => rfl
  | cons first others ih =>
    cases others with
    | nil => simp
    | cons second others =>
      rw [List.intercalate_cons_cons, visible_append, visible_append, h, ih]
      simp

theorem visible_splitAt {separator : Char} (h : isBlank separator = true) (s : List Char) :
    (splitAt separator s).flatMap visible = visible s := by
  have hseparator : visible [separator] = [] := visible_of_blank (by simpa using h)
  rw [← visible_intercalate hseparator, intercalate_splitAt]

/-! ## Words -/

/-- The runs between separators, one after another, are the text without its separators. -/
theorem flatten_runsFrom (p : Char → Bool) (run s : List Char) :
    (runsFrom p run s).flatten = run.reverse ++ s.filter fun c => !p c := by
  induction s generalizing run with
  | nil =>
    cases run with
    | nil => rfl
    | cons d rest => simp [runsFrom]
  | cons d rest ih =>
    unfold runsFrom
    -- A separator ends the run read so far, and any other character is added to it.
    cases hd : p d with
    | false => simp [hd, ih]
    | true =>
      cases run with
      | nil => simp [hd, ih]
      | cons e others => simp [hd, ih]

/-- The words of a text, one after another, are what is visible of it. -/
theorem flatten_words (s : List Char) : (words s).flatten = visible s := by
  rw [words, flatten_runsFrom]
  rfl

end Transcript.Chars
