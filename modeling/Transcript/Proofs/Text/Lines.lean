import Mathlib.Data.List.TakeWhile
import Transcript.Text.Lines

/-!
# Lines, taken apart and put together

A text without line boundaries is read as one line, whatever is read behind it. So lines that are
joined by line feeds are read back as they were, and what is done with the other characters of a
text is done with them line by line.

## Main definitions

- `Chars.Unbroken`: a text without line boundaries
- `Chars.SparesBoundaries`: a substitution that leaves line boundaries alone, and adds none

## Main results

- `Chars.unbroken_of_mem_lines`: no line has a boundary
- `Chars.lines_flatMap`: substitutions and lines
- `Text.lines_join`: joined lines are read back
-/

namespace Transcript

namespace Chars

/-- A text without line boundaries. -/
def Unbroken (s : List Char) : Prop :=
  ∀ c ∈ s, isLineBoundary c = false

theorem unbroken_iff_any {s : List Char} : Unbroken s ↔ s.any isLineBoundary = false := by
  simp [Unbroken]

theorem unbroken_nil : Unbroken [] := nofun

theorem unbroken_cons {c : Char} {s : List Char} :
    Unbroken (c :: s) ↔ isLineBoundary c = false ∧ Unbroken s :=
  List.forall_mem_cons

theorem unbroken_append {s t : List Char} : Unbroken (s ++ t) ↔ Unbroken s ∧ Unbroken t :=
  List.forall_mem_append

theorem unbroken_reverse {s : List Char} : Unbroken s.reverse ↔ Unbroken s := by
  simp only [Unbroken, List.mem_reverse]

/-! ## Reading on -/

/-- One character is read, unless it is the first half of a boundary. -/
theorem linesFrom_step (line : List Char) {c : Char} {rest : List Char}
    (hpair : c = '\r' → rest.head? ≠ some '\n') :
    linesFrom line (c :: rest) =
      if isLineBoundary c then line.reverse :: linesFrom [] rest
      else linesFrom (c :: line) rest := by
  rw [linesFrom.eq_def]
  split
  · contradiction
  · rename_i heq
    obtain ⟨rfl, rfl⟩ := List.cons.inj heq
    exact absurd rfl (hpair rfl)
  · rename_i heq
    obtain ⟨rfl, rfl⟩ := List.cons.inj heq
    rfl

theorem linesFrom_cons {c : Char} (h : isLineBoundary c = false) (line rest : List Char) :
    linesFrom line (c :: rest) = linesFrom (c :: line) rest := by
  rw [linesFrom_step, h, if_neg Bool.false_ne_true]
  rintro rfl
  cases h

/-- Text without boundaries is added to the line read so far. -/
theorem linesFrom_append {s : List Char} (h : Unbroken s) (line rest : List Char) :
    linesFrom line (s ++ rest) = linesFrom (s.reverse ++ line) rest := by
  induction s generalizing line with
  | nil => rfl
  | cons c s ih =>
    obtain ⟨hc, hs⟩ := unbroken_cons.mp h
    rw [List.cons_append, linesFrom_cons hc, ih hs, List.reverse_cons, List.append_assoc]
    rfl

theorem linesFrom_boundary {c : Char} (h : isLineBoundary c = true) (line : List Char)
    {rest : List Char} (hpair : c = '\r' → rest.head? ≠ some '\n') :
    linesFrom line (c :: rest) = line.reverse :: linesFrom [] rest := by
  rw [linesFrom_step line hpair, h, if_pos rfl]

theorem linesFrom_lineFeed (line rest : List Char) :
    linesFrom line ('\n' :: rest) = line.reverse :: linesFrom [] rest :=
  linesFrom_boundary (by decide) line nofun

/-- Text without boundaries, and a line feed behind it, are read as one line. -/
theorem lines_append_lineFeed {s : List Char} (h : Unbroken s) (rest : List Char) :
    lines (s ++ '\n' :: rest) = s :: lines rest := by
  rw [lines, linesFrom_append h, linesFrom_lineFeed, List.append_nil, List.reverse_reverse]
  rfl

/-- A boundary ends the line read so far, whatever stands behind. -/
theorem exists_linesFrom_eq {c : Char} (h : isLineBoundary c = true) (line rest : List Char) :
    ∃ others, linesFrom line (c :: rest) = line.reverse :: others := by
  by_cases hpair : c = '\r' → rest.head? ≠ some '\n'
  · exact ⟨_, linesFrom_boundary h line hpair⟩
  · obtain ⟨rfl, hfeed⟩ : c = '\r' ∧ rest.head? = some '\n' := by simpa using hpair
    obtain ⟨others, rfl⟩ := List.head?_eq_some_iff.mp hfeed
    exact ⟨linesFrom [] others, rfl⟩

/-- What stands before the first boundary is the first line, unless there is no text at all. -/
theorem exists_lines_append_eq {line rest : List Char} (hline : Unbroken line)
    (hrest : ∀ c ∈ rest.head?, isLineBoundary c = true) (hsome : line ++ rest ≠ []) :
    ∃ others, lines (line ++ rest) = line :: others := by
  rw [lines, linesFrom_append hline, List.append_nil]
  cases rest with
  | nil =>
    rw [List.append_nil] at hsome
    exact ⟨[], by simp [linesFrom, hsome]⟩
  | cons c rest =>
    obtain ⟨others, hothers⟩ := exists_linesFrom_eq (hrest c rfl) line.reverse rest
    exact ⟨others, by rw [hothers, List.reverse_reverse]⟩

theorem exists_lines_eq {s : List Char} (h : s ≠ []) :
    ∃ others, lines s = (s.takeWhile fun c => !isLineBoundary c) :: others := by
  have hsplit := s.takeWhile_append_dropWhile (p := fun c => !isLineBoundary c)
  have hline : Unbroken (s.takeWhile fun c => !isLineBoundary c) := by
    intro c hc
    simpa using List.mem_takeWhile_imp hc
  have hrest : ∀ c ∈ (s.dropWhile fun c => !isLineBoundary c).head?, isLineBoundary c = true := by
    intro c hc
    have hnot := List.head?_dropWhile_not (fun c => !isLineBoundary c) s
    rw [Option.mem_def.mp hc] at hnot
    simpa using hnot
  rw [← hsplit] at h
  have hread := exists_lines_append_eq hline hrest h
  rwa [hsplit] at hread

theorem unbroken_of_mem_linesFrom {line s l : List Char} (hline : Unbroken line)
    (hl : l ∈ linesFrom line s) : Unbroken l := by
  have hended := unbroken_reverse.mpr hline
  fun_induction linesFrom line s with
  | case1 line hempty => cases hl
  | case2 line hfull =>
    obtain rfl := List.mem_singleton.mp hl
    exact hended
  | case3 line rest ih =>
    rcases List.mem_cons.mp hl with rfl | hrest
    · exact hended
    · exact ih unbroken_nil hrest unbroken_nil
  | case4 line d rest hpair hd ih =>
    rcases List.mem_cons.mp hl with rfl | hrest
    · exact hended
    · exact ih unbroken_nil hrest unbroken_nil
  | case5 line d rest hpair hd ih =>
    have hmore : Unbroken (d :: line) := unbroken_cons.mpr ⟨eq_false_of_ne_true hd, hline⟩
    exact ih hmore hl (unbroken_reverse.mpr hmore)

theorem unbroken_of_mem_lines {s l : List Char} (h : l ∈ lines s) : Unbroken l :=
  unbroken_of_mem_linesFrom unbroken_nil h

/-! ## Substitutions -/

/-- A substitution that leaves line boundaries alone, and puts something without boundaries in place
of every other character. -/
structure SparesBoundaries (f : Char → List Char) : Prop where
  /-- Boundaries stay. -/
  boundary : ∀ {c}, isLineBoundary c = true → f c = [c]
  /-- Nothing is dropped. -/
  ne_nil : ∀ {c}, isLineBoundary c = false → f c ≠ []
  /-- No boundary is added. -/
  unbroken : ∀ {c}, isLineBoundary c = false → Unbroken (f c)

section

variable {f : Char → List Char} (hf : SparesBoundaries f)
include hf

theorem SparesBoundaries.flatMap_unbroken {s : List Char} (h : Unbroken s) :
    Unbroken (s.flatMap f) := by
  intro d hd
  obtain ⟨c, hc, hdc⟩ := List.mem_flatMap.mp hd
  exact hf.unbroken (h c hc) d hdc

theorem SparesBoundaries.image_ne_nil (c : Char) : f c ≠ [] := by
  cases hc : isLineBoundary c with
  | true => simp [hf.boundary hc]
  | false => exact hf.ne_nil hc

/-- What is put in place of a character that is no boundary does not start with one. -/
theorem SparesBoundaries.head_of_flatMap {b : Char} (hb : isLineBoundary b = true)
    {s : List Char} (h : (s.flatMap f).head? = some b) : s.head? = some b := by
  cases s with
  | nil => cases h
  | cons c rest =>
    rw [List.flatMap_cons] at h
    cases hc : isLineBoundary c with
    | true => rwa [hf.boundary hc] at h
    | false =>
      obtain ⟨d, others, himage⟩ := List.exists_cons_of_ne_nil (hf.ne_nil hc)
      obtain rfl : d = b := by simpa [himage] using h
      have hfree := hf.unbroken hc d (by simp [himage])
      rw [hb] at hfree
      cases hfree

/-- The line read so far is substituted as well. -/
theorem SparesBoundaries.linesFrom_flatMap (line s : List Char) :
    linesFrom (line.reverse.flatMap f).reverse (s.flatMap f) =
      (linesFrom line s).map (List.flatMap f) := by
  fun_induction linesFrom line s with
  | case1 line hempty =>
    obtain rfl : line = [] := List.isEmpty_iff.mp hempty
    rfl
  | case2 line hfull =>
    have hne : line.reverse.flatMap f ≠ [] := by
      rw [Ne, List.flatMap_eq_nil_iff]
      intro hnone
      obtain ⟨c, hc⟩ := List.exists_mem_of_ne_nil line (by simpa using hfull)
      exact hf.image_ne_nil c (hnone c (List.mem_reverse.mpr hc))
    rw [List.flatMap_nil, linesFrom, List.reverse_reverse, if_neg (by simpa using hne)]
    rfl
  -- Both halves of a boundary stay, and end the line together.
  | case3 line rest ih =>
    rw [List.flatMap_cons, List.flatMap_cons, hf.boundary (by decide), hf.boundary (by decide)]
    show linesFrom _ ('\r' :: '\n' :: rest.flatMap f) = _
    rw [linesFrom, List.reverse_reverse, List.map_cons]
    exact congrArg _ ih
  | case4 line d rest hpair hd ih =>
    rw [List.flatMap_cons, hf.boundary hd]
    show linesFrom _ (d :: rest.flatMap f) = _
    rw [linesFrom_boundary hd, List.reverse_reverse, List.map_cons]
    · exact congrArg _ ih
    -- No line feed comes up behind a carriage return.
    · rintro rfl hfeed
      have hhead := hf.head_of_flatMap (by decide) hfeed
      obtain ⟨others, rfl⟩ : ∃ others, rest = '\n' :: others := by
        cases rest with
        | nil => cases hhead
        | cons c others => exact ⟨others, by rw [Option.some.inj hhead]⟩
      exact hpair others rfl rfl
  | case5 line d rest hpair hd ih =>
    have hfree : Unbroken (f d) := hf.unbroken (eq_false_of_ne_true hd)
    rw [List.flatMap_cons, linesFrom_append hfree, ← ih]
    simp

/-- A substitution that spares boundaries works line by line. -/
theorem lines_flatMap (s : List Char) :
    lines (s.flatMap f) = (lines s).map (List.flatMap f) :=
  hf.linesFrom_flatMap [] s

end

/-! ## Joined lines -/

/-- Lines that are joined by line feeds, and another one behind them, are read back. -/
theorem lines_intercalate {ls : List (List Char)} (hne : ls ≠ []) (h : ∀ l ∈ ls, Unbroken l)
    (rest : List Char) :
    lines (['\n'].intercalate ls ++ '\n' :: rest) = ls ++ lines rest := by
  induction ls with
  | nil => contradiction
  | cons first others ih =>
    obtain ⟨hfirst, hothers⟩ := List.forall_mem_cons.mp h
    cases others with
    | nil => simpa using lines_append_lineFeed hfirst rest
    | cons second others =>
      rw [List.intercalate_cons_cons, List.append_assoc, List.append_assoc,
        List.singleton_append, lines_append_lineFeed hfirst, ih (by simp) hothers]
      rfl

theorem forall_mem_intercalate {p : Char → Prop} {separator : List Char}
    (hseparator : ∀ c ∈ separator, p c) {ls : List (List Char)} (h : ∀ l ∈ ls, ∀ c ∈ l, p c) :
    ∀ c ∈ separator.intercalate ls, p c := by
  induction ls with
  | nil => exact nofun
  | cons first others ih =>
    obtain ⟨hfirst, hothers⟩ := List.forall_mem_cons.mp h
    cases others with
    | nil => simpa using hfirst
    | cons second others =>
      rw [List.intercalate_cons_cons, List.forall_mem_append, List.forall_mem_append]
      exact ⟨⟨hfirst, hseparator⟩, ih hothers⟩

theorem unbroken_intercalate {separator : List Char} (hseparator : Unbroken separator)
    {ls : List (List Char)} (h : ∀ l ∈ ls, Unbroken l) : Unbroken (separator.intercalate ls) :=
  forall_mem_intercalate hseparator h

/-- A substitution that leaves the separator alone works on each of the joined pieces. -/
theorem flatMap_intercalate {f : Char → List Char} {separator : List Char}
    (h : separator.flatMap f = separator) (ls : List (List Char)) :
    (separator.intercalate ls).flatMap f = separator.intercalate (ls.map (List.flatMap f)) := by
  induction ls with
  | nil => rfl
  | cons first others ih =>
    cases others with
    | nil => simp
    | cons second others =>
      rw [List.intercalate_cons_cons, List.flatMap_append, List.flatMap_append, h, ih]
      exact List.intercalate_cons_cons.symm

end Chars

namespace Text

@[simp] theorem toList_join (separator : String) (parts : List String) :
    (join separator parts).toList = separator.toList.intercalate (parts.map String.toList) :=
  String.toList_intercalate

/-- Joined lines are read back, and an empty line behind them as well. -/
theorem lines_join {ls : List String} (hne : ls ≠ []) (h : ∀ l ∈ ls, Chars.Unbroken l.toList) :
    lines (join "\n" ls ++ "\n\n") = ls ++ [""] := by
  have hlines : ∀ l ∈ ls.map String.toList, Chars.Unbroken l := List.forall_mem_map.mpr h
  rw [lines, String.toList_append, toList_join]
  show (Chars.lines (['\n'].intercalate _ ++ '\n' :: ['\n'])).map String.ofList = _
  rw [Chars.lines_intercalate (by simpa using hne) hlines]
  simp [Chars.lines, Chars.linesFrom_lineFeed, Chars.linesFrom]

end Text

end Transcript
