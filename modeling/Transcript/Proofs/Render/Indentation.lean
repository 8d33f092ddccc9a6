import Transcript.Proofs.Render.Fence
import Transcript.Proofs.Text.Visible

/-!
# Indentation of code

Normalised code has the lines of the raw code, less the indentation that they share. Blank lines
have no say in how much that is, and lose it as far as it goes. The other lines lose exactly so much
of their own indentation: they show what they showed, they keep their distances, and one of them
ends up at the margin.

## Main definitions

- `sharedIndent`: what is taken off each line
- `codeLines`: the lines of raw code, between one line feed at each end
- `MovedToMargin`: what lines keep without their shared indentation
- `LoseOneText`, `AgreeOnIndentation`: when it is the same text that all of them lose

## Main results

- `indentOf_drop`, `visible_drop`: a line without part of its indentation
- `splitAt_normalizeChars`: the lines of normalised code
- `normalizeCode_keeps_lines`: what normalised code keeps
- `normalizeCode_loses_one_text_iff`: what the lines of normalised code have lost
-/

namespace Transcript.Render

open Chars (visible)

variable {line : List Char} {lines : List (List Char)} {n : Nat}

/-! ## Indented lines -/

theorem isBlank_of_isIndent {c : Char} (h : isIndent c = true) : Chars.isBlank c = true := by
  simp only [isIndent, Bool.or_eq_true, decide_eq_true_eq] at h
  rcases h with rfl | rfl
  · decide
  · decide

/-- What is taken off an indented line belongs to its indentation. -/
theorem isIndent_of_mem_take (h : n ≤ indentOf line) : ∀ c ∈ line.take n, isIndent c = true := by
  intro c hc
  have hindent : line.take n = (line.takeWhile isIndent).take n := by
    conv_lhs => rw [← List.takeWhile_append_dropWhile (p := isIndent) (l := line)]
    exact List.take_append_of_le_length h
  rw [hindent] at hc
  exact List.mem_takeWhile_imp (List.mem_of_mem_take hc)

/-- A line loses as much of its indentation as is taken off. -/
theorem indentOf_drop (h : n ≤ indentOf line) : indentOf (line.drop n) = indentOf line - n := by
  have hlength : n ≤ line.length := h.trans (List.takeWhile_prefix isIndent).length_le
  have hsplit : indentOf line = n + indentOf (line.drop n) := by
    conv_lhs => rw [indentOf, ← List.take_append_drop n line]
    rw [List.takeWhile_append_of_pos (isIndent_of_mem_take h), List.length_append,
      List.length_take_of_le hlength, indentOf]
  omega

/-- Indentation does not show. -/
theorem visible_drop (h : n ≤ indentOf line) : visible (line.drop n) = visible line := by
  have htaken : visible (line.take n) = [] :=
    Chars.visible_of_blank fun c hc => isBlank_of_isIndent (isIndent_of_mem_take h c hc)
  conv_rhs => rw [← List.take_append_drop n line]
  rw [Chars.visible_append, htaken, List.nil_append]

/-! ## Shared indentation -/

/-- The indentation that is taken off each line: none if all lines are blank. -/
def sharedIndent (lines : List (List Char)) : Nat :=
  (sharedIndent? lines).getD 0

theorem sharedIndent?_eq_some_iff :
    sharedIndent? lines = some n ↔
      (∃ line ∈ lines, line.all Chars.isBlank = false ∧ indentOf line = n) ∧
        ∀ line ∈ lines, line.all Chars.isBlank = false → n ≤ indentOf line := by
  rw [sharedIndent?, List.min?_eq_some_iff, List.forall_mem_map]
  simp only [List.mem_map, List.mem_filter, Bool.not_eq_true', and_assoc, and_imp]

theorem sharedIndent?_eq_none_iff :
    sharedIndent? lines = none ↔ ∀ line ∈ lines, line.all Chars.isBlank = true := by
  simp [sharedIndent?]

/-- A line that is not blank has all of the shared indentation. -/
theorem sharedIndent_le (hline : line ∈ lines) (hvisible : line.all Chars.isBlank = false) :
    sharedIndent lines ≤ indentOf line := by
  unfold sharedIndent
  cases hshared : sharedIndent? lines with
  | none => exact Nat.zero_le _
  | some n => exact (sharedIndent?_eq_some_iff.mp hshared).2 line hline hvisible

/-- Some line has no more than the shared indentation. -/
theorem exists_indentOf_eq (h : ∃ line ∈ lines, line.all Chars.isBlank = false) :
    ∃ line ∈ lines, line.all Chars.isBlank = false ∧ indentOf line = sharedIndent lines := by
  unfold sharedIndent
  cases hshared : sharedIndent? lines with
  | none =>
    obtain ⟨line, hline, hvisible⟩ := h
    rw [sharedIndent?_eq_none_iff.mp hshared line hline] at hvisible
    cases hvisible
  | some n => exact (sharedIndent?_eq_some_iff.mp hshared).1

/-- Without the shared indentation every line shows what it showed. -/
theorem visible_drop_sharedIndent (hline : line ∈ lines) :
    visible (line.drop (sharedIndent lines)) = visible line := by
  cases hblank : line.all Chars.isBlank with
  | false => exact visible_drop (sharedIndent_le hline hblank)
  -- A blank line may lose more than its indentation, but nothing shows of it anyway.
  | true =>
    have hall : ∀ c ∈ line, Chars.isBlank c = true := List.all_eq_true.mp hblank
    rw [Chars.visible_of_blank hall,
      Chars.visible_of_blank fun c hc => hall c (List.mem_of_mem_drop hc)]

theorem all_isBlank_drop_sharedIndent (hline : line ∈ lines) :
    (line.drop (sharedIndent lines)).all Chars.isBlank = line.all Chars.isBlank := by
  rw [Bool.eq_iff_iff, ← Chars.visible_eq_nil_iff, ← Chars.visible_eq_nil_iff,
    visible_drop_sharedIndent hline]

/-! ## Lines of code -/

theorem visible_dropLeadingNewline (s : List Char) : visible (dropLeadingNewline s) = visible s := by
  unfold dropLeadingNewline
  split
  · rename_i rest
    exact (Chars.visible_append ['\n'] rest).symm
  · rfl

theorem visible_dropOuterNewlines (s : List Char) : visible (dropOuterNewlines s) = visible s := by
  rw [dropOuterNewlines, Chars.visible_reverse, visible_dropLeadingNewline, Chars.visible_reverse,
    List.reverse_reverse, visible_dropLeadingNewline]

/-- The lines of raw code, between one line feed at each end. -/
def codeLines (raw : List Char) : List (List Char) :=
  Chars.splitAt '\n' (dropOuterNewlines (Chars.normalizeNewlines raw))

theorem normalizeChars_eq (raw : List Char) :
    normalizeChars raw = ['\n'].intercalate
      ((codeLines raw).map (List.drop (sharedIndent (codeLines raw)))) :=
  joinLines_eq _

/-- The lines of normalised code are those of the raw code, less what they share. -/
theorem splitAt_normalizeChars (raw : List Char) :
    Chars.splitAt '\n' (normalizeChars raw) =
      (codeLines raw).map (List.drop (sharedIndent (codeLines raw))) := by
  have hfree : ∀ line ∈ (codeLines raw).map (List.drop (sharedIndent (codeLines raw))),
      '\n' ∉ line := by
    intro line hline hfeed
    obtain ⟨whole, hwhole, rfl⟩ := List.mem_map.mp hline
    exact Chars.notMem_of_mem_splitAt hwhole (List.mem_of_mem_drop hfeed)
  have hne : codeLines raw ≠ [] := by
    rw [codeLines, Chars.splitAt_eq_splitOn]
    exact List.splitOn_ne_nil '\n' _
  rw [normalizeChars_eq, Chars.splitAt_eq_splitOn]
  exact List.splitOn_intercalate '\n' hfree (by simpa using hne)

/-- Normalised code shows what the raw code shows. -/
theorem visible_normalizeChars (raw : List Char) : visible (normalizeChars raw) = visible raw := by
  have hfeed : visible ['\n'] = [] := by decide
  calc
    visible (normalizeChars raw)
    _ = (codeLines raw).flatMap fun line =>
          visible (line.drop (sharedIndent (codeLines raw))) := by
      rw [normalizeChars_eq, Chars.visible_intercalate hfeed, List.flatMap_map]
    _ = (codeLines raw).flatMap visible :=
      List.flatMap_congr fun line hline => visible_drop_sharedIndent hline
    _ = visible (dropOuterNewlines (Chars.normalizeNewlines raw)) :=
      Chars.visible_splitAt (by decide) _
    _ = visible raw := by
      rw [visible_dropOuterNewlines, Chars.visible_normalizeNewlines]

theorem visible_normalizeCode (raw : String) :
    visible (normalizeCode raw).toList = visible raw.toList := by
  rw [normalizeCode, Text.toList_onChars, visible_normalizeChars]

/-- Lines, one for each line before, that have been moved to the margin together. -/
structure MovedToMargin (before after : List (List Char)) : Prop where
  /-- No line is added or dropped. -/
  length_eq : after.length = before.length
  /-- The same lines are blank. -/
  blank_eq : ∀ p ∈ before.zip after, p.2.all Chars.isBlank = p.1.all Chars.isBlank
  /-- Lines that are not blank keep their distances. -/
  distance_eq : ∀ p ∈ before.zip after, ∀ q ∈ before.zip after,
    p.1.all Chars.isBlank = false → q.1.all Chars.isBlank = false →
      (indentOf p.2 : Int) - indentOf q.2 = indentOf p.1 - indentOf q.1
  /-- One of them begins at the margin, if there are any. -/
  margin : (∃ line ∈ before, line.all Chars.isBlank = false) →
    ∃ line ∈ after, line.all Chars.isBlank = false ∧ indentOf line = 0

/-- Lines without their shared indentation have moved to the margin together. -/
theorem movedToMargin_drop_sharedIndent (lines : List (List Char)) :
    MovedToMargin lines (lines.map (List.drop (sharedIndent lines))) := by
  have hpair : ∀ p ∈ lines.zip (lines.map (List.drop (sharedIndent lines))),
      p.1 ∈ lines ∧ p.2 = p.1.drop (sharedIndent lines) := by
    rw [← List.map_prod_left_eq_zip]
    intro p hp
    obtain ⟨line, hline, rfl⟩ := List.mem_map.mp hp
    exact ⟨hline, rfl⟩
  constructor
  · exact List.length_map _
  · intro p hp
    obtain ⟨hline, hdrop⟩ := hpair p hp
    rw [hdrop, all_isBlank_drop_sharedIndent hline]
  · intro p hp q hq hpvisible hqvisible
    obtain ⟨hpline, hpdrop⟩ := hpair p hp
    obtain ⟨hqline, hqdrop⟩ := hpair q hq
    have hple := sharedIndent_le hpline hpvisible
    have hqle := sharedIndent_le hqline hqvisible
    rw [hpdrop, hqdrop, indentOf_drop hple, indentOf_drop hqle]
    omega
  · intro hsome
    obtain ⟨line, hline, hvisible, hmargin⟩ := exists_indentOf_eq hsome
    refine ⟨line.drop (sharedIndent lines), List.mem_map_of_mem hline, ?_, ?_⟩
    · rw [all_isBlank_drop_sharedIndent hline, hvisible]
    · rw [indentOf_drop hmargin.ge, hmargin, Nat.sub_self]

/-- The lines of normalised code are those of the raw code between one line feed at each end, moved
to the margin together, and it shows the same characters in the same order. -/
theorem normalizeCode_keeps_lines (raw : String) :
    MovedToMargin (codeLines raw.toList) (Chars.splitAt '\n' (normalizeCode raw).toList) ∧
      visible (normalizeCode raw).toList = visible raw.toList := by
  constructor
  · rw [normalizeCode, Text.toList_onChars, splitAt_normalizeChars]
    exact movedToMargin_drop_sharedIndent (codeLines raw.toList)
  · exact visible_normalizeCode raw

/-- The first line feed and the last one are dropped, and the indentation shared by the two visible
lines is taken off. -/
example : normalizeCode "\r\n  x\r\n\r\n  y\r\n" = "x\n\ny" := by decide

/-! ## What is taken off

How much to take off is a number of characters. If some lines are indented by tabs and others by
spaces, the same number of characters is not the same text.
-/

/-- The characters that a line is indented by. -/
def indentChars (line : List Char) : List Char :=
  line.takeWhile isIndent

/-- The lines that are not blank have lost the same indentation, character for character. -/
def LoseOneText (before after : List (List Char)) : Prop :=
  ∃ text : List Char, (∀ c ∈ text, isIndent c = true) ∧
    ∀ p ∈ before.zip after, p.2.all Chars.isBlank = false → p.1 = text ++ p.2

/-- If lines are not all blank, all that one of them is indented by stands at the beginning of every
other one. -/
def AgreeOnIndentation (lines : List (List Char)) : Prop :=
  (∃ line ∈ lines, line.all Chars.isBlank = false) →
    ∃ line ∈ lines, line.all Chars.isBlank = false ∧
      ∀ other ∈ lines, other.all Chars.isBlank = false → indentChars line <+: other

theorem isIndent_of_mem_indentChars {c : Char} (h : c ∈ indentChars line) : isIndent c = true :=
  List.mem_takeWhile_imp h

/-- Indentation at the beginning of a line belongs to what the line is indented by. -/
theorem length_le_indentOf {text : List Char} (hbegins : text <+: line)
    (hindent : ∀ c ∈ text, isIndent c = true) : text.length ≤ indentOf line := by
  obtain ⟨rest, rfl⟩ := hbegins
  rw [indentOf, List.takeWhile_append_of_pos hindent, List.length_append]
  exact Nat.le_add_right ..

/-- What is taken off a line that is not blank. -/
theorem take_sharedIndent (hline : line ∈ lines) (hvisible : line.all Chars.isBlank = false) :
    (∀ c ∈ line.take (sharedIndent lines), isIndent c = true) ∧
      (line.take (sharedIndent lines)).length = sharedIndent lines := by
  have hle := sharedIndent_le hline hvisible
  constructor
  · exact isIndent_of_mem_take hle
  · exact List.length_take_of_le (hle.trans (List.takeWhile_prefix isIndent).length_le)

/-- Lines lose the same text if they begin with the same characters, as far as these are taken
off. -/
theorem loseOneText_iff_take_eq (lines : List (List Char)) :
    LoseOneText lines (lines.map (List.drop (sharedIndent lines))) ↔
      ∃ text : List Char, (∀ c ∈ text, isIndent c = true) ∧
        ∀ line ∈ lines, line.all Chars.isBlank = false →
          line.take (sharedIndent lines) = text := by
  have hsame : ∀ text line : List Char, line = text ++ line.drop (sharedIndent lines) ↔
      line.take (sharedIndent lines) = text := by
    intro text line
    conv_lhs => lhs; rw [← List.take_append_drop (sharedIndent lines) line]
    exact List.append_left_inj _
  simp only [LoseOneText, ← List.map_prod_left_eq_zip, List.forall_mem_map, hsame]
  refine exists_congr fun text => and_congr_right fun _ => forall₂_congr fun line hline => ?_
  rw [all_isBlank_drop_sharedIndent hline]

/-- Lines lose the same text exactly if they agree on their indentation. -/
theorem loseOneText_iff_agreeOnIndentation (lines : List (List Char)) :
    LoseOneText lines (lines.map (List.drop (sharedIndent lines))) ↔
      AgreeOnIndentation lines := by
  rw [loseOneText_iff_take_eq]
  constructor
  · rintro ⟨text, -, htake⟩ hsome
    -- The line with the least indentation loses all of it.
    obtain ⟨line, hline, hvisible, hleast⟩ := exists_indentOf_eq hsome
    refine ⟨line, hline, hvisible, ?_⟩
    intro other hother hothervisible
    have hwhole : indentChars line = line.take (sharedIndent lines) := by
      rw [← hleast]
      exact (List.prefix_iff_eq_take.mp (List.takeWhile_prefix isIndent))
    rw [hwhole, htake line hline hvisible, ← htake other hother hothervisible]
    exact List.take_prefix ..
  · intro hagree
    by_cases hsome : ∃ line ∈ lines, line.all Chars.isBlank = false
    · obtain ⟨line, hline, hvisible, hbegins⟩ := hagree hsome
      obtain ⟨least, hmember, hleastvisible, hleast⟩ := exists_indentOf_eq hsome
      -- No line is indented less than the one that the others begin with.
      have hlength : sharedIndent lines = (indentChars line).length := by
        apply le_antisymm (sharedIndent_le hline hvisible)
        rw [← hleast]
        exact length_le_indentOf (hbegins least hmember hleastvisible)
          fun c hc => isIndent_of_mem_indentChars hc
      refine ⟨indentChars line, fun c hc => isIndent_of_mem_indentChars hc, ?_⟩
      intro other hother hothervisible
      rw [hlength]
      exact (List.prefix_iff_eq_take.mp (hbegins other hother hothervisible)).symm
    · refine ⟨[], nofun, ?_⟩
      intro line hline hvisible
      exact absurd ⟨line, hline, hvisible⟩ hsome

/-- Lines that are indented by a single kind of character agree on their indentation. -/
theorem agreeOnIndentation_of_uniform {c : Char}
    (h : ∀ line ∈ lines, line.all Chars.isBlank = false → ∀ d ∈ indentChars line, d = c) :
    AgreeOnIndentation lines := by
  have hreplicate : ∀ line ∈ lines, line.all Chars.isBlank = false →
      indentChars line = List.replicate (indentOf line) c := by
    intro line hline hvisible
    exact List.eq_replicate_iff.mpr ⟨rfl, h line hline hvisible⟩
  intro hsome
  obtain ⟨line, hline, hvisible, hleast⟩ := exists_indentOf_eq hsome
  refine ⟨line, hline, hvisible, ?_⟩
  intro other hother hothervisible
  apply List.IsPrefix.trans _ (List.takeWhile_prefix isIndent)
  rw [hreplicate line hline hvisible, ← indentChars, hreplicate other hother hothervisible, hleast]
  apply List.prefix_replicate_iff.mpr
  simp [sharedIndent_le hother hothervisible]

/-- Every line of normalised code that is not blank has lost indentation, the same number of
characters each. It is the same text exactly if all that one of the lines is indented by stands at
the beginning of every other one, as it does if all of them are indented by spaces only or by tabs
only. -/
theorem normalizeCode_loses_one_text_iff (raw : String) :
    (∀ p ∈ (codeLines raw.toList).zip (Chars.splitAt '\n' (normalizeCode raw).toList),
      p.2.all Chars.isBlank = false →
        ∃ text : List Char, (∀ c ∈ text, isIndent c = true) ∧
          text.length = sharedIndent (codeLines raw.toList) ∧ p.1 = text ++ p.2) ∧
    (LoseOneText (codeLines raw.toList) (Chars.splitAt '\n' (normalizeCode raw).toList) ↔
      AgreeOnIndentation (codeLines raw.toList)) ∧
    ∀ c, (∀ line ∈ codeLines raw.toList, line.all Chars.isBlank = false →
        ∀ d ∈ indentChars line, d = c) →
      LoseOneText (codeLines raw.toList) (Chars.splitAt '\n' (normalizeCode raw).toList) := by
  rw [normalizeCode, Text.toList_onChars, splitAt_normalizeChars]
  refine ⟨?_, loseOneText_iff_agreeOnIndentation _, ?_⟩
  · rw [← List.map_prod_left_eq_zip]
    intro p hp hvisible
    obtain ⟨line, hline, rfl⟩ := List.mem_map.mp hp
    have hwhole := (all_isBlank_drop_sharedIndent hline).symm.trans hvisible
    obtain ⟨hindent, hlength⟩ := take_sharedIndent hline hwhole
    exact ⟨_, hindent, hlength, (List.take_append_drop ..).symm⟩
  · intro c huniform
    rw [loseOneText_iff_agreeOnIndentation]
    exact agreeOnIndentation_of_uniform huniform

/-- A tab and a space are one character each. -/
example : normalizeCode "\ta\n b" = "a\nb" := by decide

end Transcript.Render
