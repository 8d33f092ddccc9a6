import Transcript.Platform.Builtin
import Transcript.Proofs.Text.Splitting
import Transcript.Proofs.Text.Trimming

/-!
# What cleaning leaves

A cleaned document has plain spaces only, nothing that takes no room and nothing blank around it.
Its line ends are joined in one pass, though, and a pass does not look again at what it writes: of
two carriage returns in front of a line feed, the second one is joined with the line feed, and the
first one then stands in front of what was written. Cleaning again would take the first one too. So
a cleaned document is settled, and free of carriage returns in front of line feeds, just if the text
between the blanks around it did not have two of them in a row there.

## Main definitions

- `Chars.IsTidy`: plain spaces only, nothing without room, and nothing blank at either end
- `Chars.plainSpaces`: a text with its spaces made plain and what takes no room left out
- `Chars.StacksReturns`: two carriage returns in front of a line feed, the spaces being plain

## Main results

- `Chars.trim_joinCrLf`: line ends may be joined before or after the blanks around are cut off
- `Chars.normalizeSpacing_of_isTidy`: in a tidy text, cleaning only joins line ends
- `Adapter.cleanText_gemini_settled_iff`: what cleaning leaves, and when cleaning again leaves it
-/

namespace Transcript

open Adapter (isSpaceVariant isZeroWidth normalizeSpacing)

namespace Chars

variable {c : Char} {s t : List Char}

/-! ## Blanks around joined line ends -/

/-- Something visible is not joined, and parts what stands before it from what stands behind. -/
theorem joinCrLf_append_cons (s t : List Char) (h : isBlank c = false) :
    joinCrLf (s ++ c :: t) = joinCrLf s ++ c :: joinCrLf t := by
  have hreturn : c ≠ '\r' := by
    rintro rfl
    exact absurd h (by decide)
  have hfeed : c ≠ '\n' := by
    rintro rfl
    exact absurd h (by decide)
  fun_induction joinCrLf s with
  | case1 =>
    rw [List.nil_append, joinCrLf]
    · rfl
    · exact fun _ heq => absurd heq hreturn
  | case2 rest ih => rw [List.cons_append, List.cons_append, joinCrLf, ih]; rfl
  | case3 d rest hpair ih =>
    rw [List.cons_append, joinCrLf, ih]
    · rfl
    -- A pair across the seam would have to end in the visible character.
    rintro more rfl hmore
    cases rest with
    | nil => exact hfeed (List.cons.inj hmore).1
    | cons e others =>
      obtain ⟨rfl, -⟩ := List.cons.inj hmore
      exact hpair others rfl rfl

theorem trimStart_joinCrLf (s : List Char) : trimStart (joinCrLf s) = joinCrLf (trimStart s) := by
  fun_induction joinCrLf s with
  | case1 => rfl
  | case2 rest ih =>
    have hreturn : isBlank '\r' = true := by decide
    have hfeed : isBlank '\n' = true := by decide
    simpa [trimStart, hreturn, hfeed] using ih
  | case3 c rest hpair ih =>
    cases hc : isBlank c with
    | true => simpa [trimStart, hc] using ih
    | false =>
      rw [trimStart, trimStart, List.dropWhile_cons_of_neg (by simp [hc]),
        List.dropWhile_cons_of_neg (by simp [hc]), joinCrLf]
      exact hpair

theorem trimEnd_joinCrLf (s : List Char) : trimEnd (joinCrLf s) = joinCrLf (trimEnd s) := by
  have hsplit : trimEnd s ++ s.rtakeWhile isBlank = s := List.rdropWhile_append_rtakeWhile
  have hcut : ∀ c ∈ s.rtakeWhile isBlank, isBlank c = true := fun c => List.mem_rtakeWhile_imp
  by_cases hkept : trimEnd s = []
  · -- Everything is blank, and joining adds nothing.
    have hall : ∀ c ∈ s, isBlank c = true := List.rdropWhile_eq_nil_iff.mp hkept
    rw [hkept]
    exact List.rdropWhile_eq_nil_iff.mpr fun c hc => hall c (mem_of_mem_joinCrLf hc)
  · -- The last visible character keeps the blanks behind it apart.
    obtain ⟨before, c, hbefore, hc⟩ := endsVisibly_trimEnd hkept
    have hend : EndsVisibly (joinCrLf before ++ [c]) := ⟨_, c, rfl, hc⟩
    have hjoined : joinCrLf (trimEnd s) = joinCrLf before ++ [c] := by
      rw [hbefore, joinCrLf_append_cons _ _ hc]
      rfl
    calc
      trimEnd (joinCrLf s) = trimEnd (joinCrLf (before ++ c :: s.rtakeWhile isBlank)) := by
        rw [List.append_cons, ← hbefore, hsplit]
      _ = trimEnd (joinCrLf before ++ [c] ++ joinCrLf (s.rtakeWhile isBlank)) := by
        rw [joinCrLf_append_cons _ _ hc, List.append_cons]
      _ = joinCrLf before ++ [c] := by
        rw [trimEnd_append_of_blank _ fun d hd => hcut d (mem_of_mem_joinCrLf hd), hend.trimEnd_eq]
      _ = joinCrLf (trimEnd s) := hjoined.symm

/-- Line ends may be joined before or after the blanks around are cut off. -/
theorem trim_joinCrLf (s : List Char) : trim (joinCrLf s) = joinCrLf (trim s) := by
  rw [trim, trimStart_joinCrLf, trimEnd_joinCrLf, trim]

/-! ## Tidy texts -/

/-- A text with plain spaces only, none of its characters without room, and nothing blank at either
end. -/
structure IsTidy (s : List Char) : Prop where
  /-- Spaces are plain. -/
  spaces : ∀ c ∈ s, isSpaceVariant c = false
  /-- Everything takes room. -/
  room : ∀ c ∈ s, isZeroWidth c = false
  /-- The text begins visibly. -/
  start : ∀ c ∈ s.head?, isBlank c = false
  /-- The text ends visibly. -/
  finish : ∀ c ∈ s.getLast?, isBlank c = false

/-- A text with its spaces made plain and what takes no room left out. -/
def plainSpaces (s : List Char) : List Char :=
  (s.map fun c => if isSpaceVariant c then ' ' else c).filter fun c => !isZeroWidth c

/-- In a text, its spaces made plain and the blanks around it cut off, two carriage returns stand in
front of a line feed. -/
def StacksReturns (s : List Char) : Prop :=
  ['\r', '\r', '\n'] <:+: trim (plainSpaces s)

theorem normalizeSpacing_eq (s : List Char) :
    normalizeSpacing s = joinCrLf (trim (plainSpaces s)) :=
  trim_joinCrLf (plainSpaces s)

theorem not_isSpaceVariant_of_mem_plainSpaces (h : c ∈ plainSpaces s) :
    isSpaceVariant c = false := by
  obtain ⟨d, -, hd⟩ := List.mem_map.mp (List.mem_filter.mp h).1
  split at hd
  · rw [← hd]
    decide
  · rename_i hplain
    rw [← hd]
    exact eq_false_of_ne_true hplain

theorem not_isZeroWidth_of_mem_plainSpaces (h : c ∈ plainSpaces s) : isZeroWidth c = false := by
  simpa using (List.mem_filter.mp h).2

theorem IsTidy.plainSpaces_eq (h : IsTidy s) : plainSpaces s = s := by
  have hkept : ∀ c ∈ s, (if isSpaceVariant c then ' ' else c) = c := by
    intro c hc
    rw [h.spaces c hc]
    rfl
  rw [plainSpaces, List.map_congr_left hkept, List.map_id', List.filter_eq_self]
  intro c hc
  rw [h.room c hc]
  rfl

theorem IsTidy.trim_eq (h : IsTidy s) : trim s = s := by
  have hstart : trimStart s = s := by
    cases s with
    | nil => rfl
    | cons c rest => exact List.dropWhile_cons_of_neg (by simp [h.start c rfl])
  rw [trim, hstart, trimEnd_eq_rdropWhile, List.rdropWhile_eq_self_iff]
  intro hsome
  simp [h.finish _ (List.getLast?_eq_getLast_of_ne_nil hsome)]

/-- In a tidy text, cleaning only joins line ends. -/
theorem normalizeSpacing_of_isTidy (h : IsTidy s) : normalizeSpacing s = joinCrLf s := by
  rw [normalizeSpacing_eq, h.plainSpaces_eq, h.trim_eq]

/-- What is left between the blanks around a text has nothing blank at either end. -/
theorem isTidy_trim (hspaces : ∀ c ∈ s, isSpaceVariant c = false)
    (hroom : ∀ c ∈ s, isZeroWidth c = false) : IsTidy (trim s) := by
  have hpart : trim s <:+: s := trim_infix s
  exact ⟨fun c hc => hspaces c (hpart.subset hc), fun c hc => hroom c (hpart.subset hc),
    fun c => not_isBlank_of_mem_head?_trim, fun c => not_isBlank_of_mem_getLast?_trim⟩

theorem isTidy_normalizeSpacing (s : List Char) : IsTidy (normalizeSpacing s) := by
  refine isTidy_trim (fun c hc => ?_) fun c hc => ?_
  · exact not_isSpaceVariant_of_mem_plainSpaces (mem_of_mem_joinCrLf hc)
  · exact not_isZeroWidth_of_mem_plainSpaces (mem_of_mem_joinCrLf hc)

end Chars

open Chars

/-- A cleaned document is tidy. It is left as it is by cleaning again, and has no carriage return in
front of a line feed, just if the text had no two of them in front of one. -/
theorem Adapter.cleanText_gemini_settled_iff (text : String) :
    ∃ clean, gemini.cleanText text = .ok clean ∧ IsTidy clean.toList ∧
      (['\r', '\n'] <:+: clean.toList ↔ StacksReturns text.toList) ∧
      (gemini.cleanText clean = .ok clean ↔ ¬ StacksReturns text.toList) := by
  have hclean : ∀ s, gemini.cleanText s = .ok (Text.onChars normalizeSpacing s) := fun _ => rfl
  have htidy := isTidy_normalizeSpacing text.toList
  have hleft : ['\r', '\n'] <:+: normalizeSpacing text.toList ↔ StacksReturns text.toList := by
    rw [normalizeSpacing_eq, crLf_infix_joinCrLf_iff, StacksReturns]
  refine ⟨_, hclean text, ?_, ?_, ?_⟩
  · rwa [Text.toList_onChars]
  · rwa [Text.toList_onChars]
  · rw [hclean, Except.ok.injEq, ← String.toList_inj, Text.toList_onChars, Text.toList_onChars,
      normalizeSpacing_of_isTidy htidy, joinCrLf_eq_self_iff, hleft]

-- The second carriage return is joined with the line feed, the first one is left in front of it.
example : Adapter.gemini.cleanText "a\r\r\nb" = .ok "a\r\nb" := by rfl

end Transcript
