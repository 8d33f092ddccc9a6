import Transcript.Proofs.Render.LinkTarget
import Transcript.Proofs.Text.Balance
import Transcript.Proofs.Text.Tally

/-!
# Reading link targets back

A reader finds the target of a link behind its text: it goes on up to the parenthesis that closes
what the link opened, and counts the parentheses in between that are not escaped. The target may
have neither spaces nor control characters. Targets are written as they are, so a target is read
back if and only if it can stand there bare.

## Main definitions

- `readTarget?`: the target that a reader finds
- `IsBareTarget`: what can stand as a target without any change
- `resolve`: a target with its escapes resolved

## Main results

- `readTarget?_append_closing`: the texts that are read up to the end
- `resolve_eq_self_iff`: the texts that stand for themselves
- `link_readTarget`: when the target of a link is read back
-/

namespace Transcript.Render

open Chars

/-! ## A reader of link targets -/

/-- The characters that a target cannot have: the space and the ASCII control characters. -/
def stopsTarget (c : Char) : Bool :=
  c.toNat ≤ 32 || c.toNat == 127

/-- Whether a character escapes the next one: a backslash does, unless it is escaped itself. -/
def escapesNext (escaped : Bool) (c : Char) : Bool :=
  !escaped && c == '\\'

/-- How many parentheses are open behind a character; escaped ones do not count. -/
def levelAfter (level : Nat) (escaped : Bool) (c : Char) : Nat :=
  if escaped then level
  else if c = '(' then level + 1
  else if c = ')' then level - 1
  else level

/-- Reads a target, with so many parentheses open, up to the one that closes the link: the target,
and what stands behind that parenthesis. -/
def readTargetFrom (level : Nat) (escaped : Bool) : List Char → Option (List Char × List Char)
  | [] => none
  | c :: rest =>
    if stopsTarget c then none
    else if c = ')' ∧ escaped = false ∧ level = 0 then some ([], rest)
    else
      (readTargetFrom (levelAfter level escaped c) (escapesNext escaped c) rest).map
        fun (target, behind) => (c :: target, behind)

/-- Reads what stands behind the opening parenthesis of a link: a target that is not empty, and the
closing parenthesis at the very end. -/
def readTarget? (s : List Char) : Option (List Char) :=
  match readTargetFrom 0 false s with
  | some (c :: target, []) => some (c :: target)
  | _ => none

/-! ## Targets that are read up to the end -/

/-- The characters of a text that are not escaped. -/
def exposedFrom (escaped : Bool) : List Char → List Char
  | [] => []
  | c :: rest =>
    if escaped && isAsciiPunctuation c then exposedFrom (escapesNext escaped c) rest
    else c :: exposedFrom (escapesNext escaped c) rest

/-- How many backslashes a text ends in. -/
def trailingBackslashes (s : List Char) : Nat :=
  (s.reverse.takeWhile (· == '\\')).length

/-- A text that can stand as a target without any change: it has neither spaces nor control
characters, the parentheses in it that are not escaped are balanced, and it does not escape what
stands behind it. -/
structure IsBareTarget (s : List Char) : Prop where
  visible : ∀ c ∈ s, stopsTarget c = false
  balanced : BalancedFrom '(' ')' 0 (exposedFrom false s)
  closed : trailingBackslashes s % 2 = 0

/-- `IsBareTarget` for a reader on its way: so many parentheses are open, and the character in front
may escape the first one of the text. -/
structure ReadableFrom (level : Nat) (escaped : Bool) (s : List Char) : Prop where
  visible : ∀ c ∈ s, stopsTarget c = false
  balanced : BalancedFrom '(' ')' level (exposedFrom escaped s)
  closed : s.foldl escapesNext escaped = false

variable {level : Nat} {escaped : Bool} {c : Char} {s t : List Char}

/-- What is open behind a character decides whether the rest is balanced, unless the character
closes what is not open. -/
theorem balancedFrom_exposedFrom_cons (h : ¬(c = ')' ∧ escaped = false ∧ level = 0)) :
    BalancedFrom '(' ')' level (exposedFrom escaped (c :: s)) ↔
      BalancedFrom '(' ')' (levelAfter level escaped c)
        (exposedFrom (escapesNext escaped c) s) := by
  have hne : '(' ≠ ')' := by decide
  rw [exposedFrom]
  cases escaped with
  | true =>
    cases hpunctuation : isAsciiPunctuation c with
    | true => rfl
    | false =>
      -- What cannot be escaped is no parenthesis.
      have hopening : c ≠ '(' := by rintro rfl; exact absurd hpunctuation (by decide)
      have hclosing : c ≠ ')' := by rintro rfl; exact absurd hpunctuation (by decide)
      exact balancedFrom_other hopening hclosing
  | false =>
    by_cases hopening : c = '('
    · subst hopening
      exact balancedFrom_opening hne
    · by_cases hclosing : c = ')'
      · subst hclosing
        obtain ⟨left, rfl⟩ := Nat.exists_eq_succ_of_ne_zero fun hzero => h ⟨rfl, rfl, hzero⟩
        exact balancedFrom_closing hne
      · simpa [levelAfter, hopening, hclosing] using balancedFrom_other hopening hclosing

theorem readableFrom_nil : ReadableFrom level escaped [] ↔ level = 0 ∧ escaped = false := by
  constructor
  · intro h
    exact ⟨balancedFrom_nil.mp h.balanced, h.closed⟩
  · rintro ⟨hlevel, hescaped⟩
    exact ⟨List.forall_mem_nil _, balancedFrom_nil.mpr hlevel, hescaped⟩

theorem readableFrom_cons (hstops : stopsTarget c = false)
    (h : ¬(c = ')' ∧ escaped = false ∧ level = 0)) :
    ReadableFrom level escaped (c :: s) ↔
      ReadableFrom (levelAfter level escaped c) (escapesNext escaped c) s := by
  have hbalanced := balancedFrom_exposedFrom_cons (s := s) h
  constructor
  · intro hread
    exact ⟨(List.forall_mem_cons.mp hread.visible).2, hbalanced.mp hread.balanced, hread.closed⟩
  · intro hread
    exact ⟨List.forall_mem_cons.mpr ⟨hstops, hread.visible⟩, hbalanced.mpr hread.balanced,
      hread.closed⟩

/-- A reader stops at the parenthesis behind a text, and has read the text, if and only if the text
is readable. -/
theorem readTargetFrom_append_closing :
    readTargetFrom level escaped (s ++ [')']) = some (t, []) ↔
      t = s ∧ ReadableFrom level escaped s := by
  induction s generalizing level escaped t with
  | nil =>
    have hstops : stopsTarget ')' = false := by decide
    rw [List.nil_append, readTargetFrom, if_neg (by simp [hstops]), readableFrom_nil]
    by_cases hend : escaped = false ∧ level = 0
    · simp [hend, eq_comm]
    -- The parenthesis is taken for a part of the target, and nothing is left to close the link.
    · rw [if_neg (by simpa using hend)]
      simp [readTargetFrom, and_comm, hend]
  | cons c rest ih =>
    rw [List.cons_append, readTargetFrom]
    cases hstops : stopsTarget c with
    | true =>
      have hnot : ¬ReadableFrom level escaped (c :: rest) := fun hread => by
        simpa [hstops] using hread.visible c List.mem_cons_self
      simp [hnot]
    | false =>
      rw [if_neg Bool.false_ne_true]
      by_cases hend : c = ')' ∧ escaped = false ∧ level = 0
      -- The reader stops too early.
      · obtain ⟨rfl, rfl, rfl⟩ := hend
        have hnot : ¬ReadableFrom 0 false (')' :: rest) := fun hread =>
          not_balancedFrom_closing (by decide) hread.balanced
        simp [hnot]
      · rw [if_neg hend, readableFrom_cons hstops hend, Option.map_eq_some_iff]
        constructor
        · rintro ⟨⟨target, behind⟩, hread, heq⟩
          obtain ⟨rfl, rfl⟩ := Prod.mk.inj heq
          obtain ⟨rfl, hreadable⟩ := ih.mp hread
          exact ⟨rfl, hreadable⟩
        · rintro ⟨rfl, hreadable⟩
          exact ⟨(rest, []), ih.mpr ⟨rfl, hreadable⟩, rfl⟩

/-- Whether a text escapes what stands behind it is told from the backslashes at its end. -/
theorem foldl_escapesNext_iff (s : List Char) :
    s.foldl escapesNext false = true ↔ trailingBackslashes s % 2 = 1 := by
  induction s using List.reverseRecOn with
  | nil => simp [trailingBackslashes]
  | append_singleton s c ih =>
    rw [List.foldl_append, List.foldl_cons, List.foldl_nil, escapesNext]
    by_cases hc : c = '\\'
    · subst hc
      have hmore : trailingBackslashes (s ++ ['\\']) = trailingBackslashes s + 1 := by
        simp [trailingBackslashes]
      rw [hmore]
      cases hescapes : s.foldl escapesNext false with
      | true =>
        have hodd := ih.mp hescapes
        exact iff_of_false (by simp) (by omega)
      | false =>
        have heven := mt ih.mpr (by simp [hescapes])
        exact iff_of_true (by simp) (by omega)
    · have hnone : trailingBackslashes (s ++ [c]) = 0 := by
        simp [trailingBackslashes, hc]
      simp [hnone, hc]

theorem readableFrom_iff_isBareTarget : ReadableFrom 0 false s ↔ IsBareTarget s := by
  have hclosed : s.foldl escapesNext false = false ↔ trailingBackslashes s % 2 = 0 := by
    rw [← Bool.not_eq_true, foldl_escapesNext_iff]
    omega
  constructor
  · intro h
    exact ⟨h.visible, h.balanced, hclosed.mp h.closed⟩
  · intro h
    exact ⟨h.visible, h.balanced, hclosed.mpr h.closed⟩

/-- A reader finds all of a target or nothing. -/
theorem readTarget?_append_closing (hs : s ≠ []) :
    readTarget? (s ++ [')']) = some t ↔ t = s ∧ IsBareTarget s := by
  rw [← readableFrom_iff_isBareTarget, ← readTargetFrom_append_closing, readTarget?]
  match hread : readTargetFrom 0 false (s ++ [')']) with
  | none => simp
  | some (c :: target, []) => simp
  | some (c :: target, d :: behind) => simp
  | some ([], behind) =>
    have hempty : ¬(([], behind) = (t, ([] : List Char))) := by
      intro heq
      rw [heq] at hread
      obtain ⟨rfl, -⟩ := readTargetFrom_append_closing.mp hread
      exact hs (Prod.mk.inj heq).1.symm
    simpa using hempty

/-! ## Escapes -/

/-- A target with its escapes resolved: ASCII punctuation behind a backslash stands for itself. -/
def resolve : List Char → List Char
  | [] => []
  | [c] => [c]
  | c :: d :: rest =>
    if c == '\\' && isAsciiPunctuation d then d :: resolve rest else c :: resolve (d :: rest)

/-- A text in which something is escaped. -/
def HasEscape (s : List Char) : Prop :=
  ∃ c, isAsciiPunctuation c = true ∧ ['\\', c] <:+: s

theorem length_resolve_le (s : List Char) : (resolve s).length ≤ s.length := by
  fun_induction resolve s with
  | case1 => exact Nat.le_refl _
  | case2 c => exact Nat.le_refl _
  | case3 c d rest hescape ih => simp only [List.length_cons]; omega
  | case4 c d rest hplain ih => simpa using ih

theorem hasEscape_cons_cons {d : Char} :
    HasEscape (c :: d :: s) ↔ (c = '\\' ∧ isAsciiPunctuation d = true) ∨ HasEscape (d :: s) := by
  have hpair : ∀ e, ['\\', e] <:+: c :: d :: s ↔ ('\\' = c ∧ e = d) ∨ ['\\', e] <:+: d :: s := by
    intro e
    rw [List.infix_cons_iff, List.cons_prefix_cons, List.cons_prefix_cons]
    simp
  constructor
  · rintro ⟨e, he, hinfix⟩
    rcases (hpair e).mp hinfix with ⟨rfl, rfl⟩ | hrest
    · exact .inl ⟨rfl, he⟩
    · exact .inr ⟨e, he, hrest⟩
  · rintro (⟨rfl, hd⟩ | ⟨e, he, hrest⟩)
    · exact ⟨d, hd, (hpair d).mpr (.inl ⟨rfl, rfl⟩)⟩
    · exact ⟨e, he, (hpair e).mpr (.inr hrest)⟩

theorem not_hasEscape_of_length (h : s.length < 2) : ¬HasEscape s := by
  rintro ⟨e, -, hinfix⟩
  have hlength := hinfix.length_le
  simp only [List.length_cons, List.length_nil] at hlength
  omega

/-- The texts that stand for themselves are those in which nothing is escaped. -/
theorem resolve_eq_self_iff (s : List Char) : resolve s = s ↔ ¬HasEscape s := by
  fun_induction resolve s with
  | case1 => exact iff_of_true rfl (not_hasEscape_of_length (by simp))
  | case2 c => exact iff_of_true rfl (not_hasEscape_of_length (by simp))
  | case3 c d rest hescape ih =>
    -- Resolving an escape makes the text shorter.
    have hshorter : d :: resolve rest ≠ c :: d :: rest := by
      intro heq
      have hlength := congrArg List.length heq
      have hle := length_resolve_le rest
      simp only [List.length_cons] at hlength
      omega
    have hhas : HasEscape (c :: d :: rest) :=
      hasEscape_cons_cons.mpr (.inl (by simpa using hescape))
    exact iff_of_false hshorter (not_not_intro hhas)
  | case4 c d rest hplain ih =>
    have hhere : ¬(c = '\\' ∧ isAsciiPunctuation d = true) := by simpa using hplain
    rw [hasEscape_cons_cons, or_iff_right hhere, ← ih]
    simp

/-! ## Links -/

/-- A link to a safe target shows its text, or the target in its place, and a reader of what stands
behind finds the target if and only if the target can stand there bare. What the reader finds stands
for the target if moreover nothing is escaped in it. -/
theorem link_readTarget (scene : Scene) (htarget : linkTarget scene ≠ "")
    (hsafe : isSafeHref (linkTarget scene) = true) (content : String)
    (ask : Option Markup.Cursor → String) :
    ∃ behind, (link scene content).outcome ask =
        .ok ("[" ++ orElse (Text.trim content) (linkTarget scene) ++ "](" ++ behind) ∧
      (readTarget? behind.toList = some (linkTarget scene).toList ↔
        IsBareTarget (linkTarget scene).toList) ∧
      ((readTarget? behind.toList).map resolve = some (linkTarget scene).toList ↔
        IsBareTarget (linkTarget scene).toList ∧ ¬HasEscape (linkTarget scene).toList) := by
  have hchars : (linkTarget scene).toList ≠ [] := by simpa using htarget
  have hread : ∀ found, readTarget? (linkTarget scene ++ ")").toList = some found ↔
      found = (linkTarget scene).toList ∧ IsBareTarget (linkTarget scene).toList := by
    intro found
    rw [String.toList_append]
    exact readTarget?_append_closing hchars
  refine ⟨linkTarget scene ++ ")", ?_, ?_, ?_⟩
  · rw [outcome_link, beq_eq_false_iff_ne.mpr htarget, hsafe]
    simp only [Bool.not_true, Bool.or_self, Bool.false_eq_true, if_false, linkText,
      String.append_assoc]
  · rw [hread]
    exact and_iff_right rfl
  · rw [Option.map_eq_some_iff]
    constructor
    · rintro ⟨found, hfound, hresolve⟩
      obtain ⟨rfl, hbare⟩ := (hread found).mp hfound
      exact ⟨hbare, (resolve_eq_self_iff _).mp hresolve⟩
    · rintro ⟨hbare, hplain⟩
      exact ⟨_, (hread _).mpr ⟨rfl, hbare⟩, (resolve_eq_self_iff _).mpr hplain⟩

/-- A target with a pair of parentheses is read back, and one that closes what it did not open is
not. -/
theorem link_readTarget_parentheses :
    (∃ behind, (link (linkScene "x_(y)") "").outcome (fun _ => "") = .ok ("[x_(y)](" ++ behind) ∧
        readTarget? behind.toList = some "x_(y)".toList) ∧
      ∃ behind, (link (linkScene "a)b") "x").outcome (fun _ => "") = .ok ("[x](" ++ behind) ∧
        readTarget? behind.toList ≠ some "a)b".toList := by
  have hpair : linkTarget (linkScene "x_(y)") = "x_(y)" := by decide
  have hstray : linkTarget (linkScene "a)b") = "a)b" := by decide
  have hempty : "[" ++ orElse (Text.trim "") "x_(y)" ++ "](" = "[x_(y)](" := by decide
  have hshown : "[" ++ orElse (Text.trim "x") "a)b" ++ "](" = "[x](" := by decide
  constructor
  · obtain ⟨behind, houtcome, hread, -⟩ :=
      link_readTarget (linkScene "x_(y)") (by decide) (by decide) "" fun _ => ""
    rw [hpair, hempty] at houtcome
    rw [hpair] at hread
    have hbalanced : BalancedFrom '(' ')' 0 (exposedFrom false "x_(y)".toList) := by
      apply (balancedFrom_other (by decide) (by decide)).mpr
      apply (balancedFrom_other (by decide) (by decide)).mpr
      apply (balancedFrom_opening (by decide)).mpr
      apply (balancedFrom_other (by decide) (by decide)).mpr
      apply (balancedFrom_closing (by decide)).mpr
      exact balancedFrom_nil.mpr rfl
    exact ⟨behind, houtcome, hread.mpr ⟨by simp [stopsTarget], hbalanced, by decide⟩⟩
  · obtain ⟨behind, houtcome, hread, -⟩ :=
      link_readTarget (linkScene "a)b") (by decide) (by decide) "x" fun _ => ""
    rw [hstray, hshown] at houtcome
    rw [hstray] at hread
    refine ⟨behind, houtcome, fun hfound => ?_⟩
    have hclosed := (hread.mp hfound).balanced.beginnings ['a', ')'] (by decide)
    exact absurd hclosed (by decide)

end Transcript.Render
