import Mathlib.Data.List.Infix

/-!
# Balanced texts

A text is balanced in two characters, one that opens and one that closes, if no beginning of it
closes more than it opens and the whole of it closes as much as it opens. A reader of such a text
counts what is open, so a text is also looked at behind some that are open already.

## Main definitions

- `Chars.BalancedFrom`: a text that closes what it opens, and what was open before

## Main results

- `Chars.balancedFrom_cons`: one step of counting
- `Chars.BalancedFrom.append`: balanced texts one behind the other
- `Chars.balancedFrom_filter`: characters of other kinds make no difference
-/

namespace Transcript.Chars

/-- Behind so many open ones, no beginning of the text closes more than is open, and the whole of it
closes all. -/
structure BalancedFrom (opening closing : Char) (level : Nat) (s : List Char) : Prop where
  beginnings : ∀ start, start <+: s → start.count closing ≤ level + start.count opening
  whole : s.count closing = level + s.count opening

variable {opening closing c : Char} {level next : Nat} {s : List Char}

theorem balancedFrom_nil : BalancedFrom opening closing level [] ↔ level = 0 := by
  constructor
  · intro h
    simpa using h.whole.symm
  · rintro rfl
    refine ⟨fun start hstart => ?_, rfl⟩
    obtain rfl := List.prefix_nil.mp hstart
    exact Nat.le_refl _

/-- Reading one character, a reader goes on with what is open behind it. -/
theorem balancedFrom_cons (h : next + [c].count closing = level + [c].count opening) :
    BalancedFrom opening closing level (c :: s) ↔ BalancedFrom opening closing next s := by
  have hcount : ∀ (d : Char) (rest : List Char), (c :: rest).count d = [c].count d + rest.count d :=
    fun d rest => by rw [← List.singleton_append, List.count_append]
  constructor
  · intro hbalanced
    refine ⟨fun start hstart => ?_, ?_⟩
    · have hlonger := hbalanced.beginnings (c :: start) (List.cons_prefix_cons.mpr ⟨rfl, hstart⟩)
      rw [hcount closing start, hcount opening start] at hlonger
      omega
    · have hwhole := hbalanced.whole
      rw [hcount closing s, hcount opening s] at hwhole
      omega
  · intro hbalanced
    refine ⟨fun start hstart => ?_, ?_⟩
    · cases start with
      | nil => exact Nat.zero_le _
      | cons d rest =>
        obtain ⟨rfl, hrest⟩ := List.cons_prefix_cons.mp hstart
        have hshorter := hbalanced.beginnings rest hrest
        rw [hcount closing rest, hcount opening rest]
        omega
    · have hwhole := hbalanced.whole
      rw [hcount closing s, hcount opening s]
      omega

theorem balancedFrom_opening (hne : opening ≠ closing) :
    BalancedFrom opening closing level (opening :: s) ↔
      BalancedFrom opening closing (level + 1) s :=
  balancedFrom_cons (by simp [hne])

theorem balancedFrom_closing (hne : opening ≠ closing) :
    BalancedFrom opening closing (level + 1) (closing :: s) ↔
      BalancedFrom opening closing level s :=
  balancedFrom_cons (by simp [hne.symm])

theorem balancedFrom_other (hopening : c ≠ opening) (hclosing : c ≠ closing) :
    BalancedFrom opening closing level (c :: s) ↔ BalancedFrom opening closing level s :=
  balancedFrom_cons (by simp [hopening, hclosing])

/-- Where nothing is open, nothing can be closed. -/
theorem not_balancedFrom_closing (hne : opening ≠ closing) :
    ¬BalancedFrom opening closing 0 (closing :: s) := by
  intro h
  have hfirst := h.beginnings [closing] (List.cons_prefix_cons.mpr ⟨rfl, List.nil_prefix⟩)
  simp [hne.symm] at hfirst

/-- Whatever the first character of a balanced text is, a reader can go on behind it. -/
theorem BalancedFrom.exists_next (h : BalancedFrom opening closing level (c :: s)) :
    ∃ next, next + [c].count closing = level + [c].count opening ∧
      BalancedFrom opening closing next s := by
  have hfirst := h.beginnings [c] (List.cons_prefix_cons.mpr ⟨rfl, List.nil_prefix⟩)
  have hnext : level + [c].count opening - [c].count closing + [c].count closing =
      level + [c].count opening := Nat.sub_add_cancel hfirst
  exact ⟨_, hnext, (balancedFrom_cons hnext).mp h⟩

/-- A text that closes all that is open, and another one behind it that closes more: the two of them
close what was open together. -/
theorem BalancedFrom.append {more : Nat} {t : List Char}
    (hs : BalancedFrom opening closing level s) (ht : BalancedFrom opening closing more t) :
    BalancedFrom opening closing (level + more) (s ++ t) := by
  induction s generalizing level with
  | nil =>
    obtain rfl := balancedFrom_nil.mp hs
    simpa using ht
  | cons c s ih =>
    obtain ⟨next, hnext, hrest⟩ := hs.exists_next
    have hstep : next + more + [c].count closing = level + more + [c].count opening := by omega
    rw [List.cons_append, balancedFrom_cons hstep]
    exact ih hrest

/-- Characters of other kinds than the two make no difference. -/
theorem balancedFrom_filter {p : Char → Bool} (hopening : p opening = true)
    (hclosing : p closing = true) :
    BalancedFrom opening closing level (s.filter p) ↔ BalancedFrom opening closing level s := by
  induction s generalizing level with
  | nil => rfl
  | cons c s ih =>
    cases hc : p c with
    | false =>
      have hother : c ≠ opening ∧ c ≠ closing := by
        constructor
        · rintro rfl
          exact absurd hopening (by simp [hc])
        · rintro rfl
          exact absurd hclosing (by simp [hc])
      rw [List.filter_cons_of_neg (by simp [hc]), balancedFrom_other hother.1 hother.2, ih]
    | true =>
      rw [List.filter_cons_of_pos hc]
      -- Both texts go on behind the same character, and with the same number open.
      constructor
      · intro h
        obtain ⟨next, hnext, hrest⟩ := h.exists_next
        exact (balancedFrom_cons hnext).mpr (ih.mp hrest)
      · intro h
        obtain ⟨next, hnext, hrest⟩ := h.exists_next
        exact (balancedFrom_cons hnext).mpr (ih.mpr hrest)

instance : Decidable (BalancedFrom opening closing level s) :=
  decidable_of_iff
    ((∀ start ∈ s.inits, start.count closing ≤ level + start.count opening) ∧
      s.count closing = level + s.count opening)
    ⟨fun h => ⟨fun start hstart => h.1 start (List.mem_inits start s |>.mpr hstart), h.2⟩,
      fun h => ⟨fun start hstart => h.1 start (List.mem_inits start s |>.mp hstart), h.2⟩⟩

end Transcript.Chars
