import Mathlib.Data.List.TakeDrop
import Transcript.Formula.Entities
import Transcript.Formula.Injection

/-!
# What escaping does to the marks of injected script

Escaping writes five reserved characters as entities. The start of a script element needs one of
them, so it is gone. The scheme for script and the names of event handlers need none: they are found
in the escaped text just where they were found in the text itself, since no entity takes part in
them or hides the boundary in front of them.

## Main definitions

- `reserved`: the characters that are escaped
- `Undisturbed`: a search that entities do not disturb
- `otherMark?`: the first mark that is not a script element

## Main results

- `findFolded?_script_encode`: an escaped text does not start a script element
- `findFolded?_scheme_encode`, `findHandler?_encode`: the other marks stay
- `findInjection?_encode`: what is found in an escaped text
-/

namespace Transcript.Formula

/-- The characters that are escaped. -/
def reserved : List Char := ['&', '<', '>', '\x22', '\x27']

/-- Escapes a list of characters. -/
def encodeAll (s : List Char) : List Char :=
  s.flatMap encodeChar

@[simp] theorem encodeAll_cons (c : Char) (s : List Char) :
    encodeAll (c :: s) = encodeChar c ++ encodeAll s := rfl

@[simp] theorem toList_encode (s : String) : (encode s).toList = encodeAll s.toList :=
  Text.toList_onChars _ s

theorem mem_reserved {c : Char} :
    c ∈ reserved ↔ c = '&' ∨ c = '<' ∨ c = '>' ∨ c = '\x22' ∨ c = '\x27' := by
  simp [reserved]

/-- What holds of every reserved character is checked on each of the five. -/
theorem forall_reserved {p : Char → Prop} :
    (∀ c ∈ reserved, p c) ↔ p '&' ∧ p '<' ∧ p '>' ∧ p '\x22' ∧ p '\x27' := by
  simp [reserved]

theorem encodeChar_of_not_reserved {c : Char} (h : c ∉ reserved) : encodeChar c = [c] := by
  unfold encodeChar
  split <;> first | rfl | exact absurd (by decide) h

/-- A reserved character becomes an entity: an ampersand, a name and a semicolon. -/
theorem encodeChar_of_reserved {c : Char} (h : c ∈ reserved) :
    ∃ rest, encodeChar c = '&' :: rest := by
  rcases mem_reserved.mp h with rfl | rfl | rfl | rfl | rfl <;> exact ⟨_, rfl⟩

theorem foldLetter_of_reserved {c : Char} (h : c ∈ reserved) : foldLetter c = c := by
  have hfold : ∀ c ∈ reserved, foldLetter c = c := forall_reserved.mpr (by decide)
  exact hfold c h

/-! ## Script elements -/

theorem toLower_eq_less {c : Char} (h : c.toLower = '<') : c = '<' := by
  unfold Char.toLower at h
  split at h
  -- A capital letter is lowered to a letter.
  · rename_i hcapital
    have hle : c.val.toNat ≤ 90 := UInt32.le_iff_toNat_le.mp hcapital.2
    have hge : 65 ≤ c.val.toNat := UInt32.le_iff_toNat_le.mp hcapital.1
    have hval : (c.val.toNat + 32) % 2 ^ 32 = 60 := congrArg (fun d => d.val.toNat) h
    omega
  · exact h

/-- No other character is compared as the one that script elements start with. -/
theorem foldLetter_eq_less {c : Char} (h : foldLetter c = '<') : c = '<' := by
  unfold foldLetter at h
  split at h
  · cases h
  · split at h
    · cases h
    · split at h
      · cases h
      · exact toLower_eq_less h

theorem less_notMem_encodeAll (s : List Char) : '<' ∉ encodeAll s := by
  intro h
  obtain ⟨c, -, hc⟩ := List.mem_flatMap.mp h
  by_cases hreserved : c ∈ reserved
  -- No entity holds the character that script elements start with.
  · have hentity : ∀ c ∈ reserved, '<' ∉ encodeChar c := forall_reserved.mpr (by decide)
    exact hentity c hreserved hc
  · rw [encodeChar_of_not_reserved hreserved] at hc
    obtain rfl : '<' = c := by simpa using hc
    exact hreserved (by decide)

/-- A text without the character that a mark starts with does not hold the mark. -/
theorem firstMatch?_eq_none {find : Option Char → List Char → Option (List Char)} {s : List Char}
    (hempty : ∀ before, find before [] = none)
    (h : ∀ before, ∀ c ∈ s, ∀ rest, find before (c :: rest) = none) (before : Option Char) :
    firstMatch? find before s = none := by
  induction s generalizing before with
  | nil => exact hempty before
  | cons c rest ih =>
    rw [firstMatch?, h before c List.mem_cons_self rest]
    exact ih (fun before other hother => h before other (List.mem_cons_of_mem _ hother)) (some c)

/-- An escaped text does not start a script element. -/
theorem findFolded?_script_encode (s : List Char) :
    findFolded? "<script".toList (encodeAll s) = none := by
  have hless := less_notMem_encodeAll s
  refine firstMatch?_eq_none (fun _ => rfl) (fun _ c hc rest => ?_) none
  have hfold : foldLetter c ≠ '<' := fun hfold => hless (foldLetter_eq_less hfold ▸ hc)
  show (takeFolded? ('<' :: "script".toList) (c :: rest)).map Prod.fst = none
  rw [takeFolded?, if_neg hfold]
  rfl

/-! ## Searches that entities do not disturb -/

/-- A search finds nothing at a reserved character or within its entity, the same in front of an
escaped text as in front of the text itself, and the same behind a reserved character as behind its
entity. -/
structure Undisturbed (find : Option Char → List Char → Option (List Char)) : Prop where
  atReserved : ∀ {c : Char}, c ∈ reserved → ∀ before rest, find before (c :: rest) = none
  inEntity : ∀ {c : Char}, c ∈ reserved → ∀ before rest,
    firstMatch? find before (encodeChar c ++ rest) = firstMatch? find (some ';') rest
  inFront : ∀ before s, find before (encodeAll s) = find before s
  behind : ∀ {c : Char}, c ∈ reserved → ∀ s, find (some ';') s = find (some c) s

theorem Undisturbed.firstMatch?_encode {find : Option Char → List Char → Option (List Char)}
    (h : Undisturbed find) (before : Option Char) (s : List Char) :
    firstMatch? find before (encodeAll s) = firstMatch? find before s := by
  induction s generalizing before with
  | nil => rfl
  | cons c rest ih =>
    by_cases hreserved : c ∈ reserved
    · have hbehind : firstMatch? find (some ';') rest = firstMatch? find (some c) rest := by
        cases rest with
        | nil => exact h.behind hreserved []
        | cons other rest => rw [firstMatch?, firstMatch?, h.behind hreserved]
      rw [encodeAll_cons, h.inEntity hreserved, ih, firstMatch?, h.atReserved hreserved, hbehind]
    · have hhere := h.inFront before (c :: rest)
      rw [encodeAll_cons, encodeChar_of_not_reserved hreserved, List.singleton_append] at hhere
      rw [encodeAll_cons, encodeChar_of_not_reserved hreserved, List.singleton_append, firstMatch?,
        firstMatch?, hhere, ih]

/-- A beginning without reserved characters is taken from an escaped text as from the text itself;
what follows it is escaped. -/
theorem takeFolded?_encodeAll {mark : List Char} (hmark : ∀ c ∈ reserved, c ∉ mark)
    (s : List Char) :
    takeFolded? mark (encodeAll s) =
      (takeFolded? mark s).map fun (taken, rest) => (taken, encodeAll rest) := by
  induction mark generalizing s with
  | nil => rfl
  | cons m mark ih =>
    have hm : m ∉ reserved := fun hm => hmark m hm List.mem_cons_self
    cases s with
    | nil => rfl
    | cons c s =>
      by_cases hreserved : c ∈ reserved
      -- Neither the reserved character nor the ampersand of its entity folds to a plain one.
      · obtain ⟨rest, hrest⟩ := encodeChar_of_reserved hreserved
        have hfold : foldLetter c ≠ m := fun hfold =>
          hm (hfold ▸ (foldLetter_of_reserved hreserved).symm ▸ hreserved)
        have hamp : foldLetter '&' ≠ m := fun hfold => hm (hfold ▸ by decide)
        rw [encodeAll_cons, hrest, List.cons_append, takeFolded?, takeFolded?, if_neg hfold,
          if_neg hamp]
        rfl
      · have hrest := ih (fun other hother hmem => hmark other hother (List.mem_cons_of_mem _ hmem)) s
        rw [encodeAll_cons, encodeChar_of_not_reserved hreserved, List.singleton_append,
          takeFolded?, takeFolded?]
        split
        · simp only [hrest, Option.map_map]
          rfl
        · rfl

/-! ## The scheme for script and event handlers -/

theorem undisturbed_scheme :
    Undisturbed fun _ s => (takeFolded? "javascript:".toList s).map Prod.fst where
  atReserved := by
    intro c hc before rest
    rcases mem_reserved.mp hc with rfl | rfl | rfl | rfl | rfl <;> rfl
  inEntity := by
    intro c hc before rest
    rcases mem_reserved.mp hc with rfl | rfl | rfl | rfl | rfl <;> rfl
  inFront := by
    intro before s
    rw [takeFolded?_encodeAll (forall_reserved.mpr (by decide))]
    simp [Option.map_map, Function.comp_def]
  behind := fun _ _ => rfl

/-- The scheme for script is found in an escaped text as in the text itself. -/
theorem findFolded?_scheme_encode (s : List Char) :
    findFolded? "javascript:".toList (encodeAll s) = findFolded? "javascript:".toList s :=
  undisturbed_scheme.firstMatch?_encode none s

/-- A run of characters that are not reserved is taken from an escaped text as from the text
itself. -/
theorem span_encodeAll {p : Char → Bool} (hp : ∀ c ∈ reserved, p c = false) (s : List Char) :
    (encodeAll s).span p = ((s.span p).1, encodeAll (s.span p).2) := by
  have hamp : p '&' = false := hp '&' (by decide)
  induction s with
  | nil => rfl
  | cons c s ih =>
    rw [List.span_eq_takeWhile_dropWhile, List.span_eq_takeWhile_dropWhile] at ih ⊢
    by_cases hreserved : c ∈ reserved
    · obtain ⟨rest, hrest⟩ := encodeChar_of_reserved hreserved
      have hc : p c = false := hp c hreserved
      rw [encodeAll_cons, hrest, List.takeWhile_cons, List.dropWhile_cons]
      simp [hc, hamp, hrest]
    · rw [encodeAll_cons, encodeChar_of_not_reserved hreserved]
      obtain ⟨htaken, hleft⟩ := Prod.mk.inj ih
      cases hc : p c with
      | true => simpa [hc] using ⟨htaken, hleft⟩
      | false => simp [hc, encodeChar_of_not_reserved hreserved]

/-- The name of an event handler is taken from an escaped text as from the text itself. -/
theorem takeHandler?_encodeAll (s : List Char) : takeHandler? (encodeAll s) = takeHandler? s := by
  unfold takeHandler?
  rw [takeFolded?_encodeAll (forall_reserved.mpr (by decide))]
  cases takeFolded? ['o', 'n'] s with
  | none => rfl
  | some taken =>
    obtain ⟨start, rest⟩ := taken
    simp only [Option.map_some]
    have hletter : ∀ c ∈ reserved, isFoldedLetter c = false := forall_reserved.mpr (by decide)
    have hblank : ∀ c ∈ reserved, Chars.isBlank c = false := forall_reserved.mpr (by decide)
    rw [span_encodeAll hletter rest, span_encodeAll hblank]
    -- What is left starts with the equals sign in both texts, or in neither.
    cases ((rest.span isFoldedLetter).2.span Chars.isBlank).2 with
    | nil => rfl
    | cons c left =>
      by_cases hreserved : c ∈ reserved
      · rcases mem_reserved.mp hreserved with rfl | rfl | rfl | rfl | rfl <;> rfl
      · rw [encodeAll_cons, encodeChar_of_not_reserved hreserved]
        by_cases hequals : c = '='
        · subst hequals
          rfl
        · simp [hequals]

/-- Where no event handler starts, the search goes on behind the character. -/
theorem findHandler?_step {c : Char} {rest : List Char} (h : takeHandler? (c :: rest) = none)
    (before : Option Char) :
    firstMatch? (fun before s => if before.any Chars.isWord then none else takeHandler? s) before
        (c :: rest) =
      firstMatch? (fun before s => if before.any Chars.isWord then none else takeHandler? s)
        (some c) rest := by
  rw [firstMatch?, h, ite_self]

theorem undisturbed_handler :
    Undisturbed fun before s => if before.any Chars.isWord then none else takeHandler? s where
  atReserved := by
    intro c hc before rest
    rcases mem_reserved.mp hc with rfl | rfl | rfl | rfl | rfl <;> exact ite_self none
  inEntity := by
    intro c hc before rest
    rcases mem_reserved.mp hc with rfl | rfl | rfl | rfl | rfl
    · show firstMatch? _ before ('&' :: 'a' :: 'm' :: 'p' :: ';' :: rest) = _
      repeat rw [findHandler?_step rfl]
    · show firstMatch? _ before ('&' :: 'l' :: 't' :: ';' :: rest) = _
      repeat rw [findHandler?_step rfl]
    · show firstMatch? _ before ('&' :: 'g' :: 't' :: ';' :: rest) = _
      repeat rw [findHandler?_step rfl]
    · show firstMatch? _ before ('&' :: 'q' :: 'u' :: 'o' :: 't' :: ';' :: rest) = _
      repeat rw [findHandler?_step rfl]
    · show firstMatch? _ before ('&' :: '#' :: '3' :: '9' :: ';' :: rest) = _
      repeat rw [findHandler?_step rfl]
  inFront := by
    intro before s
    rw [takeHandler?_encodeAll]
  behind := by
    intro c hc s
    have hword : ∀ c ∈ reserved, Chars.isWord c = false := forall_reserved.mpr (by decide)
    have hsemicolon : Chars.isWord ';' = false := by decide
    simp [hword c hc, hsemicolon]

/-- Event handlers are found in an escaped text as in the text itself. -/
theorem findHandler?_encode (s : List Char) : findHandler? (encodeAll s) = findHandler? s :=
  undisturbed_handler.firstMatch?_encode none s

/-! ## What is found in an escaped text -/

/-- The first mark of injected script that is not a script element. -/
def otherMark? (s : String) : Option String :=
  (findFolded? "javascript:".toList s.toList <|> findHandler? s.toList).map String.ofList

/-- Escaping removes script elements, and nothing else that betrays script. -/
theorem findInjection?_encode (s : String) : findInjection? (encode s) = otherMark? s := by
  simp only [findInjection?, toList_encode, findFolded?_script_encode, findFolded?_scheme_encode,
    findHandler?_encode, otherMark?]
  rfl

end Transcript.Formula
