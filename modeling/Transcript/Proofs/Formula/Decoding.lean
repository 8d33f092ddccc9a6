import Transcript.Proofs.Formula.Escape
import Transcript.Proofs.Text.Beginning

/-!
# Entities read from left to right

Decoding looks for an ampersand, collects a name behind it, and decides at the semicolon whether the
name is known. What it comes to can be said without names: six literals are replaced from left to
right, each by its character, and everything else is copied. An unknown sequence between an ampersand
and a semicolon cannot hide a literal, since no literal has an ampersand or a semicolon inside; and
what stands for a literal is not looked at again.

Escaping writes five of the literals. It may do so in one pass or in five, as long as the ampersand
comes first; decoding gives the text back.

## Main definitions

- `entityLiterals`: the six literals with their characters
- `ReadsAs`: literals replaced from left to right
- `replacedInTurn`: reserved characters replaced one after another

## Main results

- `decodeFrom_literal`, `decodeFrom_plain`: one step of decoding
- `decodeFrom_encodeAll`: escaped text is given back, whatever stands behind it
- `encode_eq_replacedInTurn`: escaping in one pass and in several
- `decode_reads`: decoding replaces the literals and undoes escaping
-/

namespace Transcript.Formula

/-! ## Literals -/

/-- The entities as they are written, each with the character that it stands for. -/
def entityLiterals : List (List Char × Char) := [
  ("&amp;".toList, '&'), ("&lt;".toList, '<'), ("&gt;".toList, '>'), ("&quot;".toList, '\x22'),
  ("&#39;".toList, '\x27'), ("&nbsp;".toList, ' ')]

/-- What a text reads as, from left to right. A literal reads as its character, and reading goes on
behind it; a character at which no literal begins reads as itself. -/
inductive ReadsAs : List Char → List Char → Prop where
  | nil : ReadsAs [] []
  | literal {literal s t : List Char} {c : Char} (hliteral : (literal, c) ∈ entityLiterals)
      (hrest : ReadsAs s t) : ReadsAs (literal ++ s) (c :: t)
  | plain {s t : List Char} {c : Char}
      (hplain : ∀ entity ∈ entityLiterals, ¬entity.1 <+: c :: s) (hrest : ReadsAs s t) :
      ReadsAs (c :: s) (c :: t)

/-- A literal is an ampersand, a known name and a semicolon. -/
theorem entityLiterals_eq :
    entityLiterals = entities.map fun entity => ('&' :: entity.1 ++ [';'], entity.2) := rfl

/-- A name that is known is written as one of the literals. -/
theorem exists_literal_of_lookup {name : List Char} {c : Char}
    (h : entities.lookup name = some c) : ('&' :: name ++ [';'], c) ∈ entityLiterals := by
  obtain ⟨before, behind, hsplit, -⟩ := List.lookup_eq_some_iff.mp h
  rw [entityLiterals_eq]
  exact List.mem_map.mpr ⟨(name, c), by rw [hsplit]; simp, rfl⟩

/-! ## One step of decoding -/

variable {s t : List Char} {c : Char}

theorem decodeFrom_literal {literal : List Char} (h : (literal, c) ∈ entityLiterals)
    (s : List Char) : decodeFrom none (literal ++ s) = c :: decodeFrom none s := by
  have hall : ∀ entity ∈ entityLiterals, ∀ s,
      decodeFrom none (entity.1 ++ s) = entity.2 :: decodeFrom none s := by
    simp only [entityLiterals, List.forall_mem_cons]
    exact ⟨fun _ => rfl, fun _ => rfl, fun _ => rfl, fun _ => rfl, fun _ => rfl, fun _ => rfl, nofun⟩
  exact hall (literal, c) h s

theorem decodeFrom_cons (h : c ≠ '&') (s : List Char) :
    decodeFrom none (c :: s) = c :: decodeFrom none s := by
  rw [decodeFrom]
  exact if_neg h

/-- Text without ampersands stays, whatever stands behind it. -/
theorem decodeFrom_append (h : '&' ∉ s) (t : List Char) :
    decodeFrom none (s ++ t) = s ++ decodeFrom none t := by
  induction s with
  | nil => rfl
  | cons c s ih =>
    rw [List.mem_cons, not_or] at h
    rw [List.cons_append, decodeFrom_cons (Ne.symm h.1), ih h.2, List.cons_append]

/-- What has been collected behind an ampersand is given back if no literal begins there. -/
theorem decodeFrom_some {name : List Char}
    (h : ∀ entity ∈ entityLiterals, ¬entity.1 <+: '&' :: name.reverse ++ s) :
    decodeFrom (some name) s = '&' :: name.reverse ++ decodeFrom none s := by
  induction s generalizing name with
  | nil => simp [decodeFrom]
  | cons c s ih =>
    by_cases hamp : c = '&'
    · subst hamp
      simp [decodeFrom]
    · rw [decodeFrom_cons hamp, decodeFrom, if_neg hamp]
      by_cases hsemicolon : c = ';'
      · subst hsemicolon
        -- A known name would complete a literal here.
        have hunknown : entities.lookup name.reverse = none := by
          cases hlookup : entities.lookup name.reverse with
          | none => rfl
          | some d =>
            refine absurd ?_ (h _ (exists_literal_of_lookup hlookup))
            exact ⟨s, by simp⟩
        rw [if_pos rfl]
        split
        · rename_i hempty
          obtain rfl : name = [] := by simpa using hempty
          rfl
        · simp [entityText, hunknown]
      · rw [if_neg hsemicolon]
        split
        · rfl
        · rw [ih (by simpa using h)]
          simp

/-- A character at which no literal begins stays. -/
theorem decodeFrom_plain (h : ∀ entity ∈ entityLiterals, ¬entity.1 <+: c :: s) :
    decodeFrom none (c :: s) = c :: decodeFrom none s := by
  by_cases hamp : c = '&'
  · subst hamp
    rw [decodeFrom]
    exact decodeFrom_some h
  · exact decodeFrom_cons hamp s

/-! ## Decoding as a whole -/

theorem readsAs_decodeFrom (s : List Char) : ReadsAs s (decodeFrom none s) := by
  -- Induction on the length, since a step may pass over a whole literal.
  induction hlength : s.length using Nat.strongRecOn generalizing s with
  | ind length ih =>
    cases s with
    | nil => exact .nil
    | cons c s =>
      by_cases hbegins : ∃ entity ∈ entityLiterals, entity.1 <+: c :: s
      · obtain ⟨⟨literal, d⟩, hliteral, rest, hsplit⟩ := hbegins
        dsimp only at hsplit
        have hshorter : rest.length < length := by
          have hpositive : ∀ entity ∈ entityLiterals, 0 < entity.1.length := by decide
          have hsome : 0 < literal.length := hpositive _ hliteral
          rw [← hlength, ← hsplit, List.length_append]
          omega
        rw [← hsplit, decodeFrom_literal hliteral]
        exact .literal hliteral (ih _ hshorter rest rfl)
      · have hplain : ∀ entity ∈ entityLiterals, ¬entity.1 <+: c :: s :=
          fun entity hentity hprefix => hbegins ⟨entity, hentity, hprefix⟩
        rw [decodeFrom_plain hplain]
        exact .plain hplain (ih _ (by simp [← hlength]) s rfl)

theorem decodeFrom_of_readsAs (h : ReadsAs s t) : decodeFrom none s = t := by
  induction h with
  | nil => rfl
  | literal hliteral _ ih => rw [decodeFrom_literal hliteral, ih]
  | plain hplain _ ih => rw [decodeFrom_plain hplain, ih]

/-! ## Decoding and escaping -/

/-- What a reserved character is escaped by is one of the literals. -/
theorem encodeChar_mem_entityLiterals (h : c ∈ reserved) : (encodeChar c, c) ∈ entityLiterals := by
  have hall : ∀ c ∈ reserved, (encodeChar c, c) ∈ entityLiterals :=
    forall_reserved.mpr (by decide)
  exact hall c h

/-- Escaped text is given back, whatever stands behind it. -/
theorem decodeFrom_encodeAll (s t : List Char) :
    decodeFrom none (encodeAll s ++ t) = s ++ decodeFrom none t := by
  induction s with
  | nil => rfl
  | cons c s ih =>
    rw [encodeAll_cons, List.append_assoc]
    by_cases hreserved : c ∈ reserved
    · rw [decodeFrom_literal (encodeChar_mem_entityLiterals hreserved), ih, List.cons_append]
    · have hamp : c ≠ '&' := by
        rintro rfl
        exact hreserved (by decide)
      rw [encodeChar_of_not_reserved hreserved, List.singleton_append, decodeFrom_cons hamp, ih,
        List.cons_append]

theorem decodeFrom_encodeAll_self (s : List Char) : decodeFrom none (encodeAll s) = s := by
  have happend := decodeFrom_encodeAll s []
  rwa [List.append_nil, decodeFrom, List.append_nil] at happend

theorem encodeAll_ne_nil (h : s ≠ []) : encodeAll s ≠ [] := by
  intro hnone
  refine h ?_
  rw [← decodeFrom_encodeAll_self s, hnone, decodeFrom]

/-- The reserved characters replaced one after another, each in the whole text. -/
def replacedInTurn (s : String) : String :=
  [("&", "&amp;"), ("<", "&lt;"), (">", "&gt;"), ("\x22", "&quot;"), ("\x27", "&#39;")].foldl
    (fun s (reserved, entity) => Text.replace reserved entity s) s

/-- With the ampersand first, this comes to the same as escaping in one pass. -/
theorem encode_eq_replacedInTurn (s : String) : encode s = replacedInTurn s := by
  -- No replacement writes a character that is replaced after it.
  have hchar : ∀ c, encodeChar c =
      ((((if c = '&' then "&amp;".toList else [c]).flatMap fun c =>
        if c = '<' then "&lt;".toList else [c]).flatMap fun c =>
        if c = '>' then "&gt;".toList else [c]).flatMap fun c =>
        if c = '\x22' then "&quot;".toList else [c]).flatMap fun c =>
        if c = '\x27' then "&#39;".toList else [c] := by
    intro c
    by_cases hreserved : c ∈ reserved
    · rcases mem_reserved.mp hreserved with rfl | rfl | rfl | rfl | rfl <;> rfl
    · obtain ⟨hamp, hless, hgreater, hdouble, hsingle⟩ :
          c ≠ '&' ∧ c ≠ '<' ∧ c ≠ '>' ∧ c ≠ '\x22' ∧ c ≠ '\x27' := by
        simpa [mem_reserved] using hreserved
      simp only [encodeChar_of_not_reserved hreserved, if_neg hamp, if_neg hless, if_neg hgreater,
        if_neg hdouble, if_neg hsingle, List.flatMap_singleton]
  rw [← String.toList_inj, toList_encode]
  simp only [replacedInTurn, List.foldl_cons, List.foldl_nil, Text.replace, Text.toList_onChars]
  show encodeAll s.toList = Chars.replace ['\x27'] _ (Chars.replace ['\x22'] _
    (Chars.replace ['>'] _ (Chars.replace ['<'] _ (Chars.replace ['&'] _ s.toList))))
  simp only [Chars.replace_singleton, List.flatMap_assoc] at hchar ⊢
  exact congrArg s.toList.flatMap (funext hchar)

/-- Decoding gives an escaped text back, and it reads any text from left to right: as `ReadsAs` says,
and in no other way. Escaping is the replacement of the reserved characters one after another. -/
theorem decode_reads :
    (∀ s, decode (encode s) = s) ∧
      (∀ s t, decode s = t ↔ ReadsAs s.toList t.toList) ∧
      ∀ s, encode s = replacedInTurn s := by
  refine ⟨fun s => ?_, fun s t => ⟨?_, fun h => ?_⟩, encode_eq_replacedInTurn⟩
  · rw [← String.toList_inj, decode, Text.toList_onChars, toList_encode, decodeFrom_encodeAll_self]
  · rintro rfl
    rw [decode, Text.toList_onChars]
    exact readsAs_decodeFrom s.toList
  · rw [← String.toList_inj, decode, Text.toList_onChars, decodeFrom_of_readsAs h]

/-- Nothing is read twice, and the beginning of an unknown name hides no literal. -/
example : decode "&amp;lt; &x&gt;&y;" = "&lt; &x>&y;" := by rfl

end Transcript.Formula
