import Transcript.Proofs.Text.Beginning
import Transcript.Proofs.Text.Lines

/-!
# Escaped pipes

A pipe is escaped by a backslash in front of it. A backslash is not escaped, and need not be: an
escaped text has a backslash in front of each of its pipes, whatever stood there before, so dropping
these gives the text back, and a line is cut at none of them.

## Main definitions

- `Chars.escapePipe`: what is put in place of a character
- `Chars.pieces`: the pieces of a line between the pipes that are not escaped

## Main results

- `Chars.replace_escaped`: the escaping is undone
- `Chars.piecesFrom_escaped`: no pipe of an escaped text ends a piece
-/

namespace Transcript

namespace Chars

/-- A pipe with a backslash in front of it, and any other character as it is. -/
def escapePipe (c : Char) : List Char :=
  if c = '|' then ['\\', '|'] else [c]

theorem escapePipe_of_ne {c : Char} (h : c ≠ '|') : escapePipe c = [c] :=
  if_neg h

/-- Replacing pipes escapes them. -/
theorem replace_pipe (s : List Char) : replace ['|'] ['\\', '|'] s = s.flatMap escapePipe :=
  replace_singleton '|' ['\\', '|'] s

/-- An escaped text does not start with a pipe. -/
theorem head_escaped_ne (s : List Char) : (s.flatMap escapePipe).head? ≠ some '|' := by
  cases s with
  | nil => nofun
  | cons c rest =>
    by_cases h : c = '|'
    · subst h
      simp [escapePipe]
    · simpa [escapePipe_of_ne h] using h

/-- A character in front of an escaped text is no escape. -/
theorem not_startsWith_escape (c : Char) (s : List Char) :
    startsWith ['\\', '|'] (c :: s.flatMap escapePipe) = false := by
  have hhead := head_escaped_ne s
  generalize s.flatMap escapePipe = t at hhead
  cases t with
  | nil => by_cases h : '\\' = c <;> simp [startsWith, dropStart?, h]
  | cons d rest =>
    have hne : '|' ≠ d := fun heq => hhead (by rw [heq, List.head?_cons])
    by_cases h : '\\' = c <;> simp [startsWith, dropStart?, h, hne]

/-- Dropping the backslashes in front of pipes gives the text back that was escaped. -/
theorem replace_escaped (s : List Char) :
    replace ['\\', '|'] ['|'] (s.flatMap escapePipe) = s := by
  unfold replace
  induction s with
  | nil => rfl
  | cons c rest ih =>
    rw [List.flatMap_cons]
    by_cases h : c = '|'
    · subst h
      exact congrArg ('|' :: ·) ih
    · rw [escapePipe_of_ne h, List.singleton_append, replaceFrom, not_startsWith_escape,
        if_neg Bool.false_ne_true, ih]

theorem sparesBoundaries_escapePipe : SparesBoundaries escapePipe where
  boundary := by
    intro c hc
    apply escapePipe_of_ne
    rintro rfl
    exact absurd hc (by decide)
  ne_nil := by
    intro c _
    unfold escapePipe
    split <;> simp
  unbroken := by
    intro c hc
    unfold escapePipe
    split
    · exact unbroken_iff_any.mpr rfl
    · exact unbroken_cons.mpr ⟨hc, unbroken_nil⟩

/-! ## Pieces -/

/-- The pieces of a line between the pipes that do not stand right behind a backslash; `piece` is
the piece read so far, in reverse. -/
def piecesFrom (piece : List Char) : List Char → List (List Char)
  | [] => [piece.reverse]
  | c :: rest =>
    if c = '|' ∧ piece.head? ≠ some '\\' then piece.reverse :: piecesFrom [] rest
    else piecesFrom (c :: piece) rest

/-- The pieces of a line between the pipes that do not stand right behind a backslash. -/
def pieces (line : List Char) : List (List Char) :=
  piecesFrom [] line

theorem piecesFrom_pipe {piece : List Char} (h : piece.head? ≠ some '\\') (rest : List Char) :
    piecesFrom piece ('|' :: rest) = piece.reverse :: piecesFrom [] rest :=
  if_pos ⟨rfl, h⟩

theorem piecesFrom_cons {c : Char} (h : c ≠ '|') (piece rest : List Char) :
    piecesFrom piece (c :: rest) = piecesFrom (c :: piece) rest :=
  if_neg fun hends => h hends.1

/-- The backslash in front of a pipe goes with what is before, and the pipe with the backslash. -/
theorem piecesFrom_escapePipe (c : Char) (piece rest : List Char) :
    piecesFrom piece (escapePipe c ++ rest) =
      piecesFrom ((escapePipe c).reverse ++ piece) rest := by
  by_cases h : c = '|'
  · subst h
    show piecesFrom piece ('\\' :: '|' :: rest) = _
    rw [piecesFrom_cons (by decide), piecesFrom, if_neg fun hends => hends.2 rfl]
    rfl
  · rw [escapePipe_of_ne h]
    exact piecesFrom_cons h piece rest

/-- An escaped text is added to the piece read so far. -/
theorem piecesFrom_escaped (s piece rest : List Char) :
    piecesFrom piece (s.flatMap escapePipe ++ rest) =
      piecesFrom ((s.flatMap escapePipe).reverse ++ piece) rest := by
  induction s generalizing piece with
  | nil => rfl
  | cons c s ih =>
    rw [List.flatMap_cons, List.append_assoc, piecesFrom_escapePipe, ih, List.reverse_append,
      List.append_assoc]

/-- An escaped text with a space on each side is a piece of its own, whatever it ends with. -/
theorem pieces_padded (s rest : List Char) :
    pieces (' ' :: (s.flatMap escapePipe ++ ' ' :: '|' :: rest)) =
      (' ' :: (s.flatMap escapePipe ++ [' '])) :: pieces rest := by
  rw [pieces, piecesFrom_cons (by decide), piecesFrom_escaped, piecesFrom_cons (by decide),
    piecesFrom_pipe]
  · simp [pieces]
  · simp

end Chars

end Transcript
