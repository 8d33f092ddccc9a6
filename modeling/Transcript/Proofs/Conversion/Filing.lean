import Mathlib.Data.List.Induction
import Mathlib.Data.List.Nodup
import Transcript.Proofs.Conversion.Memory
import Transcript.Proofs.Markup.Subtree

/-!
# Files on nodes

Any number of memos may share one arena. What is remembered is filed under numbers that are given
out as nodes are met, by look-ups as well as by stores, and that depend on how far a tree was
numbered in advance. None of this shows: the numbers in use have no gaps, no two nodes share one, and
each memo is a map from nodes to the values that were stored last.

## Main definitions

- `Files`, `Filing`: memos that share an arena, and what is done with them
- `Files.run`, `Files.found`: the files after some steps, and what look-ups found on the way
- `lastStored?`: the value stored last about a node in a memo
- `Files.Holds`: the invariant, that files hold certain values

## Main results

- `Arena.getElem?_ofNodes`: nodes are numbered by their ranks
- `Files.Holds.step`, `Files.Holds.run`: what a step keeps, and what a run keeps
- `Files.ofTree_run`: numbers and memos behave as maps, however far the tree was numbered
-/

namespace Transcript

open Markup

/-! ## Numbers -/

namespace Arena

/-- A number once given out stays. -/
theorem getElem?_number_of_some {a : Arena} {key : NodeKey} {n : Nat} (other : NodeKey)
    (h : a.numbers[key]? = some n) : (a.number other).2.numbers[key]? = some n := by
  rw [getElem?_number]
  split
  · rename_i heq
    subst heq
    rw [number_of_some h]
  · exact h

/-- All numbers below the size are in use. -/
def Gapless (a : Arena) : Prop :=
  ∀ n < a.size, ∃ key : NodeKey, a.numbers[key]? = some n

theorem gapless_empty : Gapless {} := by
  intro n hn
  simp [size] at hn

theorem gapless_number {a : Arena} (ha : a.Gapless) (key : NodeKey) :
    (a.number key).2.Gapless := by
  cases h : a.numbers[key]? with
  | some n => simpa [number_of_some h] using ha
  | none =>
    intro n hn
    rw [size_number, h] at hn
    -- The new number is the old size, and everything below was in use.
    rcases Nat.lt_succ_iff_lt_or_eq.mp hn with hlt | rfl
    · obtain ⟨other, hother⟩ := ha n hlt
      exact ⟨other, getElem?_number_of_some key hother⟩
    · refine ⟨key, ?_⟩
      rw [getElem?_number, if_pos rfl, number_of_none h]

theorem ofNodes_append (keys : List NodeKey) (key : NodeKey) :
    ofNodes (keys ++ [key]) = ((ofNodes keys).number key).2 := by
  rw [ofNodes, List.foldl_append]
  rfl

theorem gapless_ofNodes (keys : List NodeKey) : (ofNodes keys).Gapless := by
  induction keys using List.reverseRecOn with
  | nil => exact gapless_empty
  | append_singleton keys key ih =>
    rw [ofNodes_append]
    exact gapless_number ih key

/-- Different nodes are numbered by their ranks. -/
theorem getElem?_ofNodes {keys : List NodeKey} (h : keys.Nodup) :
    (ofNodes keys).size = keys.length ∧
      ∀ (key : NodeKey) (n : Nat),
        (ofNodes keys).numbers[key]? = some n ↔ keys[n]? = some key := by
  induction keys using List.reverseRecOn with
  | nil => simp [ofNodes, size]
  | append_singleton keys last ih =>
    obtain ⟨hkeys, -, hnew⟩ := List.nodup_append.mp h
    obtain ⟨hsize, hranks⟩ := ih hkeys
    have hmem : last ∉ keys := fun hlast => hnew last hlast last List.mem_cons_self rfl
    have hnone : (ofNodes keys).numbers[last]? = none := by
      cases hnumber : (ofNodes keys).numbers[last]? with
      | none => rfl
      | some n => exact absurd (List.mem_of_getElem? ((hranks last n).mp hnumber)) hmem
    rw [ofNodes_append]
    refine ⟨by simp [size_number, hnone, hsize], fun key n => ?_⟩
    rw [getElem?_number, number_of_none hnone, hsize]
    split
    -- The last node has the number of those before it.
    · rename_i heq
      subst heq
      rcases Nat.lt_trichotomy n keys.length with hlt | rfl | hgt
      · rw [List.getElem?_append_left hlt]
        have hother : keys[n]? ≠ some last := fun hn => hmem (List.mem_of_getElem? hn)
        simp [hother, Nat.ne_of_gt hlt]
      · simp
      · have hlength : (keys ++ [last]).length ≤ n := by simp; omega
        simp [List.getElem?_eq_none hlength, Nat.ne_of_lt hgt]
    · rename_i hne
      rw [hranks]
      rcases Nat.lt_trichotomy n keys.length with hlt | rfl | hgt
      · rw [List.getElem?_append_left hlt]
      · simp [hne]
      · have hlength : (keys ++ [last]).length ≤ n := by simp; omega
        have hshort : keys.length ≤ n := Nat.le_of_lt hgt
        simp [List.getElem?_eq_none hlength, List.getElem?_eq_none hshort]

/-- A node and everything below it have different identities. -/
theorem nodup_nodesOf (root : Option Cursor) : (nodesOf root).Nodup := by
  cases root with
  | none => exact List.nodup_singleton none
  | some c =>
    exact List.pairwise_map.mpr
      ((Cursor.pairwise_place_subtree c).imp fun hne heq => hne (Option.some.inj heq))

/-- The nodes that a limit admits, in document order. -/
def admitted (root : Option Cursor) (limit : Option Int) : List NodeKey :=
  match limit with
  | none => nodesOf root
  | some n => (nodesOf root).take n.toNat

theorem nodup_admitted (root : Option Cursor) (limit : Option Int) : (admitted root limit).Nodup := by
  cases limit with
  | none => exact nodup_nodesOf root
  | some n => exact (nodup_nodesOf root).sublist (List.take_sublist _ _)

/-- A limit can be counted up to if it is not negative and not too large. -/
def Countable (limit : Option Int) : Prop :=
  ∀ n, limit = some n → 0 ≤ n ∧ n ≤ maxLimit

theorem ofTreeCounted_of_countable {limit : Option Int} (root : Option Cursor)
    (h : Countable limit) : ofTreeCounted root limit = .ok (ofNodes (admitted root limit)) := by
  cases limit with
  | none => rfl
  | some n =>
    rw [ofTreeCounted, checkedLimit, if_pos (h n rfl)]
    rfl

theorem ofTreeCounted_of_not_countable {limit : Option Int} (root : Option Cursor)
    (h : ¬Countable limit) : ofTreeCounted root limit = .error badLimit := by
  cases limit with
  | none => exact absurd (fun n hn => by cases hn) h
  | some n =>
    have hbad : ¬(0 ≤ n ∧ n ≤ maxLimit) := fun hgood => h fun m hm => Option.some.inj hm ▸ hgood
    rw [ofTreeCounted, checkedLimit, if_neg hbad]
    rfl

end Arena

/-! ## Steps -/

/-- What is done with an arena and with the memos that share it. -/
inductive Filing (α : Type) where
  /-- A node is asked for its number. -/
  | number (key : NodeKey)
  /-- A node is looked up in a memo. -/
  | lookup (memo : Nat) (key : NodeKey)
  /-- A value about a node is stored in a memo. -/
  | store (memo : Nat) (key : NodeKey) (value : α)

/-- An arena and the memos that share it. -/
structure Files (α : Type) where
  /-- The numbers of the nodes. -/
  arena : Arena
  /-- The memos, each under a number of its own. -/
  memos : Nat → Memo α := fun _ => {}

variable {α : Type}

/-- The value that a step stores about a node in a memo. -/
def Filing.stored? (memo : Nat) (key : NodeKey) : Filing α → Option α
  | store other node value => if other = memo ∧ node = key then some value else none
  | _ => none

/-- The value stored last about a node in a memo. -/
def lastStored? (steps : List (Filing α)) (memo : Nat) (key : NodeKey) : Option α :=
  steps.reverse.findSome? (Filing.stored? memo key)

theorem lastStored?_append (steps : List (Filing α)) (step : Filing α) (memo : Nat)
    (key : NodeKey) : lastStored? (steps ++ [step]) memo key =
      (step.stored? memo key).or (lastStored? steps memo key) := by
  rw [lastStored?, List.reverse_append, List.reverse_singleton, List.singleton_append,
    List.findSome?_cons]
  cases step.stored? memo key <;> rfl

namespace Files

/-- The number of a node, given out if it has none yet. -/
def number (files : Files α) (key : NodeKey) : Nat × Files α :=
  let (n, arena) := files.arena.number key
  (n, { files with arena })

/-- What a memo remembers about a node. -/
def lookup (files : Files α) (memo : Nat) (key : NodeKey) : Option α × Files α :=
  let (value, arena) := (files.memos memo).lookup files.arena key
  (value, { files with arena })

/-- Has a memo remember a value about a node. -/
def store (files : Files α) (memo : Nat) (key : NodeKey) (value : α) : Files α :=
  let (changed, arena) := (files.memos memo).store files.arena key value
  ⟨arena, Function.update files.memos memo changed⟩

/-- The files after a step. -/
def step (files : Files α) : Filing α → Files α
  | .number key => (files.number key).2
  | .lookup memo key => (files.lookup memo key).2
  | .store memo key value => files.store memo key value

/-- The files after some steps. -/
def run (files : Files α) (steps : List (Filing α)) : Files α :=
  steps.foldl step files

/-- What the look-ups among some steps find, in order. -/
def found (files : Files α) : List (Filing α) → List (Option α)
  | [] => []
  | .lookup memo key :: rest =>
    (files.lookup memo key).1 :: found (files.step (.lookup memo key)) rest
  | s :: rest => found (files.step s) rest

theorem run_append (files : Files α) (first second : List (Filing α)) :
    files.run (first ++ second) = (files.run first).run second :=
  List.foldl_append

/-! ## What a step keeps -/

/-- The numbers are in order, and the memos hold these values. -/
structure Holds (files : Files α) (values : Nat → NodeKey → Option α) : Prop where
  sound : files.arena.Sound
  gapless : files.arena.Gapless
  within : ∀ memo, (files.memos memo).Within files.arena
  read : ∀ memo key, (files.memos memo).read files.arena key = values memo key

namespace Holds

variable {files : Files α} {values : Nat → NodeKey → Option α}

/-- Giving out a number is not noticed. -/
theorem number (h : files.Holds values) (key : NodeKey) : (files.number key).2.Holds values where
  sound := Arena.sound_number h.sound key
  gapless := Arena.gapless_number h.gapless key
  within memo := Memo.within_number (h.within memo) key
  read memo other := (Memo.read_number (h.within memo) key other).trans (h.read memo other)

/-- A look-up finds the value, and gives out a number at most. -/
theorem lookup (h : files.Holds values) (memo : Nat) (key : NodeKey) :
    files.lookup memo key = (values memo key, (files.number key).2) := by
  rw [Files.lookup, Memo.lookup_eq (h.within memo), h.read]
  rfl

/-- What is stored is held from then on, and everything else as before. -/
theorem store (h : files.Holds values) (memo : Nat) (key : NodeKey) (value : α) :
    (files.store memo key value).Holds fun other node =>
      if memo = other ∧ key = node then some value else values other node where
  sound := Arena.sound_number h.sound key
  gapless := Arena.gapless_number h.gapless key
  within other := by
    by_cases hmemo : other = memo
    · subst hmemo
      simp only [Files.store, Function.update_self]
      exact Memo.within_store h.sound (h.within other) key value
    · simp only [Files.store, Function.update_of_ne hmemo]
      exact Memo.within_number (h.within other) key
  read other node := by
    by_cases hmemo : other = memo
    · subst hmemo
      simp only [Files.store, Function.update_self, true_and]
      rw [← h.read other node]
      exact Memo.read_store h.sound (h.within other) key node value
    -- The entries of other memos stay, and the number that was given out changes nothing in them.
    · simp only [Files.store, Function.update_of_ne hmemo, Ne.symm hmemo, false_and, if_false]
      rw [← h.read other node]
      exact Memo.read_number (h.within other) key node

theorem step (h : files.Holds values) (s : Filing α) :
    (files.step s).Holds fun memo key => (s.stored? memo key).or (values memo key) := by
  cases s with
  | number key => exact h.number key
  | lookup memo key =>
    rw [Files.step, h.lookup]
    exact h.number key
  | store memo key value =>
    have hstore := h.store memo key value
    have hvalues : (fun other node => ((Filing.store memo key value).stored? other node).or
        (values other node)) =
          fun other node => if memo = other ∧ key = node then some value else values other node := by
      funext other node
      rw [Filing.stored?]
      split <;> rfl
    rw [hvalues]
    exact hstore

/-! ## What a run keeps -/

/-- After a run the values stored last are held, and before it those of the start. -/
theorem run (h : files.Holds values) (steps : List (Filing α)) :
    (files.run steps).Holds fun memo key => (lastStored? steps memo key).or (values memo key) := by
  induction steps using List.reverseRecOn with
  | nil => exact h
  | append_singleton steps s ih =>
    have hstep := ih.step s
    simp only [← Option.or_assoc, ← lastStored?_append] at hstep
    rw [run_append]
    exact hstep

/-- A step takes no number back. -/
theorem getElem?_step (h : files.Holds values) (s : Filing α) {key : NodeKey} {n : Nat}
    (hn : files.arena.numbers[key]? = some n) : (files.step s).arena.numbers[key]? = some n := by
  cases s with
  | number other => exact Arena.getElem?_number_of_some other hn
  | lookup memo other =>
    rw [Files.step, h.lookup]
    exact Arena.getElem?_number_of_some other hn
  | store memo other value => exact Arena.getElem?_number_of_some other hn

/-- Neither does a run. -/
theorem getElem?_run (h : files.Holds values) (steps : List (Filing α)) {key : NodeKey} {n : Nat}
    (hn : files.arena.numbers[key]? = some n) : (files.run steps).arena.numbers[key]? = some n := by
  induction steps using List.reverseRecOn with
  | nil => exact hn
  | append_singleton steps s ih =>
    rw [run_append]
    exact (h.run steps).getElem?_step s ih

/-- Files that hold the same values give the same answers to all look-ups. -/
theorem found_eq {other : Files α} (h : files.Holds values) (hother : other.Holds values)
    (steps : List (Filing α)) : other.found steps = files.found steps := by
  induction steps generalizing files other values with
  | nil => rfl
  | cons s rest ih =>
    have hrest := ih (h.step s) (hother.step s)
    cases s with
    | number key => exact hrest
    | store memo key value => exact hrest
    | lookup memo key => rw [Files.found, Files.found, h.lookup, hother.lookup, hrest]

end Holds

/-! ## Files on a tree -/

/-- Files without entries, in which a tree is numbered up to a limit. -/
def ofTree (α : Type) (root : Option Cursor) (limit : Option Int) : Except Fault (Files α) :=
  (Arena.ofTreeCounted root limit).map fun arena => { arena }

theorem holds_of_ofNodes (keys : List NodeKey) :
    Holds (α := α) { arena := Arena.ofNodes keys } fun _ _ => none where
  sound := Arena.sound_foldl_number Arena.sound_empty keys
  gapless := Arena.gapless_ofNodes keys
  within _ := Memo.within_empty _
  read _ key := Memo.read_empty _ key

/-- Files behave as maps after some steps, `ranked` being the nodes that were numbered in advance. -/
structure BehaveAsMaps (files : Files α) (ranked : List NodeKey) (steps : List (Filing α)) :
    Prop where
  /-- The nodes numbered in advance have their ranks. -/
  rank (i : Nat) (key : NodeKey) : ranked[i]? = some key → files.arena.numbers[key]? = some i
  /-- A node that has a number has it for good. -/
  lasting (key : NodeKey) (n : Nat) (more : List (Filing α)) :
    files.arena.numbers[key]? = some n → (files.run more).arena.numbers[key]? = some n
  /-- What a node is told is its number from then on, and it was so before if it had one. -/
  told (key : NodeKey) : (files.number key).2.arena.numbers[key]? = some (files.number key).1 ∧
    ∀ n, files.arena.numbers[key]? = some n → (files.number key).1 = n
  /-- No two nodes share a number. -/
  distinct (key other : NodeKey) (n : Nat) : files.arena.numbers[key]? = some n →
    files.arena.numbers[other]? = some n → key = other
  /-- The numbers in use are those below the size. -/
  inUse (n : Nat) : (∃ key : NodeKey, files.arena.numbers[key]? = some n) ↔ n < files.arena.size
  /-- A look-up finds the value that was stored last, about this node and in this memo. -/
  remembered (memo : Nat) (key : NodeKey) :
    (files.lookup memo key).1 = lastStored? steps memo key

theorem Holds.behaveAsMaps {start : Files α} (h : start.Holds fun _ _ => none)
    {ranked : List NodeKey}
    (hranked : ∀ i (key : NodeKey), ranked[i]? = some key → start.arena.numbers[key]? = some i)
    (steps : List (Filing α)) : (start.run steps).BehaveAsMaps ranked steps := by
  have hrun := h.run steps
  refine {
    rank := fun i key hkey => h.getElem?_run steps (hranked i key hkey)
    lasting := fun key n more hn => hrun.getElem?_run more hn
    told := fun key => ⟨?_, fun n hn => ?_⟩
    distinct := fun key other n hkey hother => hrun.sound.injective hkey hother
    inUse := fun n => ⟨fun ⟨key, hkey⟩ => hrun.sound.lt_size hkey, hrun.gapless n⟩
    remembered := fun memo key => ?_ }
  · rw [Files.number, Arena.getElem?_number, if_pos rfl]
  · rw [Files.number, Arena.number_of_some hn]
  · rw [hrun.lookup, Option.or_none]

/-- The nodes of a tree are told apart, even those of equal content. The tree is numbered in advance
unless the limit cannot be counted up to, and the nodes that the limit admits get their ranks in
document order. After that, whatever is numbered, looked up and stored, in any number of memos and
about any nodes: numbers stay, are not shared, and have no gaps, and every look-up finds what was
stored last about the node in the memo. So look-ups find the same for any two limits. -/
theorem ofTree_run (root : Option Cursor) (limit : Option Int) :
    (∀ c, root = some c → ∀ d ∈ c.subtree, ∀ e ∈ c.subtree,
      nodeKey (some d) = nodeKey (some e) → d = e) ∧
      (¬Arena.Countable limit → ofTree α root limit = .error Arena.badLimit) ∧
      (Arena.Countable limit → ∃ start, ofTree α root limit = .ok start ∧
        start.arena.size = (Arena.admitted root limit).length ∧
        (∀ steps, (start.run steps).BehaveAsMaps (Arena.admitted root limit) steps) ∧
        ∀ limit' other, ofTree α root limit' = .ok other →
          ∀ steps, other.found steps = start.found steps) := by
  have hstart : ∀ limit', Arena.Countable limit' →
      ofTree α root limit' = .ok { arena := Arena.ofNodes (Arena.admitted root limit') } :=
    fun limit' h => by rw [ofTree, Arena.ofTreeCounted_of_countable root h]; rfl
  have hrefused : ∀ limit', ¬Arena.Countable limit' →
      ofTree α root limit' = .error Arena.badLimit :=
    fun limit' h => by rw [ofTree, Arena.ofTreeCounted_of_not_countable root h]; rfl
  refine ⟨fun c _ d hd e he hkey => ?_, hrefused limit,
    fun hlimit => ⟨_, hstart limit hlimit, ?_, fun steps => ?_, ?_⟩⟩
  · exact Cursor.eq_of_place_eq hd he (Option.some.inj hkey)
  · exact (Arena.getElem?_ofNodes (Arena.nodup_admitted root limit)).1
  · refine (holds_of_ofNodes _).behaveAsMaps (fun i key hkey => ?_) steps
    exact ((Arena.getElem?_ofNodes (Arena.nodup_admitted root limit)).2 key i).mpr hkey
  -- Whatever the limit was, nothing has been stored at the start.
  · intro limit' other hother steps
    by_cases hlimit' : Arena.Countable limit'
    · obtain rfl := Except.ok.inj ((hstart limit' hlimit').symm.trans hother)
      exact (holds_of_ofNodes _).found_eq (holds_of_ofNodes _) steps
    · rw [hrefused limit' hlimit'] at hother
      cases hother

end Files

end Transcript
