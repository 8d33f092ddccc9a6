import Transcript.Conversion.Convert

/-!
# What a session remembers

Numbers and entries are a detour: seen from outside, a memo is a map from nodes to values. A sound
session gives different nodes different numbers and has no entry under a number that is not given
out yet, so numbering a node changes no answer, and storing a value changes the answer for its own
node only.

## Main definitions

- `Arena.Sound`, `Memo.Within`, `Session.Sound`: the numbers are in order
- `Memo.read`: what is remembered about a node
- `Session.textAt?`, `Session.ruleAt?`: the text and the rule that a session remembers

## Main results

- `Arena.sound_ofTree`: a tree is numbered soundly
- `Memo.read_number`, `Memo.read_store`: a memo is a map
- `remembered?_eq`, `Session.textAt?_remember`, `resolve_eq`: the traversal seen through the maps
-/

namespace Transcript

open Markup

/-! ## Numbers -/

namespace Arena

/-- The numbers given out lie below the size, and no two nodes share one. -/
structure Sound (a : Arena) : Prop where
  lt_size : ∀ {key : NodeKey} {n : Nat}, a.numbers[key]? = some n → n < a.size
  injective : ∀ {key key' : NodeKey} {n : Nat},
    a.numbers[key]? = some n → a.numbers[key']? = some n → key = key'

theorem sound_empty : Sound {} where
  lt_size h := by simp at h
  injective h := by simp at h

/-- A node that has a number keeps it, and nothing else changes. -/
theorem number_of_some {a : Arena} {key : NodeKey} {n : Nat} (h : a.numbers[key]? = some n) :
    a.number key = (n, a) := by
  simp [number, h]

theorem number_of_none {a : Arena} {key : NodeKey} (h : a.numbers[key]? = none) :
    a.number key = (a.size, ⟨a.numbers.insert key a.size⟩) := by
  simp [number, h]

theorem getElem?_number (a : Arena) (key key' : NodeKey) :
    (a.number key).2.numbers[key']? =
      if key = key' then some (a.number key).1 else a.numbers[key']? := by
  cases h : a.numbers[key]? with
  | none => simp [number_of_none h, Std.HashMap.getElem?_insert]
  -- A node that has a number keeps it, so only the answer for its own key is spelled out.
  | some n =>
    by_cases hkey : key = key'
    · subst hkey
      simp [number_of_some h, h]
    · simp [number_of_some h, hkey]

theorem size_number (a : Arena) (key : NodeKey) :
    (a.number key).2.size = if a.numbers[key]?.isSome then a.size else a.size + 1 := by
  cases h : a.numbers[key]? with
  | none =>
    have hmem : key ∉ a.numbers := by simpa using h
    simp [number_of_none h, size, Std.HashMap.size_insert, hmem]
  | some n => simp [number_of_some h]

theorem size_le_size_number (a : Arena) (key : NodeKey) : a.size ≤ (a.number key).2.size := by
  rw [size_number]
  split <;> omega

theorem sound_number {a : Arena} (ha : a.Sound) (key : NodeKey) : (a.number key).2.Sound := by
  cases h : a.numbers[key]? with
  | some n => simpa [number_of_some h] using ha
  | none =>
    -- The new number is the old size, which no other node has.
    have hfresh : ∀ {other : NodeKey} {n : Nat}, a.numbers[other]? = some n → n ≠ a.size :=
      fun hn =>
      Nat.ne_of_lt (ha.lt_size hn)
    constructor
    -- Every number lies below the new size: the new one by being the old size, the others before.
    · intro other n hn
      rw [getElem?_number, number_of_none h] at hn
      rw [size_number, h]
      split at hn
      · simp only [Option.some.injEq] at hn
        simp [← hn]
      · simpa using Nat.lt_succ_of_lt (ha.lt_size hn)
    -- No number is shared: the new number is fresh, and the old ones were not shared.
    · intro first second n hfirst hsecond
      rw [getElem?_number, number_of_none h] at hfirst hsecond
      split at hfirst <;> split at hsecond
      · simp_all
      · simp only [Option.some.injEq] at hfirst
        exact absurd hfirst.symm (hfresh hsecond)
      · simp only [Option.some.injEq] at hsecond
        exact absurd hsecond.symm (hfresh hfirst)
      · exact ha.injective hfirst hsecond

theorem sound_foldl_number {a : Arena} (ha : a.Sound) (keys : List NodeKey) :
    (keys.foldl (fun a key => (a.number key).2) a).Sound := by
  induction keys generalizing a with
  | nil => exact ha
  | cons key rest ih => exact ih (sound_number ha key)

/-- A tree is numbered soundly, however few of its nodes are. -/
theorem sound_ofTree (root : Option Cursor) (limit : Option Nat) : (ofTree root limit).Sound := by
  cases limit with
  | none => exact sound_foldl_number sound_empty _
  | some n => exact sound_foldl_number sound_empty _

end Arena

/-! ## Memos -/

namespace Memo

variable {α : Type}

/-- All entries are filed under numbers given out. -/
def Within (m : Memo α) (a : Arena) : Prop :=
  ∀ {n : Nat} {value : α}, m.entries[n]? = some value → n < a.size

/-- What is remembered about a node. -/
def read (m : Memo α) (a : Arena) (key : NodeKey) : Option α :=
  a.numbers[key]?.bind fun n => m.entries[n]?

theorem within_empty (a : Arena) : Within ({} : Memo α) a := by
  intro n value h
  simp at h

@[simp] theorem read_empty (a : Arena) (key : NodeKey) : ({} : Memo α).read a key = none := by
  simp [read]

theorem entry_size {m : Memo α} {a : Arena} (hm : m.Within a) : m.entries[a.size]? = none := by
  cases h : m.entries[a.size]? with
  | none => rfl
  | some value => exact absurd (hm h) (Nat.lt_irrefl _)

/-- The entry under the number of a node is what is remembered about the node. -/
theorem lookup_eq {m : Memo α} {a : Arena} (hm : m.Within a) (key : NodeKey) :
    m.lookup a key = (m.read a key, (a.number key).2) := by
  cases h : a.numbers[key]? with
  -- A new number has no entry, so nothing is found under it.
  | none => simp [lookup, read, Arena.number_of_none h, h, entry_size hm]
  | some n => simp [lookup, read, Arena.number_of_some h, h]

theorem within_number {m : Memo α} {a : Arena} (hm : m.Within a) (key : NodeKey) :
    m.Within (a.number key).2 :=
  fun h => Nat.lt_of_lt_of_le (hm h) (Arena.size_le_size_number a key)

/-- Giving out a number changes nothing that is remembered. -/
theorem read_number {m : Memo α} {a : Arena} (hm : m.Within a) (key key' : NodeKey) :
    m.read (a.number key).2 key' = m.read a key' := by
  simp only [read, Arena.getElem?_number]
  split
  · rename_i heq
    subst heq
    cases h : a.numbers[key]? with
    | none => simp [Arena.number_of_none h, entry_size hm]
    | some n => simp [Arena.number_of_some h]
  · rfl

theorem store_eq (m : Memo α) (a : Arena) (key : NodeKey) (value : α) :
    m.store a key value = (⟨m.entries.insert (a.number key).1 value⟩, (a.number key).2) := rfl

theorem number_lt_size {a : Arena} (ha : a.Sound) (key : NodeKey) :
    (a.number key).1 < (a.number key).2.size := by
  have hself : (a.number key).2.numbers[key]? = some (a.number key).1 := by
    simp [Arena.getElem?_number]
  exact (Arena.sound_number ha key).lt_size hself

theorem within_store {m : Memo α} {a : Arena} (ha : a.Sound) (hm : m.Within a) (key : NodeKey)
    (value : α) : (m.store a key value).1.Within (a.number key).2 := by
  intro n other h
  rw [store_eq, Std.HashMap.getElem?_insert] at h
  -- The entry is the new one, or it was there before.
  split at h
  · rename_i heq
    rw [beq_iff_eq] at heq
    exact heq ▸ number_lt_size ha key
  · exact within_number hm key h

/-- What was stored is remembered of its own node, and all else stays. -/
theorem read_store {m : Memo α} {a : Arena} (ha : a.Sound) (hm : m.Within a) (key key' : NodeKey)
    (value : α) :
    (m.store a key value).1.read (a.number key).2 key' =
      if key = key' then some value else m.read a key' := by
  by_cases hkey : key = key'
  · subst hkey
    simp [read, Arena.getElem?_number, store_eq]
  · rw [if_neg hkey, ← read_number hm key key']
    simp only [read, Arena.getElem?_number, if_neg hkey, store_eq]
    cases h : a.numbers[key']? with
    | none => rfl
    | some n =>
      -- Another node has another number, so its entry is untouched.
      have hne : (a.number key).1 ≠ n := by
        intro heq
        have hself : (a.number key).2.numbers[key]? = some n := by
          simp [Arena.getElem?_number, heq]
        have hother : (a.number key).2.numbers[key']? = some n := by
          simp [Arena.getElem?_number, hkey, h]
        exact hkey ((Arena.sound_number ha key).injective hself hother)
      simp [Std.HashMap.getElem?_insert, hne]

end Memo

/-! ## Sessions -/

@[simp] theorem nodeKey_some (c : Cursor) : nodeKey (some c) = some c.place := rfl

namespace Session

/-- The numbers and the entries of a session are in order. -/
structure Sound (s : Session) : Prop where
  arena : s.arena.Sound
  resolutions : s.resolutions.Within s.arena
  texts : s.texts.Within s.arena

/-- The text that is remembered of a node. -/
def textAt? (s : Session) (key : NodeKey) : Option String :=
  s.texts.read s.arena key

/-- The rule, or the lack of one, that is remembered of a node. -/
def ruleAt? (s : Session) (key : NodeKey) : Option (Option Rule) :=
  s.resolutions.read s.arena key

/-- The session after a node got its number. -/
def number (s : Session) (key : NodeKey) : Session :=
  { s with arena := (s.arena.number key).2 }

/-- The session after the rule of a node was found. -/
def keepRule (s : Session) (key : NodeKey) (rule : Option Rule) : Session :=
  { s with
    resolutions := (s.resolutions.store s.arena key rule).1
    arena := (s.arena.number key).2 }

theorem sound_start (setting : Setting) (root : Option Cursor) :
    (start setting root).Sound where
  arena := Arena.sound_ofTree root (some (setting.options.maxVisits + 1))
  resolutions := Memo.within_empty _
  texts := Memo.within_empty _

/-! ### Numbering a node -/

theorem sound_number {s : Session} (hs : s.Sound) (key : NodeKey) : (s.number key).Sound where
  arena := Arena.sound_number hs.arena key
  resolutions := Memo.within_number hs.resolutions key
  texts := Memo.within_number hs.texts key

theorem textAt?_number {s : Session} (hs : s.Sound) (key key' : NodeKey) :
    (s.number key).textAt? key' = s.textAt? key' :=
  Memo.read_number hs.texts key key'

theorem ruleAt?_number {s : Session} (hs : s.Sound) (key key' : NodeKey) :
    (s.number key).ruleAt? key' = s.ruleAt? key' :=
  Memo.read_number hs.resolutions key key'

/-- A node whose text is remembered has its number already. -/
theorem number_of_textAt? {s : Session} {key : NodeKey} {text : String}
    (h : s.textAt? key = some text) : s.number key = s := by
  simp only [textAt?, Memo.read, Option.bind_eq_some_iff] at h
  obtain ⟨n, hn, -⟩ := h
  simp [number, Arena.number_of_some hn]

/-! ### Keeping a rule -/

theorem sound_keepRule {s : Session} (hs : s.Sound) (key : NodeKey) (rule : Option Rule) :
    (s.keepRule key rule).Sound where
  arena := Arena.sound_number hs.arena key
  resolutions := Memo.within_store hs.arena hs.resolutions key rule
  texts := Memo.within_number hs.texts key

theorem textAt?_keepRule {s : Session} (hs : s.Sound) (key key' : NodeKey) (rule : Option Rule) :
    (s.keepRule key rule).textAt? key' = s.textAt? key' :=
  Memo.read_number hs.texts key key'

theorem ruleAt?_keepRule {s : Session} (hs : s.Sound) (key key' : NodeKey) (rule : Option Rule) :
    (s.keepRule key rule).ruleAt? key' = if key = key' then some rule else s.ruleAt? key' :=
  Memo.read_store hs.arena hs.resolutions key key' rule

end Session

/-! ### Remembering a text -/

theorem Session.sound_remember {s : Session} (hs : s.Sound) (node : Option Cursor)
    (text : String) : (remember node text s).Sound where
  arena := Arena.sound_number hs.arena _
  resolutions := Memo.within_number hs.resolutions _
  texts := Memo.within_store hs.arena hs.texts _ text

theorem Session.textAt?_remember {s : Session} (hs : s.Sound) (node : Option Cursor)
    (text : String) (key : NodeKey) :
    (remember node text s).textAt? key =
      if nodeKey node = key then some text else s.textAt? key :=
  Memo.read_store hs.arena hs.texts (nodeKey node) key text

theorem Session.ruleAt?_remember {s : Session} (hs : s.Sound) (node : Option Cursor)
    (text : String) (key : NodeKey) : (remember node text s).ruleAt? key = s.ruleAt? key :=
  Memo.read_number hs.resolutions (nodeKey node) key

/-! ### Asking -/

theorem remembered?_eq {s : Session} (hs : s.Sound) (node : Option Cursor) :
    remembered? node s = (s.textAt? (nodeKey node), s.number (nodeKey node)) := by
  simp [remembered?, Memo.lookup_eq hs.texts, Session.textAt?, Session.number]

/-- A rule is remembered, or else looked for and kept. -/
theorem resolve_eq {s : Session} (hs : s.Sound) (setting : Setting) (c : Cursor) :
    resolve setting c s =
      match s.ruleAt? (some c.place) with
      | some rule => (.ok rule, s.number (some c.place))
      | none =>
        match setting.rules.find c with
        | .error fault => (.error fault, s.number (some c.place))
        | .ok rule => (.ok rule, (s.number (some c.place)).keepRule (some c.place) rule) := by
  simp only [resolve, RuleTable.findRemembered, nodeKey_some, Memo.lookup_eq hs.resolutions,
    Session.ruleAt?]
  cases s.resolutions.read s.arena (some c.place) with
  | some rule => rfl
  | none =>
    cases setting.rules.find c with
    | error fault => rfl
    | ok rule => rfl

end Transcript
