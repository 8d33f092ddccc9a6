import Mathlib.Data.List.Nodup
import Transcript.Document.Noise

/-!
# Passes over a tree that changes

A pass decides for each node below the root whether it stays, and otherwise what is left of it. To
replace one node is a pass, and two passes one after the other are a pass. So are any number of
replacements, whatever they have replaced before.

The nodes to replace are found by numbers. No number is given out twice, and a pass brings no
numbers in, so what is found under a number is the node that the number was given to.

## Main definitions

- `Numbered.passBelow`: a pass over the nodes below the root
- `Numbered.Distinct`: a tree in which no number stands for two nodes

## Main results

- `Numbered.passBelow_passBelow`: two passes one after the other
- `Numbered.foldl_replaceBelow`: replacements one after another
- `Numbered.Distinct.mem_findBelow_iff`: what is found by a test
- `Numbered.distinct_numbered`: numbers are given out once
-/

namespace Transcript

open Markup

/-! ## Passes -/

namespace Markup.Numbered

/-- What a pass leaves of a node: the node itself, unless there is something else to become of it. -/
def keptBy : Option NoiseMode → Numbered → List Numbered
  | none, tree => [tree]
  | some mode, tree => mode.leftover tree

mutual

/-- Each node below the root is kept, or becomes what is decided about its number and about what
it was when the number was given out. -/
def passBelow (decide : Nat → Node → Option NoiseMode) : Numbered → Numbered
  | .mk own origin children => .mk own origin (passAmong decide children)

/-- The same for siblings and for the nodes below them. -/
def passAmong (decide : Nat → Node → Option NoiseMode) : List Numbered → List Numbered
  | [] => []
  | tree :: rest =>
    keptBy (decide tree.number tree.origin) (passBelow decide tree) ++ passAmong decide rest

end

variable {d e : Nat → Node → Option NoiseMode}

theorem passBelow_eq (d : Nat → Node → Option NoiseMode) (tree : Numbered) :
    passBelow d tree = .mk tree.number tree.origin (passAmong d tree.children) := by
  cases tree
  rfl

theorem passAmong_append (d : Nat → Node → Option NoiseMode) (trees others : List Numbered) :
    passAmong d (trees ++ others) = passAmong d trees ++ passAmong d others := by
  induction trees with
  | nil => rfl
  | cons tree rest ih => rw [List.cons_append, passAmong, passAmong, ih, List.append_assoc]

/-- A node that stays can still be changed by a later pass. What was put into the place of a node is
changed by it like everything else. -/
theorem passAmong_keptBy (d e : Nat → Node → Option NoiseMode) (tree : Numbered)
    (h : passAmong e (passAmong d tree.children) =
      passAmong (fun n o => (d n o).or (e n o)) tree.children) :
    passAmong e (keptBy (d tree.number tree.origin) (passBelow d tree)) =
      keptBy ((d tree.number tree.origin).or (e tree.number tree.origin))
        (passBelow (fun n o => (d n o).or (e n o)) tree) := by
  rw [passBelow_eq, passBelow_eq, ← h]
  cases d tree.number tree.origin with
  | none =>
    show passAmong e [_] = keptBy (e tree.number tree.origin) _
    rw [passAmong, passAmong, List.append_nil, passBelow_eq]
    rfl
  | some mode =>
    cases mode with
    | unwrap => rfl
    | extract => rfl
    | decompose => rfl

mutual

/-- Two passes one after the other are one pass, in which the first decision counts. -/
theorem passBelow_passBelow (d e : Nat → Node → Option NoiseMode) (tree : Numbered) :
    passBelow e (passBelow d tree) = passBelow (fun n o => (d n o).or (e n o)) tree := by
  cases tree with
  | mk own origin children =>
    show Numbered.mk own origin _ = Numbered.mk own origin _
    rw [passAmong_passAmong d e children]

theorem passAmong_passAmong (d e : Nat → Node → Option NoiseMode) (trees : List Numbered) :
    passAmong e (passAmong d trees) = passAmong (fun n o => (d n o).or (e n o)) trees := by
  cases trees with
  | nil => rfl
  | cons tree rest =>
    have hbelow := congrArg Numbered.children (passBelow_passBelow d e tree)
    rw [passBelow_eq, passBelow_eq, passBelow_eq] at hbelow
    rw [passAmong, passAmong_append, passAmong_keptBy d e tree hbelow,
      passAmong_passAmong d e rest, passAmong]

end

mutual

/-- A pass that decides nothing changes nothing. -/
theorem passBelow_none (tree : Numbered) : passBelow (fun _ _ => none) tree = tree := by
  cases tree with
  | mk own origin children =>
    show Numbered.mk own origin _ = _
    rw [passAmong_none children]

theorem passAmong_none (trees : List Numbered) : passAmong (fun _ _ => none) trees = trees := by
  cases trees with
  | nil => rfl
  | cons tree rest =>
    show passBelow _ tree :: passAmong _ rest = _
    rw [passBelow_none tree, passAmong_none rest]

end

/-! ## One element after another -/

/-- The decision about a single number. -/
def aboutNumber (number : Nat) (mode : NoiseMode) : Nat → Node → Option NoiseMode :=
  fun n _ => if n = number then some mode else none

mutual

theorem replaceBelow_eq (number : Nat) (mode : NoiseMode) (tree : Numbered) :
    tree.replaceBelow number mode.leftover = passBelow (aboutNumber number mode) tree := by
  cases tree with
  | mk own origin children =>
    show Numbered.mk own origin _ = Numbered.mk own origin _
    rw [replaceAmong_eq number mode children]

theorem replaceAmong_eq (number : Nat) (mode : NoiseMode) (trees : List Numbered) :
    replaceAmong number mode.leftover trees = passAmong (aboutNumber number mode) trees := by
  cases trees with
  | nil => rfl
  | cons tree rest =>
    rw [replaceAmong, passAmong, replaceBelow_eq number mode tree, replaceAmong_eq number mode rest,
      aboutNumber]
    split
    · rfl
    · rfl

end

/-- Replacing nodes one after another is a pass that decides about all of them. -/
theorem foldl_replaceBelow (mode : NoiseMode) (numbers : List Nat) (tree : Numbered) :
    numbers.foldl (fun tree number => tree.replaceBelow number mode.leftover) tree =
      passBelow (fun n _ => if n ∈ numbers then some mode else none) tree := by
  induction numbers generalizing tree with
  | nil => exact (passBelow_none tree).symm
  | cons number rest ih =>
    rw [List.foldl_cons, ih, replaceBelow_eq, passBelow_passBelow]
    congr 1
    funext n o
    by_cases hn : n = number
    · simp [aboutNumber, hn]
    · simp [aboutNumber, hn]

/-! ## Numbers -/

mutual

/-- The nodes below the root, in document order: the number of each, and what it was when the number
was given out. -/
def entriesBelow : Numbered → List (Nat × Node)
  | .mk _ _ children => entriesAmong children

/-- The same for siblings and for the nodes below them. -/
def entriesAmong : List Numbered → List (Nat × Node)
  | [] => []
  | tree :: rest => (tree.number, tree.origin) :: (entriesBelow tree ++ entriesAmong rest)

end

theorem entriesAmong_append (trees others : List Numbered) :
    entriesAmong (trees ++ others) = entriesAmong trees ++ entriesAmong others := by
  induction trees with
  | nil => rfl
  | cons tree rest ih => simp [entriesAmong, ih]

mutual

theorem findBelow_eq (p : Node → Bool) (tree : Numbered) :
    tree.findBelow p = ((entriesBelow tree).filter fun entry => p entry.2).map Prod.fst := by
  cases tree with
  | mk own origin children => exact findAmong_eq p children

theorem findAmong_eq (p : Node → Bool) (trees : List Numbered) :
    findAmong p trees = ((entriesAmong trees).filter fun entry => p entry.2).map Prod.fst := by
  cases trees with
  | nil => rfl
  | cons tree rest =>
    rw [findAmong, findBelow_eq p tree, findAmong_eq p rest, entriesAmong, List.filter_cons,
      List.filter_append]
    cases p tree.origin with
    | true => simp
    | false => simp

end

mutual

/-- A pass depends on what is decided about the nodes that are there. -/
theorem passBelow_congr (tree : Numbered)
    (h : ∀ entry ∈ entriesBelow tree, d entry.1 entry.2 = e entry.1 entry.2) :
    passBelow d tree = passBelow e tree := by
  cases tree with
  | mk own origin children =>
    show Numbered.mk own origin _ = Numbered.mk own origin _
    rw [passAmong_congr children h]

theorem passAmong_congr (trees : List Numbered)
    (h : ∀ entry ∈ entriesAmong trees, d entry.1 entry.2 = e entry.1 entry.2) :
    passAmong d trees = passAmong e trees := by
  cases trees with
  | nil => rfl
  | cons tree rest =>
    obtain ⟨hroot, hothers⟩ := List.forall_mem_cons.mp h
    obtain ⟨hbelow, hrest⟩ := List.forall_mem_append.mp hothers
    rw [passAmong, passAmong, hroot, passBelow_congr tree hbelow, passAmong_congr rest hrest]

end

mutual

/-- A pass brings no nodes in. -/
theorem entriesBelow_passBelow_sublist (d : Nat → Node → Option NoiseMode) (tree : Numbered) :
    (entriesBelow (passBelow d tree)).Sublist (entriesBelow tree) := by
  cases tree with
  | mk own origin children => exact entriesAmong_passAmong_sublist d children

theorem entriesAmong_passAmong_sublist (d : Nat → Node → Option NoiseMode)
    (trees : List Numbered) : (entriesAmong (passAmong d trees)).Sublist (entriesAmong trees) := by
  cases trees with
  | nil => exact .slnil
  | cons tree rest =>
    have hbelow := entriesBelow_passBelow_sublist d tree
    rw [passAmong, entriesAmong_append, entriesAmong, ← List.cons_append]
    apply List.Sublist.append _ (entriesAmong_passAmong_sublist d rest)
    rw [passBelow_eq] at hbelow ⊢
    cases d tree.number tree.origin with
    | none =>
      show (entriesAmong [_]).Sublist _
      rw [entriesAmong, entriesAmong, List.append_nil]
      exact hbelow.cons_cons _
    | some mode =>
      cases mode with
      | unwrap => exact hbelow.cons _
      | extract => exact List.nil_sublist _
      | decompose => exact List.nil_sublist _

end

/-- No two nodes below the root have the same number. -/
def Distinct (tree : Numbered) : Prop :=
  ((entriesBelow tree).map Prod.fst).Nodup

theorem Distinct.passBelow {tree : Numbered} (h : tree.Distinct)
    (d : Nat → Node → Option NoiseMode) : (passBelow d tree).Distinct :=
  h.sublist ((entriesBelow_passBelow_sublist d tree).map Prod.fst)

/-- Among distinct numbers, those that are found belong to the nodes that satisfy the test. -/
theorem Distinct.mem_findBelow_iff {tree : Numbered} (h : tree.Distinct) {p : Node → Bool}
    {entry : Nat × Node} (hentry : entry ∈ entriesBelow tree) :
    entry.1 ∈ tree.findBelow p ↔ p entry.2 = true := by
  rw [findBelow_eq, List.mem_map]
  constructor
  · rintro ⟨other, hother, hnumber⟩
    obtain ⟨hother, hp⟩ := List.mem_filter.mp hother
    rwa [← List.inj_on_of_nodup_map h hother hentry hnumber]
  · intro hp
    exact ⟨entry, List.mem_filter.mpr ⟨hentry, hp⟩, rfl⟩

/-! ## Giving out numbers -/

mutual

/-- Numbers are given out one after another, and none twice. -/
theorem exists_entriesBelow_numberFrom (next : Nat) (node : Node) :
    ∃ k, (node.numberFrom next).2 = next + 1 + k ∧ (node.numberFrom next).1.number = next ∧
      (entriesBelow (node.numberFrom next).1).map Prod.fst = List.range' (next + 1) k := by
  cases node with
  | leaf kind text => exact ⟨0, rfl, rfl, rfl⟩
  | element name attributes children =>
    obtain ⟨k, hfree, hnumbers⟩ := exists_entriesAmong_numberAllFrom (next + 1) children
    exact ⟨k, hfree, rfl, hnumbers⟩
  | document children =>
    obtain ⟨k, hfree, hnumbers⟩ := exists_entriesAmong_numberAllFrom (next + 1) children
    exact ⟨k, hfree, rfl, hnumbers⟩

theorem exists_entriesAmong_numberAllFrom (next : Nat) (nodes : List Node) :
    ∃ k, (Node.numberAllFrom next nodes).2 = next + k ∧
      (entriesAmong (Node.numberAllFrom next nodes).1).map Prod.fst = List.range' next k := by
  cases nodes with
  | nil => exact ⟨0, rfl, rfl⟩
  | cons node rest =>
    obtain ⟨k, hfree, hnumber, hbelow⟩ := exists_entriesBelow_numberFrom next node
    obtain ⟨l, hfree', hrest⟩ :=
      exists_entriesAmong_numberAllFrom (node.numberFrom next).2 rest
    refine ⟨k + l + 1, ?_, ?_⟩
    · show (Node.numberAllFrom (node.numberFrom next).2 rest).2 = _
      rw [hfree', hfree]
      omega
    · show Prod.fst (_, _) :: ((entriesBelow (node.numberFrom next).1 ++
        entriesAmong (Node.numberAllFrom (node.numberFrom next).2 rest).1).map Prod.fst) = _
      rw [List.map_append, hnumber, hbelow, hrest, hfree, List.range'_append_1, List.range'_succ]

end

theorem distinct_numbered (node : Node) : node.numbered.Distinct := by
  obtain ⟨k, -, -, hnumbers⟩ := exists_entriesBelow_numberFrom 0 node
  rw [Distinct, Node.numbered, hnumbers]
  exact List.nodup_range'

mutual

theorem node_numberFrom (next : Nat) (node : Node) : (node.numberFrom next).1.node = node := by
  cases node with
  | leaf kind text => rfl
  | element name attributes children =>
    show Node.element name attributes _ = _
    rw [nodes_numberAllFrom (next + 1) children]
  | document children =>
    show Node.document _ = _
    rw [nodes_numberAllFrom (next + 1) children]

theorem nodes_numberAllFrom (next : Nat) (nodes : List Node) :
    Numbered.nodes (Node.numberAllFrom next nodes).1 = nodes := by
  cases nodes with
  | nil => rfl
  | cons node rest =>
    show Numbered.node _ :: Numbered.nodes _ = _
    rw [node_numberFrom next node, nodes_numberAllFrom _ rest]

end

end Markup.Numbered

end Transcript
