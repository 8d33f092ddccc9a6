import Transcript.Proofs.Markup.Strings
import Transcript.Proofs.Render.Indentation

/-!
# The code of a block

A block of code shows the text of one element: the node itself if it is code, or else the first code
below it. Fences and normalisation leave this text as it was, but for blanks. What stands in further
code below the node is shown only if the node is code itself, and is dropped otherwise. So a block
shows all of its code exactly if it is code itself, or nothing is visible in the code behind the
first one.

## Main definitions

- `shown`: what is visible of the text of a node

## Main results

- `shown_findAll_sublist`: all code in a code element is part of its text
- `codeBlock_shows_code_iff`: when a block shows all of its code
-/

namespace Transcript.Render

open Markup
open Chars (visible)

variable {c code : Cursor}

/-- What is visible of the text of a node. -/
def shown (node : Node) : List Char :=
  visible node.flatText.toList

theorem shown_eq_nil_iff {node : Node} :
    shown node = [] ↔ Text.isAllBlank node.flatText = true :=
  Chars.visible_eq_nil_iff

/-! ## The code that is rendered -/

theorem codeElement?_of_tagName (h : c.node.tagName = "code") : codeElement? c = some c := by
  simp [codeElement?, h]

/-- Outside of code, the first code below is rendered. -/
theorem codeElement?_of_findAll {first : Cursor} {rest : List Cursor}
    (h : c.node.tagName ≠ "code") (hcodes : c.findAll "code" = first :: rest) :
    codeElement? c = some first := by
  have hfirst : c.find? ["code"] = some first := by
    rw [← Cursor.head?_findAll, hcodes]
    rfl
  simp [codeElement?, h, hfirst]

/-! ## Code in code -/

theorem name_notMem_reservedOwners {node : Node} (h : node.tagName = "code") :
    node.name ∉ reservedOwners := by
  have howners : ∀ name ∈ reservedOwners, Text.lower name ≠ "code" := by decide
  intro hmem
  exact howners _ hmem h

/-- The text of a code element holds that of all code in it, in document order, as long as no such
code stands in other such code. -/
theorem shown_findAll_sublist (h : c.node.tagName = "code")
    (hapart : ∀ d ∈ c.findAll "code", ∀ e ∈ c.findAll "code", e ∉ d.descendants) :
    ((c.findAll "code").flatMap fun d => shown d.node).Sublist (shown c.node) := by
  -- The node and the code in it count the same character data as text.
  have hkinds : ∀ d ∈ c.findAll "code",
      Node.countsAsText d.node.name = Node.countsAsText c.node.name := by
    intro d hd
    have hcode : d.node.name ∉ reservedOwners := by
      rw [(Cursor.mem_findAll_iff.mp hd).2.2]
      decide
    exact Node.countsAsText_congr hcode (name_notMem_reservedOwners h)
  have htexts : ((c.findAll "code").flatMap fun d => d.node.flatText.toList) =
      ((c.findAll "code").flatMap fun d =>
        d.node.strings (Node.countsAsText c.node.name)).flatMap String.toList := by
    rw [List.flatMap_assoc]
    apply List.flatMap_congr
    intro d hd
    rw [Node.toList_flatText, hkinds d hd]
  have hvisible : ((c.findAll "code").flatMap fun d => shown d.node) =
      visible ((c.findAll "code").flatMap fun d => d.node.flatText.toList) :=
    List.filter_flatMap.symm
  rw [hvisible, htexts, shown, Node.toList_flatText]
  apply List.Sublist.filter
  exact (Cursor.strings_findAll_sublist hapart).flatMap String.toList

/-- The rendered element shows all code below the node exactly if it is the node itself, or nothing
is visible in the code behind the first one. -/
theorem shown_findAll_sublist_iff (hcode : codeElement? c = some code)
    (hapart : ∀ d ∈ c.findAll "code", ∀ e ∈ c.findAll "code", e ∉ d.descendants) :
    ((c.findAll "code").flatMap fun d => shown d.node).Sublist (shown code.node) ↔
      c.node.tagName = "code" ∨
        ∀ d ∈ (c.findAll "code").tail, Text.isAllBlank d.node.flatText = true := by
  by_cases htag : c.node.tagName = "code"
  · obtain rfl : c = code := Option.some.inj ((codeElement?_of_tagName htag).symm.trans hcode)
    exact iff_of_true (shown_findAll_sublist htag hapart) (.inl htag)
  · cases hcodes : c.findAll "code" with
    | nil => simp
    | cons first rest =>
      obtain rfl : first = code :=
        Option.some.inj ((codeElement?_of_findAll htag hcodes).symm.trans hcode)
      -- The first code is shown already, so there is room for the others only if they show nothing.
      have hothers : (shown first.node ++ rest.flatMap fun d => shown d.node).Sublist
          (shown first.node) ↔ (rest.flatMap fun d => shown d.node) = [] := by
        constructor
        · intro hsub
          have hlength := hsub.length_le
          rw [List.length_append] at hlength
          exact List.eq_nil_of_length_eq_zero (by omega)
        · intro hnone
          rw [hnone, List.append_nil]
      rw [List.flatMap_cons, hothers, List.flatMap_eq_nil_iff]
      simp only [shown_eq_nil_iff, htag, false_or, List.tail_cons]

/-! ## Blocks of code -/

/-- Whatever is rendered for a block is the normalised text of its element between fences. -/
theorem text_of_outcome_codeBlock {a : Adapter} {depth : Nat} {options : Options}
    {content text : String} {ask : Option Cursor → String} (hcode : codeElement? c = some code)
    (h : (codeBlock ⟨c, depth, a, options⟩ content).outcome ask = .ok text) :
    ∃ language, a.codeLanguage code = .ok language ∧
      text = fenced language (normalizeCode code.node.flatText) := by
  cases hlanguage : a.codeLanguage code with
  | error fault =>
    simp only [codeBlock, hcode, Scene.codeLanguage, hlanguage] at h
    cases h
  | ok language =>
    rw [outcome_codeBlock hcode hlanguage] at h
    exact ⟨language, rfl, (Except.ok.inj h).symm⟩

/-- A block of code is always rendered by the built-in adapters, and whatever adapter renders it,
the normalised text of one element is put between the fences. It shows what all code below the node
shows exactly if the node is code itself, or the code behind the first one is blank. -/
theorem codeBlock_shows_code_iff {rule : Rule}
    (hfind : RuleTable.standard.find c = .ok (some rule)) (hname : rule.name = "code-block")
    (hapart : ∀ d ∈ c.findAll "code", ∀ e ∈ c.findAll "code", e ∉ d.descendants) :
    (∀ a ∈ builtinAdapters, ∀ depth options content ask, ∃ text,
        (rule.replacement ⟨c, depth, a, options⟩ content).outcome ask = .ok text) ∧
      ∀ a depth options content ask text,
        (rule.replacement ⟨c, depth, a, options⟩ content).outcome ask = .ok text →
          ∃ code language, codeElement? c = some code ∧ a.codeLanguage code = .ok language ∧
            text = fenced language (normalizeCode code.node.flatText) ∧
            (((c.findAll "code").flatMap fun d => shown d.node).Sublist
                (visible (normalizeCode code.node.flatText).toList) ↔
              c.node.tagName = "code" ∨
                ∀ d ∈ (c.findAll "code").tail, Text.isAllBlank d.node.flatText = true) := by
  have hmem : codeBlockRule ∈ standardRules := mem_standardRules_iff.mpr (.inl .codeBlock)
  obtain ⟨rfl, haccepts⟩ := eq_of_find hmem hfind hname
  obtain ⟨code, hcode, helement⟩ := exists_codeElement?_eq (Except.ok.inj haccepts)
  constructor
  · intro a ha depth options content ask
    obtain ⟨-, language, -, hlanguage, -⟩ :=
      exists_codeLanguage_eq (isLocal_of_mem_builtin ha) helement
    exact ⟨_, outcome_codeBlock hcode hlanguage depth options content ask⟩
  · intro a depth options content ask text htext
    obtain ⟨language, hlanguage, hfenced⟩ := text_of_outcome_codeBlock hcode htext
    refine ⟨code, language, hcode, hlanguage, hfenced, ?_⟩
    rw [visible_normalizeCode]
    exact shown_findAll_sublist_iff hcode hapart

/-- Preformatted text with two pieces of code in it. -/
def twoCodes : Cursor :=
  .root 0 (.element "pre" []
    [.element "code" [] [.leaf .plain "a"], .element "code" [] [.leaf .plain "b"]])

/-- The block shows the first one only. -/
theorem codeBlock_shows_code_iff_twoCodes :
    RuleTable.standard.find twoCodes = .ok (some codeBlockRule) ∧
      (∀ d ∈ twoCodes.findAll "code", ∀ e ∈ twoCodes.findAll "code", e ∉ d.descendants) ∧
      (codeBlock ⟨twoCodes, 0, .chatGPT, {}⟩ "").outcome (fun _ => "") =
        .ok "\x60\x60\x60\na\n\x60\x60\x60\n\n" ∧
      ¬((twoCodes.findAll "code").flatMap fun d => shown d.node).Sublist
        (visible (normalizeCode "a").toList) := by
  have hfind : RuleTable.standard.find twoCodes = .ok (some codeBlockRule) := by
    rw [find_standard]
    rfl
  have hapart : ∀ d ∈ twoCodes.findAll "code", ∀ e ∈ twoCodes.findAll "code",
      e ∉ d.descendants := by
    have hlevel : ∀ d ∈ twoCodes.findAll "code", d.above.length = 1 := by decide
    intro d hd e he hbelow
    have hlower := Cursor.length_above_lt_of_mem_descendants hbelow
    rw [hlevel d hd, hlevel e he] at hlower
    exact Nat.lt_irrefl 1 hlower
  have houtcome : (codeBlock ⟨twoCodes, 0, .chatGPT, {}⟩ "").outcome (fun _ => "") =
      .ok "\x60\x60\x60\na\n\x60\x60\x60\n\n" := by
    rfl
  obtain ⟨code, language, hcode, -, -, hiff⟩ :=
    (codeBlock_shows_code_iff hfind rfl hapart).2 .chatGPT 0 {} "" _ _ houtcome
  obtain rfl := Option.some.inj hcode
  refine ⟨hfind, hapart, houtcome, fun hshown => ?_⟩
  rcases hiff.mp hshown with htag | hblank
  · exact absurd htag (by decide)
  · exact absurd hblank (by decide)

end Transcript.Render
