import Transcript.Proofs.Formula.Likeness
import Transcript.Proofs.Markup.Respelling
import Transcript.Proofs.Platform.Motion
import Transcript.Proofs.Platform.Script

/-!
# What adapters see in respelled trees

Adapters look around by selectors, which go by names up to case, and they read texts, attributes and
names in lower case. So in a respelled tree a built-in adapter finds the language of code that it
found before, and it recovers formulas alike. Two things show how names are written: the first
formula below a node is looked for under the name `math` as it is written, and markup that is kept
holds all the names in it.

## Main results

- `Adapter.isBlockMath_respell`: whether a formula stands on its own
- `Adapter.recoversAlike_respell`: formulas are recovered alike
- `Adapter.codeLanguage_respell`: the language of code is found alike
-/

namespace Transcript.Adapter

open Markup Cursor Formula

variable {a : Adapter} {s : Spelling} {tree : Nat} {page : Node} {c : Cursor}

/-! ## Formulas -/

theorem isBlockMath_respell (ha : a.overrides = {})
    (hl : Likeness (· ∈ (root tree page).subtree) (respell s)) (h : c ∈ (root tree page).subtree)
    (hdocument : ∀ x ∈ c.ancestors, NamedAlike (respell s) documentName x) :
    a.isBlockMath (c.respell s) = a.isBlockMath c := by
  have habove : (c.respell s).findAncestor?
      (fun x => x.node.hasClass a.profile.displayClasses) =
        (c.findAncestor? fun x => x.node.hasClass a.profile.displayClasses).map (respell s) :=
    findAncestor?_respell hdocument fun x hx => by
      have habove : x ∈ c.ancestors := (List.takeWhile_sublist _).subset hx
      rw [(hl.reads (mem_subtree_of_mem_ancestors h habove)).hasClass]
  have hmarked : a.isMarkedDisplay (c.respell s) = a.isMarkedDisplay c := by
    rw [isMarkedDisplay, (hl.reads h).hasClass, habove, Option.isSome_map, isMarkedDisplay]
  simp only [isBlockMath, ha, hmarked]
  split
  · rfl
  · split
    · rfl
    · rename_i selector hselector
      rw [(findText?_respell selector hl h).eq]
      cases c.findText? selector with
      | error fault => rfl
      | ok found => cases found <;> rfl

/-- Where the first formula below a node is the same, it comes to the same. -/
theorem formulaNode?_respell (hl : Likeness (· ∈ (root tree page).subtree) (respell s))
    (h : c ∈ (root tree page).subtree)
    (hmath : c.node.tagName ≠ "math" → ∀ d ∈ c.descendants, NamedAlike (respell s) "math" d) :
    (formulaNode? (c.respell s)).map (latexOfMathMl defaultMaxNesting) =
      (formulaNode? c).map (latexOfMathMl defaultMaxNesting) := by
  rw [formulaNode?, (hl.reads h).tagName, formulaNode?]
  split
  · exact congrArg some (latexOfMathMl_likeness hl h defaultMaxNesting)
  · rename_i hname
    have hfind : (c.respell s).find? ["math"] = (c.find? ["math"]).map (respell s) := by
      refine hl.find? h fun name hmem d hd => ?_
      rw [List.mem_singleton.mp hmem]
      exact hmath (by simpa using hname) d hd
    rw [hfind]
    cases hfound : c.find? ["math"] with
    | none => rfl
    | some d =>
      have hbelow := hl.of_mem_descendants h (List.mem_of_find?_eq_some hfound)
      exact congrArg some (latexOfMathMl_likeness hl hbelow defaultMaxNesting)

/-- A built-in adapter recovers a formula alike in a respelled tree, unless it keeps the markup. -/
theorem recoversAlike_respell (ha : a ∈ builtinAdapters)
    (hl : Likeness (· ∈ (root tree page).subtree) (respell s)) (h : c ∈ (root tree page).subtree)
    (helement : c.node.isElement = true)
    (hdocument : ∀ x ∈ c.ancestors, NamedAlike (respell s) documentName x)
    (hmath : c.node.tagName ≠ "math" → ∀ d ∈ c.descendants, NamedAlike (respell s) "math" d)
    (hmarkup : a.keepsMarkup c = false) : a.RecoversAlike c (c.respell s) := by
  have hoverrides := overrides_of_mem_builtin ha
  have hreads : a.ReadsAlike c (c.respell s) := {
    reads := hl.reads h
    display := by rw [isBlockMath_respell hoverrides hl h hdocument]
    source := by
      intro selector _
      obtain ⟨hmoved, hinside⟩ := findText?_respell selector hl h
      rw [hmoved]
      rcases hfound : c.findText? selector with fault | _ | d
      · rfl
      · rfl
      · exact congrArg (Except.ok ∘ some) (hl.reads (hinside d hfound)).flatText
    formula := formulaNode?_respell hl h hmath }
  exact hreads.recovers hoverrides helement (isBlockMath_ok ha helement) hmarkup

/-! ## Code -/

/-- The language of code is found alike in a respelled tree. -/
theorem codeLanguage_respell (ha : a.overrides = {})
    (hl : Likeness (· ∈ (root tree page).subtree) (respell s))
    (h : c ∈ (root tree page).subtree) : a.codeLanguage (c.respell s) = a.codeLanguage c :=
  codeLanguage_move hl ha h (fun selector _ => closestText?_respell selector h)
    (fun pair _ => closestText?_respell pair.1 h) fun pair _ _ hd =>
      selectOneText?_respell pair.2 hl hd

end Transcript.Adapter
