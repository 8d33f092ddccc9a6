import Transcript.Proofs.Markup.Motion
import Transcript.Proofs.Platform.Conduct

/-!
# What adapters see

To recover a formula, an adapter reads the node, and looks for some elements below it. Whether the
formula stands on its own is asked for too, but is not written down. The language of code is looked
for at the code and at elements around it. So where the searches find what reads the same before and
after a motion, or in a likeness, the adapter says the same; only the markup that is kept of a
formula without a source shows more of the node than is read.

## Main definitions

- `LatexResult.written`, `Adapter.RecoversAlike`: what counts of a recovered formula
- `Adapter.keepsMarkup`: a formula without a source, of which the markup is kept
- `Adapter.ReadsAlike`: from two nodes the sources of a formula read the same
- `Adapter.SeesAlike`: and the nodes are the same themselves

## Main results

- `Adapter.ReadsAlike.firstAcceptable`: where the sources read the same the same one is acceptable
- `Adapter.ReadsAlike.recovers`: and an adapter recovers alike, unless it keeps the markup
- `Adapter.SeesAlike.recovers`: where an adapter sees the same it recovers alike
- `Adapter.codeLanguage_move`: the language of code in a likeness
-/

namespace Transcript

open Markup Cursor

/-! ## Formulas -/

/-- What counts of a recovered formula where it is written down. -/
def LatexResult.written (r : LatexResult) : String × Bool :=
  (r.latex, r.isMarkup)

namespace Adapter

/-- What counts of an attempt to recover a formula. -/
def offered (attempt : Except Fault (Option LatexResult)) :
    Except Fault (Option (String × Bool)) :=
  attempt.map (Option.map LatexResult.written)

/-- The content of what a search found. -/
def content (found : Except Fault (Option Cursor)) : Except Fault (Option Node) :=
  found.map (Option.map Cursor.node)

/-- Two searches of which the same counts fail alike, or find nothing, or find what counts the
same. -/
theorem cases_of_alike {α β : Type} {counted : α → β} {found moved : Except Fault (Option α)}
    (h : moved.map (Option.map counted) = found.map (Option.map counted)) :
    (∃ fault, found = .error fault ∧ moved = .error fault) ∨
      (found = .ok none ∧ moved = .ok none) ∨
      ∃ r r', found = .ok (some r) ∧ moved = .ok (some r') ∧ counted r' = counted r := by
  rcases found with fault | _ | r <;> rcases moved with fault' | _ | r' <;> try cases h
  · exact .inl ⟨fault, rfl, rfl⟩
  · exact .inr (.inl ⟨rfl, rfl⟩)
  · exact .inr (.inr ⟨r, r', rfl, rfl, Option.some.inj (Except.ok.inj h)⟩)

/-- What is found moves along, so its content is the same. -/
theorem content_moves {p : Cursor → Prop} {f : Cursor → Cursor} (hm : Motion p f)
    {found moved : Except Fault (Option Cursor)} (h : MovesTo p f found moved) :
    content moved = content found := by
  obtain ⟨rfl, hinside⟩ := h
  rcases found with fault | _ | d
  · rfl
  · rfl
  · exact congrArg (Except.ok ∘ some) (hm.node (hinside d rfl))

/-- An adapter recovers alike from two nodes, as far as it is written down. -/
structure RecoversAlike (a : Adapter) (c c' : Cursor) : Prop where
  trace : (a.extractLatex c').trace = (a.extractLatex c).trace
  outcome : offered (a.extractLatex c').outcome = offered (a.extractLatex c).outcome

/-- The selectors by which an adapter looks for the source of a formula. -/
def sourceSelectors (a : Adapter) : List String :=
  [texSource, "." ++ placeholderClass] ++ a.profile.glyphSelector.toList

/-- From two nodes an adapter reads the same. -/
structure SeesAlike (a : Adapter) (c c' : Cursor) : Prop where
  node : c'.node = c.node
  /-- Whether the formula stands on its own can be said of both, or of none. -/
  display : (a.isBlockMath c').map (fun _ => ()) = (a.isBlockMath c).map fun _ => ()
  source : ∀ selector ∈ a.sourceSelectors,
    content (c'.findText? selector) = content (c.findText? selector)
  formula : (c'.find? ["math"]).map Cursor.node = (c.find? ["math"]).map Cursor.node

/-- Whether the markup of a node is kept for want of a source. -/
def keepsMarkup (a : Adapter) (c : Cursor) : Bool :=
  (a.extractLatex c).outcome.toOption.join.any LatexResult.isMarkup

/-- The formula that a node is, or the first one below it. -/
def formulaNode? (c : Cursor) : Option Node :=
  if c.node.tagName == "math" then some c.node else (c.find? ["math"]).map Cursor.node

/-- From two nodes the sources of a formula read the same. -/
structure ReadsAlike (a : Adapter) (c c' : Cursor) : Prop where
  reads : c'.node.ReadsAs c.node
  /-- Whether the formula stands on its own can be said of both, or of none. -/
  display : (a.isBlockMath c').map (fun _ => ()) = (a.isBlockMath c).map fun _ => ()
  source : ∀ selector ∈ a.sourceSelectors,
    (content (c'.findText? selector)).map (Option.map Node.flatText) =
      (content (c.findText? selector)).map (Option.map Node.flatText)
  formula : (formulaNode? c').map (Formula.latexOfMathMl Formula.defaultMaxNesting) =
    (formulaNode? c).map (Formula.latexOfMathMl Formula.defaultMaxNesting)

/-- What is offered where the text of a node is a candidate, unless it is empty. -/
def offeredFrom (read : Node → Except Fault String)
    (offer : String → Except Fault (Option (String × Bool))) :
    Except Fault (Option Node) → Except Fault (Option (String × Bool))
  | .error fault => .error fault
  | .ok none => .ok none
  | .ok (some node) =>
    match read node with
    | .error fault => .error fault
    | .ok latex => if latex == "" then .ok none else offer latex

/-- What is offered depends on what is read alone. -/
theorem offeredFrom_congr {α : Type} {read : Node → Except Fault String}
    {offer : String → Except Fault (Option (String × Bool))} {counted : Node → α}
    {found moved : Except Fault (Option Node)}
    (h : moved.map (Option.map counted) = found.map (Option.map counted))
    (hread : ∀ node node', counted node' = counted node → read node' = read node) :
    offeredFrom read offer moved = offeredFrom read offer found := by
  obtain ⟨fault, rfl, rfl⟩ | ⟨rfl, rfl⟩ | ⟨node, node', rfl, rfl, hcounted⟩ := cases_of_alike h
  · rfl
  · rfl
  · rw [offeredFrom, hread node node' hcounted, offeredFrom]

section

variable (a : Adapter) (c : Cursor)

theorem offered_fromAnnotated : offered (a.fromAnnotated c) =
    offeredFrom (fun node => .ok (Text.trim node.flatText))
      (fun latex => offered (a.candidate c .annotated latex)) (content (c.findText? texSource)) := by
  unfold fromAnnotated
  rcases c.findText? texSource with fault | _ | found
  · rfl
  · rfl
  · show offered (if _ then _ else _) = if _ then _ else _
    split <;> rfl

theorem offered_fromKatexError : offered (a.fromKatexError c) =
    offeredFrom (fun node => .ok (placeholderSource node.flatText))
      (fun latex => if Text.contains "\\begin\x7b" latex then .ok (some (latex, false))
        else offered (a.candidate c .katexError latex))
      (if c.node.hasClass [placeholderClass] then .ok (some c.node)
        else content (c.findText? ("." ++ placeholderClass))) := by
  have hcontent : (if c.node.hasClass [placeholderClass] then .ok (some c.node)
      else content (c.findText? ("." ++ placeholderClass))) =
        content (if c.node.hasClass [placeholderClass] then .ok (some c)
          else c.findText? ("." ++ placeholderClass)) := by
    split <;> rfl
  rw [hcontent]
  unfold fromKatexError
  dsimp only
  rcases (if c.node.hasClass [placeholderClass] then .ok (some c)
      else c.findText? ("." ++ placeholderClass) : Except Fault (Option Cursor))
    with fault | _ | found
  · rfl
  · rfl
  · dsimp only [content, Except.map, Option.map_some, offeredFrom]
    split
    · rfl
    · split <;> rfl

theorem offered_fromMathMl : offered (a.fromMathMl c) =
    offeredFrom (fun node => Formula.latexOfMathMl Formula.defaultMaxNesting node)
      (fun latex => offered (a.candidate c .mathMl latex)) (.ok (formulaNode? c)) := by
  have hcontent : formulaNode? c =
      (if c.node.tagName == "math" then some c else c.find? ["math"]).map Cursor.node := by
    unfold formulaNode?
    split <;> rfl
  rw [hcontent]
  unfold fromMathMl
  dsimp only
  cases (if c.node.tagName == "math" then some c else c.find? ["math"]) with
  | none => rfl
  | some formula =>
    simp only [Option.map_some, offeredFrom]
    cases Formula.latexOfMathMl Formula.defaultMaxNesting formula.node with
    | error fault => rfl
    | ok latex =>
      dsimp only
      split <;> rfl

theorem offered_fromText (ha : a.overrides = {}) : offered (a.fromText c) =
    offeredFrom (fun node => .ok (Text.trim node.flatText))
      (fun latex => offered (a.candidate c .text latex))
      (match a.profile.glyphSelector with
        | none => .ok (some c.node)
        | some selector => (content (c.findText? selector)).map fun found =>
            some (found.getD c.node)) := by
  have hcontent : (match a.profile.glyphSelector with
      | none => .ok (some c.node)
      | some selector => (content (c.findText? selector)).map fun found =>
          some (found.getD c.node)) = (a.textSource c).map fun source => some source.node := by
    simp only [textSource, ha]
    cases a.profile.glyphSelector with
    | none => rfl
    | some selector =>
      dsimp only
      rcases c.findText? selector with fault | _ | found <;> rfl
  rw [hcontent]
  unfold fromText
  cases a.textSource c with
  | error fault => rfl
  | ok source =>
    show offered (if _ then _ else _) = if _ then _ else _
    split <;> rfl

end

/-- The first acceptable candidate is the same, and so are the reports, where each strategy offers the
same. -/
theorem firstAcceptable_congr {a : Adapter} {c c' : Cursor}
    {entries : List (LatexSource × LatexStrategy)}
    (h : ∀ entry ∈ entries, offered (entry.2 c') = offered (entry.2 c)) :
    (a.firstAcceptable c' entries).trace = (a.firstAcceptable c entries).trace ∧
      offered (a.firstAcceptable c' entries).outcome =
        offered (a.firstAcceptable c entries).outcome := by
  induction entries with
  | nil => exact ⟨rfl, rfl⟩
  | cons entry rest ih =>
    obtain ⟨source, strategy⟩ := entry
    have hrest := ih fun other hother => h other (List.mem_cons_of_mem _ hother)
    have hentry : offered (strategy c') = offered (strategy c) := h _ List.mem_cons_self
    unfold Adapter.firstAcceptable
    generalize strategy c' = attempt' at hentry ⊢
    generalize strategy c = attempt at hentry ⊢
    obtain ⟨fault, rfl, rfl⟩ | ⟨rfl, rfl⟩ | ⟨result, other, rfl, rfl, hwritten⟩ :=
      cases_of_alike hentry
    · exact ⟨congrArg (_ ++ ·) hrest.1, hrest.2⟩
    · exact hrest
    · have hlatex : other.latex = result.latex := congrArg Prod.fst hwritten
      dsimp only
      rw [hlatex]
      -- An acceptable candidate is written down alike.
      cases a.validateLatex result.latex with
      | error fault => exact ⟨rfl, rfl⟩
      | ok accepted =>
        cases accepted with
        | true => exact ⟨rfl, hentry⟩
        | false => exact hrest

namespace ReadsAlike

variable {a : Adapter} {c c' : Cursor}

theorem candidate (h : a.ReadsAlike c c') (source : LatexSource) (latex : String) :
    offered (a.candidate c' source latex) = offered (a.candidate c source latex) := by
  have hdisplay := h.display
  unfold Adapter.candidate
  cases hc : a.isBlockMath c with
  | error fault =>
    cases hc' : a.isBlockMath c' with
    | error other =>
      rw [hc, hc'] at hdisplay
      rw [Except.error.inj hdisplay]
    | ok b => rw [hc, hc'] at hdisplay; cases hdisplay
  | ok b =>
    cases hc' : a.isBlockMath c' with
    | error other => rw [hc, hc'] at hdisplay; cases hdisplay
    | ok other => rfl

/-- Each strategy offers the same. -/
theorem strategy (h : a.ReadsAlike c c') (ha : a.overrides = {}) (source : LatexSource) :
    offered (a.strategy source c') = offered (a.strategy source c) := by
  have hcandidate : ∀ source, (fun latex => offered (a.candidate c' source latex)) =
      fun latex => offered (a.candidate c source latex) := fun source => funext (h.candidate source)
  simp only [Adapter.strategy, ha]
  cases source with
  | annotated =>
    have hfound := h.source texSource (by simp [sourceSelectors])
    rw [offered_fromAnnotated, offered_fromAnnotated, hcandidate]
    exact offeredFrom_congr hfound fun node node' htext => by rw [htext]
  | attr =>
    simp only [fromAttribute, h.reads.trimmedAttribute]
    split
    · rfl
    · exact h.candidate _ _
  | katexError =>
    have hfound := h.source ("." ++ placeholderClass) (by simp [sourceSelectors])
    simp only [offered_fromKatexError, h.candidate, h.reads.hasClass]
    refine @offeredFrom_congr _ _ _ Node.flatText _ _ ?_ fun node node' htext => by rw [htext]
    split
    · exact congrArg (Except.ok ∘ some) h.reads.flatText
    · exact hfound
  | mathMl =>
    rw [offered_fromMathMl, offered_fromMathMl, hcandidate]
    exact offeredFrom_congr (congrArg Except.ok h.formula) fun node node' hlatex => hlatex
  | text =>
    rw [offered_fromText a c' ha, offered_fromText a c ha, hcandidate]
    refine @offeredFrom_congr _ _ _ Node.flatText _ _ ?_ fun node node' htext => by rw [htext]
    cases hglyph : a.profile.glyphSelector with
    | none => exact congrArg (Except.ok ∘ some) h.reads.flatText
    | some selector =>
      have hfound := h.source selector (by simp [sourceSelectors, hglyph])
      dsimp only
      obtain ⟨fault, hc, hc'⟩ | ⟨hc, hc'⟩ | ⟨node, node', hc, hc', htext⟩ := cases_of_alike hfound
      · rw [hc, hc']
        rfl
      -- Where there are no glyphs, the text is that of the node.
      · rw [hc, hc']
        exact congrArg (Except.ok ∘ some) h.reads.flatText
      · rw [hc, hc']
        exact congrArg (Except.ok ∘ some) htext
  | markup => rfl

/-- Of the sources the same one is acceptable, with the same reports. -/
theorem firstAcceptable (h : a.ReadsAlike c c') (ha : a.overrides = {}) :
    ∃ strategies, a.strategies = .ok strategies ∧
      (a.firstAcceptable c' strategies).trace = (a.firstAcceptable c strategies).trace ∧
      offered (a.firstAcceptable c' strategies).outcome =
        offered (a.firstAcceptable c strategies).outcome := by
  refine ⟨chain.map fun source => (source, a.strategy source), by simp only [strategies, ha],
    firstAcceptable_congr fun entry hentry => ?_⟩
  obtain ⟨source, -, rfl⟩ := List.mem_map.mp hentry
  exact h.strategy ha source

/-- Where the sources read the same an adapter recovers alike, unless it keeps the markup. -/
theorem recovers (h : a.ReadsAlike c c') (ha : a.overrides = {})
    (helement : c.node.isElement = true) (hblock : ∃ isBlock, a.isBlockMath c = .ok isBlock)
    (hmarkup : a.keepsMarkup c = false) : a.RecoversAlike c c' := by
  obtain ⟨strategies, hstrategies, htrace, hoffered⟩ := h.firstAcceptable ha
  have helement' : c'.node.isElement = true := h.reads.isElement.trans helement
  have hboth : (a.extractLatex c').trace = (a.extractLatex c).trace ∧
      offered (a.extractLatex c').outcome = offered (a.extractLatex c).outcome := by
    simp only [keepsMarkup, extractLatex, ha, helement, helement', hstrategies, if_true]
      at hmarkup ⊢
    generalize a.firstAcceptable c' _ = found' at htrace hoffered ⊢
    generalize a.firstAcceptable c _ = found at htrace hoffered hmarkup ⊢
    obtain ⟨outcome', trace'⟩ := found'
    obtain ⟨outcome, trace⟩ := found
    obtain rfl : trace' = trace := htrace
    obtain ⟨fault, rfl, rfl⟩ | ⟨rfl, rfl⟩ | ⟨result, other, rfl, rfl, hwritten⟩ :=
      cases_of_alike hoffered
    · exact ⟨rfl, rfl⟩
    -- Where no candidate is acceptable the markup would be kept.
    · obtain ⟨isBlock, hisBlock⟩ := hblock
      simp only [markupFallback, ha, hisBlock, Traced.after, Except.map] at hmarkup
      cases hmarkup
    · exact ⟨rfl, hoffered⟩
  exact ⟨hboth.1, hboth.2⟩

end ReadsAlike

namespace SeesAlike

variable {a : Adapter} {c c' : Cursor}

theorem readsAlike (h : a.SeesAlike c c') : a.ReadsAlike c c' where
  reads := by
    rw [h.node]
    exact .refl c.node
  display := h.display
  source selector hselector := by rw [h.source selector hselector]
  formula := by rw [formulaNode?, h.node, h.formula, formulaNode?]

theorem markupFallback (h : a.SeesAlike c c') (ha : a.overrides = {}) :
    (a.markupFallback c').trace = (a.markupFallback c).trace ∧
      offered ((a.markupFallback c').outcome.map some) =
        offered ((a.markupFallback c).outcome.map some) := by
  have hkept := h.readsAlike.candidate .markup (a.keptMarkup c.node).1
  unfold Adapter.candidate at hkept
  simp only [Adapter.markupFallback, ha, h.node, true_and]
  cases hc : a.isBlockMath c <;> cases hc' : a.isBlockMath c' <;> rw [hc, hc'] at hkept <;>
    exact hkept

/-- Where an adapter sees the same it recovers alike. -/
theorem recovers (h : a.SeesAlike c c') (ha : a.overrides = {}) : a.RecoversAlike c c' := by
  obtain ⟨strategies, hstrategies, htrace, hoffered⟩ := h.readsAlike.firstAcceptable ha
  obtain ⟨hreports, hkept⟩ := h.markupFallback ha
  have hboth : (a.extractLatex c').trace = (a.extractLatex c).trace ∧
      offered (a.extractLatex c').outcome = offered (a.extractLatex c).outcome := by
    simp only [extractLatex, ha, h.node, hstrategies]
    split
    · generalize a.firstAcceptable c' _ = found' at htrace hoffered ⊢
      generalize a.firstAcceptable c _ = found at htrace hoffered ⊢
      obtain ⟨outcome', trace'⟩ := found'
      obtain ⟨outcome, trace⟩ := found
      obtain rfl : trace' = trace := htrace
      -- The markup is kept only where no candidate was acceptable.
      obtain ⟨fault, rfl, rfl⟩ | ⟨rfl, rfl⟩ | ⟨result, other, rfl, rfl, hwritten⟩ :=
        cases_of_alike hoffered
      · exact ⟨rfl, rfl⟩
      · exact ⟨congrArg (trace' ++ ·) hreports, hkept⟩
      · exact ⟨rfl, hoffered⟩
    · exact ⟨rfl, rfl⟩
  exact ⟨hboth.1, hboth.2⟩

end SeesAlike

/-! ## Code -/

section

variable {a : Adapter} {p : Cursor → Prop} {f : Cursor → Cursor} {c : Cursor}

theorem wrappersFrom_move (hl : Likeness p f) (h : p c) {selectors : List String}
    (hs : ∀ selector ∈ selectors,
      MovesTo p f (c.closestText? selector) ((f c).closestText? selector))
    {found : List Cursor} (hfound : ∀ d ∈ found, p d) :
    wrappersFrom (f c) (found.map f) selectors =
        (wrappersFrom c found selectors).map (List.map f) ∧
      ∀ wrappers, wrappersFrom c found selectors = .ok wrappers → ∀ d ∈ wrappers, p d := by
  induction selectors generalizing found with
  | nil => exact ⟨rfl, fun wrappers hwrappers => by cases hwrappers; exact hfound⟩
  | cons selector rest ih =>
    have hrest := fun other hother => hs other (List.mem_cons_of_mem _ hother)
    obtain ⟨hmoved, hinside⟩ := hs selector List.mem_cons_self
    rw [wrappersFrom, hmoved, wrappersFrom]
    rcases hclosest : c.closestText? selector with fault | _ | wrapper
    · exact ⟨rfl, fun wrappers hwrappers => by cases hwrappers⟩
    · exact ih hrest hfound
    · have hwrapper : p wrapper := hinside wrapper hclosest
      -- A wrapper found before is found before afterwards too, since no two nodes become one.
      have hsame : (f wrapper).isSame (f c) = wrapper.isSame c := hl.isSame hwrapper h
      have hany : (found.map f).any (f wrapper).isSame = found.any wrapper.isSame :=
        any_map_of_eq fun d hd => hl.isSame hwrapper (hfound d hd)
      simp only [Except.map, Option.map_some, hsame, hany]
      split
      · exact ih hrest hfound
      · have hmore : ∀ d ∈ found ++ [wrapper], p d := by
          intro d hd
          rcases List.mem_append.mp hd with hd | hd
          · exact hfound d hd
          · exact List.mem_singleton.mp hd ▸ hwrapper
        have hnext := ih hrest hmore
        rwa [List.map_append] at hnext

theorem labelLanguage_move (hl : Likeness p f) {selectors : List (String × String)}
    (hs : ∀ pair ∈ selectors, MovesTo p f (c.closestText? pair.1) ((f c).closestText? pair.1))
    (hlabel : ∀ pair ∈ selectors, ∀ d, p d →
      MovesTo p f (d.selectOneText? pair.2) ((f d).selectOneText? pair.2)) :
    labelLanguage (f c) selectors = labelLanguage c selectors := by
  induction selectors with
  | nil => rfl
  | cons pair rest ih =>
    obtain ⟨container, label⟩ := pair
    have hrest := ih (fun other hother => hs other (List.mem_cons_of_mem _ hother))
      fun other hother => hlabel other (List.mem_cons_of_mem _ hother)
    obtain ⟨hmoved, hinside⟩ := hs _ List.mem_cons_self
    rw [labelLanguage, hmoved, labelLanguage]
    rcases hclosest : c.closestText? container with fault | _ | d
    · rfl
    · exact hrest
    -- The label is looked for from the container, which has been taken along.
    · obtain ⟨hfound, hbelow⟩ := hlabel _ List.mem_cons_self d (hinside d hclosest)
      simp only [Except.map, Option.map_some, hrest, hfound]
      dsimp only at hbelow
      rcases hselected : d.selectOneText? label with fault | _ | e
      · rfl
      · rfl
      · simp only [Option.map_some, (hl.reads (hbelow e hselected)).flatText]

/-- The classes and the attributes of nodes that read alike name the same language. -/
theorem languages_of_reads {nodes : List Cursor} (hl : Likeness p f) (h : ∀ d ∈ nodes, p d) :
    ((nodes.map f).map node).map languageOfClasses ++
        ((nodes.map f).map node).map languageOfAttributes =
      (nodes.map node).map languageOfClasses ++ (nodes.map node).map languageOfAttributes := by
  have hsame : ∀ read : Node → String, (∀ new old : Node, new.ReadsAs old → read new = read old) →
      ((nodes.map f).map node).map read = (nodes.map node).map read := by
    intro read hread
    simp only [List.map_map]
    exact List.map_congr_left fun d hd => hread _ _ (hl.reads (h d hd))
  congr 1
  · exact hsame _ fun new old hreads => by rw [languageOfClasses, hreads.classes, languageOfClasses]
  · exact hsame _ fun new old hreads => by
      rw [languageOfAttributes, hreads.trimmedAttribute, languageOfAttributes]

/-- The language of code is found alike in a likeness. -/
theorem codeLanguage_move (hl : Likeness p f) (ha : a.overrides = {}) (h : p c)
    (hwrapper : ∀ selector ∈ a.profile.codeWrapperSelectors,
      MovesTo p f (c.closestText? selector) ((f c).closestText? selector))
    (hcontainer : ∀ pair ∈ a.profile.codeLabelSelectors,
      MovesTo p f (c.closestText? pair.1) ((f c).closestText? pair.1))
    (hlabel : ∀ pair ∈ a.profile.codeLabelSelectors, ∀ d, p d →
      MovesTo p f (d.selectOneText? pair.2) ((f d).selectOneText? pair.2)) :
    a.codeLanguage (f c) = a.codeLanguage c := by
  obtain ⟨hmoved, hinside⟩ := wrappersFrom_move hl h hwrapper (List.forall_mem_nil _)
  have hwrappers : a.codeWrappers (f c) = (a.codeWrappers c).map (List.map f) := by
    simpa only [codeWrappers, ha, List.map_nil] using hmoved
  have hinside' : ∀ wrappers, a.codeWrappers c = .ok wrappers → ∀ d ∈ wrappers, p d := by
    simpa only [codeWrappers, ha] using hinside
  simp only [codeLanguage, ha, hwrappers, labelLanguage_move hl hcontainer hlabel,
    (hl.reads h).isElement]
  cases hfound : a.codeWrappers c with
  | error fault => rfl
  | ok wrappers =>
    have hnamed := languages_of_reads hl
      (List.forall_mem_cons.mpr ⟨h, hinside' wrappers hfound⟩)
    rw [List.map_cons] at hnamed
    simp only [Except.map, hnamed]

end

end Adapter

end Transcript
