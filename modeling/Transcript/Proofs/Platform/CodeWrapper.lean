import Transcript.Proofs.Markup.Ancestry
import Transcript.Proofs.Markup.Subtree
import Transcript.Proofs.Platform.Locality

/-!
# The order of code wrappers

The wrappers of code are looked for kind by kind: for each selector, the closest element above that
it describes. What is found are different elements above the code, but they are listed in the order
of the selectors, and not in the order in which they enclose the code. The built-in adapters ask for
the closest `pre` element first, and then for the closest element of a block class. So a `pre`
element that encloses a block is listed in front of it although it is farther away, and its class
decides on the language.

## Main definitions

- `Adapter.AreWrappers`: different elements above the code
- `Adapter.PreAroundBlock`: the closest `pre` element encloses the closest block
- `Adapter.PrefersNearer`: of two wrappers that name a language, the nearer one is followed

## Main results

- `Adapter.areWrappers_of_codeWrappers`: wrappers are different elements above the code
- `Adapter.codeWrappers_nearest_iff`: they are listed nearest first, and the nearer one is followed,
  unless a `pre` element encloses a block
-/

namespace Transcript

open Markup

/-! ## What stands above a node, nearest first -/

namespace Markup.Cursor

variable {c d e : Cursor} {ws : List Cursor}

/-- Behind a node of the chain comes what stands above it. -/
theorem exists_ancestors_eq (h : d ∈ c.ancestors) :
    ∃ before, c.ancestors = before ++ d :: d.ancestors := by
  obtain ⟨tree, node, above⟩ := c
  induction above generalizing node with
  | nil => cases h
  | cons step above ih =>
    rcases List.mem_cons.mp h with rfl | hmem
    · exact ⟨[], rfl⟩
    · obtain ⟨before, hbefore⟩ := ih step.parent hmem
      exact ⟨⟨tree, step.parent, above⟩ :: before, congrArg (List.cons _) hbefore⟩

theorem notMem_ancestors_self : c ∉ c.ancestors :=
  fun h => Nat.lt_irrefl _ (length_above_lt_of_mem_ancestors h)

theorem notMem_ancestors_of_mem (h : d ∈ c.ancestors) : c ∉ d.ancestors :=
  fun hc => Nat.lt_asymm (length_above_lt_of_mem_ancestors h) (length_above_lt_of_mem_ancestors hc)

theorem pairwise_ancestors (c : Cursor) :
    c.ancestors.Pairwise fun near far => far ∈ near.ancestors := by
  obtain ⟨tree, node, above⟩ := c
  induction above generalizing node with
  | nil => exact List.Pairwise.nil
  | cons step above ih => exact List.pairwise_cons.mpr ⟨fun far hfar => hfar, ih step.parent⟩

/-- Of two nodes above a node, one stands above the other. -/
theorem ancestors_trichotomy (hd : d ∈ c.ancestors) (he : e ∈ c.ancestors) :
    d = e ∨ e ∈ d.ancestors ∨ d ∈ e.ancestors := by
  obtain ⟨before, hsplit⟩ := exists_ancestors_eq hd
  rw [hsplit] at he
  rcases List.mem_append.mp he with hbefore | hbehind
  · -- What comes in front of a node of the chain stands below it.
    have hpairwise := pairwise_ancestors c
    rw [hsplit] at hpairwise
    exact .inr (.inr ((List.pairwise_append.mp hpairwise).2.2 e hbefore d List.mem_cons_self))
  · rcases List.mem_cons.mp hbehind with rfl | habove
    · exact .inl rfl
    · exact .inr (.inl habove)

/-- Nodes above a node are listed nearest first if each of them stands above all those in front. -/
theorem sublist_ancestors_iff (h : ∀ w ∈ ws, w ∈ c.ancestors) :
    ws.Sublist c.ancestors ↔ ws.Pairwise fun near far => far ∈ near.ancestors := by
  constructor
  · exact fun hsub => List.Pairwise.sublist hsub (pairwise_ancestors c)
  · intro hpairwise
    induction ws generalizing c with
    | nil => exact List.nil_sublist _
    | cons w rest ih =>
      obtain ⟨hw, -⟩ := List.forall_mem_cons.mp h
      obtain ⟨hrest, htail⟩ := List.pairwise_cons.mp hpairwise
      obtain ⟨before, hsplit⟩ := exists_ancestors_eq hw
      rw [hsplit]
      exact ((ih hrest htail).cons_cons w).trans (List.sublist_append_right _ _)

/-- A place belongs to one of the nodes above a node. -/
theorem eq_of_isSame (hd : d ∈ c.ancestors) (he : e ∈ c.ancestors) (h : d.isSame e = true) :
    d = e := by
  have hlength := length_above_eq_of_place_eq (eq_of_beq h)
  rcases ancestors_trichotomy hd he with rfl | habove | habove
  · rfl
  · exact absurd hlength (length_above_lt_of_mem_ancestors habove).ne'
  · exact absurd hlength (length_above_lt_of_mem_ancestors habove).ne

theorem not_isSame_of_mem_ancestors (h : d ∈ c.ancestors) : d.isSame c = false := by
  rw [isSame, beq_eq_false_iff_ne]
  exact fun hplace =>
    (length_above_lt_of_mem_ancestors h).ne (length_above_eq_of_place_eq hplace)

end Markup.Cursor

namespace Selector

variable {s : Selector} {c d : Cursor}

theorem mem_of_closest? (h : s.closest? c = some d) : d = c ∨ d ∈ c.ancestors :=
  List.mem_cons.mp (List.mem_of_find?_eq_some h)

end Selector

namespace Adapter

variable {a : Adapter} {code : Cursor}

/-! ## One kind after another -/

/-- These are different elements above the code. -/
structure AreWrappers (code : Cursor) (found : List Cursor) : Prop where
  above : ∀ w ∈ found, w ∈ code.ancestors
  distinct : (found.map Cursor.place).Nodup

/-- One more kind of wrapper adds an element above the code that is not there yet, if anything. -/
theorem areWrappers_wrappersFrom {selectors : List String} {found wrappers : List Cursor}
    (hfound : AreWrappers code found) (h : wrappersFrom code found selectors = .ok wrappers) :
    AreWrappers code wrappers := by
  induction selectors generalizing found with
  | nil =>
    obtain rfl := Except.ok.inj h
    exact hfound
  | cons selector rest ih =>
    unfold wrappersFrom at h
    split at h
    · cases h
    · exact ih hfound h
    · rename_i w hclosest
      split at h
      · exact ih hfound h
      · rename_i hnew
        obtain ⟨s, hs⟩ := Cursor.exists_search_of_searchText? hclosest
        simp only [Bool.or_eq_true, not_or, Bool.not_eq_true] at hnew
        have habove : w ∈ code.ancestors := by
          rcases Selector.mem_of_closest? hs with rfl | habove
          · exact absurd hnew.1 (by simp [Cursor.isSame])
          · exact habove
        refine ih ⟨fun v hv => ?_, ?_⟩ h
        · rcases List.mem_append.mp hv with hv | hv
          · exact hfound.above v hv
          · rwa [List.mem_singleton.mp hv]
        · rw [List.map_append, List.nodup_append]
          refine ⟨hfound.distinct, by simp, fun place hplace other hother => ?_⟩
          obtain ⟨v, hv, rfl⟩ := List.mem_map.mp hplace
          rw [List.mem_singleton.mp hother]
          have hne := List.any_eq_false.mp hnew.2 v hv
          exact fun heq => hne (by simp [Cursor.isSame, heq])

/-- For each kind, the closest element is added unless it is the code or is there already. -/
theorem wrappersFrom_cons {selector : String} {rest : List String} {found : List Cursor}
    {closest : Option Cursor} (h : code.closestText? selector = .ok closest) :
    wrappersFrom code found (selector :: rest) =
      wrappersFrom code
        (found ++ (closest.filter fun w => !(w.isSame code || found.any w.isSame)).toList)
        rest := by
  rw [wrappersFrom, h]
  cases closest with
  | none => simp
  | some w =>
    dsimp only
    rw [Option.filter_some]
    cases w.isSame code || found.any w.isSame <;> simp

/-- Whatever kinds of wrappers are asked for, different elements above the code are found. -/
theorem areWrappers_of_codeWrappers {wrappers : List Cursor}
    (hoverride : a.overrides.codeWrappers = none) (h : a.codeWrappers code = .ok wrappers) :
    AreWrappers code wrappers := by
  rw [codeWrappers, hoverride] at h
  exact areWrappers_wrappersFrom ⟨fun _ hw => absurd hw List.not_mem_nil, List.nodup_nil⟩ h

/-! ## Two kinds of wrappers -/

/-- The adapter asks for `pre` elements and for elements of this class. -/
structure WrapsIn (a : Adapter) (block : String) : Prop where
  overrides : a.overrides = {}
  selectors : a.profile.codeWrapperSelectors = ["pre", "." ++ block]
  readable : Selector.parse ("." ++ block) = .ok (.hasClass block)

/-- So do the built-in adapters. -/
theorem exists_wrapsIn_of_mem_builtin (h : a ∈ builtinAdapters) : ∃ block, a.WrapsIn block := by
  have hoverrides := overrides_of_mem_builtin h
  cases isBuiltinAdapter_of_mem h with
  | deepseek => exact ⟨"md-code-block", hoverrides, rfl, rfl⟩
  | _ => exact ⟨"code-block", hoverrides, rfl, rfl⟩

/-- The closest `pre` element. -/
def closestPre? (code : Cursor) : Option Cursor :=
  (Selector.named "pre").closest? code

/-- The closest element of a class. -/
def closestBlock? (block : String) (code : Cursor) : Option Cursor :=
  (Selector.hasClass block).closest? code

/-- The closest `pre` element, unless it is the code itself. -/
def preWrapper? (code : Cursor) : Option Cursor :=
  (closestPre? code).filter fun w => !w.isSame code

/-- The closest element of a class, unless it is the code itself or the closest `pre` element. -/
def blockWrapper? (block : String) (code : Cursor) : Option Cursor :=
  (closestBlock? block code).filter fun w =>
    !(w.isSame code || (preWrapper? code).toList.any w.isSame)

variable {block : String} {v w : Cursor}

/-- The wrapper that is found first stands first. -/
theorem WrapsIn.codeWrappers_eq (h : a.WrapsIn block) (helement : code.node.isElement = true) :
    a.codeWrappers code = .ok ((preWrapper? code).toList ++ (blockWrapper? block code).toList) := by
  have hpre : code.closestText? "pre" = .ok (closestPre? code) :=
    Cursor.searchText?_of_parse helement rfl
  have hblock : code.closestText? ("." ++ block) = .ok (closestBlock? block code) :=
    Cursor.searchText?_of_parse helement h.readable
  rw [codeWrappers, h.overrides, h.selectors]
  dsimp only
  rw [wrappersFrom_cons hpre, wrappersFrom_cons hblock]
  simp [wrappersFrom, preWrapper?, blockWrapper?]

/-- The closest element, if it is not the node itself, stands above it. -/
theorem mem_ancestors_iff_of_closest? {s : Selector} (h : s.closest? code = some w) :
    w ∈ code.ancestors ↔ w.isSame code = false := by
  constructor
  · exact Cursor.not_isSame_of_mem_ancestors
  · intro hne
    rcases Selector.mem_of_closest? h with rfl | habove
    · simp [Cursor.isSame] at hne
    · exact habove

theorem preWrapper?_eq_some_iff :
    preWrapper? code = some v ↔ closestPre? code = some v ∧ v ∈ code.ancestors := by
  rw [preWrapper?, Option.filter_eq_some_iff, Bool.not_eq_true']
  exact and_congr_right fun h => (mem_ancestors_iff_of_closest? h).symm

theorem blockWrapper?_eq_some_iff :
    blockWrapper? block code = some w ↔
      closestBlock? block code = some w ∧ w ∈ code.ancestors ∧ closestPre? code ≠ some w := by
  rw [blockWrapper?, Option.filter_eq_some_iff, Bool.not_eq_true', Bool.or_eq_false_iff]
  refine and_congr_right fun h => ?_
  rw [mem_ancestors_iff_of_closest? h]
  refine and_congr_right fun hne => ?_
  have habove : w ∈ code.ancestors := (mem_ancestors_iff_of_closest? h).mpr hne
  constructor
  · -- The `pre` element would be the first wrapper, and the same node.
    intro hnew hpre
    have hfirst := preWrapper?_eq_some_iff.mpr ⟨hpre, habove⟩
    simp [hfirst, Cursor.isSame] at hnew
  · intro hpre
    rw [List.any_eq_false]
    intro v hv hsame
    obtain ⟨hclosest, hv⟩ := preWrapper?_eq_some_iff.mp (Option.mem_toList.mp hv)
    rw [Cursor.eq_of_isSame habove hv hsame] at hpre
    exact hpre hclosest

/-! ## The nearest first -/

/-- The closest `pre` element encloses the closest block, which in turn encloses the code. -/
structure PreAroundBlock (block : String) (code pre inner : Cursor) : Prop where
  isPre : closestPre? code = some pre
  isBlock : closestBlock? block code = some inner
  above : inner ∈ code.ancestors
  encloses : pre ∈ inner.ancestors

theorem PreAroundBlock.wrappers {pre inner : Cursor} (h : PreAroundBlock block code pre inner) :
    preWrapper? code = some pre ∧ blockWrapper? block code = some inner := by
  obtain ⟨before, hchain⟩ := Cursor.exists_ancestors_eq h.above
  have hpre : pre ∈ code.ancestors := by
    rw [hchain]
    exact List.mem_append_right _ (List.mem_cons_of_mem _ h.encloses)
  refine ⟨preWrapper?_eq_some_iff.mpr ⟨h.isPre, hpre⟩,
    blockWrapper?_eq_some_iff.mpr ⟨h.isBlock, h.above, ?_⟩⟩
  rw [h.isPre]
  rintro ⟨⟩
  exact Cursor.notMem_ancestors_self h.encloses

/-- The first wrapper is nearer than the second one, unless it encloses it. -/
theorem enclosed_or_preAroundBlock (hv : preWrapper? code = some v)
    (hw : blockWrapper? block code = some w) :
    w ∈ v.ancestors ∨ PreAroundBlock block code v w := by
  obtain ⟨hpre, hvabove⟩ := preWrapper?_eq_some_iff.mp hv
  obtain ⟨hblock, hwabove, hne⟩ := blockWrapper?_eq_some_iff.mp hw
  rcases Cursor.ancestors_trichotomy hvabove hwabove with rfl | hnear | hfar
  · exact absurd hpre hne
  · exact .inl hnear
  · exact .inr ⟨hpre, hblock, hwabove, hfar⟩

/-- The wrappers are listed nearest first unless a `pre` element encloses a block. -/
theorem sublist_ancestors_wrappers_iff :
    ((preWrapper? code).toList ++ (blockWrapper? block code).toList).Sublist code.ancestors ↔
      ¬∃ pre inner, PreAroundBlock block code pre inner := by
  rw [Cursor.sublist_ancestors_iff, List.pairwise_append]
  · constructor
    · rintro ⟨-, -, hordered⟩ ⟨pre, inner, h⟩
      obtain ⟨hpre, hinner⟩ := h.wrappers
      refine Cursor.notMem_ancestors_of_mem h.encloses (hordered pre ?_ inner ?_)
      · simp [hpre]
      · simp [hinner]
    · intro hnone
      refine ⟨Option.pairwise_toList, Option.pairwise_toList, fun v hv w hw => ?_⟩
      rw [Option.mem_toList] at hv hw
      exact (enclosed_or_preAroundBlock hv hw).resolve_right fun h => hnone ⟨v, w, h⟩
  · intro w hw
    rcases List.mem_append.mp hw with hw | hw
    · exact (preWrapper?_eq_some_iff.mp (Option.mem_toList.mp hw)).2
    · exact (blockWrapper?_eq_some_iff.mp (Option.mem_toList.mp hw)).2.1

/-! ## The language -/

/-- The language that the classes of an element name; empty if they name none. -/
def namedBy (c : Cursor) : String :=
  languageOfClasses c.node

theorem firstNonEmpty_append {before behind : List String} {text : String}
    (hbefore : ∀ other ∈ before, other = "") (htext : text ≠ "") :
    firstNonEmpty (before ++ text :: behind) = text := by
  have hskip : before.find? (fun s => s != "") = none := by simpa using hbefore
  rw [firstNonEmpty, List.find?_append, hskip, Option.none_or, List.find?_cons_of_pos (by simpa),
    Option.getD_some]

/-- The first of the code and its wrappers whose classes name a language decides. -/
theorem codeLanguage_of_append (before : List Cursor) {wrappers behind : List Cursor}
    (h : a.overrides = {}) (helement : code.node.isElement = true)
    (hwrappers : a.codeWrappers code = .ok wrappers)
    (hsplit : code :: wrappers = before ++ w :: behind) (hbefore : ∀ d ∈ before, namedBy d = "")
    (hw : namedBy w ≠ "") : a.codeLanguage code = .ok (namedBy w) := by
  have hnamed : firstNonEmpty
      (((code :: wrappers).map Cursor.node).map languageOfClasses ++
        ((code :: wrappers).map Cursor.node).map languageOfAttributes) = namedBy w := by
    rw [hsplit]
    simp only [List.map_append, List.map_cons, List.append_assoc, List.cons_append]
    refine firstNonEmpty_append (fun text htext => ?_) hw
    rw [List.map_map] at htext
    obtain ⟨d, hd, rfl⟩ := List.mem_map.mp htext
    exact hbefore d hd
  simp only [codeLanguage, h, hwrappers, helement, Bool.not_true, Bool.false_eq_true, if_false,
    hnamed, beq_iff_eq, hw]

/-- If code names no language itself, then of two of its wrappers that name one, the nearer one is
followed. -/
def PrefersNearer (a : Adapter) (code : Cursor) (wrappers : List Cursor) : Prop :=
  namedBy code = "" → ∀ near ∈ wrappers, ∀ far ∈ wrappers, far ∈ near.ancestors →
    namedBy near ≠ "" → namedBy far ≠ "" → a.codeLanguage code = .ok (namedBy near)

/-- A `pre` element that names a language is followed whatever a block names. -/
theorem WrapsIn.codeLanguage_of_pre (h : a.WrapsIn block) (helement : code.node.isElement = true)
    (hcode : namedBy code = "") (hv : preWrapper? code = some v) (hnamed : namedBy v ≠ "") :
    a.codeLanguage code = .ok (namedBy v) := by
  have hwrappers := h.codeWrappers_eq helement
  rw [hv, Option.toList_some, List.singleton_append] at hwrappers
  refine codeLanguage_of_append [code] h.overrides helement hwrappers rfl ?_ hnamed
  simpa using hcode

theorem WrapsIn.prefersNearer_iff (h : a.WrapsIn block) (helement : code.node.isElement = true) :
    a.PrefersNearer code ((preWrapper? code).toList ++ (blockWrapper? block code).toList) ↔
      ¬∃ pre inner, PreAroundBlock block code pre inner ∧ namedBy code = "" ∧ namedBy pre ≠ "" ∧
        namedBy inner ≠ "" ∧ namedBy pre ≠ namedBy inner := by
  constructor
  · rintro hprefers ⟨pre, inner, haround, hcode, hpre, hinner, hne⟩
    obtain ⟨hv, hw⟩ := haround.wrappers
    have hnear :=
      hprefers hcode inner (by simp [hw]) pre (by simp [hv]) haround.encloses hinner hpre
    rw [h.codeLanguage_of_pre helement hcode hv hpre] at hnear
    exact hne (Except.ok.inj hnear)
  · intro hnone hcode near hnear far hfar henclosed hnamed hother
    rw [List.mem_append, Option.mem_toList, Option.mem_toList] at hnear hfar
    rcases hnear with hnear | hnear
    · exact h.codeLanguage_of_pre helement hcode hnear hnamed
    · -- The nearer one is the block, so the other one is a `pre` element around it.
      rcases hfar with hfar | hfar
      · have haround := (enclosed_or_preAroundBlock hfar hnear).resolve_left
          (Cursor.notMem_ancestors_of_mem henclosed)
        rw [h.codeLanguage_of_pre helement hcode hfar hother]
        by_contra hne
        exact hnone ⟨far, near, haround, hcode, hother, hnamed, fun heq => hne (by rw [heq])⟩
      · obtain rfl := Option.some.inj (hnear.symm.trans hfar)
        exact absurd henclosed Cursor.notMem_ancestors_self

/-- For every element, a built-in adapter finds as wrappers different elements above it: the closest
`pre` element and the closest element of a block class, as far as they stand above the code. They
are listed nearest first exactly if it is not so that this `pre` element encloses this block. The
language named by the classes of a nearer wrapper is preferred to that of a farther one exactly if
it is not so that the `pre` element encloses the block and both name languages, different ones,
while the code names none; the language of the `pre` element is then the one that is found. -/
theorem codeWrappers_nearest_iff (ha : a ∈ builtinAdapters) (code : Cursor)
    (helement : code.node.isElement = true) :
    ∃ block wrappers, a.profile.codeWrapperSelectors = ["pre", "." ++ block] ∧
      a.codeWrappers code = .ok wrappers ∧
      (∀ w ∈ wrappers, w ∈ code.ancestors) ∧ (wrappers.map Cursor.place).Nodup ∧
      (∀ w, w ∈ wrappers ↔ w ∈ code.ancestors ∧
        (closestPre? code = some w ∨ closestBlock? block code = some w)) ∧
      (wrappers.Sublist code.ancestors ↔ ¬∃ pre inner, PreAroundBlock block code pre inner) ∧
      (a.PrefersNearer code wrappers ↔
        ¬∃ pre inner, PreAroundBlock block code pre inner ∧ namedBy code = "" ∧ namedBy pre ≠ "" ∧
          namedBy inner ≠ "" ∧ namedBy pre ≠ namedBy inner) ∧
      ∀ pre inner, PreAroundBlock block code pre inner → namedBy code = "" → namedBy pre ≠ "" →
        a.codeLanguage code = .ok (namedBy pre) := by
  obtain ⟨block, h⟩ := exists_wrapsIn_of_mem_builtin ha
  have hwrappers := h.codeWrappers_eq helement
  obtain ⟨habove, hdistinct⟩ := areWrappers_of_codeWrappers (by rw [h.overrides]) hwrappers
  refine ⟨block, _, h.selectors, hwrappers, habove, hdistinct, fun w => ?_,
    sublist_ancestors_wrappers_iff, h.prefersNearer_iff helement,
    fun pre inner haround hcode hpre =>
      h.codeLanguage_of_pre helement hcode haround.wrappers.1 hpre⟩
  rw [List.mem_append, Option.mem_toList, Option.mem_toList, preWrapper?_eq_some_iff,
    blockWrapper?_eq_some_iff]
  by_cases hpre : closestPre? code = some w <;> simp [hpre, and_comm]

/-- Code in a block in a `pre` element, both of which name a language. -/
def codeInBlockInPre : Cursor :=
  let code := Node.element "code" [] [.leaf .plain "x"]
  let block := Node.element "div" [⟨"class", .words ["code-block", "language-b"]⟩] [code]
  ⟨0, code, [⟨block, 0⟩, ⟨.element "pre" [⟨"class", .words ["language-a"]⟩] [block], 0⟩]⟩

/-- The `pre` element is farther away, but it is listed first and decides on the language. -/
theorem codeWrappers_nearest_iff_pre :
    chatGPT ∈ builtinAdapters ∧ codeInBlockInPre.node.isElement = true ∧
      ∃ wrappers, chatGPT.codeWrappers codeInBlockInPre = .ok wrappers ∧
        ¬wrappers.Sublist codeInBlockInPre.ancestors ∧
        ¬chatGPT.PrefersNearer codeInBlockInPre wrappers ∧
        chatGPT.codeLanguage codeInBlockInPre = .ok "a" := by
  have ha : chatGPT ∈ builtinAdapters := by simp [builtinAdapters]
  obtain ⟨block, wrappers, hselectors, hwrappers, -, -, -, hnearest, hprefers, hlanguage⟩ :=
    codeWrappers_nearest_iff ha codeInBlockInPre rfl
  obtain rfl : block = "code-block" := by
    have hselector : "." ++ "code-block" = "." ++ block :=
      (List.cons.inj (List.cons.inj hselectors).2).1
    exact ((String.append_right_inj ".").mp hselector).symm
  have haround : ∃ pre inner, PreAroundBlock "code-block" codeInBlockInPre pre inner ∧
      namedBy codeInBlockInPre = "" ∧ namedBy pre = "a" ∧ namedBy inner = "b" :=
    ⟨_, _, ⟨rfl, rfl, List.mem_cons_self, List.mem_cons_self⟩, by decide, by decide,
      by decide⟩
  obtain ⟨pre, inner, haround, hcode, hpre, hinner⟩ := haround
  refine ⟨ha, rfl, wrappers, hwrappers, fun hsub => hnearest.mp hsub ⟨pre, inner, haround⟩,
    fun h => hprefers.mp h ⟨pre, inner, haround, hcode, ?_, ?_, ?_⟩, ?_⟩
  · simp [hpre]
  · simp [hinner]
  · simp [hpre, hinner]
  · rw [← hpre]
    exact hlanguage pre inner haround hcode (by simp [hpre])

end Adapter

end Transcript
