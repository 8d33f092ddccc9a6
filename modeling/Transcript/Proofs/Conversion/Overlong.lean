import Transcript.Proofs.Conversion.AbortLaw
import Transcript.Proofs.Conversion.Placement
import Transcript.Proofs.Render.Fence
import Transcript.Proofs.Render.LinkTarget
import Transcript.Proofs.Render.Outline
import Transcript.Proofs.Render.PipeTable

/-!
# Overlong numbers

One thing only can go wrong where the built-in rules render what a built-in adapter reads: the number
of a list item may have more digits than can be written. A first number that long is not read as a
number at all, but the items count on from the first one, and past the bound the list fails. So the
issues of a conversion are those of the lists with an overlong number, one each, and there are none
in a document without such a list.

## Main definitions

- `Render.isOverlong`: whether an item of a list has a number that cannot be written
- `Setting.overlongAt`: whether a node is rendered as such a list

## Main results

- `Text.natAbs_lt_of_readInteger?`: a number that can be read can be written
- `Render.isOverlong_iff_last`: a list is overlong if its last number has too many digits
- `exists_outcome_of_mem_standardRules`: the rules for anything but lists come to a text
- `convertCounted_issues`: the issues of a conversion are those of its overlong lists
-/

namespace Transcript

open Markup Render

/-! ## Numbers that can be read -/

namespace Chars

theorem digitValue?_lt {c : Char} {d : Nat} (h : digitValue? c = some d) : d < 10 := by
  unfold digitValue? at h
  split at h
  · split at h
    · rename_i hdigit
      simp only [Char.isDigit, Bool.and_eq_true, decide_eq_true_eq, UInt32.le_iff_toNat_le] at hdigit
      cases h
      exact Nat.sub_lt_left_of_lt_add hdigit.1 (Nat.lt_succ_of_le hdigit.2)
    · cases h
  · obtain ⟨first, hfirst, rfl⟩ := Option.map_eq_some_iff.mp h
    have hrange := List.find?_some hfirst
    simp only [Bool.and_eq_true, decide_eq_true_eq] at hrange
    omega

theorem lt_of_mem_digitsFrom? {afterDigit : Bool} {s : List Char} {digits : List Nat}
    (h : digitsFrom? afterDigit s = some digits) : ∀ d ∈ digits, d < 10 := by
  induction afterDigit, s using digitsFrom?.induct generalizing digits with
  | case1 =>
    obtain rfl : digits = [] := by simpa [digitsFrom?] using h.symm
    exact List.forall_mem_nil _
  | case2 => simp_all [digitsFrom?]
  | case3 rest ih => exact ih (by simpa [digitsFrom?] using h)
  | case4 => simp_all [digitsFrom?]
  | case5 afterDigit c rest hsep d hd ih =>
    rw [digitsFrom?, hd] at h
    · obtain ⟨others, hothers, rfl⟩ := Option.map_eq_some_iff.mp h
      exact List.forall_mem_cons.mpr ⟨digitValue?_lt hd, ih hothers⟩
    · exact hsep
  | case6 afterDigit c rest hsep hd =>
    rw [digitsFrom?, hd] at h
    · cases h
    · exact hsep

theorem foldl_digits_lt {digits : List Nat} (h : ∀ d ∈ digits, d < 10) (value : Nat) :
    digits.foldl (fun value d => 10 * value + d) value < (value + 1) * 10 ^ digits.length := by
  induction digits generalizing value with
  | nil => simp
  | cons d rest ih =>
    have hd : 10 * value + d + 1 ≤ (value + 1) * 10 := by
      have := h d List.mem_cons_self
      omega
    calc rest.foldl (fun value d => 10 * value + d) (10 * value + d)
        < (10 * value + d + 1) * 10 ^ rest.length := ih (fun e he => h e (by simp [he])) _
      _ ≤ (value + 1) * 10 * 10 ^ rest.length := Nat.mul_le_mul_right _ hd
      _ = (value + 1) * 10 ^ (d :: rest).length := by
        rw [List.length_cons, Nat.pow_succ', Nat.mul_assoc]

/-- The largest number with so many digits. -/
theorem ofDigits_nines (n : Nat) : ofDigits (List.replicate n 9) + 1 = 10 ^ n := by
  have hfold : ∀ n value, (List.replicate n 9).foldl (fun value d => 10 * value + d) value + 1 =
      (value + 1) * 10 ^ n := by
    intro n
    induction n with
    | zero => simp
    | succ n ih =>
      intro value
      have hstep : 10 * value + 9 + 1 = (value + 1) * 10 := by omega
      rw [List.replicate_succ, List.foldl_cons, ih, hstep, Nat.pow_succ', Nat.mul_assoc]
  rw [ofDigits, hfold, Nat.zero_add, Nat.one_mul]

theorem digitsFrom?_nines (n : Nat) (afterDigit : Bool) :
    digitsFrom? afterDigit (List.replicate (n + 1) '9') = some (List.replicate (n + 1) 9) := by
  induction n generalizing afterDigit with
  | zero => cases afterDigit <;> rfl
  | succ n ih =>
    have hdigit : digitValue? '9' = some 9 := rfl
    rw [List.replicate_succ, digitsFrom?, hdigit, ih]
    · rfl
    · decide

end Chars

theorem Text.readInteger?_nines {n : Nat} (hsome : n ≠ 0) (hmost : n ≤ Text.maxIntegerDigits) :
    Text.readInteger? (String.ofList (List.replicate n '9')) = some (10 ^ n - 1) := by
  obtain ⟨n, rfl⟩ := Nat.exists_eq_succ_of_ne_zero hsome
  have hvisible : Chars.isBlank '9' = false := by decide
  have htrim : Chars.trim (List.replicate (n + 1) '9') = List.replicate (n + 1) '9' := by
    simp [Chars.trim, Chars.trimStart, Chars.trimEnd, Chars.dropEndWhile, hvisible]
  have hsign : Chars.readSign (List.replicate (n + 1) '9') =
      (false, List.replicate (n + 1) '9') := rfl
  have hvalue : (Chars.ofDigits (List.replicate (n + 1) 9) : Int) = 10 ^ (n + 1) - 1 := by
    rw [eq_sub_iff_add_eq]
    exact_mod_cast Chars.ofDigits_nines (n + 1)
  unfold Text.readInteger?
  rw [String.toList_ofList, htrim, hsign]
  dsimp only
  rw [Chars.digitsFrom?_nines]
  simp only [List.length_replicate, if_pos hmost, hvalue]
  rfl

/-- A number that can be read can be written. -/
theorem Text.natAbs_lt_of_readInteger? {s : String} {n : Int} (h : Text.readInteger? s = some n) :
    n.natAbs < Nat.pow 10 Text.maxIntegerDigits := by
  unfold Text.readInteger? at h
  dsimp only at h
  split at h
  · cases h
  · rename_i digits hdigits
    split at h
    · rename_i hlength
      have hvalue := Chars.foldl_digits_lt (Chars.lt_of_mem_digitsFrom? hdigits) 0
      rw [Nat.zero_add, Nat.one_mul] at hvalue
      have hbound : Chars.ofDigits digits < Nat.pow 10 Text.maxIntegerDigits := by
        generalize Text.maxIntegerDigits = most at hlength ⊢
        exact Nat.lt_of_lt_of_le hvalue (Nat.pow_le_pow_right (Nat.zero_lt_succ 9) hlength)
      have habs : n.natAbs = Chars.ofDigits digits := by
        split at h <;> cases h <;> simp
      rwa [habs]
    · cases h

namespace Render

/-! ## Lists -/

/-- Whether an item of the list has a number with too many digits to be written. -/
def isOverlong (c : Cursor) : Bool :=
  match listStart c.node with
  | none => false
  | some start => (List.range (listItems c).length).any fun offset =>
      decide (Nat.pow 10 Text.maxIntegerDigits ≤ (start + offset : Int).natAbs)

theorem itemMarker_of_ge {start : Int} {offset : Nat}
    (h : Nat.pow 10 Text.maxIntegerDigits ≤ (start + offset).natAbs) :
    itemMarker (some start) offset = .error tooManyDigits := by
  rw [itemMarker, itemNumber, if_neg (Nat.not_lt_of_le h)]
  rfl

/-- A list is overlong if one of its markers cannot be written. -/
theorem isOverlong_iff {c : Cursor} :
    isOverlong c = true ↔ ∃ offset < (listItems c).length,
      itemMarker (listStart c.node) offset = .error tooManyDigits := by
  unfold isOverlong
  cases hstart : listStart c.node with
  | none => simp [itemMarker]
  | some start =>
    simp only [List.any_eq_true, List.mem_range, decide_eq_true_eq]
    refine exists_congr fun offset => and_congr_right fun _ => ⟨itemMarker_of_ge, fun h => ?_⟩
    by_contra hshort
    rw [itemMarker_of_lt (Nat.lt_of_not_le hshort)] at h
    cases h

/-- The number that a list begins with can be written. -/
theorem natAbs_listStart_lt {node : Node} {start : Int} (h : listStart node = some start) :
    start.natAbs < Nat.pow 10 Text.maxIntegerDigits := by
  unfold listStart at h
  split at h
  · obtain rfl := Option.some.inj h
    unfold Node.attributeInteger
    cases hread : (node.attributeText? "start").bind Text.readInteger? with
    | none =>
      have hdigits : Text.maxIntegerDigits ≠ 0 := by decide
      generalize Text.maxIntegerDigits = most at hdigits ⊢
      simpa using Nat.one_lt_pow hdigits (Nat.one_lt_succ_succ 8)
    | some n =>
      obtain ⟨text, -, hn⟩ := Option.bind_eq_some_iff.mp hread
      exact Text.natAbs_lt_of_readInteger? hn
  · cases h

/-- A list is overlong if its last number has too many digits. -/
theorem isOverlong_iff_last {c : Cursor} :
    isOverlong c = true ↔ ∃ start, listStart c.node = some start ∧
      (Nat.pow 10 Text.maxIntegerDigits : Nat) < start + ((listItems c).length : Int) := by
  unfold isOverlong
  cases hstart : listStart c.node with
  | none => exact ⟨fun h => absurd h Bool.false_ne_true, fun ⟨_, h, _⟩ => by cases h⟩
  | some start =>
    have hfirst := natAbs_listStart_lt hstart
    generalize Nat.pow 10 Text.maxIntegerDigits = bound at hfirst ⊢
    simp only [List.any_eq_true, List.mem_range, decide_eq_true_eq, Option.some.injEq,
      exists_eq_left']
    constructor
    · rintro ⟨offset, hoffset, hlong⟩
      omega
    · intro hlast
      exact ⟨(listItems c).length - 1, by omega, by omega⟩

variable {ask : Option Cursor → String}

/-- What a node answers for itself. -/
theorem answered_self (d : Cursor) :
    Answered ask (fun d => if d.node.isElement then ask (some d) else d.node.textContent) d :=
  ⟨fun h => by simp [h], fun h => by simp [h]⟩

theorem outcome_itemLines_of_overlong {items : List Cursor} {indent : String} {start : Option Int}
    (offset : Nat) (h : ∃ i < items.length, itemMarker start (offset + i) = .error tooManyDigits) :
    (itemLines indent start offset items).outcome ask = .error tooManyDigits := by
  induction items generalizing offset with
  | nil => simp at h
  | cons item rest ih =>
    rw [itemLines, Rendering.outcome_bind]
    cases hmarker : itemMarker start offset with
    | error fault =>
      rw [fault_of_itemMarker hmarker]
      rfl
    -- The marker of the first item can be written, so another one cannot.
    | ok marker =>
      obtain ⟨i, hi, hlate⟩ := h
      have hrest : ∃ i < rest.length,
          itemMarker start (offset + 1 + i) = .error tooManyDigits := by
        cases i with
        | zero => rw [Nat.add_zero, hmarker] at hlate; cases hlate
        | succ i =>
          exact ⟨i, Nat.lt_of_succ_lt_succ hi, by rwa [Nat.add_comm i 1, ← Nat.add_assoc] at hlate⟩
      show Rendering.outcome ask (itemContent item >>= _) = _
      rw [Rendering.outcome_bind, outcome_itemContent fun d _ => answered_self d]
      show Rendering.outcome ask (itemLines _ _ _ _ >>= _) = _
      rw [Rendering.outcome_bind, ih (offset + 1) hrest]

/-- A list comes to a text unless it is overlong, and then it fails for that reason. -/
theorem outcome_list {scene : Scene} (helement : scene.node.node.isElement = true)
    (content : String) :
    (isOverlong scene.node = true →
      (list scene content).outcome ask = .error tooManyDigits) ∧
    (isOverlong scene.node = false → ∃ text, (list scene content).outcome ask = .ok text) := by
  constructor
  · intro hlong
    obtain ⟨i, hi, hmarker⟩ := isOverlong_iff.mp hlong
    have hlines := @outcome_itemLines_of_overlong ask (listItems scene.node)
      (indentation (listLevel scene.node)) (listStart scene.node.node) 0
      ⟨i, hi, by rwa [Nat.zero_add]⟩
    rw [list_eq content helement, Rendering.outcome_bind, hlines]
  · intro hshort
    refine exists_outcome_list content helement (fun _ _ d _ => answered_self d) fun i hi => ?_
    cases hmarker : itemMarker (listStart scene.node.node) i with
    | ok marker => exact ⟨marker, rfl⟩
    | error fault =>
      rw [fault_of_itemMarker hmarker] at hmarker
      rw [isOverlong_iff.mpr ⟨i, hi, hmarker⟩] at hshort
      cases hshort

/-! ## The other rules -/

/-- The level of a heading is the digit in its name. -/
theorem exists_headingLevel {tagName : String}
    (h : tagName ∈ ["h1", "h2", "h3", "h4", "h5", "h6"]) :
    ∃ level, headingLevel tagName = .ok level := by
  simp only [List.mem_cons, List.not_mem_nil, or_false] at h
  rcases h with rfl | rfl | rfl | rfl | rfl | rfl <;> exact ⟨_, rfl⟩

theorem exists_outcome_heading {scene : Scene}
    (h : scene.node.node.tagName ∈ ["h1", "h2", "h3", "h4", "h5", "h6"]) (content : String) :
    ∃ text, (heading scene content).outcome ask = .ok text := by
  obtain ⟨level, hlevel⟩ := exists_headingLevel h
  unfold heading
  extract_lets text
  rw [hlevel]
  split <;> exact ⟨_, rfl⟩

theorem exists_outcome_table {scene : Scene} (helement : scene.node.node.isElement = true)
    (content : String) : ∃ text, (table scene content).outcome ask = .ok text := by
  by_cases hrows : filledRows scene.node = []
  · refine ⟨"", ?_⟩
    simp only [table, helement, hrows]
    rfl
  · exact ⟨_, outcome_table helement hrows content⟩

variable {a : Adapter} {c : Cursor}

/-- A built-in adapter recovers every formula in some way. -/
theorem exists_outcome_formula (ha : a ∈ builtinAdapters) (helement : c.node.isElement = true)
    (wrap : String → String) (depth : Nat) (options : Options) (content : String) :
    ∃ text, (formula wrap ⟨c, depth, a, options⟩ content).outcome ask = .ok text := by
  obtain ⟨result, hresult, -⟩ := Adapter.extractLatex_script ha helement
  unfold formula
  rw [Rendering.outcome_bind, Scene.extractLatex, Rendering.outcome_ofTraced, hresult]
  dsimp only
  split <;> exact ⟨_, rfl⟩

theorem exists_outcome_codeBlock (ha : a ∈ builtinAdapters) (h : isCodeBlock c = true)
    (depth : Nat) (options : Options) (content : String) :
    ∃ text, (codeBlock ⟨c, depth, a, options⟩ content).outcome ask = .ok text := by
  obtain ⟨code, hcode, helement⟩ := exists_codeElement?_eq h
  obtain ⟨wrappers, language, -, hlanguage, -⟩ :=
    exists_codeLanguage_eq (isLocal_of_mem_builtin ha) helement
  exact ⟨_, outcome_codeBlock hcode hlanguage depth options content ask⟩

end Render

/-- With a built-in adapter, every built-in rule but the one for lists comes to a text at each node
that it accepts. -/
theorem exists_outcome_of_mem_standardRules {a : Adapter} {c : Cursor} (ha : a ∈ builtinAdapters)
    {rule : Rule} (hrule : rule ∈ standardRules) (haccepts : rule.filter.accepts c = .ok true)
    (hname : rule.name ≠ "list") (depth : Nat) (options : Options) (content : String)
    (ask : Option Cursor → String) :
    ∃ text, (rule.replacement ⟨c, depth, a, options⟩ content).outcome ask = .ok text := by
  have helement := isElement_of_mem_standardRules hrule haccepts
  rcases mem_standardRules_iff.mp hrule with hrule | hrule
  · cases hrule with
    | display => exact exists_outcome_formula ha helement ..
    | inline => exact exists_outcome_formula ha helement ..
    | codeBlock => exact exists_outcome_codeBlock ha (Except.ok.inj haccepts) ..
  · cases hrule with
    | table => exact exists_outcome_table helement content
    | heading =>
      refine exists_outcome_heading ?_ content
      simpa using (of_accepts_tags haccepts).2
    | list => exact absurd rfl hname
    | link =>
      dsimp only [linkRule, ruleForTags]
      exact ⟨_, outcome_link _ content ask⟩
    | _ => exact ⟨_, rfl⟩

/-! ## What goes wrong in a conversion -/

variable {setting : Setting} {c d : Cursor}

/-- Whether a node is rendered as a list with a number that cannot be written. -/
def Setting.overlongAt (setting : Setting) (d : Cursor) : Bool :=
  (setting.ruleOf? d).any (fun rule => rule.name == "list") && isOverlong d

/-- The issue that an overlong list leaves behind. -/
def overlongIssue (d : Cursor) : Issue :=
  issueOf tooManyDigits (some d) "list" .fallback

/-- The rule of a node comes to a text, unless it is the one for lists and the list is overlong. -/
theorem outcome_of_ruleOf? (hrules : setting.rules.rules = standardRules)
    (hadapter : setting.adapter ∈ builtinAdapters) {rule : Rule}
    (hrule : setting.ruleOf? d = some rule) (depth : Nat) (content : String)
    (ask : Option Cursor → String) :
    if setting.overlongAt d then
      rule.name = "list" ∧
        (rule.replacement ⟨d, depth, setting.adapter, setting.options⟩ content).outcome ask =
          .error tooManyDigits
    else ∃ text,
      (rule.replacement ⟨d, depth, setting.adapter, setting.options⟩ content).outcome ask =
        .ok text := by
  obtain ⟨hmem, haccepts⟩ := accepts_of_ruleOf? hrule
  rw [hrules] at hmem
  have helement := isElement_of_mem_standardRules hmem haccepts
  by_cases hname : rule.name = "list"
  · obtain ⟨hlong, hshort⟩ := @outcome_list ask ⟨d, depth, setting.adapter, setting.options⟩
      helement content
    have hlist : listRule ∈ standardRules := mem_standardRules_iff.mpr (.inr .list)
    obtain rfl := eq_of_name_eq hmem hlist hname
    have hreplacement : listRule.replacement = list := rfl
    rw [hreplacement]
    cases hover : isOverlong d with
    | true => simpa [Setting.overlongAt, hrule, hname, hover] using hlong hover
    | false => simpa [Setting.overlongAt, hrule, hname, hover] using hshort hover
  · have hnot : setting.overlongAt d = false := by simp [Setting.overlongAt, hrule, hname]
    rw [hnot, if_neg Bool.false_ne_true]
    exact exists_outcome_of_mem_standardRules hadapter hmem haccepts hname depth setting.options
      content ask

/-- The issues of a node itself: one, if it is an overlong list. -/
theorem issues_ownNotes (hrules : setting.rules.rules = standardRules)
    (hadapter : setting.adapter ∈ builtinAdapters) (base : Nat) (d : Cursor) :
    (ownNotes setting base d).filterMap Note.issue? =
      if setting.overlongAt d then [overlongIssue d] else [] := by
  cases hrule : setting.ruleOf? d with
  | none =>
    have hnone : ownNotes setting base d = [] := by
      cases helement : d.node.isElement with
      | false => exact (plain_of_leaf setting base helement).2
      | true => exact (plain_of_no_rule base helement hrule).2
    simp [hnone, Setting.overlongAt, hrule]
  | some rule =>
    have hmem := accepts_of_ruleOf? hrule
    have helement := isElement_of_mem_standardRules (hrules ▸ hmem.1) hmem.2
    have hprogram : ∀ note ∈ (rule.replacement (setting.sceneAt base d)
        (plainContent setting base d)).notes (plainAnswer setting base d), note.issue? = none :=
      issue?_of_mem_notes
    have houtcome := outcome_of_ruleOf? hrules hadapter hrule (d.depthFrom base)
      (plainContent setting base d) (plainAnswer setting base d)
    rw [(plain_of_rule base helement hrule).2, List.filterMap_append,
      List.filterMap_eq_nil_iff.mpr hprogram, List.nil_append]
    by_cases hlong : setting.overlongAt d = true
    · rw [if_pos hlong] at houtcome ⊢
      obtain ⟨hname, hfault⟩ := houtcome
      rw [Setting.sceneAt, hfault, hname]
      rfl
    · rw [if_neg hlong] at houtcome ⊢
      obtain ⟨text, htext⟩ := houtcome
      rw [Setting.sceneAt, htext]
      rfl

/-- The issues of a document, in some order. -/
theorem issues_documentNotes_perm (hrules : setting.rules.rules = standardRules)
    (hadapter : setting.adapter ∈ builtinAdapters) (c : Cursor) :
    ((documentNotes setting c).filterMap Note.issue?).Perm
      ((c.subtree.filter setting.overlongAt).map overlongIssue) := by
  have hperm := (plainNotes_perm setting c.above.length c).filterMap Note.issue?
  refine hperm.trans (List.Perm.of_eq ?_)
  rw [List.filterMap_flatMap]
  simp only [issues_ownNotes hrules hadapter]
  induction c.subtree with
  | nil => rfl
  | cons d rest ih =>
    rw [List.flatMap_cons, ih]
    cases hlong : setting.overlongAt d <;> simp [hlong]

/-- Each issue of a conversion is one of some node itself, even if the conversion is given up. -/
theorem exists_of_mem_issues (htame : ∀ d ∈ c.subtree, Tame setting c.above.length d)
    (hclean : ∀ text, ∃ cleaned, setting.adapter.cleanText text = .ok cleaned) {issue : Issue}
    (h : issue ∈ (convert setting (some c)).issues) :
    ∃ d ∈ c.subtree, issue ∈ (ownNotes setting c.above.length d).filterMap Note.issue? := by
  -- Given up or not, the session has gathered notes of nodes only.
  have hgathered : ∃ notes, (∀ note ∈ notes, ∃ d ∈ c.subtree,
      note ∈ ownNotes setting c.above.length d) ∧
      (convert setting (some c)).issues = (Findings.ofNotes setting notes).issues := by
    cases hviolation : violation? setting c with
    | none =>
      obtain ⟨s, htraverse, hconverted⟩ := traverse_of_no_violation htame hviolation
      obtain ⟨cleaned, hcleaned⟩ := hclean (plainDocument setting c)
      rw [hcleaned] at htraverse
      have hissues : (convert setting (some c)).issues = s.findings.issues := by
        rw [convert_of_ok htraverse]
        rfl
      refine ⟨documentNotes setting c, fun note hnote => mem_plainNotes_iff.mp hnote, ?_⟩
      rw [hissues, hconverted.findings, Session.findings_start, Findings.empty_append]
    | some v =>
      obtain ⟨s, htraverse, -, notes, hnotes, hfindings⟩ := traverse_of_violation htame hviolation
      have hnode : (v.fault setting).kind.isNodeFault = true :=
        Breach.isNodeFault_fault setting v.depth v.position v.breach
      have hissues : (convert setting (some c)).issues = s.findings.issues := by
        rw [convert_of_error htraverse]
        simp only [giveUp, hnode, if_true]
        rfl
      refine ⟨notes, hnotes, ?_⟩
      rw [hissues, hfindings, Session.findings_start, Findings.empty_append]
  obtain ⟨notes, hnotes, hissues⟩ := hgathered
  rw [hissues, Findings.issues_ofNotes] at h
  obtain ⟨note, hnote, hissue⟩ := List.mem_filterMap.mp h
  obtain ⟨d, hd, hown⟩ := hnotes note hnote
  exact ⟨d, hd, List.mem_filterMap.mpr ⟨note, hown, hissue⟩⟩

/-- With a built-in adapter no built-in filter fails, and a built-in rule fails only where it
renders a list with an overlong number. So a conversion records an issue for each such list, and no
other: one that is given up, for some of them. -/
theorem convertCounted_issues (hrules : setting.rules.rules = RuleTable.standard.rules)
    (hadapter : setting.adapter ∈ builtinAdapters)
    (hlimit : setting.options.maxVisits + 1 ≤ Arena.maxLimit) (c : Cursor) :
    (∀ d, ∃ found, setting.rules.find d = .ok found ∧ ∀ rule, found = some rule →
      ∀ depth content ask,
        if setting.overlongAt d then
          rule.name = "list" ∧
            (rule.replacement ⟨d, depth, setting.adapter, setting.options⟩ content).outcome ask =
              .error tooManyDigits
        else ∃ text,
          (rule.replacement ⟨d, depth, setting.adapter, setting.options⟩ content).outcome ask =
            .ok text) ∧
    ∃ result, convertCounted setting (some c) = .ok result ∧
      (∀ issue ∈ result.issues, ∃ d ∈ c.subtree,
        setting.overlongAt d = true ∧ issue = overlongIssue d) ∧
      (result.abortReason = none →
        result.issues.Perm ((c.subtree.filter setting.overlongAt).map overlongIssue)) := by
  rw [rules_standard] at hrules
  have htame : ∀ base d, Tame setting base d :=
    tame_of_standard hrules (overrides_of_mem_builtin hadapter)
  have hresult : convertCounted setting (some c) = .ok (convert setting (some c)) := by
    rw [convertCounted_eq, if_pos hlimit]
  constructor
  · intro d
    obtain ⟨found, hfound⟩ := RuleTable.findIn_of_answers fun rule hrule =>
      answers_of_mem_standardRules (hrules ▸ hrule) d
    refine ⟨found, hfound, fun rule hrule depth content ask => ?_⟩
    subst hrule
    have hrule : setting.ruleOf? d = some rule := by
      simp [Setting.ruleOf?, RuleTable.find, hfound]
    exact outcome_of_ruleOf? hrules hadapter hrule depth content ask
  · refine ⟨convert setting (some c), hresult, ?_, ?_⟩
    · intro issue hissue
      obtain ⟨d, hd, hmem⟩ := exists_of_mem_issues (fun d _ => htame _ d)
        (cleanText_of_overrides (overrides_of_mem_builtin hadapter)) hissue
      rw [issues_ownNotes hrules hadapter] at hmem
      refine ⟨d, hd, ?_⟩
      cases hlong : setting.overlongAt d with
      | false => simp [hlong] at hmem
      | true => exact ⟨rfl, by simpa [hlong] using hmem⟩
    · intro hdone
      obtain ⟨-, -, hissues⟩ := convertCounted_eq_plain (fun d _ => htame _ d) hresult hdone
      rw [hissues]
      exact issues_documentNotes_perm hrules hadapter c

/-- A list whose first number has as many digits as can be read, so that its second number has more
than can be written. -/
def overlongList : Cursor :=
  Cursor.root 0 (.element "ol"
    [⟨"start", .text (String.ofList (List.replicate Text.maxIntegerDigits '9'))⟩]
    [.element "li" [] [.leaf .plain "a"], .element "li" [] [.leaf .plain "b"]])

theorem isOverlong_overlongList : isOverlong overlongList = true := by
  have hread := @Text.readInteger?_nines Text.maxIntegerDigits (by decide) (Nat.le_refl _)
  have hattribute : overlongList.node.attributeText? "start" =
      some (String.ofList (List.replicate Text.maxIntegerDigits '9')) := rfl
  have hstart : listStart overlongList.node = some (10 ^ Text.maxIntegerDigits - 1) := by
    have hname : (overlongList.node.tagName == "ol") = true := rfl
    rw [listStart, if_pos hname, Node.attributeInteger, hattribute, Option.bind_some, hread]
    rfl
  have hitems : (listItems overlongList).length = 2 := by decide
  refine isOverlong_iff_last.mpr ⟨_, hstart, ?_⟩
  rw [hitems]
  generalize Text.maxIntegerDigits = most
  simp only [Nat.pow_eq, Int.natCast_pow, Int.cast_ofNat_Int]
  omega

/-- There is nothing wrong with the list but its second number. -/
theorem convertCounted_issues_overlongList :
    ∃ result, convertCounted builtinSetting (some overlongList) = .ok result ∧
      result.abortReason = none ∧ result.issues = [overlongIssue overlongList] := by
  have hadapter : builtinSetting.adapter ∈ builtinAdapters := List.mem_cons_self
  obtain ⟨-, result, hresult, -, hissues⟩ :=
    @convertCounted_issues builtinSetting rfl hadapter (by decide) overlongList
  have htame : ∀ d ∈ overlongList.subtree, Tame builtinSetting overlongList.above.length d :=
    fun d _ => tame_of_standard rules_standard rfl _ d
  have hviolation : violation? builtinSetting overlongList = none :=
    violation?_eq_none_of_still rfl (fun _ => rfl) (by decide) (by decide)
  obtain ⟨other, hother, hdone, -⟩ :=
    convertCounted_of_no_violation htame (by decide) hviolation rfl
  obtain rfl : result = other := Except.ok.inj (hresult.symm.trans hother)
  -- The list is overlong, and below it there is no list.
  have hself : builtinSetting.overlongAt overlongList = true := by
    rw [Setting.overlongAt, isOverlong_overlongList, Bool.and_true]
    decide
  have hbelow : ∀ d ∈ overlongList.descendants, builtinSetting.overlongAt d = false := by
    have hno : overlongList.descendants.all (fun d =>
        !(builtinSetting.ruleOf? d).any fun rule => rule.name == "list") = true := by
      decide
    intro d hd
    have hd := List.all_eq_true.mp hno d hd
    rw [Bool.not_eq_true'] at hd
    rw [Setting.overlongAt, hd, Bool.false_and]
  have honly : overlongList.subtree.filter builtinSetting.overlongAt = [overlongList] := by
    rw [Cursor.subtree_eq, List.filter_cons_of_pos hself, ← Cursor.descendants_eq,
      List.filter_eq_nil_iff.mpr fun d hd => by simp [hbelow d hd]]
  have hperm := hissues hdone
  rw [honly] at hperm
  exact ⟨result, hresult, hdone, List.perm_singleton.mp hperm⟩

end Transcript
