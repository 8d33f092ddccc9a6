import Transcript.Proofs.Platform.Locality
import Transcript.Proofs.Render.Nesting
import Transcript.Proofs.Text.Beginning
import Transcript.Proofs.Text.Splitting

/-!
# Fenced code

Code stands between two fences of backticks, and the language of the code stands behind the opening
one. The fences are longer than any run of backticks in the code, so no line of the code closes
them, and the code is read back as it was. A language is read back if it neither has a backtick nor
ends the line. Languages on labels are words of a few characters and always fit; those in classes
and attributes are taken as they are.

## Main definitions

- `FenceReading`, `readFence?`: what is read from a fenced text
- `FitsInfo`: the languages that can stand behind a fence

## Main results

- `le_longestRunFrom_of_isInfix`: no run of backticks is longer than the longest one
- `readFence?_fenced`: fenced code is read back
- `fitsInfo_of_labelLanguage`: languages on labels fit
- `codeBlock_readFence`: when a code block is read back
-/

namespace Transcript.Render

open Markup

/-! ## Runs of backticks -/

theorem le_longestRunFrom (run : Nat) (s : List Char) : run ≤ longestRunFrom run s := by
  induction s generalizing run with
  | nil => exact Nat.le_refl _
  | cons c rest ih =>
    rw [longestRunFrom]
    split
    · exact Nat.le_of_succ_le (ih (run + 1))
    · exact Nat.le_max_left _ _

theorem longestRunFrom_mono {m n : Nat} (h : m ≤ n) (s : List Char) :
    longestRunFrom m s ≤ longestRunFrom n s := by
  induction s generalizing m n with
  | nil => exact h
  | cons c rest ih =>
    simp only [longestRunFrom]
    split
    · exact ih (Nat.add_le_add_right h 1)
    · exact Nat.max_le.mpr ⟨h.trans (Nat.le_max_left _ _), Nat.le_max_right _ _⟩

/-- A part at the end has no longer runs. -/
theorem longestRunFrom_append_le (run : Nat) (s t : List Char) :
    longestRunFrom 0 t ≤ longestRunFrom run (s ++ t) := by
  induction s generalizing run with
  | nil => exact longestRunFrom_mono (Nat.zero_le run) t
  | cons c rest ih =>
    rw [List.cons_append, longestRunFrom]
    split
    · exact ih (run + 1)
    · exact (ih 0).trans (Nat.le_max_right _ _)

theorem longestRunFrom_replicate_append (run n : Nat) (t : List Char) :
    longestRunFrom run (List.replicate n backtick ++ t) = longestRunFrom (run + n) t := by
  induction n generalizing run with
  | zero => rfl
  | succ n ih =>
    rw [List.replicate_succ, List.cons_append, longestRunFrom, if_pos rfl, ih,
      Nat.add_assoc, Nat.add_comm 1]

/-- No run of backticks is longer than the longest one. -/
theorem le_longestRunFrom_of_isInfix {n : Nat} {s : List Char}
    (h : List.replicate n backtick <:+: s) : n ≤ longestRunFrom 0 s := by
  obtain ⟨before, behind, rfl⟩ := h
  calc
    n ≤ longestRunFrom n behind := le_longestRunFrom n behind
    _ = longestRunFrom 0 (List.replicate n backtick ++ behind) := by
      rw [longestRunFrom_replicate_append, Nat.zero_add]
    _ ≤ longestRunFrom 0 (before ++ (List.replicate n backtick ++ behind)) :=
      longestRunFrom_append_le 0 before _
    _ = _ := by rw [List.append_assoc]

/-! ## Reading fenced text -/

/-- What is read from a fenced text. -/
structure FenceReading where
  /-- The text behind the opening fence. -/
  info : String
  /-- The text between the fences. -/
  body : String
  /-- The lines behind the closing fence. -/
  left : List (List Char)

/-- Whether a line closes a fence of `n` backticks: it is made of backticks, at least as many. -/
def closesFence (n : Nat) (line : List Char) : Bool :=
  n ≤ line.length && line.all (· == backtick)

/-- Reads lines that begin with a fenced text. The fence is a run of at least three backticks, and
no further ones follow on its line. -/
def readFenceLines? : List (List Char) → Option FenceReading
  | [] => none
  | opening :: lines =>
    let n := (opening.takeWhile (· == backtick)).length
    let info := opening.dropWhile (· == backtick)
    match lines.dropWhile (!closesFence n ·) with
    | [] => none
    | _ :: left =>
      if n < 3 ∨ backtick ∈ info then none
      else
        let body := joinLines (lines.takeWhile (!closesFence n ·))
        some ⟨String.ofList info, String.ofList body, left⟩

/-- Reads a text that begins with fenced text. Its lines end with a line feed, a carriage return, or
both. -/
def readFence? (text : String) : Option FenceReading :=
  readFenceLines? (Chars.splitAt '\n' (Chars.normalizeNewlines text.toList))

/-- The languages that can stand behind a fence: they have no backtick and do not end the line. -/
def FitsInfo (language : String) : Prop :=
  ∀ c ∈ language.toList, c ≠ backtick ∧ c ≠ '\n' ∧ c ≠ '\r'

/-- Only what fits is read behind a fence. -/
theorem FenceReading.fitsInfo {text : String} {reading : FenceReading}
    (h : readFence? text = some reading) : FitsInfo reading.info := by
  unfold readFence? at h
  cases hlines : Chars.splitAt '\n' (Chars.normalizeNewlines text.toList) with
  | nil => simp [hlines, readFenceLines?] at h
  | cons opening lines =>
    have hopening : opening ∈ Chars.splitAt '\n' (Chars.normalizeNewlines text.toList) := by
      simp [hlines]
    simp only [hlines, readFenceLines?] at h
    split at h
    · cases h
    · split at h
      · cases h
      · rename_i hinfo
        obtain rfl := Option.some.inj h
        intro c hc
        rw [String.toList_ofList] at hc
        have hline : c ∈ opening := (List.dropWhile_suffix _).subset hc
        have htext : c ∈ Chars.normalizeNewlines text.toList :=
          (Chars.isInfix_of_mem_splitAt hopening).subset hline
        refine ⟨?_, ?_, ?_⟩
        · rintro rfl
          exact hinfo (.inr hc)
        · rintro rfl
          exact Chars.notMem_of_mem_splitAt hopening hline
        · rintro rfl
          exact Chars.notMem_normalizeNewlines _ htext

/-! ## Reading back -/

theorem joinLines_eq (lines : List (List Char)) : joinLines lines = ['\n'].intercalate lines := by
  induction lines with
  | nil => rfl
  | cons first others ih =>
    cases others with
    | nil => simp [joinLines]
    | cons second others =>
      rw [joinLines, ih, List.intercalate_cons_cons, List.append_assoc, List.singleton_append]
      nofun

/-- The number of backticks in the fence of a code. -/
def fenceLength (code : String) : Nat :=
  max 3 (longestBacktickRun code + 1)

theorem three_le_fenceLength (code : String) : 3 ≤ fenceLength code :=
  Nat.le_max_left _ _

theorem toList_codeFence (code : String) :
    (codeFence code).toList = List.replicate (fenceLength code) backtick :=
  String.toList_ofList

theorem toList_fenced (language code : String) :
    (fenced language code).toList =
      (codeFence code).toList ++ language.toList ++ '\n' ::
        (code.toList ++ '\n' :: ((codeFence code).toList ++ '\n' :: '\n' :: [])) := by
  simp [fenced]

theorem closesFence_codeFence (code : String) :
    closesFence (fenceLength code) (codeFence code).toList = true := by
  simp [closesFence, toList_codeFence]

/-- No line of a code closes its fence. -/
theorem not_closesFence_of_mem {code : String} {line : List Char}
    (h : line ∈ Chars.splitAt '\n' code.toList) :
    closesFence (fenceLength code) line = false := by
  rw [← Bool.not_eq_true]
  intro hcloses
  simp only [closesFence, Bool.and_eq_true, decide_eq_true_eq, List.all_eq_true,
    beq_iff_eq] at hcloses
  obtain ⟨hlength, hbackticks⟩ := hcloses
  have hinfix := Chars.isInfix_of_mem_splitAt h
  rw [List.eq_replicate_of_mem hbackticks] at hinfix
  have hrun : line.length ≤ longestBacktickRun code := le_longestRunFrom_of_isInfix hinfix
  have hfence : longestBacktickRun code + 1 ≤ fenceLength code := Nat.le_max_right _ _
  omega

/-- Lines that begin with a fence, and go on with lines that do not close it. -/
theorem readFenceLines?_of_closesFence {n : Nat} {info closing : List Char}
    {body left : List (List Char)} (hn : 3 ≤ n) (hinfo : backtick ∉ info)
    (hbody : ∀ line ∈ body, closesFence n line = false) (hclosing : closesFence n closing = true) :
    readFenceLines? ((List.replicate n backtick ++ info) :: (body ++ closing :: left)) =
      some ⟨String.ofList info, String.ofList (joinLines body), left⟩ := by
  have hfence : ∀ c ∈ List.replicate n backtick, (c == backtick) = true := by simp
  have hstop : ∀ c ∈ info, (c == backtick) = false := fun c hc =>
    beq_false_of_ne fun heq => hinfo (heq ▸ hc)
  have hrun : (List.replicate n backtick ++ info).takeWhile (· == backtick) =
      List.replicate n backtick := by
    rw [List.takeWhile_append_of_pos hfence]
    cases info with
    | nil => simp
    | cons c rest => simp [hstop c List.mem_cons_self]
  have hbehind : (List.replicate n backtick ++ info).dropWhile (· == backtick) = info := by
    rw [List.dropWhile_append_of_pos hfence]
    cases info with
    | nil => rfl
    | cons c rest => simp [hstop c List.mem_cons_self]
  have hopen : ∀ line ∈ body, (!closesFence n line) = true := by simpa using hbody
  simp only [readFenceLines?, hrun, hbehind, List.length_replicate]
  rw [List.dropWhile_append_of_pos hopen, List.takeWhile_append_of_pos hopen]
  simp [hclosing, hinfo, Nat.not_lt.mpr hn]

/-- Fenced code is read back, and two empty lines are left. -/
theorem readFence?_fenced {language code : String} (hlanguage : FitsInfo language)
    (hcode : '\r' ∉ code.toList) :
    readFence? (fenced language code) = some ⟨language, code, [[], []]⟩ := by
  have hplain : '\r' ∉ (fenced language code).toList := by
    have hreturn : '\r' ∉ language.toList := fun h => (hlanguage _ h).2.2 rfl
    simp [toList_fenced, toList_codeFence, hcode, hreturn, backtick]
  have hopening : '\n' ∉ (codeFence code).toList ++ language.toList := by
    have hfeed : '\n' ∉ language.toList := fun h => (hlanguage _ h).2.1 rfl
    simp [toList_codeFence, hfeed, backtick]
  have hfence : '\n' ∉ (codeFence code).toList := by simp [toList_codeFence, backtick]
  have hlines : Chars.splitAt '\n' (fenced language code).toList =
      ((codeFence code).toList ++ language.toList) ::
        (Chars.splitAt '\n' code.toList ++ (codeFence code).toList :: [[], []]) := by
    rw [toList_fenced, Chars.splitAt_append, Chars.splitAt_append, Chars.splitAt_append,
      Chars.splitAt_of_notMem hopening, Chars.splitAt_of_notMem hfence]
    rfl
  have hclosing := closesFence_codeFence code
  rw [readFence?, Chars.normalizeNewlines_of_notMem hplain, hlines]
  rw [toList_codeFence] at hclosing ⊢
  rw [readFenceLines?_of_closesFence (three_le_fenceLength code)
    (fun h => (hlanguage _ h).1 rfl) (fun _ => not_closesFence_of_mem) hclosing, joinLines_eq,
    Chars.intercalate_splitAt, String.ofList_toList, String.ofList_toList]

/-- Fenced code is read back exactly if its language fits. -/
theorem readFence?_fenced_iff {language code : String} (hcode : '\r' ∉ code.toList) :
    (∃ left, readFence? (fenced language code) = some ⟨language, code, left⟩ ∧
        ∀ line ∈ left, line.all Chars.isBlank = true) ↔ FitsInfo language := by
  constructor
  · rintro ⟨left, hread, -⟩
    exact FenceReading.fitsInfo hread
  · intro hlanguage
    exact ⟨[[], []], readFence?_fenced hlanguage hcode, by simp⟩

/-! ## Normalised code -/

theorem dropLeadingNewline_suffix (s : List Char) : dropLeadingNewline s <:+ s := by
  unfold dropLeadingNewline
  split
  · exact List.suffix_cons _ _
  · exact List.suffix_refl _

theorem dropOuterNewlines_subset (s : List Char) : dropOuterNewlines s ⊆ s := by
  intro c hc
  have hend := (dropLeadingNewline_suffix _).subset (List.mem_reverse.mp hc)
  exact (dropLeadingNewline_suffix s).subset (List.mem_reverse.mp hend)

/-- Normalised code has no carriage return. -/
theorem notMem_normalizeCode (raw : String) : '\r' ∉ (normalizeCode raw).toList := by
  rw [normalizeCode, Text.toList_onChars, normalizeChars, joinLines_eq]
  intro hreturn
  have hlineFeed : ∀ c ∈ ['\n'], c ≠ '\r' := by simp
  refine Chars.forall_mem_intercalate hlineFeed ?_ _ hreturn rfl
  rintro line hline c hc rfl
  obtain ⟨whole, hwhole, rfl⟩ := List.mem_map.mp hline
  have hpiece := (Chars.isInfix_of_mem_splitAt hwhole).subset (List.mem_of_mem_drop hc)
  exact Chars.notMem_normalizeNewlines _ (dropOuterNewlines_subset _ hpiece)

/-! ## Languages on labels -/

theorem toNat_lt_of_isAlphanum {c : Char} (h : c.isAlphanum = true) : c.toNat < 128 := by
  rcases Bool.or_eq_true_iff.mp h with hletter | hdigit
  · rcases Bool.or_eq_true_iff.mp hletter with hupper | hlower
    · have hrange : 'A'.val ≤ c.val ∧ c.val ≤ 'Z'.val := of_decide_eq_true hupper
      exact Nat.lt_of_le_of_lt (UInt32.le_iff_toNat_le.mp hrange.2) (by decide)
    · have hlast : c.val ≤ 'z'.val := of_decide_eq_true (Bool.and_eq_true_iff.mp hlower).2
      exact Nat.lt_of_le_of_lt (UInt32.le_iff_toNat_le.mp hlast) (by decide)
  · exact Nat.lt_of_le_of_lt (Char.isDigit_iff_toNat.mp hdigit).2 (by decide)

/-- Whatever stands on a label in place of a language is plain ASCII, without backticks and line
ends. -/
theorem plain_of_isLanguageChar {c : Char} (h : isLanguageChar c = true) :
    c.toNat < 128 ∧ c.toLower ≠ backtick ∧ c.toLower ≠ '\n' ∧ c.toLower ≠ '\r' := by
  have hascii : c.toNat < 128 := by
    simp only [isLanguageChar, Bool.or_eq_true, decide_eq_true_eq] at h
    rcases h with ((((h | rfl) | rfl) | rfl) | rfl) | rfl
    · exact toNat_lt_of_isAlphanum h
    all_goals decide
  have hplain : ∀ n < 128, isLanguageChar (Char.ofNat n) = true →
      (Char.ofNat n).toLower ≠ backtick ∧ (Char.ofNat n).toLower ≠ '\n' ∧
        (Char.ofNat n).toLower ≠ '\r' := by decide
  have hc := hplain c.toNat hascii
  rw [Char.ofNat_toNat] at hc
  exact ⟨hascii, hc h⟩

theorem fitsInfo_empty : FitsInfo "" := nofun

theorem fitsInfo_languageOfLabel (text : String) : FitsInfo (languageOfLabel text) := by
  simp only [languageOfLabel]
  split
  · exact fitsInfo_empty
  · split
    · rename_i hchars
      rw [List.all_eq_true] at hchars
      intro c hc
      rw [Text.lower, Text.toList_onChars,
        Chars.lower_of_ascii fun d hd => (plain_of_isLanguageChar (hchars d hd)).1] at hc
      obtain ⟨d, hd, rfl⟩ := List.mem_map.mp hc
      exact (plain_of_isLanguageChar (hchars d hd)).2
    · exact fitsInfo_empty

variable {a : Adapter} {c code : Cursor}

/-- A label names a language that fits. -/
theorem fitsInfo_of_labelLanguage {selectors : List (String × String)} {language : String}
    (h : Adapter.labelLanguage code selectors = .ok language) : FitsInfo language := by
  induction selectors with
  | nil =>
    obtain rfl := Except.ok.inj h
    exact fitsInfo_empty
  | cons pair rest ih =>
    obtain ⟨container, label⟩ := pair
    unfold Adapter.labelLanguage at h
    split at h
    · cases h
    · exact ih h
    · split at h
      · cases h
      · rename_i found hfound
        -- Without a label, or with one that names no language, the search goes on.
        cases found with
        | none => exact ih (by simpa using h)
        | some d =>
          simp only at h
          split at h
          · exact ih h
          · obtain rfl := Except.ok.inj h
            exact fitsInfo_languageOfLabel _

/-! ## The language of a code -/

theorem exists_searchText?_eq {selector : String} (h : Selector.isVerticalText selector = true)
    (c : Cursor) (search : Selector → Cursor → Option Cursor) :
    ∃ found, c.searchText? selector search = .ok found := by
  obtain ⟨s, hparse, -⟩ := Selector.parse_of_isVerticalText h
  cases helement : c.node.isElement with
  | true => exact ⟨_, Cursor.searchText?_of_parse helement hparse⟩
  | false => exact ⟨none, by simp [Cursor.searchText?, helement]⟩

theorem exists_wrappersFrom_eq {selectors : List String}
    (h : ∀ selector ∈ selectors, Selector.isVerticalText selector = true) (code : Cursor)
    (found : List Cursor) :
    ∃ wrappers, Adapter.wrappersFrom code found selectors = .ok wrappers := by
  induction selectors generalizing found with
  | nil => exact ⟨found, rfl⟩
  | cons selector rest ih =>
    obtain ⟨hselector, hrest⟩ := List.forall_mem_cons.mp h
    obtain ⟨closest, hclosest⟩ : ∃ found, code.closestText? selector = .ok found :=
      exists_searchText?_eq hselector code _
    rw [Adapter.wrappersFrom, hclosest]
    cases closest with
    | none => exact ih hrest found
    | some wrapper =>
      simp only
      split
      · exact ih hrest found
      · exact ih hrest _

theorem exists_labelLanguage_eq {selectors : List (String × String)}
    (h : ∀ pair ∈ selectors, Selector.isVerticalText pair.1 = true ∧
      Selector.isVerticalText pair.2 = true) (code : Cursor) :
    ∃ language, Adapter.labelLanguage code selectors = .ok language := by
  induction selectors with
  | nil => exact ⟨"", rfl⟩
  | cons pair rest ih =>
    obtain ⟨container, label⟩ := pair
    obtain ⟨⟨hcontainer, hlabel⟩, hrest⟩ := List.forall_mem_cons.mp h
    obtain ⟨closest, hclosest⟩ : ∃ found, code.closestText? container = .ok found :=
      exists_searchText?_eq hcontainer code _
    rw [Adapter.labelLanguage, hclosest]
    cases closest with
    | none => exact ih hrest
    | some d =>
      obtain ⟨found, hfound⟩ : ∃ found, d.selectOneText? label = .ok found :=
        exists_searchText?_eq hlabel d _
      simp only [hfound]
      cases found with
      | none => simpa using ih hrest
      | some e =>
        simp only
        split
        · exact ih hrest
        · exact ⟨_, rfl⟩

/-- The classes and attributes of an element name no language. -/
def NamesNoLanguage (node : Node) : Prop :=
  languageOfClasses node = "" ∧ Adapter.languageOfAttributes node = ""

theorem firstNonEmpty_eq_empty {texts : List String} (h : ∀ text ∈ texts, text = "") :
    Adapter.firstNonEmpty texts = "" := by
  have hnone : texts.find? (fun s => s != "") = none := by simpa using h
  rw [Adapter.firstNonEmpty, hnone]
  rfl

/-- The language of a code element is always found, if only as none, and fits if neither the code
nor a wrapper names one in its classes or attributes. -/
theorem exists_codeLanguage_eq (ha : a.IsLocal) (helement : code.node.isElement = true) :
    ∃ wrappers language, a.codeWrappers code = .ok wrappers ∧ a.codeLanguage code = .ok language ∧
      ((∀ d ∈ code :: wrappers, NamesNoLanguage d.node) → FitsInfo language) := by
  obtain ⟨wrappers, hwrappers⟩ : ∃ wrappers, a.codeWrappers code = .ok wrappers := by
    simp only [Adapter.codeWrappers, ha.overrides]
    exact exists_wrappersFrom_eq (fun selector => ha.codeWrapper) code []
  obtain ⟨label, hlabel⟩ := exists_labelLanguage_eq (fun pair => ha.codeLabel) code
  simp only [Adapter.codeLanguage, ha.overrides, hwrappers, helement, Bool.not_true,
    Bool.false_eq_true, if_false, hlabel]
  split
  · exact ⟨wrappers, label, rfl, rfl, fun _ => fitsInfo_of_labelLanguage hlabel⟩
  · rename_i hnamed
    refine ⟨wrappers, _, rfl, rfl, fun hnone => ?_⟩
    -- Some class or attribute does name a language.
    refine absurd (beq_iff_eq.mpr (firstNonEmpty_eq_empty fun text htext => ?_)) hnamed
    rw [List.map_map, List.map_map] at htext
    rcases List.mem_append.mp htext with htext | htext
    · obtain ⟨d, hd, rfl⟩ := List.mem_map.mp htext
      rw [Function.comp_apply, (hnone d hd).1]
    · obtain ⟨d, hd, rfl⟩ := List.mem_map.mp htext
      rw [Function.comp_apply, (hnone d hd).2]

/-! ## Code blocks -/

theorem isElement_of_find? {names : List String} (h : c.find? names = some code) :
    code.node.isElement = true := by
  have hfound := List.find?_some h
  exact (Bool.and_eq_true_iff.mp hfound).1

theorem isSome_find?_iff {names : List String} :
    (c.find? names).isSome = true ↔
      ∃ d ∈ c.descendants, d.node.isElement = true ∧ d.node.name ∈ names := by
  simp [Cursor.find?]

/-- A code block has an element that holds its code. -/
theorem exists_codeElement?_eq (h : isCodeBlock c = true) :
    ∃ code, codeElement? c = some code ∧ code.node.isElement = true := by
  unfold codeElement?
  split
  · rename_i hcode
    exact ⟨c, rfl, Cursor.isElement_of_tagName (beq_iff_eq.mp hcode) (by decide)⟩
  · cases hinside : c.find? ["code"] with
    | some code => exact ⟨code, rfl, isElement_of_find? hinside⟩
    | none =>
      simp only [isCodeBlock, hinside] at h
      split at h
      · cases h
      · rename_i hpre
        obtain ⟨d, hd, helement, hname⟩ :=
          isSome_find?_iff.mp (Bool.and_eq_true_iff.mp h).2
        -- What was found has either name, and nothing has the name of code.
        have hnotCode : d.node.name ≠ "code" := by
          intro hcode
          have hfound : (c.find? ["code"]).isSome = true :=
            isSome_find?_iff.mpr ⟨d, hd, helement, by simp [hcode]⟩
          simp [hinside] at hfound
        have hfound : (c.find? ["pre"]).isSome = true := by
          refine isSome_find?_iff.mpr ⟨d, hd, helement, ?_⟩
          simpa [hnotCode] using hname
        obtain ⟨e, he⟩ := Option.isSome_iff_exists.mp hfound
        exact ⟨e, by simp only [he, if_neg hpre], isElement_of_find? he⟩

theorem outcome_codeBlock {language : String} (hcode : codeElement? c = some code)
    (hlanguage : a.codeLanguage code = .ok language) (depth : Nat) (options : Options)
    (content : String) (ask : Option Cursor → String) :
    (codeBlock ⟨c, depth, a, options⟩ content).outcome ask =
      .ok (fenced language (normalizeCode code.node.flatText)) := by
  simp only [codeBlock, hcode, Scene.codeLanguage, hlanguage]
  rfl

/-- A code block is put between fences, together with the language that the adapter finds. A reader
finds the language and the code again, and nothing but blank lines behind them, exactly if the
language has no backtick and no line end in it. This is so unless a class or an attribute of the
code or of a wrapper names the language. -/
theorem codeBlock_readFence (ha : a ∈ builtinAdapters) {rule : Rule}
    (hfind : RuleTable.standard.find c = .ok (some rule)) (hname : rule.name = "code-block") :
    ∃ code wrappers language, codeElement? c = some code ∧
      a.codeWrappers code = .ok wrappers ∧ a.codeLanguage code = .ok language ∧
      ((∀ d ∈ code :: wrappers, NamesNoLanguage d.node) → FitsInfo language) ∧
      ∀ depth options content ask, ∃ text,
        (rule.replacement ⟨c, depth, a, options⟩ content).outcome ask = .ok text ∧
        ((∃ left,
            readFence? text = some ⟨language, normalizeCode code.node.flatText, left⟩ ∧
              ∀ line ∈ left, line.all Chars.isBlank = true) ↔
          FitsInfo language) := by
  have hmem : codeBlockRule ∈ standardRules := mem_standardRules_iff.mpr (.inl .codeBlock)
  obtain ⟨rfl, haccepts⟩ := eq_of_find hmem hfind hname
  obtain ⟨code, hcode, helement⟩ := exists_codeElement?_eq (Except.ok.inj haccepts)
  obtain ⟨wrappers, language, hwrappers, hlanguage, hfits⟩ :=
    exists_codeLanguage_eq (isLocal_of_mem_builtin ha) helement
  refine ⟨code, wrappers, language, hcode, hwrappers, hlanguage, hfits,
    fun depth options content ask => ⟨fenced language (normalizeCode code.node.flatText), ?_, ?_⟩⟩
  · exact outcome_codeBlock hcode hlanguage depth options content ask
  · exact readFence?_fenced_iff (notMem_normalizeCode _)

/-- Code whose class names a backtick as its language. -/
def strayBacktick : Cursor :=
  .root 0 (.element "pre" []
    [.element "code" [⟨"class", .words ["language-\x60"]⟩] [.leaf .plain "x"]])

/-- It is put between fences and is not read back. -/
theorem codeBlock_readFence_strayBacktick :
    Adapter.chatGPT ∈ builtinAdapters ∧
      RuleTable.standard.find strayBacktick = .ok (some codeBlockRule) ∧
      ∃ text, (codeBlock ⟨strayBacktick, 0, .chatGPT, {}⟩ "").outcome (fun _ => "") = .ok text ∧
        ¬∃ left, readFence? text = some ⟨"\x60", "x", left⟩ ∧
          ∀ line ∈ left, line.all Chars.isBlank = true := by
  have ha : Adapter.chatGPT ∈ builtinAdapters := by simp [builtinAdapters]
  have hfind : RuleTable.standard.find strayBacktick = .ok (some codeBlockRule) := by
    rw [find_standard]
    rfl
  obtain ⟨code, wrappers, language, hcode, -, hlanguage, -, hread⟩ :=
    codeBlock_readFence ha hfind rfl
  obtain rfl := Option.some.inj hcode
  obtain rfl : language = "\x60" := (Except.ok.inj hlanguage).symm
  obtain ⟨text, houtcome, hiff⟩ := hread 0 {} "" fun _ => ""
  refine ⟨ha, hfind, text, houtcome, fun hback => ?_⟩
  have hfits : FitsInfo "\x60" := hiff.mp hback
  exact (hfits backtick (by decide)).1 rfl

end Transcript.Render
