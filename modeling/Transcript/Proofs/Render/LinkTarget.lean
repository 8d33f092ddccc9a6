import Transcript.Platform.Builtin
import Transcript.Proofs.Conversion.Conduct
import Transcript.Proofs.Text.Beginning
import Transcript.Proofs.Text.Trimming
import Transcript.Proofs.Text.Visible
import Transcript.Render.Inline

/-!
# Link targets that run script

A browser reads a link target in its own way: it drops control characters and spaces at the
beginning, and tabs and line ends everywhere. The check of a target drops blanks instead, so the two
differ in the control characters that are no blanks. Targets that a browser runs are therefore found
out by the check, unless they begin with such a character.

## Main definitions

- `browserTarget`, `RunsScript`: a target as a browser reads it
- `BeginsWithControl`: a target that begins with a control character

## Main results

- `outcome_link`: how a link is rendered
- `isSafeHref_iff_beginsWithControl`: the check of a target that a browser runs
- `link_runsScript`: when a link to such a target is rendered
-/

namespace Transcript.Render

open Markup

/-! ## How a link is rendered -/

/-- The target of a link: its address without surrounding blanks. -/
def linkTarget (scene : Scene) : String :=
  scene.node.node.trimmedAttribute "href"

/-- A link to a target; without a text of its own it shows the target. -/
def linkText (text target : String) : String :=
  "[" ++ orElse text target ++ "](" ++ target ++ ")"

/-- A link is rendered as its text alone, unless it has a target and the target is safe. -/
theorem outcome_link (scene : Scene) (content : String) (ask : Option Cursor → String) :
    (link scene content).outcome ask =
      .ok (if linkTarget scene == "" || !isSafeHref (linkTarget scene) then Text.trim content
        else linkText (Text.trim content) (linkTarget scene)) := by
  unfold link
  rw [← linkTarget]
  extract_lets target text
  cases hempty : target == "" with
  | true => rfl
  | false =>
    cases hsafe : isSafeHref target with
    | true => rfl
    | false => rfl

theorem linkText_ne (text target : String) : linkText text target ≠ text := by
  intro h
  have hlength := congrArg String.length h
  unfold linkText orElse at hlength
  split at hlength
  · rename_i hempty
    obtain rfl := beq_iff_eq.mp hempty
    simp at hlength
  · simp only [String.length_append] at hlength
    have hopening : "[".length = 1 := rfl
    omega

/-! ## Targets as browsers read them -/

/-- The characters that a browser drops at the beginning of a target: controls and the space. -/
def isDroppedAtStart (c : Char) : Bool :=
  c.toNat ≤ 32

/-- The characters that a browser drops everywhere in a target: the tabulator and line ends. -/
def isDroppedEverywhere (c : Char) : Bool :=
  c == '\t' || c == '\n' || c == '\r'

/-- A target as a browser reads it, when it looks for a scheme. -/
def browserTarget (target : List Char) : List Char :=
  ((target.dropWhile isDroppedAtStart).filter fun c => !isDroppedEverywhere c).map Char.toLower

/-- The beginnings of targets that run script. -/
def executableStarts : List String :=
  ["javascript:", "vbscript:", "data:text/html"]

/-- A target that runs script in a browser. -/
def RunsScript (target : String) : Prop :=
  ∃ start ∈ executableStarts, start.toList <+: browserTarget target.toList

/-- A target that begins with a control character. -/
def BeginsWithControl (target : String) : Prop :=
  ∃ c ∈ target.toList.head?, c.toNat < 32

/-! ## The check of a target -/

theorem isSafeHref_iff (target : String) :
    isSafeHref target = true ↔
      ∀ start ∈ executableStarts, ¬start.toList <+: Chars.lower (Chars.visible target.toList) := by
  have hwords : (String.join (Text.words target)).toList = Chars.visible target.toList := by
    rw [← Chars.flatten_words, Text.words, String.toList_join, List.flatMap_map]
    simp [List.flatMap_id']
  have hlower : (Text.lower (String.join (Text.words target))).toList =
      Chars.lower (Chars.visible target.toList) := by
    rw [Text.lower, Text.toList_onChars, hwords]
  have hstarts : unsafeStarts = executableStarts := rfl
  simp [isSafeHref, hstarts, Text.startsWith, hlower, ← Chars.startsWith_iff_prefix]

/-- Beginnings of unsafe targets are plain ASCII without blanks. -/
theorem plain_of_mem_executableStarts {start : String} (hstart : start ∈ executableStarts) :
    ∀ c ∈ start.toList, Chars.isBlank c = false ∧ c.toNat < 128 := by
  simp only [executableStarts, List.mem_cons, List.not_mem_nil, or_false] at hstart
  rcases hstart with rfl | rfl | rfl <;> simp [Chars.isBlank]

/-- Beginnings of unsafe targets begin with a letter. -/
theorem exists_cons_of_mem_executableStarts {start : String} (hstart : start ∈ executableStarts) :
    ∃ c rest, start.toList = c :: rest ∧ 32 < c.toNat := by
  simp only [executableStarts, List.mem_cons, List.not_mem_nil, or_false] at hstart
  rcases hstart with rfl | rfl | rfl
  · exact ⟨'j', _, rfl, by decide⟩
  · exact ⟨'v', _, rfl, by decide⟩
  · exact ⟨'d', _, rfl, by decide⟩

theorem visible_filter_isDroppedEverywhere (s : List Char) :
    Chars.visible (s.filter fun c => !isDroppedEverywhere c) = Chars.visible s := by
  rw [Chars.visible, Chars.visible, List.filter_filter]
  refine List.filter_congr fun c _ => ?_
  cases hdropped : isDroppedEverywhere c with
  | false => simp
  | true =>
    have hblank : Chars.isBlank c = true := by
      simp only [isDroppedEverywhere, Bool.or_eq_true, beq_iff_eq] at hdropped
      rcases hdropped with (rfl | rfl) | rfl <;> decide
    simp [hblank]

/-- What a browser looks for is also found where blanks are dropped and all case is folded. -/
theorem prefix_lower_visible {start s : List Char}
    (hplain : ∀ c ∈ start, Chars.isBlank c = false ∧ c.toNat < 128)
    (h : start <+: (s.filter fun c => !isDroppedEverywhere c).map Char.toLower) :
    start <+: Chars.lower (Chars.visible s) := by
  obtain ⟨rest, hrest⟩ := h
  obtain ⟨first, last, hsplit, rfl, rfl⟩ := List.map_eq_append_iff.mp hrest.symm
  have hfirst : ∀ c ∈ first, Chars.isBlank c = false ∧ c.toNat < 128 := by
    intro c hc
    obtain ⟨hvisible, hascii⟩ := hplain c.toLower (List.mem_map_of_mem hc)
    refine ⟨?_, Chars.toNat_lt_of_toLower hascii⟩
    -- A blank would be its own lower-case form.
    cases hblank : Chars.isBlank c with
    | false => rfl
    | true => rw [← hvisible, Chars.toLower_of_isBlank hblank, hblank]
  have hkept : Chars.visible first = first :=
    List.filter_eq_self.mpr fun c hc => by simp [(hfirst c hc).1]
  rw [← visible_filter_isDroppedEverywhere, hsplit, Chars.visible_append, hkept, Chars.lower,
    Chars.lowerFrom_append_of_ascii fun c hc => (hfirst c hc).2]
  exact List.prefix_append _ _

/-- A text that begins with a control character does not begin as an unsafe target does, in lower
case either. -/
theorem not_prefix_lower_of_control {start : String} (hstart : start ∈ executableStarts) {c : Char}
    (hc : c.toNat < 32) (s : List Char) : ¬start.toList <+: Chars.lower (c :: s) := by
  have hsame : c.toLower = c := Chars.toLower_eq_self (.inl (by omega))
  have hlower : Chars.lower (c :: s) = c :: Chars.lowerFrom [c] s := by
    have hsplit := Chars.lowerFrom_append_of_ascii (s := [c]) (by simp; omega) [] s
    rw [List.map_singleton, hsame] at hsplit
    exact hsplit
  obtain ⟨d, rest, hd, hlarge⟩ := exists_cons_of_mem_executableStarts hstart
  rw [hlower, hd]
  intro hprefix
  obtain ⟨rfl, -⟩ := List.cons_prefix_cons.mp hprefix
  omega

/-- A target that a browser runs is found out, unless it begins with a control character. -/
theorem isSafeHref_iff_beginsWithControl {target : String}
    (hvisible : ∀ c ∈ target.toList.head?, Chars.isBlank c = false) (hruns : RunsScript target) :
    isSafeHref target = true ↔ BeginsWithControl target := by
  obtain ⟨start, hstart, hprefix⟩ := hruns
  obtain ⟨d, others, hd, -⟩ := exists_cons_of_mem_executableStarts hstart
  rw [isSafeHref_iff, BeginsWithControl]
  cases hchars : target.toList with
  | nil =>
    rw [hchars, hd] at hprefix
    exact absurd (List.prefix_nil.mp hprefix) (List.cons_ne_nil _ _)
  | cons c rest =>
    have hc : Chars.isBlank c = false := hvisible c (by simp [hchars])
    by_cases hcontrol : c.toNat < 32
    -- The character is no blank, so it stays in front of what is compared.
    · have hkept : Chars.visible (c :: rest) = c :: Chars.visible rest := by
        simp [Chars.visible, hc]
      rw [hkept]
      exact ⟨fun _ => ⟨c, rfl, hcontrol⟩, fun _ other hother =>
        not_prefix_lower_of_control hother hcontrol _⟩
    -- A browser drops nothing at the beginning either.
    · have hspace : c.toNat ≠ 32 := by
        intro heq
        obtain rfl : c = ' ' := Char.toNat_inj.mp heq
        exact absurd hc (by decide)
      have hdropped : isDroppedAtStart c = false := by
        simp only [isDroppedAtStart, decide_eq_false_iff_not]
        omega
      rw [hchars, browserTarget, List.dropWhile_cons_of_neg (by simp [hdropped])] at hprefix
      have hfound := prefix_lower_visible (plain_of_mem_executableStarts hstart) hprefix
      constructor
      · intro hsafe
        exact absurd hfound (hsafe start hstart)
      · rintro ⟨other, hother, hsmall⟩
        obtain rfl : c = other := by simpa using hother
        exact absurd hsmall hcontrol

/-- A text without its surrounding blanks begins visibly, if at all. -/
theorem not_isBlank_of_head?_trim {s : String} {c : Char}
    (hc : c ∈ (Text.trim s).toList.head?) : Chars.isBlank c = false := by
  rw [Text.trim, Text.toList_onChars] at hc
  exact Chars.not_isBlank_of_mem_head?_trim hc

/-! ## Links to targets that run script -/

/-- A link comes to its text alone, or to a link to its target. If the target runs script in a
browser, the link is rendered if and only if the target begins with a control character. -/
theorem link_runsScript (scene : Scene) (content : String) (ask : Option Cursor → String) :
    ∃ text, (link scene content).outcome ask = .ok text ∧
      (text = Text.trim content ∨ text = linkText (Text.trim content) (linkTarget scene)) ∧
      (RunsScript (linkTarget scene) →
        (text ≠ Text.trim content ↔ BeginsWithControl (linkTarget scene))) := by
  refine ⟨_, outcome_link scene content ask, ?_, fun hruns => ?_⟩
  · split
    · exact .inl rfl
    · exact .inr rfl
  · have hvisible : ∀ c ∈ (linkTarget scene).toList.head?, Chars.isBlank c = false :=
      fun c => not_isBlank_of_head?_trim
    have hempty : (linkTarget scene == "") = false := by
      refine beq_eq_false_iff_ne.mpr fun hnone => ?_
      obtain ⟨start, hstart, hprefix⟩ := hruns
      obtain ⟨c, rest, hc, -⟩ := exists_cons_of_mem_executableStarts hstart
      rw [hnone, hc] at hprefix
      exact absurd (List.prefix_nil.mp hprefix) (List.cons_ne_nil _ _)
    rw [← isSafeHref_iff_beginsWithControl hvisible hruns, hempty, Bool.false_or]
    cases hsafe : isSafeHref (linkTarget scene) with
    | true => simpa using linkText_ne _ _
    | false => simp

/-- A link with an address, without anything else in the document. -/
def linkScene (address : String) : Scene :=
  ⟨Cursor.root 0 (.element "a" [⟨"href", .text address⟩] []), 0, .generic, {}⟩

/-- Behind a control character a target that runs script is not found out, and the link to it is
rendered; with blanks in it the text alone is kept. -/
theorem link_runsScript_control :
    RunsScript (linkTarget (linkScene "\x01javascript:alert(1)")) ∧
      (∃ text, (link (linkScene "\x01javascript:alert(1)") "x").outcome (fun _ => "") = .ok text ∧
        text ≠ Text.trim "x") ∧
      RunsScript (linkTarget (linkScene " java\nscript:alert(1)")) ∧
      ∃ text, (link (linkScene " java\nscript:alert(1)") "x").outcome (fun _ => "") = .ok text ∧
        text = Text.trim "x" := by
  have hcontrol : RunsScript (linkTarget (linkScene "\x01javascript:alert(1)")) :=
    ⟨"javascript:", List.mem_cons_self, by decide⟩
  have hblanks : RunsScript (linkTarget (linkScene " java\nscript:alert(1)")) :=
    ⟨"javascript:", List.mem_cons_self, by decide⟩
  refine ⟨hcontrol, ?_, hblanks, ?_⟩
  · obtain ⟨text, houtcome, -, hiff⟩ :=
      link_runsScript (linkScene "\x01javascript:alert(1)") "x" (fun _ => "")
    exact ⟨text, houtcome, (hiff hcontrol).mpr ⟨'\x01', by decide, by decide⟩⟩
  · obtain ⟨text, houtcome, -, hiff⟩ :=
      link_runsScript (linkScene " java\nscript:alert(1)") "x" (fun _ => "")
    refine ⟨text, houtcome, of_not_not fun hne => ?_⟩
    obtain ⟨c, hc, hsmall⟩ := (hiff hblanks).mp hne
    have hhead : (linkTarget (linkScene " java\nscript:alert(1)")).toList.head? = some 'j' := by
      decide
    obtain rfl : 'j' = c := by simpa [hhead] using hc
    exact absurd hsmall (by decide)

end Transcript.Render
