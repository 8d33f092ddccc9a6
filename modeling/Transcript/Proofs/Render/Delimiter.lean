import Transcript.Proofs.Render.Fence

/-!
# Delimiters of code

Code stands between backticks, and may have backticks in it. Its delimiters are longer than any run
of backticks inside, and no backtick inside touches them. So of all the runs in the rendered text
only two are as long as the delimiter, and a reader that looks for the next run of this length finds
the closing one.

## Main definitions

- `IsRun`: a run of backticks that goes on at neither end

## Main results

- `lt_delimiter_of_isInfix`: runs in the code are shorter
- `isRun_delimited_iff`: the two runs that are as long as the delimiter
- `delimiters_outlast_runs`: fences of code blocks and delimiters of inline code
-/

namespace Transcript.Render

/-! ## Maximal runs -/

/-- In the text `s`, a run of `n` backticks stands between `before` and `behind`, and goes on at
neither end. -/
structure IsRun (n : Nat) (before behind s : List Char) : Prop where
  /-- The run and what stands around it. -/
  split : s = before ++ (List.replicate n backtick ++ behind)
  /-- It does not begin earlier. -/
  before : before.getLast? ≠ some backtick
  /-- It does not end later. -/
  behind : behind.head? ≠ some backtick

variable {n : Nat} {s body before behind : List Char}

theorem eq_nil_of_replicate_eq_append (hbefore : before.getLast? ≠ some backtick)
    (h : List.replicate n backtick = before ++ s) : before = [] := by
  cases hlast : before.getLast? with
  | none => exact List.getLast?_eq_none_iff.mp hlast
  | some c =>
    have hmem : c ∈ List.replicate n backtick := by
      rw [h]
      exact List.mem_append_left s (List.mem_of_getLast? hlast)
    rw [hlast, List.eq_of_mem_replicate hmem] at hbefore
    contradiction

/-- A run stands behind a text that has no run of this length and does not end with a backtick.
Nowhere else in the whole does such a run begin. -/
theorem eq_of_append_replicate_eq (hlast : body.getLast? ≠ some backtick)
    (hbody : ¬List.replicate n backtick <:+: body)
    (h : body ++ List.replicate n backtick = before ++ (List.replicate n backtick ++ behind)) :
    before = body ∧ behind = [] := by
  rcases List.append_eq_append_iff.mp h with ⟨x, hbefore, hrun⟩ | ⟨x, hx, hrun⟩
  · have hlength := congrArg List.length hrun
    simp only [List.length_append, List.length_replicate] at hlength
    obtain rfl : x = [] := List.eq_nil_of_length_eq_zero (by omega)
    obtain rfl : behind = [] := List.eq_nil_of_length_eq_zero (by omega)
    exact ⟨by simpa using hbefore, rfl⟩
  -- A run that begins in the text ends in it as well, or covers its end.
  · rcases List.append_eq_append_iff.mp hrun with ⟨y, hinside, -⟩ | ⟨y, hcovers, hend⟩
    · refine absurd ?_ hbody
      rw [hx, hinside]
      exact ⟨before, y, List.append_assoc ..⟩
    · have hxlast : x.getLast? ≠ some backtick := by
        intro hxlast
        apply hlast
        rw [hx, List.getLast?_append, hxlast, Option.some_or]
      obtain rfl := eq_nil_of_replicate_eq_append hxlast hcovers
      obtain rfl : List.replicate n backtick = y := hcovers
      exact ⟨by simpa using hx.symm, by simpa using hend⟩

/-- Between two runs of equal length stands a text without such a run, which no backtick begins or
ends. Then no further run is as long. -/
theorem isRun_delimited_iff (hne : body ≠ [])
    (hhead : body.head? ≠ some backtick) (hlast : body.getLast? ≠ some backtick)
    (hbody : ¬List.replicate n backtick <:+: body) :
    IsRun n before behind
        (List.replicate n backtick ++ (body ++ List.replicate n backtick)) ↔
      before = [] ∧ behind = body ++ List.replicate n backtick ∨
        before = List.replicate n backtick ++ body ∧ behind = [] := by
  constructor
  · rintro ⟨hsplit, hbefore, hbehind⟩
    rcases List.append_eq_append_iff.mp hsplit with ⟨x, hx, hrest⟩ | ⟨x, hx, hrest⟩
    · right
      obtain ⟨rfl, rfl⟩ := eq_of_append_replicate_eq hlast hbody hrest
      exact ⟨hx, rfl⟩
    · left
      obtain rfl := eq_nil_of_replicate_eq_append hbefore hx
      obtain rfl : List.replicate n backtick = x := hx
      exact ⟨rfl, List.append_cancel_left hrest⟩
  · obtain ⟨c, rest, rfl⟩ := List.exists_cons_of_ne_nil hne
    rintro (⟨rfl, rfl⟩ | ⟨rfl, rfl⟩)
    · exact ⟨rfl, nofun, hhead⟩
    · refine ⟨by simp, ?_, nofun⟩
      rwa [List.getLast?_append_of_ne_nil _ hne]

/-! ## Delimiters -/

theorem toList_backticks (n : Nat) :
    (backticks n).toList = List.replicate n backtick :=
  String.toList_ofList

/-- A run in a text is shorter than a delimiter that is longer than the longest run. -/
theorem lt_delimiter_of_isInfix {m : Nat} {text : String}
    (h : List.replicate m backtick <:+: text.toList) : m < longestBacktickRun text + 1 :=
  Nat.lt_succ_of_le (le_longestRunFrom_of_isInfix h)

/-- A character at the end that is no backtick makes no run longer. -/
theorem longestRunFrom_concat {c : Char} (hc : c ≠ backtick) (run : Nat) (s : List Char) :
    longestRunFrom run (s ++ [c]) = longestRunFrom run s := by
  induction s generalizing run with
  | nil => simp [longestRunFrom, hc]
  | cons d rest ih => simp only [List.cons_append, longestRunFrom, ih]

/-- Spaces around a text leave its runs as they are. -/
theorem longestBacktickRun_spaced (text : String) :
    longestBacktickRun (" " ++ text ++ " ") = longestBacktickRun text := by
  have hspace : ' ' ≠ backtick := by decide
  have htext : (" " ++ text ++ " ").toList = ' ' :: (text.toList ++ [' ']) := by simp
  rw [longestBacktickRun, htext, longestRunFrom, if_neg hspace, longestRunFrom_concat hspace,
    Nat.zero_max]
  rfl

/-- What stands between the delimiters of inline code: the code itself, or the code between spaces.
No backtick begins or ends it, and its runs are those of the code. -/
theorem inlineCode_cases (content : String) :
    ∃ body, inlineCode content =
        backticks (longestBacktickRun content + 1) ++ body ++
          backticks (longestBacktickRun content + 1) ∧
      (body = content ∨ body = " " ++ content ++ " ") ∧
      body.toList.head? ≠ some backtick ∧ body.toList.getLast? ≠ some backtick ∧
      longestBacktickRun body = longestBacktickRun content := by
  simp only [inlineCode]
  split
  · refine ⟨" " ++ content ++ " ", by simp only [String.append_assoc], .inr rfl, ?_, ?_,
      longestBacktickRun_spaced content⟩
    · simp [backtick]
    · have hend : (" " ++ content ++ " ").toList.getLast? = some ' ' := by
        rw [String.toList_append]
        exact List.getLast?_concat
      rw [hend]
      decide
  · rename_i htouches
    simp only [Bool.or_eq_true, beq_iff_eq, not_or] at htouches
    exact ⟨content, rfl, .inl rfl, htouches.1, htouches.2, rfl⟩

/-- A fence is a run of at least three backticks, and longer than any run in its code. Inline code
that is not empty stands between two equal delimiters, either as it is or between spaces. No
backtick touches them, all runs between them are shorter, and so no run of the whole text but these
two is as long as they are. -/
theorem delimiters_outlast_runs :
    (∀ code, ∃ n, codeFence code = backticks n ∧ 3 ≤ n ∧
        ∀ m, List.replicate m backtick <:+: code.toList → m < n) ∧
      ∀ scene content ask, content ≠ "" → ∃ n body,
        (codeInline scene content).outcome ask = .ok (backticks n ++ body ++ backticks n) ∧
        0 < n ∧ (body = content ∨ body = " " ++ content ++ " ") ∧
        body.toList.head? ≠ some backtick ∧ body.toList.getLast? ≠ some backtick ∧
        (∀ m, List.replicate m backtick <:+: body.toList → m < n) ∧
        ∀ before behind,
          IsRun n before behind (backticks n ++ body ++ backticks n).toList ↔
            before = [] ∧ behind = (body ++ backticks n).toList ∨
              before = (backticks n ++ body).toList ∧ behind = [] := by
  constructor
  · intro code
    refine ⟨fenceLength code, rfl, three_le_fenceLength code, fun m hrun => ?_⟩
    exact (lt_delimiter_of_isInfix hrun).trans_le (Nat.le_max_right _ _)
  · intro scene content ask hcontent
    obtain ⟨body, htext, hbody, hhead, hlast, hlongest⟩ := inlineCode_cases content
    have hruns : ∀ m, List.replicate m backtick <:+: body.toList →
        m < longestBacktickRun content + 1 := by
      intro m hrun
      rw [← hlongest]
      exact lt_delimiter_of_isInfix hrun
    refine ⟨longestBacktickRun content + 1, body, ?_, Nat.succ_pos _, hbody, hhead, hlast, hruns,
      fun before behind => ?_⟩
    · have houtcome : (codeInline scene content).outcome ask = .ok (inlineCode content) := by
        simp [codeInline, hcontent]
      rw [houtcome, htext]
    · have hne : body.toList ≠ [] := by
        rcases hbody with rfl | rfl
        · simpa using hcontent
        · simp
      simp only [String.toList_append, toList_backticks, List.append_assoc]
      exact isRun_delimited_iff hne hhead hlast fun hrun => (hruns _ hrun).false

/-- Inline code that begins with a backtick. -/
def tickedCode : String := "\x60tick"

/-- It is set apart by spaces between delimiters of two backticks, and in the rendered text no
further run is as long. -/
theorem delimiters_outlast_runs_ticked :
    tickedCode ≠ "" ∧ ∃ n body,
      backticks n ++ body ++ backticks n = "\x60\x60 \x60tick \x60\x60" ∧
        ∀ before behind,
          IsRun n before behind "\x60\x60 \x60tick \x60\x60".toList ↔
            before = [] ∧ behind = (body ++ backticks n).toList ∨
              before = (backticks n ++ body).toList ∧ behind = [] := by
  have hnonempty : tickedCode ≠ "" := by decide
  have hrendered : (codeInline ⟨.root 0 (.element "code" [] []), 0, .generic, {}⟩
      tickedCode).outcome (fun _ => "") = .ok "\x60\x60 \x60tick \x60\x60" := by rfl
  obtain ⟨n, body, houtcome, -, -, -, -, -, hruns⟩ :=
    delimiters_outlast_runs.2 _ _ _ hnonempty
  have htext := Except.ok.inj (houtcome.symm.trans hrendered)
  refine ⟨hnonempty, n, body, htext, fun before behind => ?_⟩
  rw [← htext]
  exact hruns before behind

end Transcript.Render
