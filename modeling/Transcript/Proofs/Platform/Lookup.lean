import Transcript.Platform.Registry
import Transcript.Proofs.Text.Lowering
import Transcript.Proofs.Text.Trimming

/-!
# Looking up what was registered

A registration takes the place of an earlier one of the same name, up to case, and stands last. So
after any sequence of them the registry has the latest registration under each name, in the order of
these, and look-ups answer from them: by name the latest one, by host name the first that fits.

Registration keeps the blanks around a name, whereas looking up cuts them off. A name with outer
blanks is therefore listed, but what is looked up under it is another name.

## Main definitions

- `Registry.Request`, `Registry.registerAll`: registrations one after another
- `Registry.survivors`: the registrations that no later one replaces
- `Registry.latest?`: the latest registration under a name

## Main results

- `Registry.registerAll_eq`: a registry consists of the survivors
- `Registry.find?_survivors`: the survivor of a name is its latest registration
- `Registry.registerAll_lookup`: what look-ups answer after any sequence of registrations
-/

namespace Transcript

namespace Text

/-- A text with outer blanks is not the same as what is left without them, up to case. -/
theorem trim_eq_of_lower {s : String} (h : lower (trim s) = lower s) : trim s = s := by
  rw [← String.toList_inj] at h ⊢
  simp only [lower, trim, toList_onChars] at h ⊢
  exact Chars.eq_of_infix_of_lower (Chars.trim_infix s.toList) h

end Text

namespace Registry

/-! ## Requests -/

/-- What is asked for when an adapter is registered. The name and the patterns may be left to it. -/
structure Request where
  /-- The adapter. -/
  adapter : Adapter
  /-- The name, if one is given. -/
  name : Option String := none
  /-- The patterns, if they are given. -/
  patterns : Option (List String) := none

namespace Request

/-- The name under which the adapter is registered. -/
def fullName (q : Request) : String :=
  let given := q.name.getD ""
  if given == "" then q.adapter.name else given

/-- The patterns as they were written. -/
def hosts (q : Request) : List String :=
  q.patterns.getD q.adapter.profile.hostnames

/-- The entry that a registry gets. -/
def entry (q : Request) : Registration :=
  ⟨q.fullName, q.hosts.map Text.lower, q.adapter⟩

/-- Whether the adapter is registered under this name, up to case. -/
def isFor (q : Request) (name : String) : Bool :=
  Text.lower q.fullName == Text.lower name

/-- Whether one of the patterns occurs in a host name when both are lowered. -/
def fits (q : Request) (host : String) : Bool :=
  q.hosts.any fun pattern => Text.contains (Text.lower pattern) (Text.lower host)

theorem isFor_comm (q other : Request) : q.isFor other.fullName = other.isFor q.fullName := by
  rw [isFor, isFor, Bool.eq_iff_iff, beq_iff_eq, beq_iff_eq, eq_comm]

/-- Requests for one name are for the names of each other. -/
theorem isFor_congr {q : Request} {name : String} (h : q.isFor name = true) (other : Request) :
    other.isFor q.fullName = other.isFor name := by
  rw [isFor, isFor, beq_iff_eq.mp h]

end Request

/-- Registers adapters one after another. -/
def registerAll (r : Registry) (requests : List Request) : Registry :=
  requests.foldl (fun r q => r.register q.adapter q.name q.patterns) r

/-- The requests behind which there is none for the same name, up to case. -/
def survivors : List Request → List Request
  | [] => []
  | q :: later =>
    if later.any fun other => other.isFor q.fullName then survivors later
    else q :: survivors later

/-- The last of the requests for a name, up to case. -/
def latest? (requests : List Request) (name : String) : Option Request :=
  requests.reverse.find? fun q => q.isFor name

/-! ## One registration -/

/-- A registration drops the entry of the same name and adds its own at the end. -/
theorem register_eq (r : Registry) (q : Request) :
    r.register q.adapter q.name q.patterns =
      { r with
        entries := (r.entries.filter fun e => Text.lower e.name != Text.lower q.fullName) ++
          [q.entry] } :=
  rfl

/-- One more request replaces those for its name. -/
theorem survivors_append (requests : List Request) (q : Request) :
    survivors (requests ++ [q]) =
      (survivors requests).filter (fun other => !other.isFor q.fullName) ++ [q] := by
  induction requests with
  | nil => rfl
  | cons first later ih =>
    -- The first one gives way to one that comes later, or to the last.
    rw [List.cons_append, survivors, survivors, ih, List.any_append, List.any_cons, List.any_nil,
      Bool.or_false, q.isFor_comm]
    cases hlater : later.any fun other => other.isFor first.fullName
    · cases hlast : first.isFor q.fullName <;> simp [hlast]
    · simp

theorem latest?_append (requests : List Request) (q : Request) (name : String) :
    latest? (requests ++ [q]) name =
      if q.isFor name then some q else latest? requests name := by
  rw [latest?, List.reverse_append, List.reverse_singleton, List.singleton_append, List.find?_cons]
  cases q.isFor name <;> rfl

/-! ## All registrations -/

theorem registerAll_append (r : Registry) (requests : List Request) (q : Request) :
    r.registerAll (requests ++ [q]) =
      (r.registerAll requests).register q.adapter q.name q.patterns := by
  rw [registerAll, List.foldl_append]
  rfl

/-- A registry that was empty has the entries of the survivors, and its own fallback. -/
theorem registerAll_eq (fallback : Adapter) (requests : List Request) :
    Registry.registerAll { fallback } requests =
      { entries := (survivors requests).map Request.entry, fallback } := by
  -- Induction from the end, where one more registration is made.
  induction requests using List.reverseRecOn with
  | nil => rfl
  | append_singleton requests q ih =>
    have hdropped : (fun e : Registration => Text.lower e.name != Text.lower q.fullName) ∘
        Request.entry = fun other => !other.isFor q.fullName := by
      funext other
      simp only [Function.comp, Request.entry, Request.isFor, bne]
    rw [registerAll_append, ih, register_eq, survivors_append, List.filter_map, hdropped,
      List.map_append, List.map_singleton]

theorem mem_of_mem_survivors {requests : List Request} {q : Request}
    (h : q ∈ survivors requests) : q ∈ requests := by
  induction requests with
  | nil => exact h
  | cons first later ih =>
    rw [survivors] at h
    split at h
    · exact List.mem_cons_of_mem _ (ih h)
    · rcases List.mem_cons.mp h with rfl | hlater
      · exact List.mem_cons_self
      · exact List.mem_cons_of_mem _ (ih hlater)

/-- No two survivors have one name, up to case. -/
theorem nodup_survivors (requests : List Request) :
    ((survivors requests).map fun q => Text.lower q.fullName).Nodup := by
  induction requests with
  | nil => exact List.nodup_nil
  | cons first later ih =>
    rw [survivors]
    split
    · exact ih
    · rename_i hnone
      refine List.nodup_cons.mpr ⟨fun hmem => hnone ?_, ih⟩
      obtain ⟨other, hother, hsame⟩ := List.mem_map.mp hmem
      exact List.any_eq_true.mpr ⟨other, mem_of_mem_survivors hother, by simpa [Request.isFor]⟩

/-- The survivor of a name is its latest registration. -/
theorem find?_survivors (requests : List Request) (name : String) :
    ((survivors requests).find? fun q => q.isFor name) = latest? requests name := by
  induction requests using List.reverseRecOn with
  | nil => rfl
  | append_singleton requests q ih =>
    rw [survivors_append, latest?_append, List.find?_append]
    cases hq : q.isFor name with
    | true =>
      -- The others for this name have been dropped.
      have hnone : ((survivors requests).filter fun other => !other.isFor q.fullName).find?
          (fun other => other.isFor name) = none := by
        rw [List.find?_eq_none]
        intro other hother
        have hdropped : other.isFor q.fullName = false := by
          simpa using (List.mem_filter.mp hother).2
        rw [← Request.isFor_congr hq, hdropped]
        exact Bool.false_ne_true
      simp [hnone, hq]
    | false =>
      -- None of those for this name has been dropped.
      have hkept : ∀ other : Request,
          (!other.isFor q.fullName && other.isFor name) = other.isFor name := by
        intro other
        cases hother : other.isFor name with
        | true => rw [other.isFor_comm, Request.isFor_congr hother, hq]; rfl
        | false => rw [Bool.and_false]
      simp [List.find?_filter, hkept, ih, hq]

/-! ## Look-ups -/

section LookUp

variable {fallback : Adapter} {requests : List Request}

/-- By name, the latest registration under what is left of the name without outer blanks. -/
theorem byName_registerAll (name : String) :
    (Registry.registerAll { fallback } requests).byName name =
      match latest? requests (Text.trim name) with
      | some q => .ok q.adapter
      | none => .error ((Registry.registerAll { fallback } requests).unknown name) := by
  have hfind : ((Registry.registerAll { fallback } requests).entries.find? fun e =>
      Text.lower e.name == Text.lower (Text.trim name)) =
        (latest? requests (Text.trim name)).map Request.entry := by
    rw [registerAll_eq, List.find?_map, ← find?_survivors]
    rfl
  rw [byName, hfind]
  cases latest? requests (Text.trim name) <;> rfl

/-- By host name, the first survivor that fits. -/
theorem forHostname_registerAll {host : String} (hhost : host ≠ "") :
    (Registry.registerAll { fallback } requests).forHostname (some host) =
      (((survivors requests).find? fun q => q.fits host).map Request.adapter).getD fallback := by
  have hfits : ((fun e : Registration => e.patterns.any fun p => Text.contains p (Text.lower host)) ∘
      Request.entry) = fun q => q.fits host := by
    funext q
    simp [Request.entry, Request.fits, Function.comp_def]
  simp only [registerAll_eq, forHostname, beq_iff_eq, hhost, if_false, List.find?_map, hfits]
  cases (survivors requests).find? fun q => q.fits host <;> rfl

/-- A name that is listed has a latest registration. -/
theorem exists_latest_of_mem_names {name : String}
    (h : name ∈ (Registry.registerAll { fallback } requests).names) :
    ∃ q, latest? requests name = some q := by
  simp only [names, registerAll_eq, List.map_map, List.mem_map] at h
  obtain ⟨q, hq, rfl⟩ := h
  rw [← find?_survivors, ← Option.isSome_iff_exists, List.find?_isSome]
  exact ⟨q, hq, beq_self_eq_true _⟩

/-- A registration under a name is the one under the rest of the name only if there are no blanks
around it. -/
theorem trim_eq_of_latest {name : String} {q : Request} (hname : latest? requests name = some q)
    (htrim : latest? requests (Text.trim name) = some q) : Text.trim name = name := by
  have hfor := List.find?_some hname
  have hfortrim := List.find?_some htrim
  simp only [Request.isFor, beq_iff_eq] at hfor hfortrim
  exact Text.trim_eq_of_lower (hfortrim.symm.trans hfor)

end LookUp

/-- After any sequence of registrations in an empty registry, the names are distinct up to case.
What is looked up by name is the latest registration under the name without its outer blanks, or a
fault if there is none; for a name that is listed this is the latest registration under the name
itself exactly if there are no blanks around it. What is looked up by host name is the first
survivor that fits, else the fallback, which also stands for a missing host name; and in a host name
without a capital sigma and a dotted capital I a pattern is looked for up to case. -/
theorem registerAll_lookup (fallback : Adapter) (requests : List Request) :
    ((Registry.registerAll { fallback } requests).names.map Text.lower).Nodup ∧
      (∀ name, (Registry.registerAll { fallback } requests).byName name =
        match latest? requests (Text.trim name) with
        | some q => .ok q.adapter
        | none => .error ((Registry.registerAll { fallback } requests).unknown name)) ∧
      (∀ name ∈ (Registry.registerAll { fallback } requests).names,
        ∃ q, latest? requests name = some q ∧
          (latest? requests (Text.trim name) = some q ↔ Text.trim name = name)) ∧
      (∀ host, host ≠ "" → (Registry.registerAll { fallback } requests).forHostname (some host) =
        (((survivors requests).find? fun q => q.fits host).map Request.adapter).getD fallback) ∧
      (Registry.registerAll { fallback } requests).forHostname none = fallback ∧
      (Registry.registerAll { fallback } requests).forHostname (some "") = fallback ∧
      ∀ q : Request, ∀ host : String, (∀ c ∈ host.toList, Chars.LowersInPlace c) →
        (q.fits host = true ↔
          ∃ pattern ∈ q.hosts, Chars.OccursFolded pattern.toList host.toList) := by
  refine ⟨?_, byName_registerAll, fun name hname => ?_, fun host => forHostname_registerAll, ?_, ?_,
    fun q host hplain => ?_⟩
  · have hnodup := nodup_survivors requests
    rwa [names, registerAll_eq, List.map_map, List.map_map]
  · obtain ⟨q, hq⟩ := exists_latest_of_mem_names hname
    exact ⟨q, hq, trim_eq_of_latest hq, fun htrim => by rw [htrim, hq]⟩
  · rw [registerAll_eq]
    rfl
  · rw [registerAll_eq]
    rfl
  · simp [Request.fits, Text.contains, Chars.contains_iff_infix, Text.lower,
      Chars.infix_lower_iff hplain]

/-- A registration under a name with outer blanks. -/
def blankedRequest : Request := { adapter := .claude, name := some " x " }

/-- The name is listed, but nothing is looked up under it. By a host name, also one in capital
letters, the adapter is found. -/
theorem registerAll_lookup_blanked :
    " x " ∈ (Registry.registerAll { fallback := .chatGPT } [blankedRequest]).names ∧
      "CLAUDE.AI" ≠ "" ∧ (∀ c ∈ "CLAUDE.AI".toList, Chars.LowersInPlace c) ∧
      (∃ q, latest? [blankedRequest] " x " = some q ∧
        latest? [blankedRequest] (Text.trim " x ") ≠ some q) ∧
      (Registry.registerAll { fallback := .chatGPT } [blankedRequest]).byName " x " =
        .error ((Registry.registerAll { fallback := .chatGPT } [blankedRequest]).unknown " x ") ∧
      (Registry.registerAll { fallback := .chatGPT } [blankedRequest]).forHostname
        (some "CLAUDE.AI") = .claude ∧
      ∃ pattern ∈ blankedRequest.hosts, Chars.OccursFolded pattern.toList "CLAUDE.AI".toList := by
  have hlisted : " x " ∈ (Registry.registerAll { fallback := .chatGPT } [blankedRequest]).names := by
    decide
  have hsome : "CLAUDE.AI" ≠ "" := by decide
  have hplain : ∀ c ∈ "CLAUDE.AI".toList, Chars.LowersInPlace c := by
    simp [Chars.LowersInPlace]
  have hfits : blankedRequest.fits "CLAUDE.AI" = true := by decide
  have hother : blankedRequest.isFor (Text.trim " x ") = false := by decide
  have hnone : latest? [blankedRequest] (Text.trim " x ") = none := by simp [latest?, hother]
  obtain ⟨-, hname, hlookup, hhost, -, -, hoccurs⟩ := registerAll_lookup .chatGPT [blankedRequest]
  refine ⟨hlisted, hsome, hplain, ?_, ?_, ?_, (hoccurs _ _ hplain).mp hfits⟩
  · obtain ⟨q, hlatest, hagree⟩ := hlookup " x " hlisted
    have hblanks : Text.trim " x " ≠ " x " := by decide
    exact ⟨q, hlatest, fun htrim => hblanks (hagree.mp htrim)⟩
  · rw [hname, hnone]
  · have hsurvives : survivors [blankedRequest] = [blankedRequest] := rfl
    rw [hhost _ hsome, hsurvives]
    simp only [List.find?_cons, hfits, Option.map_some, Option.getD_some]
    rfl

end Registry

end Transcript
