import ManifestTree.Proofs.Provider.Registration

/-!
# Registration, call by call

Any objects may be offered to a provider, one after the other, and a refused one does not end the run. Each call does one of two
things: it refuses the object for the first check that it fails and leaves the provider as it was, or it puts one manifest behind the
others (`register_cases`, `refusal?_eq_some_iff`). So over a whole run a provider keeps its name and its directory, and collects the
manifests of the objects it took, in the order of the calls and with paths that are pairwise different (`registration_invariant`).
-/

namespace ManifestTree

namespace Provider

variable {p : Provider} {c : Candidate} {m : Manifest} {e : RenderError}

/-! ## One call -/

/-- What a provider refuses an object for, in the order of its checks: the object has no name, or it has one and cannot be written, or
it has a manifest and another one has the same path. -/
inductive Refused (p : Provider) (c : Candidate) : RenderError → Prop where
  | unnamed (hname : c.name? = none) : Refused p c (.unnamed c.kind p.name)
  | unwritable {name reason : String} (hname : c.name? = some name) (hbody : c.body = .error reason) :
      Refused p c (.json (Reason.ofString reason).display)
  | registeredTwice {m other : Manifest} (hm : c.manifest? = some m) (hother : other ∈ p.manifests)
      (hsame : other.relativePath.Same m.relativePath) : Refused p c (.registeredTwice m.kind m.name p.name)

/-- Why a call refuses an object, if it does. -/
def refusal? (p : Provider) (c : Candidate) : Option RenderError :=
  match register c p with
  | .ok _ _ => none
  | .error e _ => some e

/-- The provider after a call, whether it took the object or refused it. -/
def afterCall (p : Provider) (c : Candidate) : Provider :=
  match register c p with
  | .ok _ p' => p'
  | .error _ p' => p'

/-- The error of a refused object is that of the first check it fails. -/
theorem Refused.accept_eq (h : Refused p c e) : p.accept c = .error e := by
  cases h with
  | unnamed hname => simp [accept, hname]
  | unwritable hname hbody => simp [accept, hname, hbody]
  | registeredTwice hm hother hsame =>
    obtain ⟨name, body, hname, hbody, rfl⟩ := Candidate.manifest?_eq_some hm
    have hany : (p.manifests.any fun other => decide (other.relativePath.Same
        (⟨c.apiVersion, c.kind, c.namespaceName?, name, body⟩ : Manifest).relativePath)) = true :=
      List.any_eq_true.mpr ⟨_, hother, decide_eq_true hsame⟩
    simp only [accept, hname, hbody, hany, if_true]

/-- A refused object leaves the provider as it was. -/
theorem Refused.register_eq (h : Refused p c e) : register c p = .error e p := by
  unfold register
  rw [h.accept_eq]

/-- What one call can do: refuse the object and change nothing, or put its manifest, whose path is new, behind the others. -/
theorem register_cases (p : Provider) (c : Candidate) :
    (∃ e, Refused p c e ∧ register c p = .error e p) ∨
      ∃ m, c.manifest? = some m ∧ (∀ other ∈ p.manifests, ¬ other.relativePath.Same m.relativePath) ∧
        register c p = .ok () { p with manifests := p.manifests ++ [m] } := by
  by_cases hrefused : ∃ e, Refused p c e
  · obtain ⟨e, he⟩ := hrefused
    exact Or.inl ⟨e, he, he.register_eq⟩
  · obtain ⟨name, hname⟩ : ∃ name, c.name? = some name := by
      by_contra hnone
      exact hrefused ⟨_, .unnamed (Option.eq_none_iff_forall_ne_some.mpr fun name hname => hnone ⟨name, hname⟩)⟩
    obtain ⟨m, hm⟩ : ∃ m, c.manifest? = some m := by
      cases hbody : c.body with
      | error reason => exact absurd ⟨_, .unwritable hname hbody⟩ hrefused
      | ok body =>
        refine ⟨⟨c.apiVersion, c.kind, c.namespaceName?, name, body⟩, ?_⟩
        simp only [Candidate.manifest?, hname, hbody]
    have hnew : ∀ other ∈ p.manifests, ¬ other.relativePath.Same m.relativePath := fun other hother hsame =>
      hrefused ⟨_, .registeredTwice hm hother hsame⟩
    exact Or.inr ⟨m, hm, hnew, register_of_new hm hnew⟩

/-- A call fails exactly for the first check that the object does not pass. -/
theorem refusal?_eq_some_iff : p.refusal? c = some e ↔ Refused p c e := by
  constructor
  · intro h
    unfold refusal? at h
    rcases register_cases p c with ⟨e', he', hrun⟩ | ⟨m, -, -, hrun⟩
    · rw [hrun] at h
      rw [← Option.some.inj h]
      exact he'
    · simp [hrun] at h
  · intro h
    unfold refusal?
    rw [h.register_eq]

/-- What a call does to a provider. -/
structure Outcome (p : Provider) (c : Candidate) (p' : Provider) : Prop where
  name : p'.name = p.name
  directory : p'.directory = p.directory
  fails : ∀ e, p.refusal? c = some e ↔ Refused p c e
  refused : p.refusal? c ≠ none → p' = p
  taken : p.refusal? c = none → ∃ m, c.manifest? = some m ∧ p'.manifests = p.manifests ++ [m]

theorem afterCall_of_refused (h : p.refusal? c ≠ none) : p.afterCall c = p := by
  obtain ⟨e, he⟩ := Option.ne_none_iff_exists'.mp h
  unfold afterCall
  rw [(refusal?_eq_some_iff.mp he).register_eq]

/-- An object that is not refused is taken: its manifest comes after the others, and its path is new. -/
theorem afterCall_of_taken (h : p.refusal? c = none) :
    ∃ m, c.manifest? = some m ∧ (∀ other ∈ p.manifests, ¬ other.relativePath.Same m.relativePath) ∧
      p.afterCall c = { p with manifests := p.manifests ++ [m] } := by
  rcases register_cases p c with ⟨e, he, -⟩ | ⟨m, hm, hnew, hrun⟩
  · rw [refusal?_eq_some_iff.mpr he] at h
    cases h
  · exact ⟨m, hm, hnew, by simp only [afterCall, hrun]⟩

theorem outcome_afterCall (p : Provider) (c : Candidate) : Outcome p c (p.afterCall c) := by
  cases h : p.refusal? c with
  | none =>
    obtain ⟨m, hm, -, hafter⟩ := afterCall_of_taken h
    rw [hafter]
    exact ⟨rfl, rfl, fun e => refusal?_eq_some_iff, fun hne => absurd h hne, fun _ => ⟨m, hm, rfl⟩⟩
  | some e =>
    have hne : p.refusal? c ≠ none := by simp [h]
    rw [afterCall_of_refused hne]
    exact ⟨rfl, rfl, fun e => refusal?_eq_some_iff, fun _ => rfl, fun hnone => absurd hnone hne⟩

/-! ## Runs of calls -/

/-- The provider after calls with some objects in turn. -/
def afterCalls (p : Provider) (cs : List Candidate) : Provider := cs.foldl afterCall p

/-- The objects that a provider takes when some are offered in turn. -/
def taken (p : Provider) : List Candidate → List Candidate
  | [] => []
  | c :: rest => if p.refusal? c = none then c :: taken (p.afterCall c) rest else taken (p.afterCall c) rest

/-- What a provider collects over calls with some objects. -/
structure Collects (p : Provider) (cs : List Candidate) (p' : Provider) : Prop where
  name : p'.name = p.name
  directory : p'.directory = p.directory
  sublist : (p.taken cs).Sublist cs
  manifests : ∃ ms, p'.manifests = p.manifests ++ ms ∧ ms.map some = (p.taken cs).map Candidate.manifest?

theorem collects_afterCalls (p : Provider) (cs : List Candidate) : Collects p cs (p.afterCalls cs) := by
  induction cs generalizing p with
  | nil => exact ⟨rfl, rfl, .refl _, [], by simp [afterCalls], rfl⟩
  | cons c rest ih =>
    obtain ⟨hname, hdirectory, hsublist, ms, hms, htaken⟩ := ih (p.afterCall c)
    have hfirst := outcome_afterCall p c
    have hafter : p.afterCalls (c :: rest) = (p.afterCall c).afterCalls rest := rfl
    rw [hafter]
    refine ⟨hname.trans hfirst.name, hdirectory.trans hfirst.directory, ?_, ?_⟩
    · rw [taken]
      split
      · exact hsublist.cons_cons c
      · exact hsublist.cons c
    · by_cases h : p.refusal? c = none
      · obtain ⟨m, hm, hmanifests⟩ := hfirst.taken h
        refine ⟨m :: ms, ?_, ?_⟩
        · rw [hms, hmanifests, List.append_assoc]
          rfl
        · rw [taken, if_pos h, List.map_cons, List.map_cons, htaken, hm]
      · refine ⟨ms, ?_, ?_⟩
        · rw [hms, hfirst.refused h]
        · rw [taken, if_neg h, htaken]

/-- No run of calls gives a provider two manifests with the same path. -/
theorem distinct_afterCalls (cs : List Candidate) (hp : Distinct p.manifests) : Distinct (p.afterCalls cs).manifests := by
  induction cs generalizing p with
  | nil => exact hp
  | cons c rest ih =>
    have hfirst : Distinct (p.afterCall c).manifests := by
      by_cases h : p.refusal? c = none
      · obtain ⟨m, -, hnew, hafter⟩ := afterCall_of_taken h
        rw [hafter]
        exact distinct_concat hp hnew
      · rw [afterCall_of_refused h]
        exact hp
    exact ih hfirst

/-- A provider that was offered any objects in any order has kept its name and its directory, and holds the manifests of the objects
it took, in the order of the calls and no two with the same path. And whatever is offered next, that call too fails exactly when the
object has no name, cannot be written or has the path of one that was taken, and then changes nothing, or puts its manifest last. -/
theorem registration_invariant (name : String) (directory : Path) (cs : List Candidate) :
    let p := (new name directory).afterCalls cs
    p.name = name ∧ p.directory = directory ∧ ((new name directory).taken cs).Sublist cs ∧
      p.manifests.map some = ((new name directory).taken cs).map Candidate.manifest? ∧ Distinct p.manifests ∧
      ∀ c, Outcome p c (p.afterCall c) := by
  obtain ⟨hname, hdirectory, hsublist, ms, hms, htaken⟩ := collects_afterCalls (new name directory) cs
  have hmanifests : ((new name directory).afterCalls cs).manifests = ms := hms
  refine ⟨hname, hdirectory, hsublist, ?_, ?_, ?_⟩
  · rw [hmanifests, htaken]
  · exact distinct_afterCalls cs List.Pairwise.nil
  · intro c
    exact outcome_afterCall _ c

end Provider

end ManifestTree
