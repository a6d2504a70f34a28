import Mathlib.Data.List.Forall2
import ManifestTree.Proofs.FileTree.Confinement
import ManifestTree.Provider

/-!
# What registration collects

A provider that took some objects holds one manifest more for each of them, in the order they were registered
(`registerAll_eq_ok`), and never two manifests with the same path (`registerAll_distinct`). Objects that were built and whose
manifests have different paths are always taken (`registerAll_of_distinct`).
-/

namespace ManifestTree

/-- The manifest of an object that has a name and can be written. -/
def Candidate.manifest? (c : Candidate) : Option Manifest :=
  match c.name?, c.body with
  | some name, .ok body => some ⟨c.apiVersion, c.kind, c.namespaceName?, name, body⟩
  | _, _ => none

/-- An object with a manifest: it has a name, and it can be written. -/
theorem Candidate.manifest?_eq_some {c : Candidate} {m : Manifest} (h : c.manifest? = some m) :
    ∃ name body, c.name? = some name ∧ c.body = .ok body ∧ m = ⟨c.apiVersion, c.kind, c.namespaceName?, name, body⟩ := by
  unfold manifest? at h
  cases hname : c.name? with
  | none => simp [hname] at h
  | some name =>
    cases hbody : c.body with
    | error reason => simp [hname, hbody] at h
    | ok body =>
      simp only [hname, hbody, Option.some.injEq] at h
      exact ⟨name, body, rfl, rfl, h.symm⟩

/-- Manifests that objects have one after the other: every object was built and has its manifest. -/
def Registers (objects : List (Except RenderError Candidate)) (ms : List Manifest) : Prop :=
  List.Forall₂ (fun o m => ∃ c, o = .ok c ∧ c.manifest? = some m) objects ms

/-- In lists that go together one by one, everything on the right goes together with something on the left. -/
theorem exists_left_of_mem {α β : Type} {R : α → β → Prop} {xs : List α} {ys : List β} {y : β} (h : List.Forall₂ R xs ys)
    (hy : y ∈ ys) : ∃ x ∈ xs, R x y := by
  induction h with
  | nil => cases hy
  | cons hfirst _ ih =>
    rcases List.mem_cons.mp hy with rfl | hy
    · exact ⟨_, List.mem_cons_self, hfirst⟩
    · obtain ⟨x, hx, hxy⟩ := ih hy
      exact ⟨x, List.mem_cons_of_mem _ hx, hxy⟩

/-- Every registered manifest is that of one of the objects. -/
theorem Registers.exists_object {objects : List (Except RenderError Candidate)} {ms : List Manifest} {m : Manifest}
    (h : Registers objects ms) (hm : m ∈ ms) : ∃ c, .ok c ∈ objects ∧ c.manifest? = some m := by
  obtain ⟨o, ho, c, rfl, hc⟩ := exists_left_of_mem h hm
  exact ⟨c, ho, hc⟩

/-- No two manifests of a list have the same path. -/
def Distinct (ms : List Manifest) : Prop := ms.Pairwise fun m m' => ¬ m.relativePath.Same m'.relativePath

namespace Provider

variable {p p' : Provider} {c : Candidate} {m : Manifest} {objects : List (Except RenderError Candidate)}

/-- An object that a provider takes: it has a manifest, whose path is new. -/
theorem accept_eq_ok (h : p.accept c = .ok m) :
    c.manifest? = some m ∧ ∀ other ∈ p.manifests, ¬ other.relativePath.Same m.relativePath := by
  unfold accept at h
  unfold Candidate.manifest?
  cases hname : c.name? with
  | none => simp [hname] at h
  | some name =>
    cases hbody : c.body with
    | error reason => simp [hname, hbody] at h
    | ok body =>
      simp only [hname, hbody] at h
      split at h
      · simp at h
      · rename_i hnew
        obtain rfl := Except.ok.inj h
        refine ⟨rfl, fun other hother hsame => hnew ?_⟩
        exact List.any_eq_true.mpr ⟨other, hother, decide_eq_true hsame⟩

/-- A provider that took an object: its manifest comes after the others. -/
theorem register_eq_ok (h : register c p = .ok () p') :
    ∃ m, p.accept c = .ok m ∧ p' = { p with manifests := p.manifests ++ [m] } := by
  unfold register at h
  cases haccept : p.accept c with
  | error e => simp [haccept] at h
  | ok m =>
    simp only [haccept, EStateM.Result.ok.injEq, true_and] at h
    exact ⟨m, rfl, h.symm⟩

/-- Adding a manifest whose path is new keeps the paths apart. -/
theorem distinct_concat {ms : List Manifest} (h : Distinct ms)
    (hnew : ∀ other ∈ ms, ¬ other.relativePath.Same m.relativePath) : Distinct (ms ++ [m]) := by
  refine List.pairwise_append.mpr ⟨h, List.pairwise_singleton _ _, ?_⟩
  intro other hother m' hm'
  rw [List.mem_singleton.mp hm']
  exact hnew other hother

/-- The first of some objects was built and taken before the others. -/
theorem registerAll_cons_eq_ok {o : Except RenderError Candidate} (h : registerAll (o :: objects) p = .ok () p') :
    ∃ c s, o = .ok c ∧ register c p = .ok () s ∧ registerAll objects s = .ok () p' := by
  cases o with
  | error e => cases h
  | ok c =>
    obtain ⟨u, s, hfirst, hrest⟩ := Action.bind_eq_ok.mp h
    exact ⟨c, s, rfl, hfirst, hrest⟩

/-- A provider that took some objects has their manifests after its own, and keeps its directory. -/
theorem registerAll_eq_ok (h : registerAll objects p = .ok () p') :
    p'.directory = p.directory ∧ ∃ ms, p'.manifests = p.manifests ++ ms ∧ Registers objects ms := by
  induction objects generalizing p with
  | nil =>
    cases h
    exact ⟨rfl, [], by simp, .nil⟩
  | cons o rest ih =>
    obtain ⟨c, s, rfl, hfirst, hrest⟩ := registerAll_cons_eq_ok h
    obtain ⟨m, haccept, rfl⟩ := register_eq_ok hfirst
    obtain ⟨hdirectory, ms, hms, hregisters⟩ := ih hrest
    refine ⟨hdirectory, m :: ms, ?_, .cons ⟨c, rfl, (accept_eq_ok haccept).1⟩ hregisters⟩
    rw [hms, List.append_assoc]
    rfl

/-- Registration never gives a provider two manifests with the same path. -/
theorem registerAll_distinct (h : registerAll objects p = .ok () p') (hp : Distinct p.manifests) : Distinct p'.manifests := by
  induction objects generalizing p with
  | nil =>
    cases h
    exact hp
  | cons o rest ih =>
    obtain ⟨c, s, rfl, hfirst, hrest⟩ := registerAll_cons_eq_ok h
    obtain ⟨m, haccept, rfl⟩ := register_eq_ok hfirst
    exact ih hrest (distinct_concat hp (accept_eq_ok haccept).2)

/-- An object with a manifest whose path is new is taken. -/
theorem register_of_new (h : c.manifest? = some m) (hnew : ∀ other ∈ p.manifests, ¬ other.relativePath.Same m.relativePath) :
    register c p = .ok () { p with manifests := p.manifests ++ [m] } := by
  have haccept : p.accept c = .ok m := by
    obtain ⟨name, body, hname, hbody, rfl⟩ := Candidate.manifest?_eq_some h
    unfold accept
    simp only [hname, hbody]
    refine if_neg ?_
    intro hany
    obtain ⟨other, hother, hsame⟩ := List.any_eq_true.mp hany
    exact hnew other hother (of_decide_eq_true hsame)
  unfold register
  rw [haccept]

/-- Objects that were built are taken when no two manifests have the same path. -/
theorem registerAll_of_distinct {ms : List Manifest} (h : Registers objects ms) (hdistinct : Distinct (p.manifests ++ ms)) :
    registerAll objects p = .ok () { p with manifests := p.manifests ++ ms } := by
  induction h generalizing p with
  | nil => rw [List.append_nil]; rfl
  | @cons o m rest ms hfirst _ ih =>
    obtain ⟨c, rfl, hc⟩ := hfirst
    have hnew : ∀ other ∈ p.manifests, ¬ other.relativePath.Same m.relativePath := fun other hother =>
      (List.pairwise_append.mp hdistinct).2.2 other hother m List.mem_cons_self
    have hassoc : p.manifests ++ m :: ms = (p.manifests ++ [m]) ++ ms := by simp
    rw [hassoc] at hdistinct ⊢
    have hrest : registerAll rest { p with manifests := p.manifests ++ [m] } = _ := ih hdistinct
    exact Action.bind_eq_ok.mpr ⟨(), _, register_of_new hc hnew, hrest⟩

end Provider

end ManifestTree
