import ManifestTree.Environment
import ManifestTree.Resource
import ManifestTree.Error

/-!
# Where manifests are kept

Below the root of all manifests, a resource has the directory `generated/<environment>/<category>/<resource>`. A scratch name takes
the place of the environment, so that a trial run leaves the environment's directories alone. Argo CD is told a path from the
repository's `kubernetes` directory on, which `repoRelative` cuts out of a path.
-/

namespace ManifestTree

/-- The part of a path from its last `kubernetes` component on. -/
def Path.repoRelative (p : Path) : Except RenderError Path :=
  match Path.fromLast (Utf8.encode anchorName) p.components with
  | some cs => .ok (Path.ofComponents cs)
  | none => .error (.anchorNotFound p)

/-- Where manifests are kept: the root of all of them, and the name of a scratch directory if it is a trial run. -/
structure Layout where
  root : Path
  scratch? : Option String
  deriving DecidableEq

namespace Layout

/-- The directory below the root that holds everything generated. -/
def generatedName : String := "generated"

/-- The directory that holds all manifests of a repository. -/
def manifestsRoot (repository : Path) : Path :=
  (repository.joinText anchorName).joinText "manifests"

/-- The layout of a repository. -/
def ofRepository (repository : Path) : Layout := ⟨manifestsRoot repository, none⟩

/-- The name below `generated`: that of the scratch directory, or of the environment. -/
def segment (l : Layout) (e : Environment) : String := l.scratch?.getD e.name

/-- The directory of an environment. -/
def environmentDirectory (l : Layout) (e : Environment) : Path :=
  (l.root.joinText generatedName).joinText (l.segment e)

/-- The directory of a category. -/
def categoryDirectory (l : Layout) (e : Environment) (c : Category) : Path :=
  (l.environmentDirectory e).joinText c.name

/-- The directory of a resource. -/
def resourcePath (l : Layout) (e : Environment) (r : Resource) : Path :=
  (l.categoryDirectory e r.category).joinText r.name

/-- The directory of a resource as Argo CD is told it. -/
def repoRelativePath (l : Layout) (e : Environment) (r : Resource) : Except RenderError Path :=
  (l.resourcePath e r).repoRelative

end Layout

end ManifestTree
