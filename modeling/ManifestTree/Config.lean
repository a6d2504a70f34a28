import ManifestTree.Layout

/-!
# Configuration

What the environment variables say: where manifests are kept, whether this is a trial run, and which repository Argo CD reads. A
variable that is not text counts as unset.
-/

namespace ManifestTree

/-- Environment variables, as bytes. -/
abbrev Variables := String → Option (List UInt8)

/-- The text of a variable, if it is set to a text. -/
def Variables.text? (vars : Variables) (key : String) : Option String :=
  (vars key).bind Utf8.decode?

/-- Where and for which repository manifests are rendered. -/
structure Config where
  manifestsRoot : Path
  temporaryDirectory? : Option String
  repositoryUrl : String

/-- Why the variables make no configuration. -/
inductive ConfigError where
  | noCurrentDirectory (cause : FileError)
  | invalidTemporaryDirectory (name : String)

namespace ConfigError

/-- What could not be configured. -/
def context : ConfigError → String
  | .noCurrentDirectory _ => "MANIFESTS_ROOT is relative and the current directory is unavailable"
  | .invalidTemporaryDirectory _ => "Invalid TEMPORARY_DIR"

/-- Why it could not be configured. -/
def cause : ConfigError → String
  | .noCurrentDirectory cause => cause.message
  | .invalidTemporaryDirectory name => s!"'{name}' must be a single directory name below generated/"

/-- The text of a configuration error on one line. -/
def message (e : ConfigError) : String := s!"{e.context}: {e.cause}"

end ConfigError

namespace Config

/-- The repository that Argo CD reads unless another one is named. -/
def defaultRepositoryUrl : String := "https://github.com/example/infrastructure.git"

/-- The configuration of a repository when no variable is set. -/
def ofRepository (repository : Path) : Config :=
  ⟨Layout.manifestsRoot repository, none, defaultRepositoryUrl⟩

/-- Whether a path asks for one named directory and nothing else. -/
def isSingleName (p : Path) : Bool :=
  match p.components with
  | [.name _] => true
  | _ => false

/-- The root of all manifests; a relative one is taken from the working directory. -/
def readRoot (repository : Path) (cwd : Except FileError Path) : Option String → Except ConfigError Path
  | none => .ok (Layout.manifestsRoot repository)
  | some s =>
    let root := Path.ofString s
    if root.isAbsolute then .ok root
    else match cwd with
      | .ok directory => .ok (directory.join root)
      | .error cause => .error (.noCurrentDirectory cause)

/-- The scratch directory: one directory name, or nothing for an empty text. -/
def readTemporaryDirectory : Option String → Except ConfigError (Option String)
  | none => .ok none
  | some s =>
    if s = "" then .ok none
    else if isSingleName (Path.ofString s) then .ok (some s)
    else .error (.invalidTemporaryDirectory s)

/-- The configuration that variables give in a repository and a working directory. -/
def read (repository : Path) (cwd : Except FileError Path) (vars : Variables) : Except ConfigError Config := do
  let root ← readRoot repository cwd (vars.text? "MANIFESTS_ROOT")
  let temporaryDirectory? ← readTemporaryDirectory (vars.text? "TEMPORARY_DIR")
  return ⟨root, temporaryDirectory?, (vars.text? "ARGOCD_REPO_URL").getD defaultRepositoryUrl⟩

/-- The layout of a configuration. -/
def layout (c : Config) : Layout := ⟨c.manifestsRoot, c.temporaryDirectory?⟩

/-- Whether two configurations mean the same: their roots agree by components and the rest is equal. -/
def Same (c d : Config) : Prop :=
  c.manifestsRoot.Same d.manifestsRoot ∧ c.temporaryDirectory? = d.temporaryDirectory? ∧ c.repositoryUrl = d.repositoryUrl

instance (c d : Config) : Decidable (c.Same d) := inferInstanceAs (Decidable (_ ∧ _ ∧ _))

end Config

end ManifestTree
