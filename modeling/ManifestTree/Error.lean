import ManifestTree.FileTree.Actions

/-!
# What goes wrong while manifests are built and written
-/

namespace ManifestTree

/-- The directory that repository-relative paths start with. -/
def anchorName : String := "kubernetes"

/-- Why manifests cannot be built or written. -/
inductive RenderError where
  | anchorNotFound (path : Path)
  | io (path : Path) (cause : FileError)
  | yaml (reason : String)
  | json (reason : String)
  | unnamed (kind provider : String)
  | registeredTwice (kind name provider : String)

/-- The text of an error. -/
def RenderError.message : RenderError → String
  | .anchorNotFound path => s!"Anchor directory '{anchorName}' not found in path {path.display}"
  | .io path cause => s!"I/O error on {path.display}: {cause.message}"
  | .yaml reason => s!"YAML serialization error: {reason}"
  | .json reason => s!"JSON serialization error: {reason}"
  | .unnamed kind provider => s!"Invalid resource: {kind} registered with provider '{provider}' has no name"
  | .registeredTwice kind name provider =>
    s!"Invalid resource: {kind} '{name}' is registered twice with provider '{provider}'"

/-- The errors that an error was caused by, each by the next. -/
def RenderError.causes : RenderError → List String
  | .io _ cause => [cause.message]
  | .yaml reason => [reason]
  | .json reason => [reason]
  | .anchorNotFound _ | .unnamed .. | .registeredTwice .. => []

end ManifestTree
