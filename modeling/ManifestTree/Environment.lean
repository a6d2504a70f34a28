import ManifestTree.Document.Decode

/-!
# Environments

The targets that manifests are rendered for.
-/

namespace ManifestTree

/-- A target that manifests are rendered for. -/
inductive Environment where
  | «local»
  | development
  | staging
  | production
  deriving DecidableEq, Repr

namespace Environment

/-- Every environment, from the first to the last a change passes through. -/
def all : List Environment := [.local, .development, .staging, .production]

/-- The name of an environment. -/
def name : Environment → String
  | .local => "local"
  | .development => "development"
  | .staging => "staging"
  | .production => "production"

/-- The environment of a name. -/
def ofName? : String → Option Environment
  | "local" => some .local
  | "development" => some .development
  | "staging" => some .staging
  | "production" => some .production
  | _ => none

/-- How many copies of a service run. -/
def replicas : Environment → Int32
  | .local | .development => 1
  | .staging => 2
  | .production => 3

/-- Reads an environment from a document. -/
def decode : Decoder Environment := Decode.choice (all.map name) ofName?

end Environment

end ManifestTree
