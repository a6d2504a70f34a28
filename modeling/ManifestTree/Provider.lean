import ManifestTree.Manifest
import ManifestTree.Text.Reason

/-!
# Providers

A provider collects manifests for one directory (`register`) and writes them there (`write`). No two of its manifests have the same
path. Writing first clears what an earlier run left in the two group directories and touches nothing else.
-/

namespace ManifestTree

/-- A collection of manifests for one directory. -/
structure Provider where
  name : String
  directory : Path
  manifests : List Manifest

namespace Provider

/-- A provider without manifests. -/
def new (name : String) (directory : Path) : Provider := ⟨name, directory, []⟩

/-- The manifest of an object, if a provider can take it: the object has a name and can be written, and no manifest has its path. -/
def accept (p : Provider) (c : Candidate) : Except RenderError Manifest :=
  match c.name?, c.body with
  | none, _ => .error (.unnamed c.kind p.name)
  | some _, .error reason => .error (.json (Reason.ofString reason).display)
  | some name, .ok body =>
    let m : Manifest := ⟨c.apiVersion, c.kind, c.namespaceName?, name, body⟩
    if p.manifests.any fun other => decide (other.relativePath.Same m.relativePath) then
      .error (.registeredTwice m.kind m.name p.name)
    else .ok m

/-- Adds an object. A refused object leaves the provider as it was. -/
def register (c : Candidate) : EStateM RenderError Provider Unit := fun p =>
  match p.accept c with
  | .ok m => .ok () { p with manifests := p.manifests ++ [m] }
  | .error e => .error e p

/-- Adds objects in turn, up to the first that cannot be built or is refused. -/
def registerAll : List (Except RenderError Candidate) → EStateM RenderError Provider Unit
  | [] => pure ()
  | .ok c :: rest => do
    register c
    registerAll rest
  | .error e :: _ => throw e

/-- An action on files as part of writing manifests: its failure names the path. -/
def onPath {α : Type} (path : Path) (action : Action FileError α) : Action RenderError α := fun t =>
  match action t with
  | .ok a t' => .ok a t'
  | .error e t' => .error (.io path e) t'

/-- Removes a group directory with everything in it. One that is not there is as good as removed. -/
def clear (cwd : Place) (path : Path) : Action RenderError Unit := fun t =>
  match FileTree.removeDirectory cwd path t with
  | .error .notFound t' => .ok () t'
  | .ok () t' => .ok () t'
  | .error e t' => .error (.io path e) t'

/-- Writes one manifest below a directory and gives its path. -/
def writeManifest (cwd : Place) (directory : Path) (m : Manifest) : Action RenderError Path := do
  let path := directory.join m.relativePath
  match path.parent? with
  | some parent => onPath parent (FileTree.makeDirectories cwd parent)
  | none => pure ()
  onPath path (FileTree.writeFile cwd path m.body.toYaml)
  return path

/-- Writes manifests in turn and gives their paths. -/
def writeManifests (cwd : Place) (directory : Path) : List Manifest → Action RenderError (List Path)
  | [] => pure []
  | m :: rest => do
    let path ← writeManifest cwd directory m
    let paths ← writeManifests cwd directory rest
    return path :: paths

/-- The group directories of a provider, which it clears before it writes. -/
def groupDirectories (p : Provider) : List Path :=
  [p.directory.joinText Manifest.definitionGroup, p.directory.joinText Manifest.plainGroup]

/-- Writes all manifests of a provider in place of its earlier output, and gives their paths. -/
def write (p : Provider) (cwd : Place) : Action RenderError (List Path) := do
  p.groupDirectories.forM (clear cwd)
  writeManifests cwd p.directory p.manifests

end Provider

end ManifestTree
