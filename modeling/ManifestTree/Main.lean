import ManifestTree.CommandLine

/-!
# The program

Takes the part of the disk that a run can touch as a file tree, runs on that tree, makes the disk agree with the tree the run leaves
behind, and prints. What a run does and says is decided by `Invocation.run`; here it is only carried to the disk and back.
-/

namespace ManifestTree.Program

open CommandLine (Invocation)

/-- The variables that a run reads. -/
def variableNames : List String := ["ENVIRONMENT", "MANIFESTS_ROOT", "TEMPORARY_DIR", "ARGOCD_REPO_URL"]

/-- The variables as they are set now. -/
def readVariables : IO Variables := do
  let values ← variableNames.mapM fun key => return (key, (← IO.getEnv key).map Utf8.encode)
  return fun key => (values.lookup key).join

/-- The working directory, if it still exists. -/
def workingDirectory : IO (Except FileError Path) := do
  try return .ok (.ofString (← IO.currentDir).toString)
  catch _ => return .error .notFound

/-- A place as an absolute path on the disk. -/
def onDisk (p : Place) : String := Utf8.lossy (0x2F :: Path.unsplit p)

/-- What stands at a place on the disk. The text of a file is left out, since no run looks at it. -/
def probe (p : Place) : IO (Option Entry) := do
  let path := System.mkFilePath [onDisk p]
  if ← path.isDir then return some .directory
  else if ← path.pathExists then return some (.file "")
  else return none

/-- A tree together with what stands on the disk at a place and below it. -/
partial def takeBelow (t : FileTree) (p : Place) : IO FileTree := do
  match ← probe p with
  | none => return t
  | some (.file text) => return t.insert p (.file text)
  | some .directory =>
    let names ← (System.mkFilePath [onDisk p]).readDir
    names.foldlM (fun t entry => takeBelow t (p ++ [Utf8.encode entry.fileName])) (t.insert p .directory)

/-- A tree together with what stands on the disk on the way that components lead from a place, and everything below its end. -/
def take (t : FileTree) (p : Place) : List Component → IO FileTree
  | [] => takeBelow t p
  | c :: rest => do
    let t ← match ← probe p with
      | some e => pure (t.insert p e)
      | none => pure t
    match c with
    | .root => take t [] rest
    | .here => take t p rest
    | .up => take t p.dropLast rest
    | .name n => take t (p ++ [n]) rest

/-- Makes the disk, which agreed with one tree, agree with another. -/
def leave (before after : FileTree) : IO Unit := do
  for (p, e) in (before.below []).mergeSort fun a b => b.1.length ≤ a.1.length do
    if after.lookup p |>.isNone then
      match e with
      | .directory => IO.FS.removeDir (onDisk p)
      | .file _ => IO.FS.removeFile (onDisk p)
  for (p, e) in (after.below []).mergeSort fun a b => a.1.length ≤ b.1.length do
    if before.lookup p ≠ some e then
      match e with
      | .directory => IO.FS.createDir (onDisk p)
      | .file text => IO.FS.writeFile (onDisk p) text

/-- Runs on the disk and gives the exit code. -/
def run (arguments : List String) : IO UInt32 := do
  let workingDirectory ← workingDirectory
  let repository := workingDirectory.toOption.getD (.ofString "/")
  let invocation : Invocation := ⟨repository, workingDirectory, arguments, ← readVariables⟩
  let before ← invocation.directories.foldlM (fun t path => take t [] (repository.join path).components) .empty
  let (outcome, after) := invocation.run before
  leave before after
  IO.print outcome.output
  IO.eprint outcome.errors
  return outcome.code.toUInt32

end ManifestTree.Program

/-- Renders manifests as the arguments and the variables ask. -/
def main (arguments : List String) : IO UInt32 := ManifestTree.Program.run arguments
