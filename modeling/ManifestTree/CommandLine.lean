import ManifestTree.CommandLine.Arguments
import ManifestTree.Render
import ManifestTree.Text.Padding

/-!
# Running a command line

A run reads its arguments and variables, acts on the file tree, and ends with an exit code and what it printed. A refused command
line ends with code 2, any other failure with code 1 and a report of its causes.
-/

namespace ManifestTree.CommandLine

/-- What a run is started with: the repository it belongs to, its working directory, its arguments and its variables. -/
structure Invocation where
  repository : Path
  workingDirectory : Except FileError Path
  arguments : List String
  givenVariables : Variables

/-- How a run ends. -/
structure Outcome where
  code : Nat
  output : String
  errors : String

/-- The version of the program. -/
def version : String := "0.1.0"

/-- What the program does, in one line. -/
def summary : String := "Render Kubernetes manifests per environment"

/-- A failure as it is reported: what failed, and the causes of it, each caused by the next. -/
structure Failure where
  reason : String
  causes : List String

/-- A text with every line after the first behind a margin. -/
def indentLines (margin : String) (s : String) : String :=
  ("\n" ++ margin).intercalate (s.splitOn "\n")

/-- The causes of a failure, numbered if there are several. -/
def Failure.listCauses (f : Failure) : List String :=
  match f.causes with
  | [cause] => ["    " ++ indentLines "    " cause]
  | causes => causes.zipIdx.map fun (cause, n) =>
    (⟨5, none, .right, ' '⟩ : Padding.Field).set (toString n) ++ ": " ++ indentLines "       " cause

/-- The report of a failure. -/
def Failure.report (f : Failure) : String :=
  let causes := if f.causes = [] then [] else "" :: "Caused by:" :: f.listCauses
  "\n".intercalate (("Error: " ++ f.reason) :: causes) ++ "\n"

/-- An error in the building or writing of manifests as a failure. -/
def Failure.ofError (e : RenderError) : Failure := ⟨e.message, e.causes⟩

/-- An error as the cause of a failure. -/
def Failure.within (context : String) (e : RenderError) : Failure := ⟨context, e.message :: e.causes⟩

/-- Lines of output. -/
def unlines (lines : List String) : String := String.join (lines.map (· ++ "\n"))

/-- The list of all resources with their categories. -/
def resourceLines : List String :=
  Resource.all.map fun r => ({ width := 45 } : Padding.Field).set r.name ++ " " ++ r.category.name

/-- The list of all charts by repository. -/
def chartLines : List String :=
  Chart.byRepository.flatMap fun (name, charts) =>
    let url := (charts.head?.map (·.repositoryUrl)).getD ""
    s!"{name} {url}" :: charts.map fun c => "  " ++ ({ width := 25 } : Padding.Field).set c.name ++ " " ++ c.version

/-- The directory that definitions are written to: the one that is asked for, or `crds` below the root of all manifests. -/
def definitionsDirectory (l : Layout) (outputDirectory? : Option Path) : Path :=
  outputDirectory?.getD (l.root.joinText "crds")

/-- Writes the definitions of all custom resources into a directory and gives their paths. -/
def writeDefinitions (cwd : Place) (directory : Path) : Action Failure (List Path) := fun t =>
  match definitionsProvider directory with
  | .error e _ => .error (.ofError e) t
  | .ok () provider =>
    match provider.write cwd t with
    | .ok paths t' => .ok paths t'
    | .error e t' => .error (.within s!"Failed to write CRDs to {directory.display}" e) t'

/-- Carries out a command and gives the lines it prints. -/
def Command.execute (c : Config) (cwd : Place) : Command → Action Failure (List String)
  | .render e resources => fun t =>
    let ctx : Context := ⟨c.layout, e, c.repositoryUrl⟩
    match ctx.renderEnvironment cwd resources t with
    | .ok _ t' => .ok [] t'
    | .error error t' => .error (.within s!"Failed to render environment {e.name}" error) t'
  | .path r e relative => fun t =>
    let path := c.layout.resourcePath e r
    match if relative then path.repoRelative else .ok path with
    | .ok shown => .ok [shown.display] t
    | .error error => .error (.ofError error) t
  | .crds outputDirectory? => do
    let paths ← writeDefinitions cwd (definitionsDirectory c.layout outputDirectory?)
    return paths.map Path.display
  | .list => pure resourceLines
  | .charts => pure chartLines

/-- The directories that a command clears and fills; none for a command that only prints. -/
def Command.directories (c : Config) : Command → List Path
  | .render e resources => (Context.effective resources).flatMap fun r => (c.layout.provider e r).groupDirectories
  | .crds outputDirectory? =>
    (Provider.new "" (definitionsDirectory c.layout outputDirectory?)).groupDirectories
  | .path .. | .list | .charts => []

/-- The place of a working directory. For one that no longer exists it is a place where nothing stands, since no entry has an empty
name. -/
def placeOf (directory : Except FileError Path) : Place :=
  match directory with
  | .error _ => [[]]
  | .ok p => p.components.filterMap fun
    | .name n => some n
    | .root | .here | .up => none

/-- Carries out a command in the configuration that the variables give. -/
def Invocation.execute (i : Invocation) (command : Command) : Action Failure (List String) := fun t =>
  match Config.read i.repository i.workingDirectory i.givenVariables with
  | .error e => .error ⟨e.context, [e.cause]⟩ t
  | .ok config => command.execute config (placeOf i.workingDirectory) t

/-- The directories that a run clears and fills. -/
def Invocation.directories (i : Invocation) : List Path :=
  match CommandLine.read i.givenVariables i.arguments, Config.read i.repository i.workingDirectory i.givenVariables with
  | .ok (.run command), .ok config => command.directories config
  | _, _ => []

/-- A run: how it ends, and the file tree it leaves behind. -/
def Invocation.run (i : Invocation) (t : FileTree) : Outcome × FileTree :=
  match CommandLine.read i.givenVariables i.arguments with
  | .error e => (⟨2, "", e.message ++ "\n"⟩, t)
  | .ok .version => (⟨0, s!"manifestor {version}\n", ""⟩, t)
  | .ok .help => (⟨0, summary ++ "\n", ""⟩, t)
  | .ok .overview => (⟨2, "", summary ++ "\n"⟩, t)
  | .ok (.run command) =>
    match i.execute command t with
    | .ok lines t' => (⟨0, unlines lines, ""⟩, t')
    | .error failure t' => (⟨1, "", failure.report⟩, t')

end ManifestTree.CommandLine
