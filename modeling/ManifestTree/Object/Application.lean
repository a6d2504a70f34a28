import ManifestTree.Object.Metadata

/-!
# Argo CD applications

An application syncs one source, a directory of a repository or a Helm chart, into one namespace of a cluster.
Each part has its written form (`document`) and its way back (`decode`); what is not set is not written.
-/

namespace ManifestTree

open Document (optionalMember)

/-- How a directory of manifests is read. -/
structure DirectoryOptions where
  recurse? : Option Bool
  deriving DecidableEq

namespace DirectoryOptions

def document (d : DirectoryOptions) : Document := .map (optionalMember "recurse" .bool d.recurse?)

def decode : Decoder DirectoryOptions :=
  Decode.record "ApplicationSourceDirectory" ["recurse"] fun m => mk <$> m.optional "recurse" Decode.bool

end DirectoryOptions

/-- How a chart is installed. -/
structure HelmOptions where
  releaseName? : Option String
  /-- The values of the chart, as text. -/
  values? : Option String
  deriving DecidableEq

namespace HelmOptions

def document (h : HelmOptions) : Document :=
  .map (optionalMember "releaseName" .text h.releaseName? ++ optionalMember "values" .text h.values?)

def decode : Decoder HelmOptions :=
  Decode.record "ApplicationSourceHelm" ["releaseName", "values"] fun m =>
    mk <$> m.optional "releaseName" Decode.text <*> m.optional "values" Decode.text

end HelmOptions

/-- What an application syncs. -/
structure ApplicationSource where
  repositoryUrl : String
  path? : Option String := none
  targetRevision? : Option String := none
  chart? : Option String := none
  directory? : Option DirectoryOptions := none
  helm? : Option HelmOptions := none
  deriving DecidableEq

namespace ApplicationSource

def document (s : ApplicationSource) : Document :=
  .map (("repoURL", .text s.repositoryUrl) :: optionalMember "path" .text s.path? ++
    optionalMember "targetRevision" .text s.targetRevision? ++
    optionalMember "chart" .text s.chart? ++
    optionalMember "directory" DirectoryOptions.document s.directory? ++
    optionalMember "helm" HelmOptions.document s.helm?)

def decode : Decoder ApplicationSource :=
  Decode.record "ApplicationSource" ["repoURL", "path", "targetRevision", "chart", "directory", "helm"] fun m =>
    mk <$> m.required "repoURL" Decode.text <*> m.optional "path" Decode.text <*>
      m.optional "targetRevision" Decode.text <*> m.optional "chart" Decode.text <*>
      m.optional "directory" DirectoryOptions.decode <*> m.optional "helm" HelmOptions.decode

end ApplicationSource

/-- Where an application syncs to. -/
structure ApplicationDestination where
  server? : Option String
  namespaceName? : Option String
  deriving DecidableEq

namespace ApplicationDestination

def document (d : ApplicationDestination) : Document :=
  .map (optionalMember "server" .text d.server? ++ optionalMember "namespace" .text d.namespaceName?)

def decode : Decoder ApplicationDestination :=
  Decode.record "ApplicationDestination" ["server", "namespace"] fun m =>
    mk <$> m.optional "server" Decode.text <*> m.optional "namespace" Decode.text

end ApplicationDestination

/-- What is synced without being asked for. -/
structure AutomatedSync where
  prune? : Option Bool
  selfHeal? : Option Bool
  deriving DecidableEq

namespace AutomatedSync

def document (a : AutomatedSync) : Document :=
  .map (optionalMember "prune" .bool a.prune? ++ optionalMember "selfHeal" .bool a.selfHeal?)

def decode : Decoder AutomatedSync :=
  Decode.record "SyncPolicyAutomated" ["prune", "selfHeal"] fun m =>
    mk <$> m.optional "prune" Decode.bool <*> m.optional "selfHeal" Decode.bool

end AutomatedSync

/-- How an application is synced. -/
structure SyncPolicy where
  automated? : Option AutomatedSync
  options : List String
  deriving DecidableEq

namespace SyncPolicy

def document (p : SyncPolicy) : Document :=
  .map (optionalMember "automated" AutomatedSync.document p.automated? ++
    if p.options = [] then [] else [("syncOptions", .ofTexts p.options)])

def decode : Decoder SyncPolicy :=
  Decode.record "SyncPolicy" ["automated", "syncOptions"] fun m =>
    mk <$> m.optional "automated" AutomatedSync.decode <*> m.defaulted "syncOptions" [] Decode.texts

end SyncPolicy

/-- What an application is asked to do. -/
structure ApplicationSpec where
  project : String
  source : ApplicationSource
  destination : ApplicationDestination
  syncPolicy? : Option SyncPolicy
  deriving DecidableEq

namespace ApplicationSpec

def document (s : ApplicationSpec) : Document :=
  .map ([("project", .text s.project), ("source", s.source.document), ("destination", s.destination.document)] ++
    optionalMember "syncPolicy" SyncPolicy.document s.syncPolicy?)

def decode : Decoder ApplicationSpec :=
  Decode.record "ApplicationSpec" ["project", "source", "destination", "syncPolicy"] fun m =>
    mk <$> m.required "project" Decode.text <*> m.required "source" ApplicationSource.decode <*>
      m.required "destination" ApplicationDestination.decode <*> m.optional "syncPolicy" SyncPolicy.decode

end ApplicationSpec

/-- An Argo CD application. -/
structure Application where
  metadata : Metadata
  spec : ApplicationSpec

instance : KubeObject Application where
  apiVersion := "argoproj.io/v1alpha1"
  kind := "Application"
  metadata := Application.metadata
  members a := [("spec", a.spec.document)]

namespace Application

/-- Reads an application, with a reader of points in time. Its API version and kind are not looked at. -/
def decode (times : Decoder Time) : Decoder Application :=
  Decode.record "Application" ["metadata", "spec"] fun m =>
    mk <$> m.required "metadata" (Metadata.decode times) <*> m.required "spec" ApplicationSpec.decode

/-- The directory an application syncs, if that is its source. -/
def sourcePath? (a : Application) : Option String := a.spec.source.path?

/-- The chart an application installs, if that is its source. -/
def chart? (a : Application) : Option String := a.spec.source.chart?

/-- The namespace that synced objects land in: the one that is named, or else the application's own. -/
def targetNamespace (a : Application) : String :=
  (a.spec.destination.namespaceName?.or a.metadata.namespaceName?).getD ""

end Application

end ManifestTree
