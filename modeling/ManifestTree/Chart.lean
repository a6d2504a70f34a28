import ManifestTree.Document.Decode

/-!
# Helm charts

The charts that the infrastructure installs, each pinned to a version in a named repository.
-/

namespace ManifestTree

/-- A chart pinned to a version in a named repository. -/
structure Chart where
  repositoryName : String
  repositoryUrl : String
  name : String
  version : String
  deriving DecidableEq

namespace Chart

def sealedSecrets : Chart := ⟨"bitnami", "https://charts.bitnami.com/bitnami", "sealed-secrets", "1.0.2"⟩

def nginxIngress : Chart := ⟨"bitnami", "https://charts.bitnami.com/bitnami", "nginx-ingress-controller", "9.2.25"⟩

def certManager : Chart := ⟨"jetstack", "https://charts.jetstack.io", "cert-manager", "v1.9.1"⟩

def linkerdDefinitions : Chart := ⟨"linkerd", "https://helm.linkerd.io/stable", "linkerd-crds", "1.4.0"⟩

def linkerdControlPlane : Chart := ⟨"linkerd", "https://helm.linkerd.io/stable", "linkerd-control-plane", "1.9.3"⟩

def linkerdViz : Chart := ⟨"linkerd", "https://helm.linkerd.io/stable", "linkerd-viz", "30.3.3"⟩

def argoCd : Chart := ⟨"argo", "https://argoproj.github.io/argo-helm", "argo-cd", "4.10.5"⟩

def fluvioSys : Chart := ⟨"fluvio", "https://charts.fluvio.io", "fluvio-sys", "0.9.10"⟩

/-- Every pinned chart. -/
def all : List Chart :=
  [sealedSecrets, nginxIngress, certManager, linkerdDefinitions, linkerdControlPlane, linkerdViz, argoCd, fluvioSys]

/-- Groups of charts with one more chart: behind the others of its repository, or in a group of its own where the order of the
repository names wants it. -/
def addToGroups (c : Chart) : List (String × List Chart) → List (String × List Chart)
  | [] => [(c.repositoryName, [c])]
  | (name, charts) :: rest =>
    if c.repositoryName = name then (name, charts ++ [c]) :: rest
    else if c.repositoryName < name then (c.repositoryName, [c]) :: (name, charts) :: rest
    else (name, charts) :: addToGroups c rest

/-- Every pinned chart by the name of its repository, in the order of these names. -/
def byRepository : List (String × List Chart) :=
  all.foldl (fun groups c => addToGroups c groups) []

end Chart

end ManifestTree
