import ManifestTree.Object.Metadata

/-!
# Deployments and services

A deployment runs copies of a container, and a service gives them one address. Only what is set here is part of these types.
Each part has its written form, `document`.
-/

namespace ManifestTree

open Document (optionalMember)

/-- A variable in a container's environment. -/
structure EnvironmentVariable where
  name : String
  value : String
  deriving DecidableEq

def EnvironmentVariable.document (v : EnvironmentVariable) : Document :=
  .map [("name", .text v.name), ("value", .text v.value)]

/-- A port that a container listens on. -/
structure ContainerPort where
  number : Int32
  name : String
  deriving DecidableEq

def ContainerPort.document (p : ContainerPort) : Document :=
  .map [("containerPort", .int p.number.toInt), ("name", .text p.name)]

/-- The quantities that a container is given at most and at least. -/
structure ResourceBounds where
  limits : StringMap
  requests : StringMap
  deriving DecidableEq

def ResourceBounds.document (b : ResourceBounds) : Document :=
  .map [("limits", .ofStringMap b.limits), ("requests", .ofStringMap b.requests)]

/-- A container of a pod. -/
structure Container where
  name : String
  image : String
  environment : List EnvironmentVariable
  ports : List ContainerPort
  resources : ResourceBounds
  deriving DecidableEq

def Container.document (c : Container) : Document :=
  .map [("env", .list (c.environment.map EnvironmentVariable.document)),
    ("image", .text c.image),
    ("name", .text c.name),
    ("ports", .list (c.ports.map ContainerPort.document)),
    ("resources", c.resources.document)]

/-- What the pods of a deployment look like. -/
structure PodTemplate where
  labels : StringMap
  containers : List Container
  deriving DecidableEq

def PodTemplate.document (t : PodTemplate) : Document :=
  .map [("metadata", ({ labels? := t.labels } : Metadata).document),
    ("spec", .map [("containers", .list (t.containers.map Container.document))])]

/-- A deployment: so many pods of a template, found by their labels. -/
structure Deployment where
  metadata : Metadata
  replicas : Int32
  selector : StringMap
  template : PodTemplate

instance : KubeObject Deployment where
  apiVersion := "apps/v1"
  kind := "Deployment"
  metadata := Deployment.metadata
  members d := [("spec", .map [("replicas", .int d.replicas.toInt),
    ("selector", .map [("matchLabels", .ofStringMap d.selector)]),
    ("template", d.template.document)])]

/-- A port that a service answers on, and the port of the pods behind it. -/
structure ServicePort where
  name : String
  port : Int32
  protocol : String
  targetPort : Int32
  deriving DecidableEq

def ServicePort.document (p : ServicePort) : Document :=
  .map [("name", .text p.name), ("port", .int p.port.toInt), ("protocol", .text p.protocol),
    ("targetPort", .int p.targetPort.toInt)]

/-- A service: one address for the pods with some labels. -/
structure Service where
  metadata : Metadata
  ports : List ServicePort
  selector : StringMap
  serviceType : String

instance : KubeObject Service where
  apiVersion := "v1"
  kind := "Service"
  metadata := Service.metadata
  members s := [("spec", .map [("ports", .list (s.ports.map ServicePort.document)),
    ("selector", .ofStringMap s.selector),
    ("type", .text s.serviceType)])]

end ManifestTree
