import ManifestTree.Environment
import ManifestTree.Resource

/-!
# Names as arguments

A value is given as an argument by the name it is declared under, written as words in lower case with hyphens between them. A given
text is looked up among these names, as it is or without regard to the case of its ASCII letters. No other letters are folded.
-/

namespace ManifestTree

/-- The types whose values are given by name as arguments: the values in the order they are declared, each with its name in camel
case. -/
class Named (α : Type) where
  declared : List (String × α)

instance : Named Environment :=
  ⟨[("Local", .local), ("Development", .development), ("Staging", .staging), ("Production", .production)]⟩

instance : Named Resource :=
  ⟨[("ReactWeb", .reactWeb), ("GraphqlMongo", .graphqlMongo), ("GraphqlPostgres", .graphqlPostgres), ("Namespaces", .namespaces),
    ("Argocd", .argocd), ("CertManager", .certManager), ("Linkerd", .linkerd), ("LinkerdViz", .linkerdViz),
    ("SealedSecrets", .sealedSecrets), ("NginxIngress", .nginxIngress), ("FluvioSys", .fluvioSys),
    ("ArgocdApplicationsParents", .applicationsParents),
    ("ArgocdApplicationsChildrenInfrastructure", .applicationsInfrastructure),
    ("ArgocdApplicationsChildrenServices", .applicationsServices)]⟩

namespace Argument

/-- A name in camel case as words in lower case: a word starts at each capital letter, and a hyphen stands before all but the first. -/
def hyphenated (declared : String) : String :=
  match declared.toList with
  | [] => ""
  | c :: rest => String.ofList (c.toLower :: rest.flatMap fun d => if d.isUpper then ['-', d.toLower] else [d])

/-- A text with its ASCII letters in lower case. -/
def foldCase (s : String) : String := String.ofList (s.toList.map Char.toLower)

/-- Whether a given text names a value. -/
def isNamed (ignoreCase : Bool) (name given : String) : Bool :=
  if ignoreCase then foldCase given = foldCase name else given = name

/-- The first value that a given text names. -/
def ofArgument? (α : Type) [Named α] (ignoreCase : Bool) (given : String) : Option α :=
  ((Named.declared : List (String × α)).find? fun d => isNamed ignoreCase (hyphenated d.1) given).map Prod.snd

end Argument

end ManifestTree
