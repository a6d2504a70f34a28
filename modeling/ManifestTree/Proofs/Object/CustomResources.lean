import ManifestTree.Object.Application
import ManifestTree.Object.SealedSecret
import ManifestTree.Proofs.Object.Metadata

/-!
# Custom resources are read back

Each part of an application and of a sealed secret is read back from its written form, up to the whole specification
(`ApplicationSpec.codec`, `SealedSecretSpec.codec`). An object is read back when its specification is (`KubeObject.codec`), and then
what is written for it settles at once, whatever it was read from (`Codec.roundTrip`): so for both types
(`custom_resources_round_trip`).
-/

namespace ManifestTree

/-! ## Applications -/

theorem DirectoryOptions.codec : Codec DirectoryOptions.document DirectoryOptions.decode := by
  refine MembersCodec.record fun a m form hm => ?_
  have hrecurse : m.optional "recurse" Decode.bool = Except.ok a.recurse? :=
    codec_bool.optional hm (by simp)
  rw [hrecurse]
  rfl

theorem HelmOptions.codec : Codec HelmOptions.document HelmOptions.decode := by
  refine MembersCodec.record fun a m form hm => ?_
  have hreleaseName : m.optional "releaseName" Decode.text = Except.ok a.releaseName? :=
    codec_text.optional hm (by simp [List.lookup_append])
  have hvalues : m.optional "values" Decode.text = Except.ok a.values? :=
    codec_text.optional hm (by simp [List.lookup_append])
  rw [hreleaseName, hvalues]
  rfl

theorem ApplicationSource.codec : Codec ApplicationSource.document ApplicationSource.decode := by
  refine MembersCodec.record fun a m form hm => ?_
  have hrepository : m.required "repoURL" Decode.text = Except.ok a.repositoryUrl :=
    codec_text.required hm (by simp)
  have hpath : m.optional "path" Decode.text = Except.ok a.path? :=
    codec_text.optional hm (by simp [List.lookup_append, lookup_cons])
  have hrevision : m.optional "targetRevision" Decode.text = Except.ok a.targetRevision? :=
    codec_text.optional hm (by simp [List.lookup_append, lookup_cons])
  have hchart : m.optional "chart" Decode.text = Except.ok a.chart? :=
    codec_text.optional hm (by simp [List.lookup_append, lookup_cons])
  have hdirectory : m.optional "directory" DirectoryOptions.decode = Except.ok a.directory? :=
    DirectoryOptions.codec.optional hm (by simp [List.lookup_append, lookup_cons])
  have hhelm : m.optional "helm" HelmOptions.decode = Except.ok a.helm? :=
    HelmOptions.codec.optional hm (by simp [List.lookup_append, lookup_cons])
  rw [hrepository, hpath, hrevision, hchart, hdirectory, hhelm]
  rfl

theorem ApplicationDestination.codec : Codec ApplicationDestination.document ApplicationDestination.decode := by
  refine MembersCodec.record fun a m form hm => ?_
  have hserver : m.optional "server" Decode.text = Except.ok a.server? :=
    codec_text.optional hm (by simp [List.lookup_append])
  have hnamespace : m.optional "namespace" Decode.text = Except.ok a.namespaceName? :=
    codec_text.optional hm (by simp [List.lookup_append])
  rw [hserver, hnamespace]
  rfl

theorem AutomatedSync.codec : Codec AutomatedSync.document AutomatedSync.decode := by
  refine MembersCodec.record fun a m form hm => ?_
  have hprune : m.optional "prune" Decode.bool = Except.ok a.prune? :=
    codec_bool.optional hm (by simp [List.lookup_append])
  have hselfHeal : m.optional "selfHeal" Decode.bool = Except.ok a.selfHeal? :=
    codec_bool.optional hm (by simp [List.lookup_append])
  rw [hprune, hselfHeal]
  rfl

/-- Options are left out when there are none, and no options are read where they are left out. -/
theorem SyncPolicy.codec : Codec SyncPolicy.document SyncPolicy.decode := by
  refine MembersCodec.record fun a m form hm => ?_
  have hautomated : m.optional "automated" AutomatedSync.decode = Except.ok a.automated? :=
    AutomatedSync.codec.optional hm (by split <;> simp [List.lookup_append, lookup_cons])
  have hoptions : m.defaulted "syncOptions" [] Decode.texts = Except.ok a.options := by
    refine codec_texts.defaulted hm ?_
    by_cases h : a.options = []
    · exact .inr ⟨by simp [h], h⟩
    · exact .inl (by simp [h, List.lookup_append])
  rw [hautomated, hoptions]
  rfl

theorem ApplicationSpec.codec : Codec ApplicationSpec.document ApplicationSpec.decode := by
  refine MembersCodec.record fun a m form hm => ?_
  have hproject : m.required "project" Decode.text = Except.ok a.project :=
    codec_text.required hm (by simp)
  have hsource : m.required "source" ApplicationSource.decode = Except.ok a.source :=
    ApplicationSource.codec.required hm (by simp [lookup_cons])
  have hdestination : m.required "destination" ApplicationDestination.decode = Except.ok a.destination :=
    ApplicationDestination.codec.required hm (by simp [lookup_cons])
  have hpolicy : m.optional "syncPolicy" SyncPolicy.decode = Except.ok a.syncPolicy? :=
    SyncPolicy.codec.optional hm (by simp [lookup_cons])
  rw [hproject, hsource, hdestination, hpolicy]
  rfl

theorem ApplicationSpec.nullFree_document (s : ApplicationSpec) : s.document.NullFree := by
  simp [document, ApplicationSource.document, DirectoryOptions.document, HelmOptions.document, ApplicationDestination.document,
    SyncPolicy.document, AutomatedSync.document]

/-! ## Sealed secrets -/

/-- Labels are left out when there are none, and no labels are read where they are left out. -/
theorem TemplateMetadata.codec : Codec TemplateMetadata.document TemplateMetadata.decode := by
  refine MembersCodec.record fun a m form hm => ?_
  have hname : m.optional "name" Decode.text = Except.ok a.name? :=
    codec_text.optional hm (by split <;> simp [List.lookup_append, lookup_cons])
  have hnamespace : m.optional "namespace" Decode.text = Except.ok a.namespaceName? :=
    codec_text.optional hm (by split <;> simp [List.lookup_append, lookup_cons])
  have hlabels : m.defaulted "labels" .empty Decode.stringMap = Except.ok a.labels := by
    refine codec_stringMap.defaulted hm ?_
    by_cases h : a.labels.isEmpty
    · have hempty : a.labels = .empty := StringMap.eq_of_entries (List.isEmpty_iff.mp h)
      exact .inr ⟨by simp [h, List.lookup_append], hempty⟩
    · exact .inl (by simp [h, List.lookup_append])
  rw [hname, hnamespace, hlabels]
  rfl

theorem SecretTemplate.codec : Codec SecretTemplate.document SecretTemplate.decode := by
  refine MembersCodec.record fun a m form hm => ?_
  have htype : m.optional "type" Decode.text = Except.ok a.secretType? :=
    codec_text.optional hm (by simp [List.lookup_append])
  have hmetadata : m.optional "metadata" TemplateMetadata.decode = Except.ok a.metadata? :=
    TemplateMetadata.codec.optional hm (by simp [List.lookup_append])
  rw [htype, hmetadata]
  rfl

/-- The encrypted values are written also when there are none. -/
theorem SealedSecretSpec.codec : Codec SealedSecretSpec.document SealedSecretSpec.decode := by
  refine MembersCodec.record fun a m form hm => ?_
  have hdata : m.defaulted "encryptedData" .empty Decode.stringMap = Except.ok a.encryptedData :=
    codec_stringMap.defaulted hm (.inl (by simp))
  have htemplate : m.optional "template" SecretTemplate.decode = Except.ok a.template? :=
    SecretTemplate.codec.optional hm (by simp [lookup_cons])
  rw [hdata, htemplate]
  rfl

theorem SealedSecretSpec.nullFree_document (s : SealedSecretSpec) : s.document.NullFree := by
  simp [document, SecretTemplate.document, TemplateMetadata.document]

/-! ## Objects -/

/-- What is written for the object that a document is read as. -/
def rewritten {α : Type} [KubeObject α] (decode : Decoder α) (form : Arrangement) (given : Document) :
    Except DecodeError Document := do
  return form.arrange (KubeObject.document (← decode given))

/-- The objects of a type are read back from what is written for them, and that says what they are. -/
structure RoundTrip {α : Type} [KubeObject α] (decode : Decoder α) (apiVersion kind : String) : Prop where
  /-- An object is read back from its written form. -/
  reads : ∀ (object : α) (form : Arrangement), decode (form.arrange (KubeObject.document object)) = .ok object
  /-- The written form has the API version of the type. -/
  apiVersion : ∀ (object : α) (form : Arrangement),
    (form.arrange (KubeObject.document object)).member? "apiVersion" = some (.text apiVersion)
  /-- The written form has the kind of the type. -/
  kind : ∀ (object : α) (form : Arrangement), (form.arrange (KubeObject.document object)).member? "kind" = some (.text kind)
  /-- Nothing is written as null but what was given among the fields that managers have set. -/
  nullFree : ∀ (object : α) (form : Arrangement),
    (form.arrange (KubeObject.document object)).NullFree ↔ (KubeObject.metadata object).NullFreeFields
  /-- Whatever an object was read from, the same object is read from what is written for it, and that is written for it again. -/
  again : ∀ (given written : Document) (form : Arrangement), rewritten decode form given = .ok written →
    decode written = decode given ∧ rewritten decode form written = .ok written

section Objects

variable {α : Type} [KubeObject α] {decode : Decoder α} {form : Arrangement}

/-- What is written for what was read. -/
theorem rewritten_eq_ok_iff {given written : Document} : rewritten decode form given = .ok written ↔
    ∃ object : α, decode given = .ok object ∧ form.arrange (KubeObject.document object) = written := by
  unfold rewritten
  cases decode given with
  | error e => exact ⟨nofun, nofun⟩
  | ok object =>
    constructor
    · intro h
      exact ⟨object, rfl, Except.ok.inj h⟩
    · rintro ⟨object, ⟨⟩, rfl⟩
      rfl

/-- An object that has metadata and a specification is read back when its specification is. -/
theorem KubeObject.codec {times : Decoder Time} (htimes : ∀ t : Time, times t.document = .ok t) {σ : Type} {spec : α → σ}
    {make : Metadata → σ → α} {writeSpec : σ → Document} {decodeSpec : Decoder σ} {name : String}
    (codecSpec : Codec writeSpec decodeSpec) (hmembers : ∀ object : α, members object = [("spec", writeSpec (spec object))])
    (hmake : ∀ object : α, make (metadata object) (spec object) = object) :
    Codec (fun object : α => document object) (Decode.record name ["metadata", "spec"] fun m =>
      make <$> m.required "metadata" (Metadata.decode times) <*> m.required "spec" decodeSpec) := by
  refine MembersCodec.record fun a m form hm => ?_
  have hmetadata : m.required "metadata" (Metadata.decode times) = Except.ok (metadata a) :=
    (Metadata.codec htimes).required hm (by simp [lookup_cons])
  have hspec : m.required "spec" decodeSpec = Except.ok (spec a) :=
    codecSpec.required hm (by simp [lookup_cons, hmembers])
  rw [hmetadata, hspec]
  exact congrArg Except.ok (hmake a)

/-- Nothing is null in an object when nothing is in its members and in the fields that managers have set. -/
theorem KubeObject.nullFree_document (object : α) :
    (document object).NullFree ↔ (metadata object).NullFreeFields ∧ Document.NullFreeMembers (members object) := by
  simp [document, Metadata.nullFree_document]

/-- Objects that are read back make round trips. -/
theorem Codec.roundTrip (codec : Codec (fun object : α => KubeObject.document object) decode)
    (hmembers : ∀ object : α, Document.NullFreeMembers (KubeObject.members object)) :
    RoundTrip decode (KubeObject.apiVersion α) (KubeObject.kind α) where
  reads := codec.reads
  apiVersion object form := by
    rw [form.member?_arrange, KubeObject.apiVersion_document, Option.map_some, form.arrange_eq_self rfl]
  kind object form := by
    rw [form.member?_arrange, KubeObject.kind_document, Option.map_some, form.arrange_eq_self rfl]
  nullFree object form := by
    rw [form.nullFree_arrange, KubeObject.nullFree_document]
    exact and_iff_left (hmembers object)
  again given written form h := by
    obtain ⟨object, hgiven, rfl⟩ := rewritten_eq_ok_iff.mp h
    have hreads := codec.reads object form
    exact ⟨hreads.trans hgiven.symm, rewritten_eq_ok_iff.mpr ⟨object, hreads, rfl⟩⟩

end Objects

theorem Application.roundTrip {times : Decoder Time} (htimes : ∀ t : Time, times t.document = .ok t) :
    RoundTrip (Application.decode times) "argoproj.io/v1alpha1" "Application" := by
  have codec : Codec (fun a : Application => KubeObject.document a) (Application.decode times) :=
    KubeObject.codec htimes ApplicationSpec.codec (fun _ => rfl) (fun _ => rfl)
  exact codec.roundTrip fun a => by simp [KubeObject.members, a.spec.nullFree_document]

theorem SealedSecret.roundTrip {times : Decoder Time} (htimes : ∀ t : Time, times t.document = .ok t) :
    RoundTrip (SealedSecret.decode times) "bitnami.com/v1alpha1" "SealedSecret" := by
  have codec : Codec (fun s : SealedSecret => KubeObject.document s) (SealedSecret.decode times) :=
    KubeObject.codec htimes SealedSecretSpec.codec (fun _ => rfl) (fun _ => rfl)
  exact codec.roundTrip fun s => by simp [KubeObject.members, s.spec.nullFree_document]

/-- Applications and sealed secrets make round trips, with every reader of points in time that reads them as they are written. -/
theorem custom_resources_round_trip (times : Decoder Time) (htimes : ∀ t : Time, times t.document = .ok t) :
    RoundTrip (Application.decode times) "argoproj.io/v1alpha1" "Application" ∧
      RoundTrip (SealedSecret.decode times) "bitnami.com/v1alpha1" "SealedSecret" :=
  ⟨Application.roundTrip htimes, SealedSecret.roundTrip htimes⟩

/-- Documents that leave members out and add others, give null and lists, and name another type or none are read all the same. What the
cluster keeps in the metadata is kept, too. -/
theorem custom_resources_round_trip_lenient :
    let application : Document := .map [("kind", .text "Deployment"), ("weight", .float ⟨false, 15, -1, by decide⟩),
      ("metadata", .map [("uid", .text "f3"), ("name", .text "web"), ("labels", .null), ("generation", .int 3),
        ("ownerReferences", .list [.map [("uid", .text "9c"), ("controller", .bool true), ("kind", .text "Application")]]),
        ("managedFields", .list [.map [("time", .text "2024-05-01T10:00:00Z"),
          ("fieldsV1", .map [("f:spec", .map [("k", .null), ("f", .float ⟨true, 25, -1, by decide⟩)])])]])]),
      ("spec", .list [.text "default", .map [("repoURL", .text "https://example.com/repo.git"), ("path", .null)],
        .list [.null, .text "web"], .list [.null]])]
    let writtenApplication : Document := .map [("apiVersion", .text "argoproj.io/v1alpha1"), ("kind", .text "Application"),
      ("metadata", .map [("generation", .int 3),
        ("managedFields", .list [.map [
          ("fieldsV1", .map [("f:spec", .map [("f", .float ⟨true, 25, -1, by decide⟩), ("k", .null)])]),
          ("time", .text "2024-05-01T10:00:00Z")]]),
        ("name", .text "web"),
        ("ownerReferences", .list [.map [("apiVersion", .text ""), ("controller", .bool true), ("kind", .text "Application"),
          ("name", .text ""), ("uid", .text "9c")]]),
        ("uid", .text "f3")]),
      ("spec", .map [("destination", .map [("namespace", .text "web")]), ("project", .text "default"),
        ("source", .map [("repoURL", .text "https://example.com/repo.git")]), ("syncPolicy", .map [])])]
    let secret : Document := .map [("spec", .map [("template", .list [.null, .list [.null, .null]])]), ("metadata", .map [])]
    let writtenSecret : Document := .map [("apiVersion", .text "bitnami.com/v1alpha1"), ("kind", .text "SealedSecret"),
      ("metadata", .map []), ("spec", .map [("encryptedData", .map []), ("template", .map [("metadata", .map [])])])]
    (∀ t : Time, Time.decode t.document = .ok t) ∧
    (rewritten (Application.decode Time.decode) .inOrder application = .ok writtenApplication ∧
      Application.decode Time.decode writtenApplication = Application.decode Time.decode application ∧
      rewritten (Application.decode Time.decode) .inOrder writtenApplication = .ok writtenApplication) ∧
    (rewritten (SealedSecret.decode Time.decode) .inOrder secret = .ok writtenSecret ∧
      SealedSecret.decode Time.decode writtenSecret = SealedSecret.decode Time.decode secret ∧
      rewritten (SealedSecret.decode Time.decode) .inOrder writtenSecret = .ok writtenSecret) := by
  intro application writtenApplication secret writtenSecret
  have happlication : rewritten (Application.decode Time.decode) .inOrder application = .ok writtenApplication := by rfl
  have hsecret : rewritten (SealedSecret.decode Time.decode) .inOrder secret = .ok writtenSecret := by rfl
  obtain ⟨hround, hround'⟩ := custom_resources_round_trip Time.decode fun _ => Time.decode_eq_ok_iff.mpr rfl
  exact ⟨fun _ => Time.decode_eq_ok_iff.mpr rfl, ⟨happlication, hround.again application writtenApplication .inOrder happlication⟩,
    hsecret, hround'.again secret writtenSecret .inOrder hsecret⟩

/-- What the cluster keeps is checked when it is read, although nothing here sets it. -/
example : Metadata.decode Time.decode (.map [("uid", .int 5)]) = .error (.invalidType (.int 5) "a string") := by
  rfl

end ManifestTree
