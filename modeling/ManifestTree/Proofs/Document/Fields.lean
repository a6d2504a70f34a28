import ManifestTree.Proofs.Document.Codec

/-!
# Fields that are set

A record has fields, of which some may not be set. `HasFields` says of a document that it is an object with one member for each
field that is set, and with no others. Records that are written so and read back are `RecordCodec`s: a codec makes one as soon as
what is written are the members of the fields that are set (`Codec.recordCodec`).
-/

namespace ManifestTree

open Document (optionalMember)

/-! ## Fields -/

/-- The fields of a record: the name of each, and what is written for it if it is set. -/
abbrev Fields := List (String × Option Document)

namespace Fields

/-- The members that fields are written as: one for each that is set. -/
def setMembers (fields : Fields) : List (String × Document) := fields.flatMap fun field => optionalMember field.1 id field.2

theorem mem_setMembers {fields : Fields} {x : String × Document} : x ∈ fields.setMembers ↔ (x.1, some x.2) ∈ fields := by
  have hfield : ∀ field : String × Option Document, x ∈ optionalMember field.1 id field.2 ↔ field = (x.1, some x.2) := by
    rintro ⟨name, _ | d⟩
    · simp [optionalMember]
    · simp [optionalMember, Prod.ext_iff, eq_comm]
  simp only [setMembers, List.mem_flatMap, hfield, exists_eq_right]

/-- The names of the members are names of fields, in their order. -/
theorem names_setMembers (fields : Fields) : (fields.setMembers.map Prod.fst).Sublist (fields.map Prod.fst) := by
  induction fields with
  | nil => exact .slnil
  | cons field rest ih =>
    rw [setMembers, List.flatMap_cons, List.map_append, List.map_cons]
    obtain ⟨name, _ | d⟩ := field
    · exact ih.cons name
    · exact ih.cons_cons name

/-- A member that stands only when there is a value for it is a field that is set only then. -/
theorem setMembers_cons {α : Type} (name : String) (write : α → Document) (value? : Option α) (rest : Fields) :
    setMembers ((name, value?.map write) :: rest) = optionalMember name write value? ++ rest.setMembers := by
  cases value? <;> rfl

theorem setMembers_nil : setMembers [] = [] := rfl

end Fields

/-- A document that is an object with one member for each field that is set, and no others. -/
def HasFields (form : Arrangement) (fields : Fields) (d : Document) : Prop :=
  ∃ members, d = .map members ∧ (members.map Prod.fst).Nodup ∧
    ∀ x, x ∈ members ↔ ∃ written, (x.1, some written) ∈ fields ∧ x.2 = form.arrange written

/-- What is written for fields with different names. -/
theorem hasFields_setMembers (form : Arrangement) {fields : Fields} (hnames : (fields.map Prod.fst).Nodup) :
    HasFields form fields (form.arrange (.map fields.setMembers)) := by
  have hperm := form.arrangeMembers_perm fields.setMembers
  refine ⟨form.arrangeMembers fields.setMembers, form.arrange_map _, ?_, fun x => ?_⟩
  · have hkept : (fields.setMembers.map fun x => (x.1, form.arrange x.2)).map Prod.fst = fields.setMembers.map Prod.fst := by
      rw [List.map_map]
      rfl
    rw [(hperm.map Prod.fst).nodup_iff, hkept]
    exact hnames.sublist fields.names_setMembers
  · rw [hperm.mem_iff, List.mem_map]
    constructor
    · rintro ⟨y, hy, rfl⟩
      exact ⟨y.2, Fields.mem_setMembers.mp hy, rfl⟩
    · rintro ⟨written, hwritten, hx⟩
      exact ⟨(x.1, written), Fields.mem_setMembers.mpr hwritten, Prod.ext rfl hx.symm⟩

/-! ## Records -/

/-- Records that are written with a member for each field that is set, and read back. -/
structure RecordCodec {α : Type} (write : α → Document) (decode : Decoder α) (fields : α → Fields) : Prop where
  /-- A record is read back from its written form. -/
  reads : ∀ (a : α) (form : Arrangement), decode (form.arrange (write a)) = .ok a
  /-- The written form has a member for each field that is set, and no others. -/
  members : ∀ (a : α) (form : Arrangement), HasFields form (fields a) (form.arrange (write a))
  /-- Whatever a record was read from, the same record is read from what is written for it. -/
  again : ∀ (given : Document) (form : Arrangement), ((decode given).bind fun a => decode (form.arrange (write a))) = decode given

/-- A codec that writes the members of the fields that are set. -/
theorem Codec.recordCodec {α : Type} {write : α → Document} {decode : Decoder α} {fields : α → Fields}
    (codec : Codec write decode) (hwrite : ∀ a, write a = .map (fields a).setMembers)
    (hnames : ∀ a, ((fields a).map Prod.fst).Nodup) : RecordCodec write decode fields where
  reads := codec.reads
  members a form := by
    rw [hwrite]
    exact hasFields_setMembers form (hnames a)
  again given form := by
    cases decode given with
    | error e => rfl
    | ok a => exact codec.reads a form

/-- A record of one field that is always set is read back when its field is. -/
theorem Codec.single {α β : Type} {write : β → Document} {decode : Decoder β} (codec : Codec write decode) {get : α → β}
    {make : β → α} (hmake : ∀ a, make (get a) = a) {name key : String} :
    Codec (fun a => .map [(key, write (get a))]) (Decode.record name [key] fun m => make <$> m.required key decode) := by
  refine MembersCodec.record fun a m form hm => ?_
  have hmember : m.required key decode = Except.ok (get a) := codec.required hm (by simp)
  rw [hmember]
  exact congrArg Except.ok (hmake a)

end ManifestTree
