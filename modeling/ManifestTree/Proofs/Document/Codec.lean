import Mathlib.Data.List.Basic
import ManifestTree.Document.Decode
import ManifestTree.Document.Order
import ManifestTree.Proofs.Document.Members
import ManifestTree.Proofs.StringMap.Entries

/-!
# Written forms that are read back

A way to write values and a way to read them make a `Codec` when every value is read back from its written form, however the members of
its maps are arranged, and no value is written as null, which would stand for none. Codecs of single values make codecs of lists and
of records (`Codec.list`, `MembersCodec.record`, `MembersCodec.object`): each member is read back on its own (`Codec.required`,
`Codec.optional`, `Codec.filled`, `Codec.defaulted`), and what is left out when it is written has to be what stands for it when it is
read.
-/

namespace ManifestTree

open Document (optionalMember sortedItems sortedMembers)

namespace Document

theorem sortedItems_eq_map (items : List Document) : sortedItems items = items.map sorted := by
  induction items with
  | nil => rfl
  | cons d rest ih => rw [sortedItems, ih, List.map_cons]

/-- A list of texts has nothing to put in order. -/
theorem sorted_ofTexts (texts : List String) : (ofTexts texts).sorted = ofTexts texts := by
  rw [ofTexts, sorted, sortedItems_eq_map, List.map_map]
  rfl

/-- A map of texts is in order. -/
theorem sorted_ofStringMap (m : StringMap) : (ofStringMap m).sorted = ofStringMap m := by
  have hordered : Ordered (m.entries.map fun e => (e.1, Document.text e.2)) :=
    List.pairwise_map.mpr (m.ordered.imp Std.le_of_lt)
  rw [ofStringMap, sorted, sortedMembers_eq_self hordered (List.forall_mem_map.mpr fun e _ => rfl)]

end Document

/-! ## Arrangements -/

/-- How the members of the maps in a document stand: as they were written, or in the order of their names. -/
inductive Arrangement where
  | asWritten
  | inOrder

namespace Arrangement

variable (form : Arrangement)

/-- A document with the members of its maps arranged. -/
def arrange (d : Document) : Document :=
  match form with
  | .asWritten => d
  | .inOrder => d.sorted

/-- The members of a map, arranged. -/
def arrangeMembers (members : List (String × Document)) : List (String × Document) :=
  match form with
  | .asWritten => members
  | .inOrder => sortedMembers members

theorem arrange_map (members : List (String × Document)) : form.arrange (.map members) = .map (form.arrangeMembers members) := by
  cases form with
  | asWritten => rfl
  | inOrder => rw [arrange, arrangeMembers, Document.sorted]

theorem arrange_list (items : List Document) : form.arrange (.list items) = .list (items.map form.arrange) := by
  cases form with
  | asWritten => exact congrArg Document.list (List.map_id items).symm
  | inOrder => rw [arrange, Document.sorted, Document.sortedItems_eq_map]; rfl

/-- Arranging members keeps each of them, arranged itself. -/
theorem arrangeMembers_perm (members : List (String × Document)) :
    (form.arrangeMembers members).Perm (members.map fun x => (x.1, form.arrange x.2)) := by
  cases form with
  | asWritten => exact .of_eq (List.map_id'' (fun _ => rfl) members).symm
  | inOrder => exact Document.sortedMembers_perm members

/-- What a name stands for in arranged members. -/
theorem lookup_arrangeMembers (key : String) (members : List (String × Document)) :
    (form.arrangeMembers members).lookup key = (members.lookup key).map form.arrange := by
  cases form with
  | asWritten => exact Option.map_id'.symm
  | inOrder => exact Document.lookup_sortedMembers key members

/-- A member of an arranged document. -/
theorem member?_arrange (d : Document) (key : String) : (form.arrange d).member? key = (d.member? key).map form.arrange := by
  cases form with
  | asWritten => exact Option.map_id'.symm
  | inOrder => exact d.member?_sorted key

/-- A document that is in order stays as it is. -/
theorem arrange_eq_self {d : Document} (h : d.sorted = d) : form.arrange d = d := by
  cases form with
  | asWritten => rfl
  | inOrder => exact h

/-- Only null is null when it is arranged. -/
theorem isNull_arrange (d : Document) : (form.arrange d).isNull = d.isNull := by
  cases form with
  | asWritten => rfl
  | inOrder => exact d.isNull_sorted

end Arrangement

/-! ## Codecs -/

/-- A way to write values and a way to read them that belong together. -/
structure Codec {α : Type} (write : α → Document) (decode : Decoder α) : Prop where
  /-- Every value is read back. -/
  reads : ∀ (a : α) (form : Arrangement), decode (form.arrange (write a)) = .ok a
  /-- No value is written as null. -/
  notNull : ∀ a, (write a).isNull = false

/-- Values whose written form has nothing to put in order. -/
theorem Codec.of_sorted {α : Type} {write : α → Document} {decode : Decoder α} (hsorted : ∀ a, (write a).sorted = write a)
    (hreads : ∀ a, decode (write a) = .ok a) (hnull : ∀ a, (write a).isNull = false) : Codec write decode where
  reads a form := by rw [form.arrange_eq_self (hsorted a), hreads]
  notNull := hnull

theorem codec_bool : Codec .bool Decode.bool :=
  .of_sorted (fun _ => rfl) (fun _ => rfl) (fun _ => rfl)

theorem codec_text : Codec .text Decode.text :=
  .of_sorted (fun _ => rfl) (fun _ => rfl) (fun _ => rfl)

theorem codec_int32 : Codec (fun n : Int32 => .int n.toInt) Decode.int32 := by
  refine .of_sorted (fun _ => rfl) (fun n => ?_) (fun _ => rfl)
  rw [Decode.int32, if_pos ⟨n.minValue_le_toInt, n.toInt_le⟩, Int32.ofInt_toInt]

theorem codec_int64 : Codec .ofInt64 Decode.int64 := by
  refine .of_sorted (fun _ => rfl) (fun n => ?_) (fun _ => rfl)
  rw [Document.ofInt64, Decode.int64, if_pos ⟨n.minValue_le_toInt, n.toInt_le⟩, Int64.ofInt_toInt]

/-- Written items are read back when each of them is. -/
theorem mapM_map_written {α β : Type} {write : α → β} {read : β → Except DecodeError α} (h : ∀ a, read (write a) = .ok a)
    (items : List α) : (items.map write).mapM read = .ok items := by
  have hread : read ∘ write = fun a => pure (id a) := funext h
  rw [List.mapM_map, hread, List.mapM_pure, List.map_id]
  rfl

theorem codec_texts : Codec .ofTexts Decode.texts :=
  .of_sorted Document.sorted_ofTexts (mapM_map_written fun _ => rfl) (fun _ => rfl)

/-- A list is read back when its items are. -/
theorem Codec.list {α : Type} {write : α → Document} {decode : Decoder α} (codec : Codec write decode) :
    Codec (.ofList write) (Decode.list decode) where
  reads items form := by
    rw [Document.ofList, form.arrange_list, List.map_map]
    exact mapM_map_written (fun a => codec.reads a form) items
  notNull _ := rfl

theorem codec_stringMap : Codec .ofStringMap Decode.stringMap := by
  refine .of_sorted Document.sorted_ofStringMap (fun m => ?_) (fun _ => rfl)
  have hbuilt : ∀ {entries? : Except DecodeError (List (String × String))}, entries? = .ok m.entries →
      entries?.map StringMap.ofList = .ok m := by
    rintro _ rfl
    exact congrArg Except.ok m.ofList_entries
  refine hbuilt (mapM_map_written ?_ m.entries)
  exact fun _ => rfl

/-! ## Members of a record -/

namespace Decode

/-- The member that is read for a name is the one the name stands for. -/
theorem Members.find?_snd (m : Members) (key : String) : (m.find? key).map Prod.snd = m.given.lookup key := by
  have hfrom : ∀ (given : List (String × Document)) (start : Nat),
      ((given.zipIdx start).find? fun x => x.1.1 = key).map (·.1.2) = given.lookup key := by
    intro given
    induction given with
    | nil => intro _; rfl
    | cons x rest ih =>
      intro start
      rw [List.zipIdx_cons, lookup_cons, List.find?_cons]
      by_cases h : x.1 = key
      · simp [h]
      · rw [if_neg (Ne.symm h), ← ih (start + 1)]
        simp [h]
  rw [find?, Option.map_map]
  exact hfrom m.given 0

theorem Members.find?_eq_none {m : Members} {key : String} (h : m.given.lookup key = none) : m.find? key = none := by
  rw [← m.find?_snd] at h
  exact Option.map_eq_none_iff.mp h

theorem Members.find?_eq_some {m : Members} {key : String} {d : Document} (h : m.given.lookup key = some d) :
    ∃ place, m.find? key = some (place, d) := by
  rw [← m.find?_snd] at h
  obtain ⟨⟨place, d'⟩, hfind, rfl⟩ := Option.map_eq_some_iff.mp h
  exact ⟨place, hfind⟩

/-- Members that come from a map that was written with the given ones. -/
structure Members.Carries (m : Members) (form : Arrangement) (written : List (String × Document)) : Prop where
  named : m.positional = false
  lookup : ∀ key, m.given.lookup key = (written.lookup key).map form.arrange

end Decode

open Decode (Members Reading)

namespace Codec

variable {α : Type} {write : α → Document} {decode : Decoder α} {m : Members} {form : Arrangement}
  {written : List (String × Document)} {key : String} {a : α}

/-- A member that is there is read back. -/
theorem readAt (codec : Codec write decode) (a : α) (form : Arrangement) (place : Nat) :
    Members.readAt place decode (form.arrange (write a)) = Except.ok a := by
  rw [Members.readAt, codec.reads]

/-- A member that is always written is read back. -/
theorem required (codec : Codec write decode) (hm : m.Carries form written) (h : written.lookup key = some (write a)) :
    m.required key decode = Except.ok a := by
  have hgiven : m.given.lookup key = some (form.arrange (write a)) := by rw [hm.lookup, h, Option.map_some]
  obtain ⟨place, hfind⟩ := Members.find?_eq_some hgiven
  rw [Members.required, hfind]
  exact codec.readAt a form place

/-- A member that is written when it is set is read back. -/
theorem optional (codec : Codec write decode) {value? : Option α} (hm : m.Carries form written)
    (h : written.lookup key = value?.map write) : m.optional key decode = Except.ok value? := by
  cases value? with
  | none =>
    have hgiven : m.given.lookup key = none := by rw [hm.lookup, h, Option.map_none, Option.map_none]
    rw [Members.optional, Members.find?_eq_none hgiven, hm.named]
    rfl
  | some a =>
    have hgiven : m.given.lookup key = some (form.arrange (write a)) := by
      rw [hm.lookup, h, Option.map_some, Option.map_some]
    obtain ⟨place, hfind⟩ := Members.find?_eq_some hgiven
    -- Null would be read as a member that is not set.
    have hnull : (form.arrange (write a)).isNull = false := (form.isNull_arrange _).trans (codec.notNull a)
    have hread : m.optional key decode = some <$> Members.readAt place decode (form.arrange (write a)) := by
      rw [Members.optional, hfind]
      generalize form.arrange (write a) = d at hnull ⊢
      cases d with
      | null => exact absurd hnull (by decide)
      | _ => rfl
    rw [hread, codec.readAt]
    rfl

/-- A member that is always written is read back, also when something would stand for it. -/
theorem filled (codec : Codec write decode) {default : α} (hm : m.Carries form written) (h : written.lookup key = some (write a)) :
    m.filled key default decode = Except.ok a := by
  have hread : m.optional key decode = Except.ok (some a) := codec.optional hm h
  rw [Members.filled, hread]
  rfl

/-- A member that is written, or else stands for what it is read as where it is left out, is read back. -/
theorem defaulted (codec : Codec write decode) {default : α} (hm : m.Carries form written)
    (h : written.lookup key = some (write a) ∨ written.lookup key = none ∧ a = default) :
    m.defaulted key default decode = Except.ok a := by
  rcases h with h | ⟨h, rfl⟩
  · have hgiven : m.given.lookup key = some (form.arrange (write a)) := by rw [hm.lookup, h, Option.map_some]
    obtain ⟨place, hfind⟩ := Members.find?_eq_some hgiven
    rw [Members.defaulted, hfind]
    exact codec.readAt a form place
  · have hgiven : m.given.lookup key = none := by rw [hm.lookup, h, Option.map_none]
    rw [Members.defaulted, Members.find?_eq_none hgiven]

end Codec

/-- Members that are written and a way to read them that belong together. -/
def MembersCodec {α : Type} (members : α → List (String × Document)) (read : Members → Reading α) : Prop :=
  ∀ (a : α) (m : Members) (form : Arrangement), m.Carries form (members a) → read m = Except.ok a

namespace MembersCodec

variable {α : Type} {members : α → List (String × Document)} {read : Members → Reading α} {name : String} {names : List String}

/-- Members that belong together make a codec of maps that are read in the way of a record. -/
theorem codec (h : MembersCodec members read) {decode : Decoder α}
    (hdecode : ∀ given, decode (.map given) = (read ⟨name, names, given, false⟩).result) :
    Codec (fun a => .map (members a)) decode where
  reads a form := by
    have hcarries : Members.Carries ⟨name, names, form.arrangeMembers (members a), false⟩ form (members a) :=
      ⟨rfl, fun key => form.lookup_arrangeMembers key (members a)⟩
    rw [form.arrange_map, hdecode, h a _ form hcarries]
    rfl
  notNull _ := rfl

theorem record (h : MembersCodec members read) : Codec (fun a => .map (members a)) (Decode.record name names read) :=
  h.codec fun _ => rfl

theorem object (h : MembersCodec members read) : Codec (fun a => .map (members a)) (Decode.object name names read) :=
  h.codec fun _ => rfl

end MembersCodec

end ManifestTree
