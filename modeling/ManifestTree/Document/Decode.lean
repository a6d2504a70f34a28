import ManifestTree.Document
import ManifestTree.Text.Quoted

/-!
# Reading documents

A decoder turns a document into a value or says why it cannot. A record is read from a map by the names of its members, or from a
list by their order. Of several faults the first one in the document is reported, and a missing member only when nothing else is
wrong: `Reading` keeps the place of each fault for that.
-/

namespace ManifestTree

/-- Why a document is not what was asked for. -/
inductive DecodeError where
  | invalidType (found : Document) (expected : String)
  | invalidValue (found : Document) (expected : String)
  | invalidLength (length : Nat) (expected : String)
  | missingField (name : String)
  | unknownVariant (found : String) (expected : List String)
  | unreadable (reason : String)

/-- What a message calls a document it did not expect. -/
def Document.description : Document → String
  | .null => "null"
  | .bool b => s!"boolean `{b}`"
  | .int n => s!"integer `{n}`"
  | .float x => s!"floating point `{x.positional}`"
  | .text s => "string " ++ Quoted.quote s
  | .list _ => "sequence"
  | .map _ => "map"

/-- The alternatives a message offers. -/
def DecodeError.alternatives (names : List String) : String :=
  match names.map fun n => s!"`{n}`" with
  | [] => "there are no variants"
  | [a] => s!"expected {a}"
  | [a, b] => s!"expected {a} or {b}"
  | quoted => "expected one of " ++ ", ".intercalate quoted

/-- The text of a decoding error. -/
def DecodeError.message : DecodeError → String
  | .invalidType found expected => s!"invalid type: {found.description}, expected {expected}"
  | .invalidValue found expected => s!"invalid value: {found.description}, expected {expected}"
  | .invalidLength length expected => s!"invalid length {length}, expected {expected}"
  | .missingField name => s!"missing field `{name}`"
  | .unknownVariant found expected => s!"unknown variant `{found}`, {alternatives expected}"
  | .unreadable reason => reason

/-- A way to read a document as an `α`. -/
abbrev Decoder (α : Type) := Document → Except DecodeError α

namespace Decode

/-- Reads a truth value. -/
def bool : Decoder Bool
  | .bool b => .ok b
  | d => .error (.invalidType d "a boolean")

/-- Reads a text. -/
def text : Decoder String
  | .text s => .ok s
  | d => .error (.invalidType d "a string")

/-- Reads an integer of 32 bits. -/
def int32 : Decoder Int32
  | .int n =>
    if Int32.minValue.toInt ≤ n ∧ n ≤ Int32.maxValue.toInt then .ok (Int32.ofInt n) else .error (.invalidValue (.int n) "i32")
  | d => .error (.invalidType d "i32")

/-- Reads an integer of 64 bits. -/
def int64 : Decoder Int64
  | .int n =>
    if Int64.minValue.toInt ≤ n ∧ n ≤ Int64.maxValue.toInt then .ok (Int64.ofInt n) else .error (.invalidValue (.int n) "i64")
  | d => .error (.invalidType d "i64")

/-- Reads a list whose items are all read in one way. -/
def list {α : Type} (item : Decoder α) : Decoder (List α)
  | .list items => items.mapM item
  | d => .error (.invalidType d "a sequence")

/-- Reads a list of texts. -/
def texts : Decoder (List String) := list text

/-- Reads a map of texts. -/
def stringMap : Decoder StringMap
  | .map members => do
    let entries ← members.mapM fun (key, d) => do return (key, ← text d)
    return .ofList entries
  | d => .error (.invalidType d "a map")

/-- Reads a choice between names: the name alone, or a map from the name to null. -/
def choice {α : Type} (names : List String) (ofName? : String → Option α) : Decoder α
  | .text s =>
    match ofName? s with
    | some a => .ok a
    | none => .error (.unknownVariant s names)
  | .map [(s, d)] =>
    match ofName? s, d with
    | none, _ => .error (.unknownVariant s names)
    | some a, .null => .ok a
    | some _, d => .error (.invalidType d "unit")
  | .map members => .error (.invalidValue (.map members) "map with a single key")
  | d => .error (.invalidType d "string or map")

/-- Something wrong with one member of a record, and the place of that member in the document. -/
structure Fault where
  place : Nat
  error : DecodeError

/-- The outcome of reading some members of a record. -/
def Reading (α : Type) := Except Fault α

namespace Reading

/-- The earlier of two faults; of two at one place the left one. -/
def earlier (a b : Fault) : Fault := if a.place ≤ b.place then a else b

instance : Applicative Reading where
  pure a := Except.ok a
  seq {_ _} f x :=
    match f, x () with
    | .ok f, .ok a => .ok (f a)
    | .ok _, .error b => .error b
    | .error a, .ok _ => .error a
    | .error a, .error b => .error (earlier a b)

end Reading

/-- The members a record is read from: the names it knows in their order, and what the document gives for them. `positional` says
that the document gave a list. -/
structure Members where
  record : String
  names : List String
  given : List (String × Document)
  positional : Bool

namespace Members

/-- The document given for a member, with its place. -/
def find? (m : Members) (key : String) : Option (Nat × Document) :=
  (m.given.zipIdx.find? fun ((name, _), _) => name = key).map fun ((_, d), place) => (place, d)

/-- How a message names the whole record. -/
def shape (m : Members) : String :=
  let n := m.names.length
  let plural := if n = 1 then "" else "s"
  s!"struct {m.record} with {n} element{plural}"

/-- The fault of a member that is not there. It comes after every member that is. -/
def missing (m : Members) (key : String) : Fault :=
  ⟨m.given.length, if m.positional then .invalidLength (m.names.idxOf key) m.shape else .missingField key⟩

/-- Reads a member at its place. -/
def readAt {α : Type} (place : Nat) (decode : Decoder α) (d : Document) : Reading α :=
  match decode d with
  | .ok a => Except.ok a
  | .error e => Except.error ⟨place, e⟩

/-- Reads a member that has to be there. -/
def required {α : Type} (m : Members) (key : String) (decode : Decoder α) : Reading α :=
  match m.find? key with
  | some (place, d) => readAt place decode d
  | none => Except.error (m.missing key)

/-- Reads a member that may be null or, in a map, may be left out. -/
def optional {α : Type} (m : Members) (key : String) (decode : Decoder α) : Reading (Option α) :=
  match m.find? key with
  | some (_, .null) => Except.ok none
  | some (place, d) => some <$> readAt place decode d
  | none => if m.positional then Except.error (m.missing key) else Except.ok none

/-- Reads a member that stands for a given value where it is left out. -/
def defaulted {α : Type} (m : Members) (key : String) (default : α) (decode : Decoder α) : Reading α :=
  match m.find? key with
  | some (place, d) => readAt place decode d
  | none => Except.ok default

/-- Reads a member that stands for a given value where it is null or left out. -/
def filled {α : Type} (m : Members) (key : String) (default : α) (decode : Decoder α) : Reading α :=
  (·.getD default) <$> m.optional key decode

end Members

/-- The outcome of a reading without the place of its fault. -/
def Reading.result {α : Type} : Reading α → Except DecodeError α
  | .ok a => .ok a
  | .error fault => .error fault.error

/-- Reads a record from a map, or from a list that holds its members in order and nothing more. -/
def record {α : Type} (name : String) (names : List String) (read : Members → Reading α) : Decoder α
  | .map members => (read ⟨name, names, members, false⟩).result
  | .list items => do
    let a ← (read ⟨name, names, names.zip items, true⟩).result
    if names.length < items.length then .error (.invalidLength items.length "fewer elements in array")
    else .ok a
  | d => .error (.invalidType d s!"struct {name}")

/-- Reads a record from a map only; `expected` is what a message calls it. -/
def object {α : Type} (expected : String) (names : List String) (read : Members → Reading α) : Decoder α
  | .map members => (read ⟨expected, names, members, false⟩).result
  | d => .error (.invalidType d expected)

end Decode

end ManifestTree
