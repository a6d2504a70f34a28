import ManifestTree.Decimal
import ManifestTree.StringMap

/-!
# Documents

The values that objects are written as: null, truth values, numbers, texts, lists, and maps whose members keep the order they were
given in. `sorted` puts the members of every map in the order of their names, which is how manifests are written.
-/

namespace ManifestTree

/-- A structured value. -/
inductive Document where
  | null
  | bool (b : Bool)
  | int (n : Int)
  | float (x : Decimal)
  | text (s : String)
  | list (items : List Document)
  | map (members : List (String × Document))
deriving Inhabited

namespace Document

/-- The members of a map with one more put before the first member of a greater name. -/
def insertMember (member : String × Document) : List (String × Document) → List (String × Document)
  | [] => [member]
  | x :: rest => if member.1 ≤ x.1 then member :: x :: rest else x :: insertMember member rest

mutual

/-- The document with the members of every map in it in the order of their names. -/
def sorted : Document → Document
  | .null => .null
  | .bool b => .bool b
  | .int n => .int n
  | .float x => .float x
  | .text s => .text s
  | .list items => .list (sortedItems items)
  | .map members => .map (sortedMembers members)

/-- The documents of a list, each with its members in order. -/
def sortedItems : List Document → List Document
  | [] => []
  | d :: rest => d.sorted :: sortedItems rest

/-- The members of a map in the order of their names, each with its own members in order. -/
def sortedMembers : List (String × Document) → List (String × Document)
  | [] => []
  | (k, d) :: rest => insertMember (k, d.sorted) (sortedMembers rest)

end

/-- Whether a document is null. -/
def isNull : Document → Bool
  | .null => true
  | _ => false

/-- The member of a name. -/
def member? (key : String) : Document → Option Document
  | .map members => members.lookup key
  | _ => none

/-- An integer of 64 bits as a document. -/
def ofInt64 (n : Int64) : Document := .int n.toInt

/-- A list as a document, with a way to write its items. -/
def ofList {α : Type} (write : α → Document) (items : List α) : Document := .list (items.map write)

/-- A list of texts as a document. -/
def ofTexts (texts : List String) : Document := .list (texts.map .text)

/-- A map of texts as a document. -/
def ofStringMap (m : StringMap) : Document := .map (m.entries.map fun e => (e.1, .text e.2))

/-- A member that stands only when there is a value for it. -/
def optionalMember {α : Type} (key : String) (write : α → Document) : Option α → List (String × Document)
  | none => []
  | some a => [(key, write a)]

end Document

end ManifestTree
