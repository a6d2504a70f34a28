import ManifestTree.Document
import ManifestTree.Document.Scalar

/-!
# Documents as YAML

The written form of a document: one member or item on a line, everything inside it two columns further in, and a list not further in
than the member it belongs to. A member whose name takes several lines or more than 128 bytes has its name after a question mark.
-/

namespace ManifestTree.Document

open Scalar (pad)

/-- A written value with the line it ends on ended. -/
def endLine (cs : List Char) : List Char :=
  if cs.getLast?.any Scalar.isBreak then cs else cs ++ ['\n']

/-- The columns that each level stands further in. -/
def indentation : Nat := 2

/-- The longest name that stands before its colon on one line, in bytes. -/
def longestKey : Nat := 128

/-- Whether the name of a member can stand before its colon on one line. -/
def isSimpleKey (key : String) : Bool :=
  !key.toList.any Scalar.isBreak && key.utf8ByteSize ≤ longestKey

/-- A written leaf with the line it ends on ended; empty lists and maps are leaves. -/
def leaf? (indent : Nat) : Document → Option (List Char)
  | .null => some "null\n".toList
  | .bool b => some (if b then "true\n".toList else "false\n".toList)
  | .int n => some ((toString n).toList ++ ['\n'])
  | .float x => some (x.text.toList ++ ['\n'])
  | .text s => some (endLine (Scalar.write (indent + indentation) s))
  | .list [] => some "[]\n".toList
  | .map [] => some "\x7b\x7d\n".toList
  | .list (_ :: _) => none
  | .map (_ :: _) => none

mutual

/-- A value behind a dash, or behind the colon of a name written after a question mark. Its first line goes on where that stands. -/
def behindDash (indent : Nat) : Document → List Char
  | .list (d :: rest) => ' ' :: items (indent + indentation) false (d :: rest)
  | .map (m :: rest) => ' ' :: membersOf (indent + indentation) false (m :: rest)
  | d => ' ' :: (leaf? indent d).getD []

/-- A value behind the colon of a name on one line. -/
def behindColon (indent : Nat) : Document → List Char
  | .list (d :: rest) => '\n' :: items indent true (d :: rest)
  | .map (m :: rest) => '\n' :: membersOf (indent + indentation) true (m :: rest)
  | d => ' ' :: (leaf? indent d).getD []

/-- The items of a list at a column; the first one only when `newLine` says that it starts a line. -/
def items (indent : Nat) (newLine : Bool) : List Document → List Char
  | [] => []
  | d :: rest =>
    (if newLine then pad indent else []) ++ '-' :: behindDash indent d ++ items indent true rest

/-- The members of a map at a column; the first one only when `newLine` says that it starts a line. -/
def membersOf (indent : Nat) (newLine : Bool) : List (String × Document) → List Char
  | [] => []
  | (key, d) :: rest =>
    let name := Scalar.write (indent + indentation) key
    let member :=
      if isSimpleKey key then name ++ ':' :: behindColon indent d
      else '?' :: ' ' :: endLine name ++ pad indent ++ ':' :: behindDash indent d
    (if newLine then pad indent else []) ++ member ++ membersOf indent true rest

end

/-- The written form of a document. -/
def toYaml (d : Document) : String :=
  String.ofList <| match d with
    | .list (d :: rest) => items 0 true (d :: rest)
    | .map (m :: rest) => membersOf 0 true (m :: rest)
    | d => (leaf? 0 d).getD []

end ManifestTree.Document
