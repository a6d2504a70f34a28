/-!
# Reasons with a position

The reason of a failure may end in a position, as in `expected value at line 3 column 7`. The position is kept apart from the
message. No text has a line 0: a position there is left out when the reason is shown.
-/

namespace ManifestTree

/-- Why something failed, and the line and the column where it did. -/
structure Reason where
  message : String
  line : Nat
  column : Nat

namespace Reason

/-- What stands before the number of a line. -/
def lineMark : List Char := " at line ".toList

/-- What stands between the number of a line and that of a column. -/
def columnMark : List Char := " column ".toList

/-- The characters before the last occurrence of a mark, and those behind it. -/
def splitAtLast (mark : List Char) : List Char → Option (List Char × List Char)
  | [] => none
  | c :: rest =>
    match splitAtLast mark rest with
    | some (before, behind) => some (c :: before, behind)
    | none => if mark.isPrefixOf (c :: rest) then some ([], (c :: rest).drop mark.length) else none

/-- The number that decimal digits stand for, if it is one of 64 bits. -/
def number? (digits : List Char) : Option Nat :=
  let n := digits.foldl (fun n c => n * 10 + (c.toNat - '0'.toNat)) 0
  if digits ≠ [] ∧ digits.all Char.isDigit ∧ n < UInt64.size then some n else none

/-- The line and the column of a position behind the mark of a line. -/
def position? (cs : List Char) : Option (Nat × Nat) := do
  let rest := cs.dropWhile Char.isDigit
  if columnMark.isPrefixOf rest then
    return (← number? (cs.takeWhile Char.isDigit), ← number? (rest.drop columnMark.length))
  else none

/-- A reason as it was written. -/
def ofString (s : String) : Reason :=
  let positioned? := do
    let (message, behind) ← splitAtLast lineMark s.toList
    let (line, column) ← position? behind
    return (⟨String.ofList message, line, column⟩ : Reason)
  positioned?.getD ⟨s, 0, 0⟩

/-- A reason as it is shown. -/
def display (r : Reason) : String :=
  if r.line = 0 then r.message else s!"{r.message} at line {r.line} column {r.column}"

end Reason

end ManifestTree
