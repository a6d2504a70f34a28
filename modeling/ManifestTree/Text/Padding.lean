/-!
# Fields of a fixed width

How a name is set in a column: cut to a greatest length, then filled up to a least width.
-/

namespace ManifestTree.Padding

/-- The side on which a text stands in its field. -/
inductive Alignment where
  | left
  | right
  | centre
  deriving DecidableEq

/-- A field: its least width, the greatest length of the text in it if there is one, where the text stands and what fills the
rest. -/
structure Field where
  width : Nat
  longest? : Option Nat := none
  alignment : Alignment := .left
  fill : Char := ' '

/-- The fill before a text that leaves `free` columns empty. A centred text has the odd column after it. -/
def Alignment.before (free : Nat) : Alignment → Nat
  | .left => 0
  | .right => free
  | .centre => free / 2

/-- A text set in a field: cut first, then filled. -/
def Field.set (field : Field) (text : String) : String :=
  let shown := match field.longest? with
    | some n => text.toList.take n
    | none => text.toList
  let free := field.width - shown.length
  let before := field.alignment.before free
  String.ofList (List.replicate before field.fill ++ shown ++ List.replicate (free - before) field.fill)

end ManifestTree.Padding
