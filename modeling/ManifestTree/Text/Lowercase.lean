import ManifestTree.Text.CaseTable

/-!
# Lower case

The lower case of a text in full: one letter may become two, and a capital sigma becomes the final form at the end of a word.
-/

namespace ManifestTree.Lowercase

open CaseTable

/-- Whether a character belongs to a word when its case matters. -/
def isCased (c : Char) : Bool :=
  within casedRanges c.toNat

/-- Whether a character is passed over when the case of a neighbour is asked for. -/
def isIgnorable (c : Char) : Bool :=
  within ignorableRanges c.toNat

/-- Whether the nearest character that counts is cased. -/
def meetsCased (cs : List Char) : Bool :=
  match cs.dropWhile isIgnorable with
  | [] => false
  | c :: _ => isCased c

/-- The lower case of a character that is no capital sigma. -/
def lowerChar (c : Char) : List Char :=
  if c.toNat < 0x80 then [c.toLower]
  else if c = 'İ' then ['i', '\u0307']
  else match lowered.find? (·.covers c.toNat) with
    | some run => [Char.ofNat (c.toNat + run.shift).toNat]
    | none => [c]

/-- The lower case of a text that comes after `before`, which is given nearest character first. -/
def lowerAfter (before : List Char) : List Char → List Char
  | [] => []
  | c :: rest =>
    let here :=
      if c = 'Σ' then [if meetsCased before && !meetsCased rest then 'ς' else 'σ']
      else lowerChar c
    here ++ lowerAfter (c :: before) rest

/-- The lower case of a text. -/
def lowercase (s : String) : String :=
  String.ofList (lowerAfter [] s.toList)

end ManifestTree.Lowercase
