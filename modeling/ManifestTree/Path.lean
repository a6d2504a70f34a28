import ManifestTree.Text.Utf8

/-!
# Paths

A path is kept as the bytes it was written with. Two paths name the same thing when their components agree: doubled and trailing
separators and inner dots make no difference, while `..` stays, since only the file tree can resolve it. `join` appends, and an
absolute path replaces what stands before it.
-/

namespace ManifestTree

/-- The name of a directory entry. -/
abbrev Name := List UInt8

/-- A path, as it was written. -/
structure Path where
  bytes : List UInt8
  deriving DecidableEq

/-- What a path asks for, step by step. -/
inductive Component where
  | root
  | here
  | up
  | name (name : Name)
  deriving DecidableEq

namespace Path

/-- The separator of components. -/
def separator : UInt8 := 0x2F

/-- The name of the directory itself. -/
def dot : Name := [0x2E]

/-- The name of the directory above. -/
def dotDot : Name := [0x2E, 0x2E]

/-- The path a text is written as. -/
def ofString (s : String) : Path := ⟨Utf8.encode s⟩

/-- The path as text, with U+FFFD for every ill-formed run of bytes. -/
def display (p : Path) : String := Utf8.lossy p.bytes

/-- Whether a path starts at the root. -/
def isAbsolute (p : Path) : Bool := p.bytes.head? = some separator

/-- The parts of a byte sequence between separators; always at least one. -/
def split : List UInt8 → List Name
  | [] => [[]]
  | b :: rest =>
    if b = separator then [] :: split rest
    else match split rest with
      | [] => [[b]]
      | part :: parts => (b :: part) :: parts

/-- Parts written one after the other with a separator between them. -/
def unsplit : List Name → List UInt8
  | [] => []
  | [part] => part
  | part :: parts => part ++ separator :: unsplit parts

/-- What a part after the first asks for: nothing when it is empty or a dot. -/
def stepOf (part : Name) : Option Component :=
  if part = [] ∨ part = dot then none
  else if part = dotDot then some .up
  else some (.name part)

/-- The components of a path. A dot counts only at the start of a relative path. -/
def components (p : Path) : List Component :=
  match split p.bytes with
  | [] => []
  | first :: rest =>
    let start : Option Component :=
      if p.isAbsolute then some .root
      else if first = dot then some .here
      else stepOf first
    start.toList ++ rest.filterMap stepOf

/-- Whether two paths agree component by component. -/
def Same (p q : Path) : Prop := p.components = q.components

instance (p q : Path) : Decidable (p.Same q) :=
  inferInstanceAs (Decidable (p.components = q.components))

/-- `q` seen from `p`: an absolute `q` stands alone, any other is appended after a separator. -/
def join (p q : Path) : Path :=
  if q.isAbsolute then q
  else if p.bytes = [] ∨ p.bytes.getLast? = some separator then ⟨p.bytes ++ q.bytes⟩
  else ⟨p.bytes ++ separator :: q.bytes⟩

/-- A text appended to a path. -/
def joinText (p : Path) (s : String) : Path := p.join (ofString s)

end Path

/-- A component written alone. -/
def Component.toPath : Component → Path
  | .root => ⟨[Path.separator]⟩
  | .here => ⟨Path.dot⟩
  | .up => ⟨Path.dotDot⟩
  | .name n => ⟨n⟩

namespace Path

/-- The path that asks for some components in turn. -/
def ofComponents (cs : List Component) : Path :=
  cs.foldl (fun p c => p.join c.toPath) ⟨[]⟩

/-- Whether a part after the first asks for nothing. -/
def isIdle (part : Name) : Bool := part = [] ∨ part = dot

/-- Parts without the idle ones at the end. -/
def trimIdle (parts : List Name) : List Name :=
  (parts.reverse.dropWhile isIdle).reverse

/-- The path without its last component, as it was written up to there; none for the root and for the empty path. -/
def parent? (p : Path) : Option Path :=
  match split p.bytes with
  | [] => none
  | first :: rest =>
    match trimIdle rest with
    | [] => if first = [] then none else some ⟨[]⟩
    | part :: parts =>
      match trimIdle (part :: parts).dropLast with
      | [] => some (if first = [] then ⟨[separator]⟩ else ⟨first⟩)
      | kept => some ⟨unsplit (first :: kept)⟩

/-- The path from its last component that is the given name, if it has one. -/
def fromLast (anchor : Name) : List Component → Option (List Component)
  | [] => none
  | c :: rest =>
    match fromLast anchor rest with
    | some found => some found
    | none => if c = .name anchor then some (c :: rest) else none

end Path

end ManifestTree
