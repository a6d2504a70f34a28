import ManifestTree.Document.Ambiguity

/-!
# Texts in a document

How a text is written: plain where a reader cannot mistake it, as a literal block when it has several lines, and otherwise between
single quotes, or between double quotes when only escapes can show it. A style that cannot hold the text gives way to the next one.
-/

namespace ManifestTree.Scalar

/-- Whether a character ends a line. -/
def isBreak (c : Char) : Bool :=
  c = '\n' || c = '\r' || c = '\x85' || c = '\u2028' || c = '\u2029'

/-- Whether a character separates words: a space, a tab, the end of a line, or the NUL that also marks the end of a text. -/
def isBlank (c : Char) : Bool :=
  c = ' ' || c = '\t' || c = '\x00' || isBreak c

/-- Whether a character can stand in a document as it is: no control other than the end of a line, no byte order mark, and neither of
the last two code points of the basic plane. -/
def isPrintable (c : Char) : Bool :=
  c = '\n' || (0x20 ≤ c.toNat && c.toNat ≤ 0x7E) ||
    (0xA0 ≤ c.toNat && c.toNat ≠ 0xFEFF && c.toNat ≠ 0xFFFE && c.toNat ≠ 0xFFFF)

/-- The characters that mean something at the start of a plain text. -/
def indicators : List Char :=
  ['#', ',', '[', ']', '\x7b', '\x7d', '&', '*', '!', '|', '>', '\x27', '"', '%', '@', '\x60']

/-- Whether a text starts with something a reader gives a meaning to. -/
def startsAsIndicator (cs : List Char) : Bool :=
  match cs with
  | [] => false
  | c :: rest =>
    indicators.contains c || cs.take 3 = ['-', '-', '-'] || cs.take 3 = ['.', '.', '.'] ||
      ((c = '?' || c = ':' || c = '-') && rest.head?.all isBlank)

/-- Whether a colon before a blank, or a number sign after one, stands behind the first character. -/
def hasInnerIndicator : List Char → Bool
  | [] => false
  | c :: rest =>
    (match rest with
      | [] => false
      | d :: after => (d = ':' && after.head?.all isBlank) || (d = '#' && isBlank c)) || hasInnerIndicator rest

/-- Whether two neighbouring characters of a text satisfy `p` and `q`. -/
def hasPair (p q : Char → Bool) : List Char → Bool
  | [] => false
  | c :: rest => (p c && rest.head?.any q) || hasPair p q rest

/-- Whether a text has a space at the end of a line. -/
def hasSpaceBeforeBreak : List Char → Bool := hasPair (· = ' ') isBreak

/-- Whether a text has a space at the start of a line after the first. -/
def hasSpaceAfterBreak : List Char → Bool := hasPair isBreak (· = ' ')

/-- Whether a text can be written plain. -/
def fitsPlain (cs : List Char) : Bool :=
  cs.all isPrintable && !cs.any isBreak && cs.head? ≠ some ' ' && cs.getLast? ≠ some ' ' &&
    !startsAsIndicator cs && !hasInnerIndicator cs

/-- Whether a text can be written between single quotes. -/
def fitsSingle (cs : List Char) : Bool :=
  cs.all isPrintable && !hasSpaceBeforeBreak cs && !hasSpaceAfterBreak cs

/-- Whether a text can be written as a literal block. -/
def fitsLiteral (cs : List Char) : Bool :=
  cs.all isPrintable && !hasSpaceBeforeBreak cs && cs.getLast? ≠ some ' '

/-- The ways to write a text. -/
inductive Style where
  | plain
  | single
  | double
  | literal
  deriving DecidableEq

/-- The way a text is written. -/
def style (s : String) : Style :=
  let cs := s.toList
  if cs.contains '\n' then
    if fitsLiteral cs then .literal else .double
  else if !Ambiguity.readsAsOther s && fitsPlain cs then .plain
  else if fitsSingle cs then .single
  else .double

/-- Spaces up to a column. -/
def pad (indent : Nat) : List Char := List.replicate indent ' '

/-- A text whose lines after a break start at a column; `atBreak` says whether one has just ended. Each character is written by
`write`. -/
def indented (indent : Nat) (write : Char → List Char) : Bool → List Char → List Char
  | _, [] => []
  | atBreak, c :: rest =>
    if isBreak c then c :: indented indent write true rest
    else (if atBreak then pad indent else []) ++ write c ++ indented indent write false rest

/-- A text between single quotes; a quote inside is written twice. -/
def single (indent : Nat) (cs : List Char) : List Char :=
  let body := indented indent (fun c => if c = '\x27' then [c, c] else [c]) false cs
  let last := if cs.getLast?.any isBreak then pad indent else []
  '\x27' :: body ++ last ++ ['\x27']

/-- A number in hexadecimal digits, filled up with zeros to a width. -/
def hex (width n : Nat) : List Char :=
  let digits := (Nat.toDigits 16 n).map Char.toUpper
  List.replicate (width - digits.length) '0' ++ digits

/-- The characters with an escape of their own. -/
def escapes : List (Char × Char) :=
  [('\x00', '0'), ('\x07', 'a'), ('\x08', 'b'), ('\t', 't'), ('\n', 'n'), ('\x0b', 'v'), ('\x0c', 'f'), ('\r', 'r'),
   ('\x1b', 'e'), ('"', '"'), ('\\', '\\'), ('\x85', 'N'), ('\u2028', 'L'), ('\u2029', 'P')]

/-- A character between double quotes: as it is where it can stand, otherwise escaped by name or by number. -/
def escaped (c : Char) : List Char :=
  if isPrintable c && !isBreak c && c ≠ '"' && c ≠ '\\' then [c]
  else match escapes.lookup c with
    | some mark => ['\\', mark]
    | none =>
      if c.toNat ≤ 0xFF then '\\' :: 'x' :: hex 2 c.toNat
      else '\\' :: 'u' :: hex 4 c.toNat

/-- A text between double quotes. -/
def double (cs : List Char) : List Char :=
  '"' :: cs.flatMap escaped ++ ['"']

/-- The header of a literal block: where the text starts with a blank or an empty line the indentation is given, and a sign tells
whether the text ends without a break or with more than one. -/
def literalHeader (cs : List Char) : List Char :=
  let indentation := if cs.head?.any fun c => c = ' ' || isBreak c then ['2'] else []
  let ending := match cs.reverse with
    | [] => ['-']
    | [c] => if isBreak c then ['+'] else ['-']
    | c :: d :: _ => if !isBreak c then ['-'] else if isBreak d then ['+'] else []
  '|' :: indentation ++ ending

/-- A text as a literal block. -/
def literal (indent : Nat) (cs : List Char) : List Char :=
  literalHeader cs ++ '\n' :: indented indent (fun c => [c]) true cs

/-- A text as it is written where the lines after the first start at a column. -/
def write (indent : Nat) (s : String) : List Char :=
  match style s with
  | .plain => s.toList
  | .single => single indent s.toList
  | .double => double s.toList
  | .literal => literal indent s.toList

end ManifestTree.Scalar
