/-!
# Text on a terminal

A terminal takes some characters as commands: control characters, and sequences that start with an escape character. `visible` is
what is left of a text without them. Line breaks, tabs and form feeds are kept.
-/

namespace ManifestTree.Terminal

/-- Whether a character is blank, among the control characters and the space. -/
def isBlank (c : Char) : Bool := c = ' ' || c = '\t' || c = '\n' || c = '\x0C' || c = '\r'

/-- Whether a character stands between the start and the end of a sequence. -/
def isIntermediate (c : Char) : Bool := '\x20' ≤ c && c ≤ '\x2F'

/-- Whether a character belongs to the parameters of a sequence. -/
def isParameter (c : Char) : Bool := '\x30' ≤ c && c ≤ '\x3F'

/-- Whether a character can only come first among the parameters of a sequence. -/
def isPrivate (c : Char) : Bool := '\x3C' ≤ c && c ≤ '\x3F'

/-- Whether a character ends a sequence. -/
def isFinal (c : Char) : Bool := '\x40' ≤ c && c ≤ '\x7E'

/-- Whether one of the bytes that a character is written with is the string terminator. -/
def endsString (c : Char) : Bool := (String.singleton c).toUTF8.toList.contains 0x9C

/-- How far a sequence with parameters has come. In an ill-formed one the rest is ignored. -/
inductive Part where
  | start
  | parameters
  | intermediates
  | ignored
  deriving DecidableEq

/-- How far a sequence is after another character; none behind its end. -/
def Part.next? (part : Part) (c : Char) : Option Part :=
  if isFinal c then none
  else match part with
    | .start => if isIntermediate c then some .intermediates else if isParameter c then some .parameters else some .start
    | .parameters => if isIntermediate c then some .intermediates else if isPrivate c then some .ignored else some .parameters
    | .intermediates => if isParameter c then some .ignored else some .intermediates
    | .ignored => some .ignored

/-- What the next character is taken for: text, or a part of some sequence. -/
inductive State where
  | text
  | escape
  | escapeIntermediates
  | control (part : Part)
  | device (part : Part)
  | deviceData
  | systemCommand
  | privateString
  deriving DecidableEq

namespace State

/-- What the character after another one is taken for. An escape starts a sequence anywhere, and a cancel ends one. -/
def next (s : State) (c : Char) : State :=
  if c = '\x1B' then .escape
  else if c = '\x18' ∨ c = '\x1A' then .text
  else match s with
    | .text => .text
    | .escape =>
      if isIntermediate c then .escapeIntermediates
      else if c = '[' then .control .start
      else if c = 'P' then .device .start
      else if c = ']' then .systemCommand
      else if c = 'X' ∨ c = '^' ∨ c = '_' then .privateString
      else if isParameter c ∨ isFinal c then .text
      else .escape
    | .escapeIntermediates => if isParameter c ∨ isFinal c then .text else .escapeIntermediates
    | .control part => ((part.next? c).map State.control).getD .text
    | .device .ignored => if endsString c then .text else .device .ignored
    | .device part => ((part.next? c).map State.device).getD .deviceData
    | .deviceData => if endsString c then .text else .deviceData
    | .systemCommand => if c = '\x07' then .text else .systemCommand
    | .privateString => if endsString c then .text else .privateString

/-- Whether a character is visible. Blanks are so even inside a sequence, unless that has a string of its own. -/
def shows (s : State) (c : Char) : Bool :=
  match s with
  | .text => isBlank c || ('\x20' ≤ c && c ≠ '\x7F')
  | .escape | .escapeIntermediates | .control _ => isBlank c && c ≠ ' '
  | .device _ | .deviceData | .systemCommand | .privateString => false

end State

/-- The visible characters of a text. While characters are being shown a sequence that a blank has broken off waits, and goes on
with the first character that is not visible as text. -/
def visibleFrom (showing : Bool) (s : State) : List Char → List Char
  | [] => []
  | c :: rest =>
    if showing && State.text.shows c then c :: visibleFrom true (if c.toNat < 0x80 then s else .text) rest
    else if s.shows c then c :: visibleFrom true (s.next c) rest
    else visibleFrom false (s.next c) rest

/-- What is visible of a text. -/
def visible (text : String) : String := String.ofList (visibleFrom false .text text.toList)

end ManifestTree.Terminal
