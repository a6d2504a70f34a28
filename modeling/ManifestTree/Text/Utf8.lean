/-!
# Text as bytes

Paths and environment variables are bytes; names and contents are text. `encode` writes a text as UTF-8. Reading goes through
`chunks`, which cuts bytes into characters and ill-formed runs: `decode?` refuses any ill-formed run, `lossy` shows each one
as the replacement character.
-/

namespace ManifestTree.Utf8

/-- The bytes of a text. -/
def encode (s : String) : List UInt8 :=
  s.toList.flatMap String.utf8EncodeChar

/-- Where a reader stands: between characters, or inside one that still owes continuation bytes. `low` and `high` bound the next
byte, and `value` holds the bits read so far. -/
inductive State where
  | between
  | inside (owed low high value : Nat)

/-- A piece of a byte sequence: a character, or an ill-formed run. -/
inductive Chunk where
  | character (c : Char)
  | illFormed
  deriving DecidableEq

/-- The first byte of a character: the chunks it completes and the state after it. The bounds on the next byte leave out overlong
forms, surrogates and numbers above the last code point. -/
def start (b : Nat) : List Chunk × State :=
  if b < 0x80 then ([.character (Char.ofNat b)], .between)
  else if b < 0xC2 then ([.illFormed], .between)
  else if b < 0xE0 then ([], .inside 1 0x80 0xBF (b - 0xC0))
  else if b = 0xE0 then ([], .inside 2 0xA0 0xBF 0)
  else if b = 0xED then ([], .inside 2 0x80 0x9F 0xD)
  else if b < 0xF0 then ([], .inside 2 0x80 0xBF (b - 0xE0))
  else if b = 0xF0 then ([], .inside 3 0x90 0xBF 0)
  else if b < 0xF4 then ([], .inside 3 0x80 0xBF (b - 0xF0))
  else if b = 0xF4 then ([], .inside 3 0x80 0x8F 4)
  else ([.illFormed], .between)

/-- One byte: the chunks it completes and the state after it. A byte that cannot continue a character ends the run before it and
is read again as a first byte. -/
def step : State → UInt8 → List Chunk × State
  | .between, b => start b.toNat
  | .inside owed low high value, b =>
    if low ≤ b.toNat ∧ b.toNat ≤ high then
      let value := value * 64 + (b.toNat - 0x80)
      if owed ≤ 1 then ([.character (Char.ofNat value)], .between)
      else ([], .inside (owed - 1) 0x80 0xBF value)
    else
      let (out, next) := start b.toNat
      (.illFormed :: out, next)

/-- The chunks of a byte sequence read from a state. -/
def chunksFrom : State → List UInt8 → List Chunk
  | .between, [] => []
  | .inside .., [] => [.illFormed]
  | state, b :: rest =>
    let (out, next) := step state b
    out ++ chunksFrom next rest

/-- The chunks of a byte sequence: its characters in order, with an ill-formed run wherever no character can be read. -/
def chunks (bytes : List UInt8) : List Chunk :=
  chunksFrom .between bytes

/-- The character of a chunk, with U+FFFD for an ill-formed run. -/
def Chunk.shown : Chunk → Char
  | .character c => c
  | .illFormed => '\uFFFD'

/-- The text of a byte sequence, every ill-formed run shown as U+FFFD. -/
def lossy (bytes : List UInt8) : String :=
  String.ofList ((chunks bytes).map Chunk.shown)

/-- The text of a byte sequence, if it is well-formed. -/
def decode? (bytes : List UInt8) : Option String :=
  let cs := chunks bytes
  if cs.all (· ≠ .illFormed) then some (String.ofList (cs.map Chunk.shown)) else none

end ManifestTree.Utf8
