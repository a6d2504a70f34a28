import ManifestTree.Document.Decode

/-!
# Points in time

Nothing here looks into a point in time, so it is the text that it is written as: date and time of day in universal time, as in
`2024-05-01T10:00:00Z`. `isWritten` says which texts are written: the days of the calendar, the seconds of each with one that may be
put in after any minute, and fractions in groups of three digits, of which the last does not stand for zero. Texts in other forms may
be read as points in time, too, so what reads them is a `Decoder Time` that is given; `Time.decode` is the one that reads no others.
-/

namespace ManifestTree

namespace Time

/-- The number that decimal digits stand for. -/
def number? (cs : List Char) : Option Nat :=
  if cs.all Char.isDigit then some (cs.foldl (fun n c => 10 * n + (c.toNat - '0'.toNat)) 0) else none

/-- The first year that is counted. -/
def firstYear : Int := -262143

/-- The last year that is counted. -/
def lastYear : Int := 262142

/-- A year is written in four digits, or else with its sign. -/
def year? : List Char → Option Int
  | '+' :: ds => do
    let n ← number? ds
    if 4 < ds.length ∧ ds.head? ≠ some '0' ∧ n ≤ lastYear then some n else none
  | '-' :: ds => do
    let n ← number? ds
    if (ds.length = 4 ∨ 4 < ds.length ∧ ds.head? ≠ some '0') ∧ 0 < n ∧ firstYear ≤ -n then some (-n) else none
  | ds => do
    let n ← number? ds
    if ds.length = 4 then some n else none

def isLeapYear (year : Int) : Bool := year % 4 = 0 && (year % 100 ≠ 0 || year % 400 = 0)

/-- The days of a month. -/
def daysOf (year : Int) (month : Nat) : Nat :=
  match month with
  | 2 => if isLeapYear year then 29 else 28
  | 4 | 6 | 9 | 11 => 30
  | _ => 31

def isDate (cs : List Char) : Bool :=
  let digits := cs.length - 6
  match year? (cs.take digits), cs.drop digits with
  | some year, ['-', m, m', '-', d, d'] =>
    match number? [m, m'], number? [d, d'] with
    | some month, some day => 0 < month && month ≤ 12 && 0 < day && day ≤ daysOf year month
    | _, _ => false
  | _, _ => false

/-- Whether a fraction of a second is written so: thousandths, millionths or billionths, and none of the three in vain. -/
def isFraction : List Char → Bool
  | [] => true
  | '.' :: ds => ds.all Char.isDigit && [3, 6, 9].contains ds.length && ds.drop (ds.length - 3) ≠ ['0', '0', '0']
  | _ => false

def isTimeOfDay : List Char → Bool
  | h :: h' :: ':' :: m :: m' :: ':' :: s :: s' :: rest =>
    match number? [h, h'], number? [m, m'], number? [s, s'] with
    | some hour, some minute, some second => hour < 24 && minute < 60 && second ≤ 60 && isFraction rest
    | _, _, _ => false
  | _ => false

/-- Whether a text is the written form of a point in time. -/
def isWritten (s : String) : Bool :=
  let date := s.toList.takeWhile (· ≠ 'T')
  let time := s.toList.drop (date.length + 1)
  isDate date && time.getLast? = some 'Z' && isTimeOfDay time.dropLast

end Time

/-- A point in time, as the text that it is written as. -/
structure Time where
  text : String
  written : Time.isWritten text = true
  deriving DecidableEq

namespace Time

def document (t : Time) : Document := .text t.text

/-- Reads points in time as they are written. -/
def decode : Decoder Time
  | .text s => if h : isWritten s = true then .ok ⟨s, h⟩ else .error (.unreadable "input contains invalid characters")
  | d => .error (.invalidType d "an RFC 3339 formatted date and time string")

/-- A point in time is read from its written form, and from nothing else. -/
theorem decode_eq_ok_iff {d : Document} {t : Time} : decode d = .ok t ↔ d = t.document := by
  constructor
  · intro h
    unfold decode at h
    split at h
    · split at h
      · exact congrArg Document.text (congrArg Time.text (Except.ok.inj h))
      · cases h
    · cases h
  · rintro rfl
    exact dif_pos t.written

end Time

example : (["2024-02-29T23:59:60.250Z", "-0001-12-31T00:00:00Z", "+10000-01-01T00:00:00Z"].all Time.isWritten) = true ∧
    (["2023-02-29T00:00:00Z", "2024-02-29T24:00:00Z", "2024-02-29T00:00:00.500000Z", "2024-02-29T00:00:00+00:00"].all fun s =>
      !Time.isWritten s) = true := by
  decide +kernel

end ManifestTree
