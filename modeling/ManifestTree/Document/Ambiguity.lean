/-!
# Texts that read as something else

A reader of a document takes a bare `true`, `12` or `~` for a truth value, a number or null. `readsAsOther` says which texts these
are: they have to be quoted to stay texts.
-/

namespace ManifestTree.Ambiguity

/-- The value of a digit, in any base up to sixteen. -/
def digit? (base : Nat) (c : Char) : Option Nat :=
  let value? :=
    if '0' ≤ c ∧ c ≤ '9' then some (c.toNat - '0'.toNat)
    else if 'a' ≤ c ∧ c ≤ 'f' then some (c.toNat - 'a'.toNat + 10)
    else if 'A' ≤ c ∧ c ≤ 'F' then some (c.toNat - 'A'.toNat + 10)
    else none
  value?.filter (· < base)

/-- The number that some digits continue, if all of them are digits. -/
def digitsAfter? (base value : Nat) : List Char → Option Nat
  | [] => some value
  | c :: rest => do digitsAfter? base (value * base + (← digit? base c)) rest

/-- The number written by one or more digits. -/
def number? (base : Nat) : List Char → Option Nat
  | [] => none
  | cs => digitsAfter? base 0 cs

/-- Whether a text starts with a sign. -/
def isSigned (cs : List Char) : Bool :=
  cs.head? = some '+' || cs.head? = some '-'

/-- A text without its first character, if that is the given one. -/
def without (c : Char) : List Char → List Char
  | x :: rest => if x = c then rest else x :: rest
  | [] => []

/-- A text of several digits of which the first is a zero, with or without a sign. -/
def hasLeadingZero (cs : List Char) : Bool :=
  let digits := if isSigned cs then cs.tail else cs
  1 < digits.length && digits.head? = some '0' && digits.all Char.isDigit

/-- The marks of the bases other than ten. -/
def bases : List (Char × Nat) := [('x', 16), ('o', 8), ('b', 2)]

/-- The digits after the mark of a base, with that base. -/
def marked? (cs : List Char) : Option (Nat × List Char) :=
  match cs with
  | '0' :: mark :: rest => (bases.lookup mark).map (·, rest)
  | _ => none

/-- One above the greatest integer a reader takes. -/
def integerLimit : Nat := Nat.pow 2 128

/-- The magnitude of the least integer a reader takes. -/
def integerDepth : Nat := Nat.pow 2 127

/-- Whether a text reads as an integer that is not written with a minus sign. -/
def isUnsigned (cs : List Char) : Bool :=
  let body := without '+' cs
  let decimal := !isSigned body && !hasLeadingZero cs && (number? 10 body).any (· < integerLimit)
  match marked? body with
  | some (base, digits) => (!isSigned digits && (number? base digits).any (· < integerLimit)) || decimal
  | none => decimal

/-- Whether a text reads as an integer written with a minus sign. -/
def isNegative (cs : List Char) : Bool :=
  match cs with
  | '-' :: body =>
    (match marked? body with
      | some (base, digits) => (number? base digits).any (· ≤ integerDepth)
      | none => false) ||
    (!hasLeadingZero cs && (number? 10 body).any (· ≤ integerDepth))
  | _ => false

/-- The least number that is too great to be a finite floating-point number. -/
def floatLimit : Nat := Nat.pow 2 1024 - Nat.pow 2 970

/-- Whether `digits × 10 ^ exponent` is a finite floating-point number. -/
def isFinite (digits : Nat) (exponent : Int) : Bool :=
  let magnitude : Int := (Nat.toDigits 10 digits).length + exponent
  if digits = 0 ∨ magnitude < 300 then true
  else if magnitude > 310 then false
  else if exponent < 0 then digits < floatLimit * Nat.pow 10 exponent.natAbs
  else digits * Nat.pow 10 exponent.natAbs < floatLimit

/-- The exponent that a text ends with: none, or a mark and an integer. -/
def exponent? (cs : List Char) : Option Int :=
  match cs with
  | [] => some 0
  | mark :: rest =>
    if mark = 'e' ∨ mark = 'E' then
      match rest with
      | '-' :: digits => (number? 10 digits).map fun n => -(n : Int)
      | '+' :: digits => (number? 10 digits).map Int.ofNat
      | digits => (number? 10 digits).map Int.ofNat
    else none

/-- Whether a text without sign is a finite decimal fraction, possibly with an exponent. -/
def isDecimal (cs : List Char) : Bool :=
  let whole := cs.takeWhile Char.isDigit
  let rest := cs.dropWhile Char.isDigit
  let (fraction, rest) := match rest with
    | '.' :: rest => (rest.takeWhile Char.isDigit, rest.dropWhile Char.isDigit)
    | _ => ([], rest)
  match number? 10 (whole ++ fraction), exponent? rest with
  | some digits, some exponent => isFinite digits (exponent - fraction.length)
  | _, _ => false

/-- The spellings of the infinities and of the undefined number that a reader knows. -/
def specialNumbers : List String :=
  [".inf", ".Inf", ".INF", "+.inf", "+.Inf", "+.INF", "-.inf", "-.Inf", "-.INF", ".nan", ".NaN", ".NAN"]

/-- Whether a text reads as a floating-point number. -/
def isFloat (s : String) : Bool :=
  specialNumbers.contains s ||
    match s.toList with
    | '+' :: body => !isSigned body && isDecimal body
    | '-' :: body => isDecimal body
    | body => isDecimal body

/-- The spellings of null and of the truth values that a reader knows. -/
def constants : List String :=
  ["", "~", "null", "Null", "NULL", "true", "True", "TRUE", "false", "False", "FALSE"]

/-- Whether a bare text would be read as null, as a truth value or as a number. -/
def readsAsOther (s : String) : Bool :=
  constants.contains s || isUnsigned s.toList || isNegative s.toList || hasLeadingZero s.toList || isFloat s

end ManifestTree.Ambiguity
