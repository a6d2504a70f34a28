/-!
# Decimal numbers

A floating-point number, as the shortest decimal that is read as it. The decimal is written out in full as long as its point is not
far from its digits, and else with one digit in front of the point and an exponent (`text`); messages write it out in full (`positional`).
-/

namespace ManifestTree

/-- A floating-point number: a sign, and digits that are multiplied by a power of ten. Only zero has digits that end in zero. -/
structure Decimal where
  negative : Bool
  digits : Nat
  exponent : Int
  canonical : digits % 10 ≠ 0 ∨ digits = 0 ∧ exponent = 0
  deriving DecidableEq

namespace Decimal

variable (x : Decimal)

/-- The digits, the first one in front. -/
def figures : List Char := Nat.toDigits 10 x.digits

/-- The place of the point, counted from the first digit on. When it is not behind a digit, zeros fill the gap. -/
def point : Int := x.figures.length + x.exponent

def sign : List Char := if x.negative then ['-'] else []

/-- The written form without an exponent. Digits stand on both sides of the point. -/
def positional : String :=
  let whole := x.figures.take x.point.toNat ++ List.replicate x.exponent.toNat '0'
  let fraction := List.replicate (-x.point).toNat '0' ++ x.figures.drop x.point.toNat
  String.ofList (x.sign ++ (if whole = [] then ['0'] else whole) ++ '.' :: if fraction = [] then ['0'] else fraction)

/-- The written form with an exponent. -/
def scientific : String :=
  String.ofList (x.sign ++ x.figures.take 1 ++ (if x.figures.length = 1 then [] else '.' :: x.figures.drop 1) ++
    'e' :: (toString (x.point - 1)).toList)

/-- The written form. -/
def text : String := if -5 < x.point ∧ x.point ≤ 16 then x.positional else x.scientific

example : (⟨true, 1234, -6, by decide⟩ : Decimal).text = "-0.001234" ∧ (⟨false, 1234, 7, by decide⟩ : Decimal).text = "12340000000.0" ∧
    (⟨false, 1234, 30, by decide⟩ : Decimal).text = "1.234e33" := by
  decide +kernel

end Decimal

end ManifestTree
