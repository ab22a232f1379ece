/-!
# Decimals with a fixed number of places

A binary fraction is written exactly up to the last place, where a half goes to the even
neighbour. Floating-point numbers also have a total order, in which the two zeros differ.
-/

namespace NameFlow.Text

set_option autoImplicit false

/-- A quotient rounded to the nearest integer, a half to the even one. -/
def roundDiv (num den : Nat) : Nat :=
  let q := num / den
  let r := num % den
  if 2 * r < den then q
  else if den < 2 * r then q + 1
  else if q % 2 = 0 then q
  else q + 1

/-- Digits of a number of units of the last place, with the point set before the places. -/
def placed (places units : Nat) : List Char :=
  let digits := Nat.toDigits 10 units
  let digits := List.replicate (places + 1 - digits.length) '0' ++ digits
  let whole := digits.length - places
  digits.take whole ++ (if places = 0 then [] else '.' :: digits.drop whole)

/-- A finite floating-point number: its sign and the number `mantissa * 2 ^ exponent`. -/
structure Binary where
  negative : Bool
  mantissa : Nat
  exponent : Int

/-- The parts of a floating-point number; none for infinities and what is no number. -/
def Binary.ofFloat? (x : Float) : Option Binary :=
  let bits : Nat := x.toBits.toNat
  let negative := Nat.pow 2 63 ≤ bits
  let biased : Nat := bits / Nat.pow 2 52 % Nat.pow 2 11
  let fraction : Nat := bits % Nat.pow 2 52
  if biased = 2047 then none
  else if biased = 0 then some ⟨negative, fraction, -1074⟩
  else some ⟨negative, fraction + Nat.pow 2 52, (biased : Int) - 1075⟩

def Binary.fixed (places : Nat) (b : Binary) : String :=
  let scaled := b.mantissa * Nat.pow 10 places
  let units := match b.exponent with
    | .ofNat e => scaled * Nat.pow 2 e
    | .negSucc e => roundDiv scaled (Nat.pow 2 (e + 1))
  String.ofList ((if b.negative then ['-'] else []) ++ placed places units)

/-- A floating-point number to a fixed number of places. -/
def fixed (places : Nat) (x : Float) : String :=
  match Binary.ofFloat? x with
  | some b => b.fixed places
  | none => if x.isNaN then "NaN" else if x < 0 then "-inf" else "inf"

/-- The place of a floating-point number in the total order. -/
def floatRank (x : Float) : Int :=
  let bits : Nat := x.toBits.toNat
  if Nat.pow 2 63 ≤ bits then -((bits - Nat.pow 2 63 : Nat) : Int) - 1 else (bits : Int)

/-- A count below 2⁶⁴ as a floating-point number, rounded to the nearest. -/
def floatOfCount (n : Nat) : Float := n.toUInt64.toFloat

end NameFlow.Text
