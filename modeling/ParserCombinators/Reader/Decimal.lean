/-
This file reads floating point numbers. A written decimal becomes the nearest one.
-/

import ParserCombinators.Reader.Basic

namespace ParserCombinators.Reader

open Text

/-- A written decimal stands for its digits times a power of ten. -/
structure Decimal where
  digits : Nat
  exponent : Int
  deriving Repr, DecidableEq

/-- An optional sign and one or more digits. -/
def readExponent : List Char → Option Int
  | '+' :: digits => (readDigits digits).map Int.ofNat
  | '-' :: digits => (readDigits digits).map fun value => -Int.ofNat value
  | digits => (readDigits digits).map Int.ofNat

/-- Digits with at most one point among or beside them, then an optional exponent. -/
def Decimal.read (characters : List Char) : Option Decimal := do
  let whole := characters.takeWhile isAsciiDigit
  let afterWhole := characters.dropWhile isAsciiDigit
  let (fraction, rest) :=
    match afterWhole with
    | '.' :: rest => (rest.takeWhile isAsciiDigit, rest.dropWhile isAsciiDigit)
    | rest => ([], rest)
  if whole.isEmpty && fraction.isEmpty then none
  else
    let digits := digitsValue (whole ++ fraction)
    let shift := Int.ofNat fraction.length
    match rest with
    | [] => some ⟨digits, -shift⟩
    | mark :: exponent =>
        if mark = 'e' ∨ mark = 'E' then
          (readExponent exponent).map fun exponent => ⟨digits, exponent - shift⟩
        else none

/-- A quotient is rounded to the nearest integer, and a tie goes to the even one. -/
def roundHalfEven (numerator denominator : Nat) : Nat :=
  let quotient := numerator / denominator
  let doubled := 2 * (numerator % denominator)
  if doubled < denominator ∨ (doubled = denominator ∧ quotient % 2 = 0) then quotient
  else quotient + 1

/-- The quotient divided by a power of two. -/
def divideByPower (numerator denominator : Nat) (power : Int) : Nat × Nat :=
  if power < 0 then (numerator * Nat.pow 2 power.natAbs, denominator)
  else (numerator, denominator * Nat.pow 2 power.natAbs)

/-- Significands have this many bits. -/
def significandBits : Nat := 53

/-- The last place of a floating point number is worth at least two to this power. -/
def leastPower : Int := -1074

/-- The power of two that the last place of the nearest floating point number is worth. -/
def lastPlace (numerator denominator : Nat) : Int :=
  let estimate := max leastPower
    (Int.ofNat numerator.log2 - Int.ofNat denominator.log2 - Int.ofNat significandBits)
  let (top, bottom) := divideByPower numerator denominator estimate
  if top / bottom < Nat.pow 2 significandBits then estimate else estimate + 1

/-- These bits stand for infinity. -/
def infinityBits : Nat := 0x7ff * Nat.pow 2 52

/-- The bits of the floating point number nearest to a positive quotient. A significand that is
rounded up to the next power of two carries into the exponent. -/
def nearestBits (numerator denominator : Nat) : Nat :=
  let power := lastPlace numerator denominator
  let (top, bottom) := divideByPower numerator denominator power
  min infinityBits
    ((power - leastPower).toNat * Nat.pow 2 (significandBits - 1) + roundHalfEven top bottom)

/-- Decimals from this power of ten on are infinite. -/
def overflowExponent : Int := 310

/-- Decimals below this power of ten are zero. -/
def underflowExponent : Int := -326

/-- The bits of the nearest floating point number. Extreme exponents are settled first, so that no
large power of ten is computed. -/
def Decimal.bits (decimal : Decimal) : Nat :=
  let places := Int.ofNat (Nat.toDigits 10 decimal.digits).length
  if decimal.digits = 0 then 0
  else if overflowExponent < decimal.exponent + places then infinityBits
  else if decimal.exponent + places < underflowExponent then 0
  else if decimal.exponent < 0 then nearestBits decimal.digits (Nat.pow 10 decimal.exponent.natAbs)
  else nearestBits (decimal.digits * Nat.pow 10 decimal.exponent.natAbs) 1

def Decimal.toFloat (decimal : Decimal) : Float :=
  Float.ofBits (UInt64.ofNat decimal.bits)

/-- Infinity and the undefined number are written in letters of either case. -/
def readMagnitude (characters : List Char) : Option Float :=
  let lower := String.ofList (characters.map Char.toLower)
  if lower = "inf" ∨ lower = "infinity" then some (1.0 / 0.0)
  else if lower = "nan" then some (0.0 / 0.0)
  else (Decimal.read characters).map Decimal.toFloat

/-- An optional sign and a magnitude. -/
def readFloat (text : String) : Option Float :=
  match text.toList with
  | '+' :: magnitude => readMagnitude magnitude
  | '-' :: magnitude => (readMagnitude magnitude).map fun value => -value
  | magnitude => readMagnitude magnitude

def float : Reader Float := ⟨"f64", readFloat⟩

end ParserCombinators.Reader
