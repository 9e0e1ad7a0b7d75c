/-!
# Shortest decimal numerals

A binary floating point number is written with the fewest decimal digits that still single it out
among its neighbours, and of several numerals of that length with the nearest one. All arithmetic is
exact.
-/

namespace CallMap.Decimal

/-- A positive real number as a fraction, with the bounds of the interval of reals that round to it.
All four are over the same denominator. -/
structure Target where
  /-- The number itself. -/
  value : Nat
  /-- The lower bound. -/
  low : Nat
  /-- The upper bound. -/
  high : Nat
  /-- The common denominator. -/
  denominator : Nat
  /-- Whether the bounds themselves round to the number. -/
  closed : Bool

/-- The number `significand * 2 ^ exponent` with its neighbourhood. Below a power of two the
neighbours are half as far away as above it, which is what `narrow` says. -/
def Target.ofBinary (significand : Nat) (exponent : Int) (narrow : Bool) : Target :=
  let scale := Nat.pow 2 exponent.toNat
  { value := 4 * significand * scale
    low := (4 * significand - if narrow then 1 else 2) * scale
    high := (4 * significand + 2) * scale
    denominator := 4 * Nat.pow 2 (-exponent).toNat
    closed := significand % 2 == 0 }

/-- Decimal digits and the power of ten of the first of them. -/
structure Numeral where
  /-- The digits, as one number. -/
  digits : Nat
  /-- The power of ten that the first digit counts. -/
  exponent : Int
  deriving DecidableEq, Repr

/-- The power of ten that the first digit of a number counts. -/
def leadingExponent (target : Target) : Int :=
  if target.denominator ≤ target.value then
    (Nat.toDigits 10 (target.value / target.denominator)).length - 1
  else
    match (List.range 400).find? fun n => target.denominator ≤ target.value * Nat.pow 10 n with
    | some places => -(places : Int)
    | none => 0

/-- The nearest numeral of `count` digits that lies in the interval, if there is one. A tie goes to
the even digit. -/
def numeral? (target : Target) (leading : Int) (count : Nat) : Option Numeral :=
  let unit := leading - (count - 1 : Nat)
  let times := Nat.pow 10 (-unit).toNat
  let unitTop := Nat.pow 10 unit.toNat * target.denominator
  let below := target.value * times / unitTop
  let inside (digits : Nat) : Bool :=
    let point := digits * unitTop
    if target.closed then target.low * times ≤ point && point ≤ target.high * times
    else target.low * times < point && point < target.high * times
  let distanceBelow := target.value * times - below * unitTop
  let distanceAbove := (below + 1) * unitTop - target.value * times
  let preferBelow :=
    distanceBelow < distanceAbove || distanceBelow == distanceAbove && below % 2 == 0
  let numeral (digits : Nat) : Numeral :=
    ⟨digits, leading + ((Nat.toDigits 10 digits).length - count : Nat)⟩
  match inside below, inside (below + 1) with
  | true, true => some (numeral (if preferBelow then below else below + 1))
  | true, false => some (numeral below)
  | false, true => some (numeral (below + 1))
  | false, false => none

/-- The shortest numeral for a positive number; seventeen digits are always enough. -/
def shortest (target : Target) : Numeral :=
  let leading := leadingExponent target
  ((List.range 17).findSome? fun n => numeral? target leading (n + 1)).getD ⟨0, 0⟩

/-- The digits of a numeral as characters, without zeros at the end. -/
def Numeral.characters (numeral : Numeral) : List Char :=
  ((Nat.toDigits 10 numeral.digits).reverse.dropWhile (· == '0')).reverse

/-- The written form of a numeral: positional from 10⁻⁵ up to 10¹⁶, otherwise with an exponent that
always has a sign. A positional numeral has at least one place after the point. -/
def Numeral.render (numeral : Numeral) : String :=
  let digits := numeral.characters
  let exponent := numeral.exponent
  if -5 ≤ exponent ∧ exponent ≤ 15 then
    if exponent < 0 then
      String.ofList ("0.".toList ++ List.replicate (-exponent - 1).toNat '0' ++ digits)
    else
      let whole := exponent.toNat + 1
      let front := digits.take whole
      let back := digits.drop whole
      String.ofList (front ++ List.replicate (whole - front.length) '0' ++ ['.']
        ++ if back.isEmpty then ['0'] else back)
  else
    let fraction := if digits.length ≤ 1 then [] else '.' :: digits.drop 1
    let sign := if exponent < 0 then '-' else '+'
    String.ofList (digits.take 1 ++ fraction ++ ['e', sign] ++ Nat.toDigits 10 exponent.natAbs)

/-- The written form of a double precision number that is finite. -/
def ofFloat (x : Float) : String :=
  let bits := x.toBits.toNat
  let sign := if Nat.pow 2 63 ≤ bits then "-" else ""
  let fraction : Nat := bits % Nat.pow 2 52
  let power : Nat := bits / Nat.pow 2 52 % Nat.pow 2 11
  if power = 0 ∧ fraction = 0 then sign ++ "0.0"
  else
    let target :=
      if power = 0 then Target.ofBinary fraction (-1074) false
      else Target.ofBinary (Nat.pow 2 52 + fraction) ((power : Int) - 1075)
        (fraction == 0 && power > 1)
    sign ++ (shortest target).render

end CallMap.Decimal
