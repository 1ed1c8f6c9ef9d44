/-!
Binary floating-point numbers of 64 bits, without the values that are not numbers. A number is
its sign and its place among the non-negative ones, so that places order as values do.
-/

namespace WideRow

structure Binary64 where
  negative : Bool
  /-- The bits below the sign: 0 is zero, and `infinite` comes after every finite number. -/
  place : Nat
  deriving DecidableEq, Repr

namespace Binary64

def infinite : Nat := 0x7FF * Nat.pow 2 52

/-- The two zeros share a key. -/
def key (x : Binary64) : Int := if x.negative then -x.place else x.place

def order (x y : Binary64) : Ordering := compare x.key y.key

def bits (x : Binary64) : Nat := (if x.negative then Nat.pow 2 63 else 0) + x.place

def roundHalfEven (num den : Nat) : Nat :=
  let q := num / den
  let r := num % den
  if 2 * r < den then q
  else if den < 2 * r then q + 1
  else q + q % 2

/-- The place of the number nearest to a non-negative quotient. Numbers in one binade are a power
of two apart, the least unit being `2 ^ (-1074)`. -/
def placeOf (num den : Nat) : Nat :=
  let scaled := num * Nat.pow 2 1074
  let shift := (scaled / den).log2 - 52
  min infinite (shift * Nat.pow 2 52 + roundHalfEven scaled (den * Nat.pow 2 shift))

def placeOfDecimal (digits : Nat) (exponent : Int) : Nat :=
  if digits = 0 then 0
  else
    let top : Int := digits.log2 / 3 + 1 + exponent
    if top < -400 then 0
    else if 400 < (digits.log2 / 4 : Nat) + exponent then infinite
    else placeOf (digits * Nat.pow 10 exponent.toNat) (Nat.pow 10 (-exponent).toNat)

def ofDecimal (negative : Bool) (digits : Nat) (exponent : Int) : Binary64 :=
  ⟨negative, placeOfDecimal digits exponent⟩

def quotient (place : Nat) : Nat × Nat :=
  let step := Nat.pow 2 52
  let unit := Nat.pow 2 1074
  if place < step then (place, unit)
  else ((step + place % step) * Nat.pow 2 (place / step - 1), unit)

def multiply (a b : Nat) : Nat :=
  let (n, d) := quotient a
  let (n', d') := quotient b
  placeOf (n * n') (d * d')

def divide (a b : Nat) : Nat :=
  let (n, d) := quotient a
  let (n', d') := quotient b
  placeOf (n * d') (d * n')

def powerOfTen (n : Nat) : Nat := placeOf (Nat.pow 10 n) 1

def lastPower : Nat := 308

def dividePower (place n : Nat) : Nat :=
  if n ≤ lastPower then divide place (powerOfTen n)
  else if place = 0 then 0
  else dividePower (divide place (powerOfTen lastPower)) (n - lastPower)
termination_by n
decreasing_by simp only [lastPower] at *; omega

/-- The place of `digits * 10 ^ exponent`, by one product or by as few divisions as there are; not
always the nearest place. -/
def scaled (digits : Nat) (exponent : Int) : Nat :=
  let place := placeOf digits 1
  if exponent < 0 then dividePower place exponent.natAbs
  else if exponent ≤ lastPower then multiply place (powerOfTen exponent.toNat)
  else if place = 0 then 0
  else infinite

end Binary64

end WideRow
