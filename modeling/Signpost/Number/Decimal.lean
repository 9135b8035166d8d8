import Signpost.Number.Binary
import Signpost.Number.Digits

/-!
# Decimal numerals

A numeral is a whole number of tenths to some power. `read` reads the text of a numeral, `nearest`
rounds one into a binary format, and `shortest` finds the numeral with the fewest digits that rounds
to a given number, and of those the nearest.
-/

namespace Signpost

/-- The number `digits * 10 ^ exponent`. -/
structure Decimal where
  digits : Nat
  exponent : Int
deriving DecidableEq, Repr

namespace Decimal

/-! ### Reading -/

/-- Reads the exponent behind its mark: an optional sign and at least one digit, whose number is
told by `number`. -/
def readExponent (number : List Char → Nat) (cs : List Char) : Option Int :=
  let (negative, cs) := match cs with
    | '-' :: cs => (true, cs)
    | '+' :: cs => (false, cs)
    | cs        => (false, cs)
  if cs ≠ [] ∧ cs.all Char.isDigit then
    let n : Int := number cs
    some (if negative then -n else n)
  else none

/-- The number of decimal digits, from left to right as long as it has no more than 16 bits. -/
def leadingNumber (cs : List Char) : Nat :=
  cs.foldl (fun n c => if n < 65536 then 10 * n + (c.toNat - '0'.toNat) else n) 0

/-- Reads a numeral without a sign: digits, a point anywhere among them, and an exponent. There has
to be a digit on one side of the point. -/
def readUnsigned (cs : List Char) : Option Decimal := do
  let (whole, rest) := cs.span Char.isDigit
  let (fraction, rest) := match rest with
    | '.' :: rest => rest.span Char.isDigit
    | rest        => ([], rest)
  if whole = [] ∧ fraction = [] then none
  let exponent ← match rest with
    | []        => some 0
    | c :: rest => if c = 'e' ∨ c = 'E' then readExponent leadingNumber rest else none
  return ⟨Digits.ofChars (whole ++ fraction), exponent - fraction.length⟩

/-! ### To binary -/

/-- The numeral as a numerator and a denominator. -/
def fraction (d : Decimal) : Nat × Nat :=
  if 0 ≤ d.exponent then (d.digits * Nat.pow 10 d.exponent.toNat, 1)
  else (d.digits, Nat.pow 10 (-d.exponent).toNat)

/-- The value of the format nearest to the numeral. No format here tells numbers beyond `10 ^ 400`
from infinity, or numbers below `10 ^ -400` from zero, so such powers are not computed; the number
of digits is estimated from that of the bits. -/
def nearest (f : Binary.Format) (negative : Bool) (d : Decimal) : Binary :=
  let size : Int := (d.digits.log2 * 30103 / 100000 + 1 : Nat) + d.exponent
  if d.digits = 0 ∨ size < -400 then f.nearest negative 0 1
  else if 400 < size then .infinite negative
  else f.nearest negative d.fraction.1 d.fraction.2

/-! ### From binary -/

/-- The least `k` with `n / d < 10 ^ k`, for positive `n` and `d`. -/
def magnitude (n d : Nat) : Int :=
  let k := Binary.Format.log n d * 30103 / 100000 + 1
  let below (k : Int) : Bool :=
    let (p, q) := fraction ⟨1, k⟩
    n * q < p * d
  if below (k - 1) then k - 1 else if below k then k else k + 1

/-- The stretch of numbers that round to the same value: its ends and the value itself over one
denominator, and whether the ends belong to it. -/
structure Interval where
  low : Nat
  value : Nat
  high : Nat
  denominator : Nat
  closed : Bool

/-- The numbers that round to `mantissa * 2 ^ exponent`. Below a power of two the values lie twice
as close; an end belongs to the even mantissa. -/
def interval (f : Binary.Format) (mantissa : Nat) (exponent : Int) : Interval :=
  let step := if mantissa = Nat.pow 2 (f.precision - 1) ∧ f.least < exponent then 1 else 2
  let numerator (n : Nat) : Nat := (Binary.scale n 1 (exponent - 2)).1
  { low := numerator (4 * mantissa - step)
    value := numerator (4 * mantissa)
    high := numerator (4 * mantissa + 2)
    denominator := (Binary.scale 1 1 (exponent - 2)).2
    closed := mantissa % 2 == 0 }

/-- The multiple of `10 ^ grid` in the interval that is nearest to its value, if there is one. -/
def Interval.onGrid? (i : Interval) (grid : Int) : Option Decimal :=
  let (p, q) := fraction ⟨1, grid⟩
  let unit := i.denominator * p
  let floor := i.value * q / unit
  let rest := 2 * (i.value * q % unit)
  let under (a b : Nat) : Bool := a < b || i.closed && a == b
  let down := under (i.low * q) (floor * unit)
  let up := under ((floor + 1) * unit) (i.high * q)
  let nearerDown : Bool := rest < unit || rest == unit && floor % 2 == 0
  if down && (nearerDown || !up) then some ⟨floor, grid⟩
  else if up then some ⟨floor + 1, grid⟩
  else none

/-- The first hit on the grids of `digits`, `digits + 1`, … leading digits. -/
def Interval.firstHit (i : Interval) (magnitude : Int) (digits : Nat) : Nat → Decimal
  | 0        => ⟨i.value / i.denominator, 0⟩
  | fuel + 1 =>
    match i.onGrid? (magnitude - digits) with
    | some d => d
    | none   => i.firstHit magnitude (digits + 1) fuel

def trim (d : Decimal) : Decimal :=
  let zeros := ((Nat.toDigits 10 d.digits).reverse.takeWhile (· == '0')).length
  ⟨d.digits / Nat.pow 10 zeros, d.exponent + zeros⟩

/-- The numeral with the fewest digits that rounds to `mantissa * 2 ^ exponent`, a positive number
of 64 bits; seventeen digits are always enough. -/
def shortest (mantissa : Nat) (exponent : Int) : Decimal :=
  let i := interval Binary.double mantissa exponent
  (i.firstHit (magnitude i.value i.denominator) 1 17).trim

end Decimal

/-! ### Binary numbers from text -/

/-- Why a text is no floating-point number. -/
inductive Binary.Fault
  | empty
  | invalid
deriving DecidableEq, Repr

def Binary.Fault.message : Fault → String
  | .empty   => "cannot parse float from empty string"
  | .invalid => "invalid float literal"

/-- Reads a number of the format: an optional sign and a numeral, an infinity or `nan` in any case.
-/
def Binary.read (f : Binary.Format) (text : String) : Except Binary.Fault Binary :=
  let unsigned (negative : Bool) (cs : List Char) : Except Binary.Fault Binary :=
    let word := String.ofList (cs.map Char.toLower)
    if word = "inf" ∨ word = "infinity" then .ok (.infinite negative)
    else if word = "nan" then .ok (.nan negative)
    else match Decimal.readUnsigned cs with
      | some d => .ok (d.nearest f negative)
      | none   => .error .invalid
  match text.toList with
  | []        => .error .empty
  | '-' :: cs => unsigned true cs
  | '+' :: cs => unsigned false cs
  | cs        => unsigned false cs

end Signpost
