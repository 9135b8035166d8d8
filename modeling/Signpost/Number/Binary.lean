/-!
# Binary floating point

A value is a sign and either a mantissa times a power of two, an infinity, or no number at all. A
format says how long mantissas are and how far exponents reach; `Format.nearest` rounds a fraction
into a format, `Format.round` a value of another one, and `Format.toBits` lays a value out.
-/

namespace Signpost

inductive Binary
  | nan (negative : Bool)
  | infinite (negative : Bool)
  /-- The number `mantissa * 2 ^ exponent`, with its sign. -/
  | finite (negative : Bool) (mantissa : Nat) (exponent : Int)
deriving DecidableEq, Repr

namespace Binary

/-- A format: mantissas have at most `precision` bits, and exponents lie between `least` and
`greatest`. -/
structure Format where
  precision : Nat
  least : Int
  greatest : Int
deriving DecidableEq, Repr

def single : Format := ⟨24, -149, 104⟩

def double : Format := ⟨53, -1074, 971⟩

/-- The quotient to the nearest integer; a half goes to the even neighbour. -/
def roundDiv (n d : Nat) : Nat :=
  let q := n / d
  let r := 2 * (n % d)
  if r < d ∨ r = d ∧ q % 2 = 0 then q else q + 1

/-- The numerator and the denominator of `n / d * 2 ^ e`. -/
def scale (n d : Nat) (e : Int) : Nat × Nat :=
  if 0 ≤ e then (n * Nat.pow 2 e.toNat, d) else (n, d * Nat.pow 2 (-e).toNat)

namespace Format

/-- The greatest exponent `e` with `2 ^ e ≤ n / d`, for positive `n` and `d`. -/
def log (n d : Nat) : Int :=
  let e : Int := (n.log2 : Int) - d.log2
  let (m, c) := scale n d (-e)
  if c ≤ m then e else e - 1

/-- The value of the format nearest to the fraction `n / d`; a half goes to the even mantissa, and
what is beyond the greatest number is infinite. -/
def nearest (f : Format) (negative : Bool) (n d : Nat) : Binary :=
  if n = 0 then .finite negative 0 f.least
  else
    let e := max f.least (log n d - f.precision + 1)
    let (m, c) := scale n d (-e)
    let mantissa := roundDiv m c
    let (mantissa, e) :=
      if mantissa = Nat.pow 2 f.precision then (Nat.pow 2 (f.precision - 1), e + 1)
      else (mantissa, e)
    if f.greatest < e then .infinite negative else .finite negative mantissa e

/-- The value of the format nearest to a value of any format. -/
def round (f : Format) : Binary → Binary
  | .finite negative mantissa exponent =>
    let (m, c) := scale mantissa 1 exponent
    f.nearest negative m c
  | x => x

/-- The exponent as it is stored; `0` is shared by the numbers without a leading bit. -/
def storedExponent (f : Format) (mantissa : Nat) (e : Int) : Nat :=
  if mantissa < Nat.pow 2 (f.precision - 1) then 0 else (e - f.least + 1).toNat

def topExponent (f : Format) : Nat :=
  (f.greatest - f.least + 2).toNat

/-- The bits of a value of the format: sign, stored exponent, and the mantissa without its leading
bit. -/
def toBits (f : Format) (x : Binary) : Nat :=
  let unit := Nat.pow 2 (f.precision - 1)
  let (negative, rest) := match x with
    | .nan s        => (s, f.topExponent * unit + unit / 2)
    | .infinite s   => (s, f.topExponent * unit)
    | .finite s m e => (s, f.storedExponent m e * unit + m % unit)
  (if negative then (f.topExponent + 1) * unit else 0) + rest

end Format

end Binary

end Signpost
