import Signpost.Json.Value
import Signpost.Text.Utf8

/-!
# Writing JSON

The compact form: no blanks, members in their order, and escapes only where a string needs them.
-/

namespace Signpost.Json

/-! ### Strings -/

def hexDigit (n : Nat) : Char :=
  Nat.digitChar n

/-- A character inside a string: quotes, backslashes and control characters are escaped. -/
def writeChar (c : Char) : List Char :=
  if c = '"' then ['\\', '"']
  else if c = '\\' then ['\\', '\\']
  else if c = '\x08' then ['\\', 'b']
  else if c = '\x0c' then ['\\', 'f']
  else if c = '\n' then ['\\', 'n']
  else if c = '\r' then ['\\', 'r']
  else if c = '\t' then ['\\', 't']
  else if c.toNat < 0x20 then
    ['\\', 'u', '0', '0', hexDigit (c.toNat / 16), hexDigit (c.toNat % 16)]
  else [c]

def writeString (s : String) : List Char :=
  '"' :: s.toList.flatMap writeChar ++ ['"']

/-! ### Numbers -/

def writeInteger (n : Int) : List Char :=
  if n < 0 then '-' :: Nat.toDigits 10 n.natAbs else Nat.toDigits 10 n.natAbs

/-- The powers of ten that are written without an exponent: from `lowest` up to but not including
`beyond`. -/
structure Positional where
  lowest : Int
  beyond : Int

/-- Numbers are written without an exponent from `0.00001` up to sixteen digits. -/
def positional : Positional := ⟨-5, 16⟩

/-- A decimal: positional with at least one digit behind the point, or one digit before the point
and an exponent with its sign. -/
def writeDecimal (d : Decimal) : List Char :=
  let digits := Nat.toDigits 10 d.digits
  -- the power of ten of the first digit
  let power := d.exponent + digits.length - 1
  if positional.lowest ≤ power ∧ power < positional.beyond then
    if power < 0 then
      '0' :: '.' :: List.replicate (-power - 1).toNat '0' ++ digits
    else
      let whole := (power + 1).toNat
      let fraction := digits.drop whole
      digits.take whole ++ List.replicate (whole - digits.length) '0' ++
        '.' :: (if fraction = [] then ['0'] else fraction)
  else
    let mantissa := digits.take 1 ++ (if digits.length = 1 then [] else '.' :: digits.drop 1)
    mantissa ++ 'e' :: (if power < 0 then '-' else '+') :: Nat.toDigits 10 power.natAbs

/-- A floating-point number: the shortest decimal that reads back, or `null` where there is none. -/
def writeReal : Binary → List Char
  | .finite negative mantissa exponent =>
    let unsigned :=
      if mantissa = 0 then ['0', '.', '0'] else writeDecimal (Decimal.shortest mantissa exponent)
    if negative then '-' :: unsigned else unsigned
  | _ => ['n', 'u', 'l', 'l']

/-! ### Values -/

mutual

/-- A value in compact form. -/
def write : Json → List Char
  | null                   => ['n', 'u', 'l', 'l']
  | bool true              => ['t', 'r', 'u', 'e']
  | bool false             => ['f', 'a', 'l', 's', 'e']
  | integer n              => writeInteger n
  | real x                 => writeReal x
  | text s                 => writeString s
  | array []               => ['[', ']']
  | array (v :: vs)        => '[' :: write v ++ writeItems vs
  | object []              => ['{', '}']
  | object ((k, v) :: ms)  => '{' :: writeString k ++ ':' :: write v ++ writeMembers ms

/-- The items behind the first one, and the end of the array. -/
def writeItems : List Json → List Char
  | []      => [']']
  | v :: vs => ',' :: write v ++ writeItems vs

/-- The members behind the first one, and the end of the object. -/
def writeMembers : List (String × Json) → List Char
  | []           => ['}']
  | (k, v) :: ms => ',' :: writeString k ++ ':' :: write v ++ writeMembers ms

end

def toText (v : Json) : String :=
  String.ofList v.write

def toBytes (v : Json) : Bytes :=
  Utf8.encode v.write

end Signpost.Json
