import Signpost.Json.Value

/-!
# Reading JSON

A reader of the whole grammar, blanks between tokens included. It takes as many steps as it is given
fuel for; `read` gives it two for each character, and no text needs more.
-/

namespace Signpost.Json

/-- The text without the blanks it starts with. -/
def skipBlanks : List Char → List Char
  | c :: cs => if c = ' ' ∨ c = '\n' ∨ c = '\r' ∨ c = '\t' then skipBlanks cs else c :: cs
  | []      => []

/-! ### Strings -/

def hexValue? (c : Char) : Option Nat :=
  if c.isDigit then some (c.toNat - '0'.toNat)
  else if 'a' ≤ c ∧ c ≤ 'f' then some (c.toNat - 'a'.toNat + 10)
  else if 'A' ≤ c ∧ c ≤ 'F' then some (c.toNat - 'A'.toNat + 10)
  else none

def unit? (a b c d : Char) : Option Nat := do
  return (((← hexValue? a) * 16 + (← hexValue? b)) * 16 + (← hexValue? c)) * 16 + (← hexValue? d)

/-- The character that a letter behind a backslash stands for. -/
def escaped? : Char → Option Char
  | '"'  => some '"'
  | '\\' => some '\\'
  | '/'  => some '/'
  | 'b'  => some '\x08'
  | 'f'  => some '\x0c'
  | 'n'  => some '\n'
  | 'r'  => some '\r'
  | 't'  => some '\t'
  | _    => none

/-- Puts a character before what has been read. -/
def prepend (c : Char) : Option (List Char × List Char) → Option (List Char × List Char)
  | some (s, rest) => some (c :: s, rest)
  | none           => none

/-- Reads a string behind its opening quote, and yields what follows the closing one. -/
def readString : List Char → Option (List Char × List Char)
  | []         => none
  | '"' :: cs  => some ([], cs)
  | '\\' :: 'u' :: a :: b :: c :: d :: cs =>
    match unit? a b c d with
    | none   => none
    | some u =>
      if 0xD800 ≤ u ∧ u < 0xDC00 then
        -- the first half of a pair: the second has to follow
        match cs with
        | '\\' :: 'u' :: e :: f :: g :: h :: cs =>
          match unit? e f g h with
          | none   => none
          | some v =>
            if 0xDC00 ≤ v ∧ v < 0xE000 then
              prepend (.ofNat (0x10000 + (u - 0xD800) * 0x400 + (v - 0xDC00))) (readString cs)
            else none
        | _ => none
      else if 0xDC00 ≤ u ∧ u < 0xE000 then none
      else prepend (.ofNat u) (readString cs)
  | '\\' :: c :: cs =>
    match escaped? c with
    | some c => prepend c (readString cs)
    | none   => none
  | c :: cs    => if c.toNat < 0x20 then none else prepend c (readString cs)

/-! ### Numbers -/

/-- A number as it is written: its digits before and behind the point, and its exponent. -/
structure Literal where
  negative : Bool
  whole : List Char
  fraction : Option (List Char)
  exponent : Option Int

/-- Reads the sign of a number, and tells whether it is a minus. -/
def readSign : List Char → Bool × List Char
  | '-' :: cs => (true, cs)
  | cs        => (false, cs)

/-- Reads the point and the digits behind it, if there is a point. -/
def readFraction : List Char → Option (Option (List Char) × List Char)
  | '.' :: cs =>
    let (fraction, cs) := cs.span Char.isDigit
    if fraction = [] then none else some (some fraction, cs)
  | cs        => some (none, cs)

/-- Reads the exponent, if there is one. -/
def readPower : List Char → Option (Option Int × List Char)
  | []      => some (none, [])
  | c :: cs =>
    if c = 'e' ∨ c = 'E' then
      let (sign, cs) := match cs with
        | '-' :: cs => (['-'], cs)
        | '+' :: cs => ([], cs)
        | cs        => ([], cs)
      let (digits, cs) := cs.span Char.isDigit
      (Decimal.readExponent Digits.ofChars (sign ++ digits)).map fun e => (some e, cs)
    else some (none, c :: cs)

/-- Reads the digits and the exponent of a number. -/
def readLiteral (cs : List Char) : Option (Literal × List Char) := do
  let (negative, cs) := readSign cs
  let (whole, cs) := cs.span Char.isDigit
  if whole = [] ∨ (whole.head? = some '0' ∧ whole ≠ ['0']) then none
  let (fraction, cs) ← readFraction cs
  let (exponent, cs) ← readPower cs
  return (⟨negative, whole, fraction, exponent⟩, cs)

/-- The number `n` continued by digits as long as it has 64 bits, and how many digits remain. -/
def leadingDigits : Nat → List Char → Nat × Nat
  | n, []      => (n, 0)
  | n, c :: cs =>
    let m := 10 * n + (c.toNat - '0'.toNat)
    if m < Nat.pow 2 64 then leadingDigits m cs else (n, (c :: cs).length)

/-- A number scaled by a power of ten: both are rounded first, and so is the outcome. -/
def scaled (negative : Bool) (significand : Nat) (exponent : Int) : Option Binary :=
  let power (e : Nat) : Binary := Binary.double.nearest false (Nat.pow 10 e) 1
  let product (m : Nat) (e : Int) (n : Nat) (f : Int) : Binary :=
    let (p, q) := Binary.scale (m * n) 1 (e + f)
    Binary.double.nearest negative p q
  let quotient (m : Nat) (e : Int) (n : Nat) (f : Int) : Binary :=
    let (p, q) := Binary.scale m n (e - f)
    Binary.double.nearest negative p q
  match Binary.double.nearest negative significand 1 with
  | .finite _ 0 e => some (.finite negative 0 e)
  | .finite _ m e =>
    if 308 < exponent then none
    else if 0 ≤ exponent then
      match power exponent.toNat with
      | .finite _ n f =>
        match product m e n f with
        | .finite s m e => some (.finite s m e)
        | _             => none
      | _ => none
    else if -308 ≤ exponent then
      match power (-exponent).toNat with
      | .finite _ n f => some (quotient m e n f)
      | _             => none
    -- below all doubles, two steps are needed, and beyond two there is nothing left
    else if -616 ≤ exponent then
      match power 308, power (-exponent - 308).toNat with
      | .finite _ n f, .finite _ n' f' =>
        match quotient m e n f with
        | .finite _ m e => some (quotient m e n' f')
        | x             => some x
      | _, _ => none
    else some (Binary.double.nearest negative 0 1)
  | _ => none

/-- The number that a literal stands for: an integer if it is written as one and has 64 bits, a
floating-point number otherwise. -/
def Literal.value (l : Literal) : Option Json :=
  let n := Digits.ofChars l.whole
  if l.fraction = none ∧ l.exponent = none ∧
      (if l.negative then 0 < n ∧ n ≤ Nat.pow 2 63 else n < Nat.pow 2 64) then
    some (integer (if l.negative then -(n : Int) else n))
  else
    let fraction := l.fraction.getD []
    let (n, dropped) := leadingDigits 0 l.whole
    let (n, dropped') := leadingDigits n fraction
    (scaled l.negative n (l.exponent.getD 0 - fraction.length + dropped + dropped')).map real

def readNumber (cs : List Char) : Option (Json × List Char) := do
  let (l, rest) ← readLiteral cs
  return (← l.value, rest)

/-! ### Values -/

mutual

/-- Reads a value, and yields what follows it. -/
def readValue : Nat → List Char → Option (Json × List Char)
  | 0,     _  => none
  | n + 1, cs =>
    match skipBlanks cs with
    | 'n' :: 'u' :: 'l' :: 'l' :: cs        => some (null, cs)
    | 't' :: 'r' :: 'u' :: 'e' :: cs        => some (bool true, cs)
    | 'f' :: 'a' :: 'l' :: 's' :: 'e' :: cs => some (bool false, cs)
    | '"' :: cs => (readString cs).map fun (s, cs) => (text (String.ofList s), cs)
    | '[' :: cs =>
      match skipBlanks cs with
      | ']' :: cs => some (array [], cs)
      | cs        =>
        match readValue n cs with
        | some (v, cs) => (readItems n cs).map fun (vs, cs) => (array (v :: vs), cs)
        | none         => none
    | '{' :: cs =>
      match skipBlanks cs with
      | '}' :: cs => some (object [], cs)
      | cs        =>
        match readMember n cs with
        | some (m, cs) => (readMembers n cs).map fun (ms, cs) => (ofMembers (m :: ms), cs)
        | none         => none
    | cs => readNumber cs

/-- Reads the items behind the first one, to the end of the array. -/
def readItems : Nat → List Char → Option (List Json × List Char)
  | 0,     _  => none
  | n + 1, cs =>
    match skipBlanks cs with
    | ']' :: cs => some ([], cs)
    | ',' :: cs =>
      match readValue n cs with
      | some (v, cs) => (readItems n cs).map fun (vs, cs) => (v :: vs, cs)
      | none         => none
    | _ => none

def readMember : Nat → List Char → Option ((String × Json) × List Char)
  | 0,     _  => none
  | n + 1, cs =>
    match skipBlanks cs with
    | '"' :: cs =>
      match readString cs with
      | some (k, cs) =>
        match skipBlanks cs with
        | ':' :: cs => (readValue n cs).map fun (v, cs) => ((String.ofList k, v), cs)
        | _         => none
      | none => none
    | _ => none

/-- Reads the members behind the first one, to the end of the object. -/
def readMembers : Nat → List Char → Option (List (String × Json) × List Char)
  | 0,     _  => none
  | n + 1, cs =>
    match skipBlanks cs with
    | '}' :: cs => some ([], cs)
    | ',' :: cs =>
      match readMember n cs with
      | some (m, cs) => (readMembers n cs).map fun (ms, cs) => (m :: ms, cs)
      | none         => none
    | _ => none

end

/-- Reads a text that holds one value and nothing else. -/
def read (cs : List Char) : Option Json :=
  match readValue (2 * cs.length + 1) cs with
  | some (v, rest) => if skipBlanks rest = [] then some v else none
  | none           => none

end Signpost.Json
