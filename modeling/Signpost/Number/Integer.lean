/-!
# Integers of fixed width

The integer types that parameters and form fields have: their range, and the reading of decimal
text. The text is an optional sign and at least one digit; nothing wraps and nothing is clamped.
-/

namespace Signpost

/-- How wide an integer is; `native` is the width of a machine word. -/
inductive Width
  | bits8 | bits16 | bits32 | bits64 | bits128 | native
deriving DecidableEq, Repr

/-- The number of bits; a machine word has 64. -/
def Width.bits : Width → Nat
  | .bits8   => 8
  | .bits16  => 16
  | .bits32  => 32
  | .bits64  => 64
  | .bits128 => 128
  | .native  => 64

/-- The width as it stands in the name of an integer type. -/
def Width.suffix : Width → String
  | .native => "size"
  | w       => toString w.bits

structure IntegerKind where
  signed : Bool
  width : Width
deriving DecidableEq, Repr

namespace IntegerKind

/-- The name of the type, such as `i32`, `u8` or `usize`. -/
def name (k : IntegerKind) : String :=
  (if k.signed then "i" else "u") ++ k.width.suffix

/-- How far below zero the type reaches. -/
def depth (k : IntegerKind) : Nat :=
  if k.signed then Nat.pow 2 (k.width.bits - 1) else 0

/-- The greatest number of the type. -/
def greatest (k : IntegerKind) : Nat :=
  if k.signed then Nat.pow 2 (k.width.bits - 1) - 1 else Nat.pow 2 k.width.bits - 1

def Holds (k : IntegerKind) (n : Int) : Prop :=
  -(k.depth : Int) ≤ n ∧ n ≤ k.greatest

instance (k : IntegerKind) (n : Int) : Decidable (k.Holds n) :=
  inferInstanceAs (Decidable (_ ∧ _))

/-- Why a text is no number of a type. -/
inductive Fault
  | empty
  | invalidDigit
  | tooLarge
  | tooSmall
deriving DecidableEq, Repr

def Fault.message : Fault → String
  | .empty        => "cannot parse integer from empty string"
  | .invalidDigit => "invalid digit found in string"
  | .tooLarge     => "number too large to fit in target type"
  | .tooSmall     => "number too small to fit in target type"

/-- Reads digits behind a number `value`, from left to right; `beyond` is the fault of a number over
`limit`, which is reported before any later fault. -/
def readDigits (limit : Nat) (beyond : Fault) (value : Nat) : List Char → Except Fault Nat
  | []      => .ok value
  | c :: cs =>
    if c.isDigit then
      let value := 10 * value + (c.toNat - '0'.toNat)
      if value ≤ limit then readDigits limit beyond value cs else .error beyond
    else .error .invalidDigit

/-- Reads the digits of a number, of which there has to be one. -/
def readNumeral (limit : Nat) (beyond : Fault) : List Char → Except Fault Nat
  | [] => .error .invalidDigit
  | cs => readDigits limit beyond 0 cs

/-- Reads a number of the type. A minus sign is none for an unsigned type. -/
def read (k : IntegerKind) (text : String) : Except Fault Int :=
  match text.toList with
  | []        => .error .empty
  | '+' :: cs => (readNumeral k.greatest .tooLarge cs).map fun n => (n : Int)
  | '-' :: cs =>
    if k.signed then (readNumeral k.depth .tooSmall cs).map fun n => -(n : Int)
    else .error .invalidDigit
  | cs        => (readNumeral k.greatest .tooLarge cs).map fun n => (n : Int)

end IntegerKind

end Signpost
