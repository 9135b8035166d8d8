import Signpost.Text.Utf8

/-!
# Percent escapes

A byte written as `%` and two hexadecimal digits. `decode` undoes every escape and keeps all else as
it stands, a `%` that begins no escape included; `escape` writes one, and `decode_escape` says that
it reads back.
-/

namespace Signpost.Percent

/-! ### Hexadecimal digits -/

def digit? (b : UInt8) : Option Nat :=
  let n := b.toNat
  if 0x30 ≤ n ∧ n ≤ 0x39 then some (n - 0x30)
  else if 0x41 ≤ n ∧ n ≤ 0x46 then some (n - 0x41 + 10)
  else if 0x61 ≤ n ∧ n ≤ 0x66 then some (n - 0x61 + 10)
  else none

/-- The digit for `n`, its letters in the case that starts at `letters`. -/
def digit (letters : Nat) (n : Nat) : UInt8 :=
  if n < 10 then .ofNat (0x30 + n) else .ofNat (letters + (n - 10))

/-- Where the capital hexadecimal letters start. -/
abbrev capital : Nat := 0x41

/-- Where the small hexadecimal letters start. -/
abbrev small : Nat := 0x61

theorem digit?_capital : ∀ n < 16, digit? (digit capital n) = some n := by decide

theorem digit?_small : ∀ n < 16, digit? (digit small n) = some n := by decide

/-! ### Escapes -/

abbrev mark : UInt8 := 0x25

/-- The bytes with every escape replaced by what it stands for. -/
def decode : Bytes → Bytes
  | []      => []
  | [b]     => [b]
  | [b, c]  => [b, c]
  | b :: h :: l :: bs =>
    if b = mark then
      match digit? h, digit? l with
      | some m, some n => .ofNat (m * 16 + n) :: decode bs
      | _, _           => b :: decode (h :: l :: bs)
    else b :: decode (h :: l :: bs)

@[simp] theorem decode_nil : decode [] = [] := rfl

/-- A byte that is no mark stays, and what follows is read on its own. -/
theorem decode_cons {b : UInt8} (hb : b ≠ mark) (bs : Bytes) :
    decode (b :: bs) = b :: decode bs := by
  match bs with
  | []               => rfl
  | [_]              => rfl
  | _ :: _ :: _      => simp [decode, hb]

/-- A mark and two digits are one byte. -/
theorem decode_mark {h l : UInt8} {m n : Nat} (hm : digit? h = some m) (hn : digit? l = some n)
    (bs : Bytes) : decode (mark :: h :: l :: bs) = .ofNat (m * 16 + n) :: decode bs := by
  simp [decode, hm, hn]

/-- The escape of a byte, in capitals. -/
def escape (b : UInt8) : Bytes :=
  [mark, digit capital (b.toNat / 16), digit capital (b.toNat % 16)]

theorem decode_escape (b : UInt8) (bs : Bytes) : decode (escape b ++ bs) = b :: decode bs := by
  have hb := b.toNat_lt
  rw [escape, List.cons_append, List.cons_append, List.cons_append, List.nil_append,
    decode_mark (digit?_capital _ (by omega)) (digit?_capital _ (by omega)),
    Nat.div_add_mod' b.toNat 16, UInt8.ofNat_toNat]

end Signpost.Percent
