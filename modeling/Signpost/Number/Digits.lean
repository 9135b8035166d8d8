/-!
# Numbers from digits

A positional numeral read from its least digit on. `assemble` adds digit after digit; `join` first
joins neighbours into digits of the squared base, so that long numerals take little time, and
`join_eq` says that it comes to the same.
-/

namespace Signpost.Digits

/-- The number with the given digits in a base, the least digit first. -/
def assemble (base : Nat) : List Nat → Nat
  | []      => 0
  | d :: ds => d + base * assemble base ds

/-- Digits of the squared base: each of them from two neighbours. -/
def paired (base : Nat) : List Nat → List Nat
  | d :: e :: ds => (d + base * e) :: paired base ds
  | ds           => ds

theorem assemble_paired (base : Nat) (ds : List Nat) :
    assemble (base * base) (paired base ds) = assemble base ds := by
  fun_induction paired base ds with
  | case1 d e ds ih => simp [assemble, ih, Nat.mul_add, Nat.mul_assoc, Nat.add_assoc]
  | case2 ds h      =>
    match ds with
    | []          => rfl
    | [d]         => simp [assemble]
    | d :: e :: l => exact absurd rfl (h d e l)

/-- The same number as by `assemble`, after some rounds of pairing. -/
def join : Nat → Nat → List Nat → Nat
  | 0,          base, ds => assemble base ds
  | rounds + 1, base, ds => join rounds (base * base) (paired base ds)

theorem join_eq (rounds base : Nat) (ds : List Nat) : join rounds base ds = assemble base ds := by
  induction rounds generalizing base ds with
  | zero           => rfl
  | succ rounds ih => rw [join, ih, assemble_paired]

/-- The number that decimal digits spell. -/
def ofChars (cs : List Char) : Nat :=
  join cs.length.log2 10 (cs.reverse.map fun c => c.toNat - '0'.toNat)

theorem ofChars_eq (cs : List Char) :
    ofChars cs = assemble 10 (cs.reverse.map fun c => c.toNat - '0'.toNat) :=
  join_eq ..

end Signpost.Digits
