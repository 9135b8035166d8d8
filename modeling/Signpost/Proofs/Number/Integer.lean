import Mathlib.Data.List.Induction
import Signpost.Binding.Handler
import Signpost.Number.Digits
import Signpost.Proofs.Traversal

/-!
# Integers from text

A parameter of an integer type is bound to a text exactly if the text is a numeral of the type and
its number lies in the range of the type; the value is that number, however long the text is. So
nothing wraps and nothing is clamped, and the text of every number of the type is bound to it:
`IntegerKind.binds_exactly`.
-/

namespace Signpost

/-! ### Digits -/

namespace Digits

/-- One or more decimal digits. -/
def IsNumeral (cs : List Char) : Prop :=
  cs ≠ [] ∧ ∀ c ∈ cs, c.isDigit = true

/-- The weights of digits are counted from the last one, and still digits can be taken in from the
first one on. -/
theorem ofChars_eq_ofDigitChars (cs : List Char) : ofChars cs = Nat.ofDigitChars 10 cs 0 := by
  rw [ofChars_eq]
  induction cs using List.reverseRecOn with
  | nil => rfl
  | append_singleton cs c ih =>
    rw [List.reverse_append, List.reverse_singleton, List.singleton_append, List.map_cons, assemble,
      ih, Nat.ofDigitChars_append, Nat.ofDigitChars_cons, Nat.ofDigitChars_nil, Nat.add_comm]

/-- Digits behind a number do not make it smaller. -/
theorem le_ofDigitChars (v : Nat) (cs : List Char) : v ≤ Nat.ofDigitChars 10 cs v := by
  rw [Nat.ofDigitChars_eq_ofDigitChars_zero]
  exact Nat.le_trans (Nat.le_mul_of_pos_left v (Nat.pow_pos (by omega))) (Nat.le_add_right _ _)

theorem isNumeral_toDigits (n : Nat) : IsNumeral (Nat.toDigits 10 n) :=
  ⟨Nat.toDigits_ne_nil, fun _ hc => Nat.isDigit_of_mem_toDigits (by omega) (by omega) hc⟩

theorem ofChars_toDigits (n : Nat) : ofChars (Nat.toDigits 10 n) = n := by
  rw [ofChars_eq_ofDigitChars, Nat.ofDigitChars_ten_toDigits]

theorem not_isNumeral_cons {c : Char} (hc : c.isDigit = false) (cs : List Char) :
    ¬ IsNumeral (c :: cs) := by
  rintro ⟨-, h⟩
  simp [hc] at h

end Digits

namespace IntegerKind

variable {k : IntegerKind} {limit v n : Nat} {m : Int} {beyond : Fault} {cs : List Char}

/-! ### Numerals -/

/-- The text is a numeral of the type, and `m` is its number: digits behind an optional sign, which
is a minus only if the type is signed. -/
inductive Denotes (k : IntegerKind) : List Char → Int → Prop
  | bare {ds : List Char} (hds : Digits.IsNumeral ds) : Denotes k ds (Digits.ofChars ds)
  | plus {ds : List Char} (hds : Digits.IsNumeral ds) : Denotes k ('+' :: ds) (Digits.ofChars ds)
  | minus {ds : List Char} (hk : k.signed = true) (hds : Digits.IsNumeral ds) :
      Denotes k ('-' :: ds) (-Digits.ofChars ds)

theorem denotes_plus_iff :
    k.Denotes ('+' :: cs) m ↔ Digits.IsNumeral cs ∧ (Digits.ofChars cs : Int) = m := by
  constructor
  · intro h
    cases h with
    | bare hds => exact absurd hds (Digits.not_isNumeral_cons (by decide) cs)
    | plus hds => exact ⟨hds, rfl⟩
  · rintro ⟨hds, rfl⟩
    exact .plus hds

theorem denotes_minus_iff :
    k.Denotes ('-' :: cs) m ↔
      k.signed = true ∧ Digits.IsNumeral cs ∧ -(Digits.ofChars cs : Int) = m := by
  constructor
  · intro h
    cases h with
    | bare hds     => exact absurd hds (Digits.not_isNumeral_cons (by decide) cs)
    | minus hk hds => exact ⟨hk, hds, rfl⟩
  · rintro ⟨hk, hds, rfl⟩
    exact .minus hk hds

theorem denotes_bare_iff (hplus : cs.head? ≠ some '+') (hminus : cs.head? ≠ some '-') :
    k.Denotes cs m ↔ Digits.IsNumeral cs ∧ (Digits.ofChars cs : Int) = m := by
  constructor
  · intro h
    cases h with
    | bare hds => exact ⟨hds, rfl⟩
    | plus     => exact absurd rfl hplus
    | minus    => exact absurd rfl hminus
  · rintro ⟨hds, rfl⟩
    exact .bare hds

/-! ### Ranges -/

/-- A type of `b` bits has `2 ^ b` numbers, half of them below zero if it is signed. -/
theorem holds_iff :
    k.Holds m ↔
      if k.signed then
        -(Nat.pow 2 (k.width.bits - 1) : Int) ≤ m ∧ m < Nat.pow 2 (k.width.bits - 1)
      else 0 ≤ m ∧ m < Nat.pow 2 k.width.bits := by
  have hhalf : 0 < Nat.pow 2 (k.width.bits - 1) := Nat.pow_pos (by omega)
  have hall : 0 < Nat.pow 2 k.width.bits := Nat.pow_pos (by omega)
  by_cases hk : k.signed = true
  · simp only [Holds, depth, greatest, hk, if_true]
    omega
  · simp only [Holds, depth, greatest, hk, Bool.false_eq_true, if_false]
    omega

theorem holds_natCast_iff : k.Holds (n : Int) ↔ n ≤ k.greatest := by
  rw [Holds]
  omega

theorem holds_neg_natCast_iff : k.Holds (-(n : Int)) ↔ n ≤ k.depth := by
  rw [Holds]
  omega

/-- An unsigned type has no numbers below zero. -/
theorem signed_of_holds_neg (h : k.Holds m) (hm : m < 0) : k.signed = true := by
  by_contra hk
  have hdepth : k.depth = 0 := if_neg hk
  rw [Holds, hdepth] at h
  omega

/-! ### Reading -/

/-- The number only grows from digit to digit, so one that is beyond the limit stays there. -/
theorem readDigits_eq_ok_iff (hv : v ≤ limit) :
    readDigits limit beyond v cs = .ok n ↔
      (∀ c ∈ cs, c.isDigit = true) ∧ Nat.ofDigitChars 10 cs v = n ∧ n ≤ limit := by
  induction cs generalizing v with
  | nil =>
    rw [readDigits, Nat.ofDigitChars_nil, Except.ok.injEq]
    constructor
    · rintro rfl
      exact ⟨by simp, rfl, hv⟩
    · rintro ⟨-, hn, -⟩
      exact hn
  | cons c cs ih =>
    rw [readDigits, List.forall_mem_cons, Nat.ofDigitChars_cons]
    by_cases hc : c.isDigit = true
    · by_cases hlimit : 10 * v + (c.toNat - '0'.toNat) ≤ limit
      · simp only [hc, hlimit, if_true, true_and, ih hlimit]
      · have hgrows := Digits.le_ofDigitChars (10 * v + (c.toNat - '0'.toNat)) cs
        simp only [hc, hlimit, if_true, if_false, true_and, reduceCtorEq, false_iff]
        rintro ⟨-, rfl, hn⟩
        exact hlimit (Nat.le_trans hgrows hn)
    · simp [hc]

theorem readNumeral_eq_ok_iff :
    readNumeral limit beyond cs = .ok n ↔
      Digits.IsNumeral cs ∧ Digits.ofChars cs = n ∧ n ≤ limit := by
  cases cs with
  | nil => simp [readNumeral, Digits.IsNumeral]
  | cons c cs =>
    rw [readNumeral, readDigits_eq_ok_iff (Nat.zero_le limit), Digits.ofChars_eq_ofDigitChars,
      Digits.IsNumeral]
    · simp
    · simp

/-- A numeral with its sign, if the limit is how far the type reaches on that side of zero. -/
theorem map_readNumeral_eq_ok_iff (sign : Int → Int)
    (hlimit : ∀ n : Nat, k.Holds (sign n) ↔ n ≤ limit) :
    ((readNumeral limit beyond cs).map fun n => sign n) = .ok m ↔
      (Digits.IsNumeral cs ∧ sign (Digits.ofChars cs) = m) ∧ k.Holds m := by
  simp only [map_eq_ok_iff, bind_eq_ok_iff, readNumeral_eq_ok_iff, pure, Except.pure,
    Except.ok.injEq]
  constructor
  · rintro ⟨_, ⟨n, ⟨hcs, rfl, hn⟩, rfl⟩, rfl⟩
    exact ⟨⟨hcs, rfl⟩, (hlimit _).mpr hn⟩
  · rintro ⟨⟨hcs, rfl⟩, hn⟩
    exact ⟨_, ⟨_, ⟨hcs, rfl, (hlimit _).mp hn⟩, rfl⟩, rfl⟩

theorem read_eq_ok_iff {raw : String} :
    k.read raw = .ok m ↔ k.Denotes raw.toList m ∧ k.Holds m := by
  have hupwards : ∀ n : Nat, k.Holds (n : Int) ↔ n ≤ k.greatest := fun _ => holds_natCast_iff
  have hdownwards : ∀ n : Nat, k.Holds (-(n : Int)) ↔ n ≤ k.depth := fun _ => holds_neg_natCast_iff
  unfold read
  split
  case h_1 htext =>
    rw [htext, denotes_bare_iff (by simp) (by simp)]
    simp [Digits.IsNumeral]
  case h_2 cs htext =>
    rw [htext, denotes_plus_iff, map_readNumeral_eq_ok_iff (fun n => n) hupwards]
  case h_3 cs htext =>
    rw [htext, denotes_minus_iff]
    split
    case isTrue hk =>
      rw [map_readNumeral_eq_ok_iff (fun n => -n) hdownwards]
      simp only [hk, true_and]
    case isFalse hk => simp [hk]
  case h_4 hempty hplus hminus =>
    have hhead : ∀ c, (∀ cs, raw.toList ≠ c :: cs) → raw.toList.head? ≠ some c := by
      intro c hc hhead
      obtain ⟨cs, hcs⟩ := List.head?_eq_some_iff.mp hhead
      exact hc cs hcs
    rw [denotes_bare_iff (hhead _ hplus) (hhead _ hminus),
      map_readNumeral_eq_ok_iff (fun n => n) hupwards]

/-- The text of a number is a numeral of every type that holds the number. -/
theorem denotes_repr (h : k.Holds m) : k.Denotes m.repr.toList m := by
  rw [Int.repr_eq_if]
  split
  case isTrue hm =>
    rw [Nat.repr_eq_ofList_toDigits, String.toList_ofList]
    have hbare := Denotes.bare (k := k) (Digits.isNumeral_toDigits m.toNat)
    rwa [Digits.ofChars_toDigits, Int.toNat_of_nonneg hm] at hbare
  case isFalse hm =>
    have htext : ("-" ++ (-m).toNat.repr).toList = '-' :: Nat.toDigits 10 (-m).toNat := by
      simp [Nat.repr_eq_ofList_toDigits]
    rw [htext]
    have hsigned : k.signed = true := signed_of_holds_neg h (by omega)
    have hminus := Denotes.minus hsigned (Digits.isNumeral_toDigits (-m).toNat)
    rwa [Digits.ofChars_toDigits, Int.toNat_of_nonneg (by omega), Int.neg_neg] at hminus

/-! ### Binding -/

theorem bindParams_integer (k : IntegerKind) (raw : String) :
    bindParams [.integer k] [raw] =
      match k.read raw with
      | .ok m    => .ok (m, ())
      | .error _ => .error (.invalidValue raw (.integer k)) := by
  simp only [bindParams, bindParamsFrom, ParamKind.read]
  cases k.read raw <;> rfl

theorem bindParams_integer_eq_ok_iff {raw : String} :
    bindParams [.integer k] [raw] = .ok (m, ()) ↔ k.Denotes raw.toList m ∧ k.Holds m := by
  rw [bindParams_integer, ← read_eq_ok_iff]
  cases k.read raw <;> simp

/-- A text is bound as an integer exactly if it is a numeral of the type whose number lies in the
range of the type, and then as that number. Any other text is refused, and the refusal holds the
text and the name of the type. The text of a number is bound as that number exactly if the type
holds it. -/
theorem binds_exactly (k : IntegerKind) :
    (∀ raw m, bindParams [.integer k] [raw] = .ok (m, ()) ↔
        k.Denotes raw.toList m ∧ k.Holds m) ∧
      (∀ raw, bindParams [.integer k] [raw] = .error (.invalidValue raw (.integer k)) ↔
        ¬ ∃ m, k.Denotes raw.toList m ∧ k.Holds m) ∧
      (∀ raw, (Handler.Fault.param (.invalidValue raw (.integer k))).message =
        "cannot bind `" ++ raw ++ "` as " ++ k.name) ∧
      (∀ m, bindParams [.integer k] [m.repr] = .ok (m, ()) ↔ k.Holds m) ∧
      ∀ m, k.Holds m ↔
        if k.signed then
          -(Nat.pow 2 (k.width.bits - 1) : Int) ≤ m ∧ m < Nat.pow 2 (k.width.bits - 1)
        else 0 ≤ m ∧ m < Nat.pow 2 k.width.bits := by
  refine ⟨fun raw m => bindParams_integer_eq_ok_iff, ?_, fun raw => rfl, ?_, fun m => holds_iff⟩
  · intro raw
    simp only [← read_eq_ok_iff, bindParams_integer]
    cases k.read raw <;> simp
  · intro m
    rw [bindParams_integer_eq_ok_iff]
    exact and_iff_right_of_imp denotes_repr

example :
    read ⟨true, .bits8⟩ "-00128" = .ok (-128) ∧ read ⟨true, .bits8⟩ "+128" = .error .tooLarge ∧
      read ⟨false, .bits8⟩ "-0" = .error .invalidDigit := by decide

end IntegerKind

end Signpost
