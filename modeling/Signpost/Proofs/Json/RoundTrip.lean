import Signpost.Answer.Response
import Signpost.Proofs.Json.Grammar
import Signpost.Proofs.Text.Spelling

/-!
# JSON that is written and read

What is written for a value without floating-point numbers stands for that value, members in their
order, and it holds no control characters. So the body of a JSON answer tells what the handler
returned, and different values have different bodies: `Response.json_body_exact`.
-/

namespace Signpost

/-- Only zero is written with a zero in front. -/
theorem Digits.eq_zero_of_head? {n : Nat} (h : (Nat.toDigits 10 n).head? = some '0') : n = 0 := by
  have hdigit : ∀ d < 10, [Nat.digitChar d].head? = some '0' → d = 0 := by decide
  induction n using Nat.strongRecOn with
  | ind n ih =>
    rw [Nat.toDigits_eq_if (by omega)] at h
    split at h
    case isTrue hn  => exact hdigit n hn h
    case isFalse hn =>
      rw [List.head?_append_of_ne_nil _ Nat.toDigits_ne_nil] at h
      have hfront : n / 10 = 0 := ih (n / 10) (by omega) h
      omega

namespace Json

variable {v : Json} {s cs : List Char} {n : Int}

/-- A value without floating-point numbers, whose integers have 64 bits with or without a sign and
whose objects have no key twice. -/
inductive IsExact : Json → Prop
  | null : IsExact .null
  | bool (b : Bool) : IsExact (.bool b)
  | integer {n : Int}
      (hn : IntegerKind.Holds ⟨true, .bits64⟩ n ∨ IntegerKind.Holds ⟨false, .bits64⟩ n) :
      IsExact (.integer n)
  | text (s : String) : IsExact (.text s)
  | array {vs : List Json} (hvs : ∀ v ∈ vs, IsExact v) : IsExact (.array vs)
  | object {ms : List (String × Json)} (hkeys : (ms.map Prod.fst).Nodup)
      (hms : ∀ m ∈ ms, IsExact m.2) : IsExact (.object ms)

/-- The bytes are a text in UTF-8 that stands for the value. -/
def IsSentAs (v : Json) (bs : Bytes) : Prop :=
  ∃ cs, bs = Utf8.encode cs ∧ Denotes cs v

/-! ### Strings -/

theorem unit?_hexDigit {n : Nat} (hn : n < 0x20) :
    unit? '0' '0' (hexDigit (n / 16)) (hexDigit (n % 16)) = some n := by
  revert n
  decide

/-- A character is written as an escape with a letter, as one with digits, or as it is. -/
theorem writeChar_cases (c : Char) :
    (∃ d, escaped? d = some c ∧ 0x20 ≤ d.toNat ∧ writeChar c = ['\\', d]) ∨
      (c.toNat < 0x20 ∧ writeChar c =
        ['\\', 'u', '0', '0', hexDigit (c.toNat / 16), hexDigit (c.toNat % 16)]) ∨
      0x20 ≤ c.toNat ∧ c ≠ '"' ∧ c ≠ '\\' ∧ writeChar c = [c] := by
  unfold writeChar
  split
  case isTrue hc => exact .inl ⟨'"', by rw [hc]; rfl, by decide, rfl⟩
  case isFalse hquote =>
  split
  case isTrue hc => exact .inl ⟨'\\', by rw [hc]; rfl, by decide, rfl⟩
  case isFalse hbackslash =>
  split
  case isTrue hc => exact .inl ⟨'b', by rw [hc]; rfl, by decide, rfl⟩
  split
  case isTrue hc => exact .inl ⟨'f', by rw [hc]; rfl, by decide, rfl⟩
  split
  case isTrue hc => exact .inl ⟨'n', by rw [hc]; rfl, by decide, rfl⟩
  split
  case isTrue hc => exact .inl ⟨'r', by rw [hc]; rfl, by decide, rfl⟩
  split
  case isTrue hc => exact .inl ⟨'t', by rw [hc]; rfl, by decide, rfl⟩
  split
  case isTrue hc  => exact .inr (.inl ⟨hc, rfl⟩)
  case isFalse hc => exact .inr (.inr ⟨Nat.not_lt.mp hc, hquote, hbackslash, rfl⟩)

theorem spellsChars_writeChar (c : Char) (h : SpellsChars s cs) :
    SpellsChars (c :: s) (writeChar c ++ cs) := by
  rcases writeChar_cases c with ⟨d, hd, -, hwrite⟩ | ⟨hc, hwrite⟩ | ⟨hc, hquote, hbackslash, hwrite⟩
  · rw [hwrite]
    exact .letter hd h
  · have hunit := SpellsChars.unit (unit?_hexDigit hc) (by omega) h
    rw [Char.ofNat_toNat] at hunit
    rwa [hwrite]
  · rw [hwrite]
    exact .plain hc hquote hbackslash h

theorem spellsChars_flatMap (s : List Char) : SpellsChars s (s.flatMap writeChar) := by
  induction s with
  | nil         => exact .nil
  | cons c s ih => exact spellsChars_writeChar c ih

/-! ### Numbers -/

theorem isWhole_toDigits (n : Nat) : IsWhole (Nat.toDigits 10 n) := by
  refine ⟨Digits.isNumeral_toDigits n, fun h => ?_⟩
  rw [Digits.eq_zero_of_head? h]
  exact Nat.toDigits_zero 10

theorem bounds_of_holds
    (hn : IntegerKind.Holds ⟨true, .bits64⟩ n ∨ IntegerKind.Holds ⟨false, .bits64⟩ n) :
    -(Nat.pow 2 63 : Int) ≤ n ∧ n < Nat.pow 2 64 := by
  have hpow : Nat.pow 2 63 < Nat.pow 2 64 := by decide
  rcases hn with hn | hn
  · have hsigned : -(Nat.pow 2 63 : Int) ≤ n ∧ n < Nat.pow 2 63 := IntegerKind.holds_iff.mp hn
    omega
  · have hunsigned : 0 ≤ n ∧ n < Nat.pow 2 64 := IntegerKind.holds_iff.mp hn
    omega

theorem spells_writeInteger
    (hn : IntegerKind.Holds ⟨true, .bits64⟩ n ∨ IntegerKind.Holds ⟨false, .bits64⟩ n) :
    Spells (.value (.integer n)) (writeInteger n) := by
  obtain ⟨hleast, hgreatest⟩ := bounds_of_holds hn
  have hwhole := isWhole_toDigits n.natAbs
  rw [writeInteger]
  split
  case isTrue hnegative =>
    have hl := SpellsLiteral.negative hwhole .none .none
    rw [List.append_nil, List.append_nil] at hl
    have hvalue : -(n.natAbs : Int) = n := by omega
    refine .number hl ?_
    rw [Literal.value, Digits.ofChars_toDigits]
    refine (if_pos ⟨rfl, rfl, ?_⟩).trans (congrArg (fun n => some (integer n)) hvalue)
    rw [if_pos rfl]
    omega
  case isFalse hnegative =>
    have hl := SpellsLiteral.positive hwhole .none .none
    rw [List.append_nil, List.append_nil] at hl
    have hvalue : (n.natAbs : Int) = n := by omega
    refine .number hl ?_
    rw [Literal.value, Digits.ofChars_toDigits]
    refine (if_pos ⟨rfl, rfl, ?_⟩).trans (congrArg (fun n => some (integer n)) hvalue)
    rw [if_neg Bool.false_ne_true]
    omega

/-! ### Values -/

/-- Nothing is written between tokens. -/
theorem isBlank_of_mem_nil : ∀ c ∈ ([] : List Char), IsBlank c :=
  List.forall_mem_nil _

theorem spells_writeItems {vs : List Json} (h : ∀ v ∈ vs, Spells (.value v) v.write) :
    Spells (.items vs) (writeItems vs) := by
  induction vs with
  | nil =>
    rw [writeItems]
    exact .lastItem
  | cons v vs ih =>
    rw [List.forall_mem_cons] at h
    rw [writeItems]
    exact .item h.1 (ih h.2)

theorem spells_writeString (s : String) : Spells (.value (.text s)) (writeString s) := by
  have htext := Spells.text (spellsChars_flatMap s.toList)
  rwa [String.ofList_toList] at htext

theorem spells_writeMember (k : String) (h : Spells (.value v) cs) :
    Spells (.member (k, v)) (writeString k ++ ':' :: cs) := by
  have hmember := Spells.member (spellsChars_flatMap k.toList) isBlank_of_mem_nil h
  rw [String.ofList_toList] at hmember
  simpa [writeString] using hmember

theorem spells_writeMembers {ms : List (String × Json)}
    (h : ∀ m ∈ ms, Spells (.value m.2) m.2.write) : Spells (.members ms) (writeMembers ms) := by
  induction ms with
  | nil =>
    rw [writeMembers]
    exact .lastMember
  | cons m ms ih =>
    rw [List.forall_mem_cons] at h
    have hmember := spells_writeMember m.1 h.1
    rw [writeMembers]
    simpa using Spells.nextMember hmember (ih h.2)

theorem spells_write (h : v.IsExact) : Spells (.value v) v.write := by
  induction h with
  | null =>
    rw [write]
    exact .null
  | bool b =>
    cases b <;> rw [write]
    · exact .false
    · exact .true
  | integer hn =>
    rw [write]
    exact spells_writeInteger hn
  | text s =>
    rw [write]
    exact spells_writeString s
  | @array vs _ ih =>
    cases vs with
    | nil =>
      rw [write]
      exact .emptyArray isBlank_of_mem_nil
    | cons v vs =>
      rw [List.forall_mem_cons] at ih
      rw [write]
      exact .array ih.1 (spells_writeItems ih.2)
  | @object ms hkeys _ ih =>
    cases ms with
    | nil =>
      rw [write]
      exact .emptyObject isBlank_of_mem_nil
    | cons m ms =>
      rw [List.forall_mem_cons] at ih
      rw [write, ← ofMembers_of_nodup hkeys]
      simpa using Spells.object (spells_writeMember m.1 ih.1) (spells_writeMembers ih.2)

/-! ### Control characters -/

/-- The text has no control characters. -/
def HasNoControls (cs : List Char) : Prop :=
  ∀ c ∈ cs, 0x20 ≤ c.toNat

@[simp] theorem hasNoControls_nil : HasNoControls [] :=
  List.forall_mem_nil _

@[simp] theorem hasNoControls_cons {c : Char} :
    HasNoControls (c :: cs) ↔ 0x20 ≤ c.toNat ∧ HasNoControls cs :=
  List.forall_mem_cons

@[simp] theorem hasNoControls_append {ds : List Char} :
    HasNoControls (cs ++ ds) ↔ HasNoControls cs ∧ HasNoControls ds :=
  List.forall_mem_append

theorem HasNoControls.subset {ds : List Char} (h : HasNoControls cs) (hds : ds ⊆ cs) :
    HasNoControls ds :=
  fun c hc => h c (hds hc)

theorem hasNoControls_replicate {c : Char} (hc : 0x20 ≤ c.toNat) (n : Nat) :
    HasNoControls (List.replicate n c) := by
  intro d hd
  rwa [List.eq_of_mem_replicate hd]

@[simp] theorem hasNoControls_toDigits (n : Nat) : HasNoControls (Nat.toDigits 10 n) := by
  intro c hc
  have hdigit := (Digits.isNumeral_toDigits n).2 c hc
  simp only [Char.isDigit, Bool.and_eq_true, decide_eq_true_eq, ge_iff_le,
    UInt32.le_iff_toNat_le] at hdigit
  exact Nat.le_trans (by decide) hdigit.1

theorem hasNoControls_writeChar (c : Char) : HasNoControls (writeChar c) := by
  have hdigits : ∀ n < 0x20,
      0x20 ≤ (hexDigit (n / 16)).toNat ∧ 0x20 ≤ (hexDigit (n % 16)).toNat := by decide
  rcases writeChar_cases c with ⟨d, -, hd, hwrite⟩ | ⟨hc, hwrite⟩ | ⟨hc, -, -, hwrite⟩
  · simp [hwrite, hd]
  · simp [hwrite, hdigits _ hc]
  · simp [hwrite, hc]

@[simp] theorem hasNoControls_writeString (s : String) : HasNoControls (writeString s) := by
  have hchars : HasNoControls (s.toList.flatMap writeChar) := by
    intro c hc
    obtain ⟨d, -, hc⟩ := List.mem_flatMap.mp hc
    exact hasNoControls_writeChar d c hc
  simp [writeString, hchars]

@[simp] theorem hasNoControls_writeInteger (n : Int) : HasNoControls (writeInteger n) := by
  unfold writeInteger
  split <;> simp

theorem hasNoControls_writeDecimal (d : Decimal) : HasNoControls (writeDecimal d) := by
  have hdigits := hasNoControls_toDigits d.digits
  have htake (n : Nat) := hdigits.subset (List.take_subset n _)
  have hdrop (n : Nat) := hdigits.subset (List.drop_subset n _)
  have htail : HasNoControls (Nat.toDigits 10 d.digits).tail := List.drop_one ▸ hdrop 1
  have hzeros (n : Nat) := hasNoControls_replicate (show 0x20 ≤ '0'.toNat by decide) n
  simp only [writeDecimal]
  split
  · split
    · simp [hzeros]
    · split <;> simp [htake, hdrop, hzeros]
  · split <;> split <;> simp [htake, htail]

@[simp] theorem hasNoControls_writeReal (x : Binary) : HasNoControls (writeReal x) := by
  have hunsigned (m : Nat) (e : Int) :
      HasNoControls (if m = 0 then ['0', '.', '0'] else writeDecimal (Decimal.shortest m e)) := by
    split <;> simp [hasNoControls_writeDecimal]
  unfold writeReal
  split
  · dsimp only
    split <;> simp [hunsigned]
  · simp

mutual

theorem hasNoControls_write (v : Json) : HasNoControls v.write := by
  cases v with
  | null | integer | real | text => simp [write]
  | bool b => cases b <;> simp [write]
  | array vs =>
    cases vs with
    | nil => simp [write]
    | cons v vs => simp [write, hasNoControls_write v, hasNoControls_writeItems vs]
  | object ms =>
    cases ms with
    | nil => simp [write]
    | cons m ms => simp [write, hasNoControls_write m.2, hasNoControls_writeMembers ms]

theorem hasNoControls_writeItems (vs : List Json) : HasNoControls (writeItems vs) := by
  cases vs with
  | nil => simp [writeItems]
  | cons v vs => simp [writeItems, hasNoControls_write v, hasNoControls_writeItems vs]

theorem hasNoControls_writeMembers (ms : List (String × Json)) :
    HasNoControls (writeMembers ms) := by
  cases ms with
  | nil => simp [writeMembers]
  | cons m ms => simp [writeMembers, hasNoControls_write m.2, hasNoControls_writeMembers ms]

end

/-- No byte of a character is a control character unless the character is one. -/
theorem HasNoControls.of_mem_encode (h : HasNoControls cs) {b : UInt8} (hb : b ∈ Utf8.encode cs) :
    0x20 ≤ b.toNat := by
  obtain ⟨c, hc, hb⟩ := List.mem_flatMap.mp hb
  have hvisible : 0x20 ≤ c.toNat := h c hc
  rcases Utf8.encodeChar_cases c with ⟨hascii, hc⟩ | ⟨-, hc⟩
  · rw [hc, List.mem_singleton] at hb
    rw [hb, UInt8.toNat_ofNat']
    omega
  · have hbeyond : ¬ b.toNat < 0x80 := hc b hb
    omega

/-! ### Bodies -/

theorem denotes_write (h : v.IsExact) : Denotes v.write v :=
  ⟨v.write, [], (List.append_nil _).symm, spells_write h, isBlank_of_mem_nil⟩

theorem isSentAs_toBytes_iff (h : v.IsExact) {w : Json} : w.IsSentAs v.toBytes ↔ w = v := by
  constructor
  · rintro ⟨cs, hcs, hw⟩
    have htext : v.write = cs := by
      rw [← Utf8.decode_encode v.write, ← Utf8.decode_encode cs, ← hcs, toBytes]
    exact hw.unique (htext ▸ denotes_write h)
  · rintro rfl
    exact ⟨w.write, rfl, denotes_write h⟩

end Json

/-- The body of a JSON answer stands for the value that was given and for no other, and it reads
back as that value. Different values have different bodies, and no byte of a body is a control
character. -/
theorem Response.json_body_exact {v : Json} (hv : v.IsExact) :
    (∀ w, Json.IsSentAs w (ofPayload (.json v)).body ↔ w = v) ∧
      Json.read (Utf8.decode (ofPayload (.json v)).body) = some v ∧
      (∀ w, w.IsExact → w ≠ v → (ofPayload (.json w)).body ≠ (ofPayload (.json v)).body) ∧
      ∀ b ∈ (ofPayload (.json v)).body, 0x20 ≤ b.toNat := by
  have hbody (w : Json) : (ofPayload (.json w)).body = w.toBytes := rfl
  simp only [hbody]
  refine ⟨fun w => Json.isSentAs_toBytes_iff hv, ?_, ?_, ?_⟩
  · rw [Json.toBytes, Utf8.decode_encode]
    exact Json.read_of_denotes (Json.denotes_write hv)
  · intro w hw hne heq
    exact hne ((Json.isSentAs_toBytes_iff hv).mp (heq ▸ (Json.isSentAs_toBytes_iff hw).mpr rfl))
  · intro b hb
    exact (Json.hasNoControls_write v).of_mem_encode hb

open Json in
/-- A value whose texts need escapes, with integers at both ends of their range and empty brackets
within others. -/
theorem Response.json_body_exact_awkward :
    let v := object [("a\"\\\n\x01é", array [text "\\u0041\\", integer (-9223372036854775808),
      integer 18446744073709551615, null, object [], bool true]), ("", array [])]
    v.IsExact ∧ Json.read (Utf8.decode (ofPayload (.json v)).body) = some v := by
  intro v
  have hitems : (array [text "\\u0041\\", integer (-9223372036854775808),
      integer 18446744073709551615, null, object [], bool true]).IsExact := by
    refine .array ?_
    simp only [List.forall_mem_cons]
    exact ⟨.text _, .integer (by decide), .integer (by decide), .null,
      .object .nil (List.forall_mem_nil _), .bool true, List.forall_mem_nil _⟩
  have hv : v.IsExact := by
    refine .object (by decide) ?_
    simp only [List.forall_mem_cons]
    exact ⟨hitems, .array (List.forall_mem_nil _), List.forall_mem_nil _⟩
  exact ⟨hv, (json_body_exact hv).2.1⟩

open Json in
example :
    (Response.ofPayload (.json (object [("\"\x01", array [text "\\u0041", integer (-1)])]))).body =
      Utf8.ofString "\x7b\"\\\"\\u0001\":[\"\\\\u0041\",-1]\x7d" := by decide

end Signpost
