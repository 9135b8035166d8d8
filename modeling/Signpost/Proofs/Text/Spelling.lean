import Signpost.Text.Percent

/-!
# Spellings

A text spells bytes if each of them is written as an escape, with digits in either case, or as a
byte that stands for it. Which byte may stand for which is up to the format; whatever it is,
`Percent.decode` reads the bytes back once the stand-ins have been replaced (`decode_of_spells`). A
spelling in ASCII can be sent as a string (`Utf8.ofString_toString`).
-/

namespace Signpost

/-! ### Text in ASCII -/

namespace Utf8

/-- A byte of ASCII is a character. -/
abbrev IsAscii (b : UInt8) : Prop :=
  b.toNat < 0x80

theorem decodeFrom_ascii {b : UInt8} (hb : IsAscii b) (bs : Bytes) :
    decodeFrom .start (b :: bs) = Char.ofNat b.toNat :: decodeFrom .start bs := by
  simp [decodeFrom_cons, step, begin, hb]

theorem encodeChar_ascii {b : UInt8} (hb : IsAscii b) : encodeChar (Char.ofNat b.toNat) = [b] := by
  have hvalid : b.toNat.isValidChar := .inl (by omega)
  have hn : (Char.ofNat b.toNat).toNat = b.toNat := by
    rw [Char.ofNat, dif_pos hvalid]
    rfl
  simp [encodeChar, hn, hb]

/-- A character of ASCII is one byte, and any other is written in bytes beyond ASCII. -/
theorem encodeChar_cases (c : Char) :
    (c.toNat < 0x80 ∧ encodeChar c = [.ofNat c.toNat]) ∨
      encodeChar c ≠ [] ∧ ∀ b ∈ encodeChar c, ¬ IsAscii b := by
  have hc : c.toNat < 0xD800 ∨ 0xDFFF < c.toNat ∧ c.toNat < 0x110000 := c.valid
  have hbyte : ∀ n, 0x80 ≤ n → n < 0x100 → ¬ IsAscii (.ofNat n) := by
    intro n _ _
    simp only [IsAscii, UInt8.toNat_ofNat']
    omega
  unfold encodeChar
  generalize c.toNat = n at hc
  dsimp only
  split
  case isTrue h => exact .inl ⟨h, rfl⟩
  case isFalse h =>
    right
    split
    · simp only [ne_eq, reduceCtorEq, not_false_eq_true, true_and, List.mem_cons,
        List.not_mem_nil, or_false, forall_eq_or_imp, forall_eq]
      exact ⟨hbyte _ (by omega) (by omega), hbyte _ (by omega) (by omega)⟩
    split
    · simp only [ne_eq, reduceCtorEq, not_false_eq_true, true_and, List.mem_cons,
        List.not_mem_nil, or_false, forall_eq_or_imp, forall_eq]
      exact ⟨hbyte _ (by omega) (by omega), hbyte _ (by omega) (by omega),
        hbyte _ (by omega) (by omega)⟩
    · simp only [ne_eq, reduceCtorEq, not_false_eq_true, true_and, List.mem_cons,
        List.not_mem_nil, or_false, forall_eq_or_imp, forall_eq]
      exact ⟨hbyte _ (by omega) (by omega), hbyte _ (by omega) (by omega),
        hbyte _ (by omega) (by omega), hbyte _ (by omega) (by omega)⟩

theorem encode_decode_ascii {bs : Bytes} (h : ∀ b ∈ bs, IsAscii b) : encode (decode bs) = bs := by
  induction bs with
  | nil => rfl
  | cons b bs ih =>
    have hb : IsAscii b := h b List.mem_cons_self
    have hrest : encode (decode bs) = bs := ih fun c hc => h c (List.mem_cons_of_mem b hc)
    rw [decode, decodeFrom_ascii hb, encode_cons, encodeChar_ascii hb, ← decode, hrest]
    rfl

/-- Bytes of ASCII are the bytes of the string that they spell. -/
theorem ofString_toString {bs : Bytes} (h : ∀ b ∈ bs, IsAscii b) : ofString (toString bs) = bs := by
  simp [ofString, toString, encode_decode_ascii h]

/-- A character of ASCII is found among the bytes of a string that holds it. -/
theorem mem_ofString {c : Char} (hc : c.toNat < 0x80) {s : String} (h : c ∈ s.toList) :
    .ofNat c.toNat ∈ ofString s := by
  refine List.mem_flatMap.mpr ⟨c, h, ?_⟩
  simp [encodeChar, hc]

end Utf8

/-! ### Spellings -/

namespace Percent

/-- `text` spells `bs`, with bytes that stand for others where `stands` allows it and with escapes
everywhere else. -/
inductive Spells (stands : UInt8 → UInt8 → Prop) : Bytes → Bytes → Prop
  | nil : Spells stands [] []
  | short {b c : UInt8} {bs text : Bytes} (hc : stands b c) (h : Spells stands bs text) :
      Spells stands (b :: bs) (c :: text)
  | escape {b high low : UInt8} {bs text : Bytes} (hhigh : digit? high = some (b.toNat / 16))
      (hlow : digit? low = some (b.toNat % 16)) (h : Spells stands bs text) :
      Spells stands (b :: bs) (mark :: high :: low :: text)

variable {stands : UInt8 → UInt8 → Prop} {bs text : Bytes}

/-- A spelling reads back if the stand-ins are replaced first, the marks and digits of the escapes
stay, and no mark is left without its escape. -/
theorem decode_of_spells {replace : UInt8 → UInt8}
    (hstands : ∀ b c, stands b c → replace c = b ∧ b ≠ mark) (hmark : replace mark = mark)
    (hdigit : ∀ d, (digit? d).isSome = true → replace d = d) (h : Spells stands bs text) :
    decode (text.map replace) = bs := by
  induction h with
  | nil => rfl
  | short hc _ ih =>
    obtain ⟨hreplace, hb⟩ := hstands _ _ hc
    rw [List.map_cons, hreplace, decode_cons hb, ih]
  | @escape b high low _ _ hhigh hlow _ ih =>
    have hhigh' : replace high = high := hdigit high (by simp [hhigh])
    have hlow' : replace low = low := hdigit low (by simp [hlow])
    rw [List.map_cons, List.map_cons, List.map_cons, hmark, hhigh', hlow',
      decode_mark hhigh hlow, ih, Nat.div_add_mod' b.toNat 16, UInt8.ofNat_toNat]

/-- Each byte of a spelling stands for another or belongs to an escape. -/
theorem Spells.of_mem (h : Spells stands bs text) {c : UInt8} (hc : c ∈ text) :
    (∃ b, stands b c) ∨ c = mark ∨ (digit? c).isSome = true := by
  induction h with
  | nil => exact absurd hc List.not_mem_nil
  | @short b _ _ _ hstands _ ih =>
    rcases List.mem_cons.mp hc with rfl | hc
    · exact .inl ⟨b, hstands⟩
    · exact ih hc
  | escape hhigh hlow _ ih =>
    rcases List.mem_cons.mp hc with rfl | hc
    · exact .inr (.inl rfl)
    rcases List.mem_cons.mp hc with rfl | hc
    · exact .inr (.inr (by simp [hhigh]))
    rcases List.mem_cons.mp hc with rfl | hc
    · exact .inr (.inr (by simp [hlow]))
    · exact ih hc

theorem Spells.mono {stands' : UInt8 → UInt8 → Prop} (h : Spells stands bs text)
    (hstands : ∀ b c, stands b c → stands' b c) : Spells stands' bs text := by
  induction h with
  | nil                     => exact .nil
  | short hc _ ih           => exact .short (hstands _ _ hc) ih
  | escape hhigh hlow _ ih  => exact .escape hhigh hlow ih

theorem Spells.append {bs' text' : Bytes} (h : Spells stands bs text)
    (h' : Spells stands bs' text') : Spells stands (bs ++ bs') (text ++ text') := by
  induction h with
  | nil => exact h'
  | short hc _ ih => exact .short hc ih
  | escape hhigh hlow _ ih => exact .escape hhigh hlow ih

theorem spells_escape (b : UInt8) : Spells stands [b] (escape b) := by
  have hb := b.toNat_lt
  exact .escape (digit?_capital _ (by omega)) (digit?_capital _ (by omega)) .nil

/-- What is written byte by byte is a spelling if each byte is. -/
theorem spells_flatMap {write : UInt8 → Bytes} (h : ∀ b, Spells stands [b] (write b)) (bs : Bytes) :
    Spells stands bs (bs.flatMap write) := by
  induction bs with
  | nil => exact .nil
  | cons b bs ih => exact (h b).append ih

theorem digit?_isAscii {d : UInt8} (h : (digit? d).isSome = true) : Utf8.IsAscii d := by
  unfold digit? at h
  grind

end Percent

end Signpost
