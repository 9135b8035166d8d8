import Mathlib.Data.List.Infix
import Signpost.Proofs.Text.Spelling
import Signpost.Transport

/-!
# Paths are decoded once

Reading a path undoes one way of writing it, whichever bytes were escaped and in whichever case the
digits are, if only every percent sign was. Nothing else is read: a text in which no percent sign is
followed by two digits stays as it is. Both are said in `Transport.readPath_exact`.
-/

namespace Signpost

namespace Percent

variable {bs : Bytes}

/-! ### Marks that begin no escape -/

/-- A byte that no two digits follow stays, even if it is a mark. -/
theorem decode_cons_of_no_digits (h : ∀ high low after, bs = high :: low :: after →
    ¬ ((digit? high).isSome = true ∧ (digit? low).isSome = true)) (b : UInt8) :
    decode (b :: bs) = b :: decode bs := by
  match bs with
  | [] => rfl
  | [_] => rfl
  | high :: low :: after =>
    have hdigits := h high low after rfl
    cases hhigh : digit? high with
    | none => simp [decode, hhigh]
    | some m =>
      cases hlow : digit? low with
      | none   => simp [decode, hhigh, hlow]
      | some n => simp [hhigh, hlow] at hdigits

theorem decode_append_of_no_mark (h : mark ∉ bs) (rest : Bytes) :
    decode (bs ++ rest) = bs ++ decode rest := by
  induction bs with
  | nil => rfl
  | cons b bs ih =>
    simp only [List.mem_cons, not_or] at h
    rw [List.cons_append, decode_cons (Ne.symm h.1), ih h.2, List.cons_append]

/-! ### Texts without escapes -/

/-- The hexadecimal digits, with letters in either case. -/
def hexDigits : List Char :=
  "0123456789abcdefABCDEF".toList

/-- Somewhere in the text a percent sign is followed by two hexadecimal digits. -/
def HasEscape (cs : List Char) : Prop :=
  ∃ high ∈ hexDigits, ∃ low ∈ hexDigits, ['%', high, low] <:+: cs
deriving Decidable

theorem mem_hexDigits_of_digit? : ∀ n < 0x80, (digit? (.ofNat n)).isSome = true →
    Char.ofNat n ∈ hexDigits := by
  decide +kernel

/-- Where bytes begin with one of a digit, the text begins with the digit. -/
theorem exists_mem_hexDigits {cs : List Char} {d : UInt8} (h : Utf8.encode cs = d :: bs)
    (hd : (digit? d).isSome = true) :
    ∃ c rest, cs = c :: rest ∧ c ∈ hexDigits ∧ Utf8.encode rest = bs := by
  cases cs with
  | nil => simp at h
  | cons c rest =>
    rw [Utf8.encode_cons] at h
    rcases Utf8.encodeChar_cases c with ⟨hc, hbyte⟩ | ⟨hne, hbytes⟩
    · rw [hbyte, List.singleton_append, List.cons.injEq] at h
      obtain ⟨rfl, hrest⟩ := h
      have hdigit := mem_hexDigits_of_digit? c.toNat hc hd
      rw [Char.ofNat_toNat] at hdigit
      exact ⟨c, rest, rfl, hdigit, hrest⟩
    · obtain ⟨b, tail, hchar⟩ := List.exists_cons_of_ne_nil hne
      rw [hchar, List.cons_append, List.cons.injEq] at h
      exact absurd (digit?_isAscii hd) (hbytes d (by simp [hchar, h.1]))

theorem mark_not_mem_encodeChar {c : Char} (hc : c ≠ '%') : mark ∉ Utf8.encodeChar c := by
  intro hmem
  rcases Utf8.encodeChar_cases c with ⟨hascii, hbyte⟩ | ⟨-, hbytes⟩
  · rw [hbyte, List.mem_singleton] at hmem
    have hn : '%'.toNat = c.toNat % 2 ^ 8 := by
      rw [← UInt8.toNat_ofNat', ← hmem]
      rfl
    rw [Nat.mod_eq_of_lt (by omega)] at hn
    exact hc (Char.toNat_inj.mp hn.symm)
  · exact hbytes mark hmem (by decide)

theorem decode_encode_of_not_hasEscape {cs : List Char} (h : ¬ HasEscape cs) :
    decode (Utf8.encode cs) = Utf8.encode cs := by
  induction cs with
  | nil => rfl
  | cons c cs ih =>
    have htail : ¬ HasEscape cs := by
      rintro ⟨high, hhigh, low, hlow, hinfix⟩
      exact h ⟨high, hhigh, low, hlow, List.infix_cons hinfix⟩
    rw [Utf8.encode_cons]
    by_cases hc : c = '%'
    · subst hc
      refine (decode_cons_of_no_digits ?_ mark).trans (congrArg _ (ih htail))
      rintro high low after hbytes ⟨hhigh, hlow⟩
      obtain ⟨c, rest, rfl, hc, hrest⟩ := exists_mem_hexDigits hbytes hhigh
      obtain ⟨d, rest, rfl, hd, -⟩ := exists_mem_hexDigits hrest hlow
      exact h ⟨c, hc, d, hd, [], rest, rfl⟩
    · rw [decode_append_of_no_mark (mark_not_mem_encodeChar hc), ih htail]

/-! ### Texts of paths -/

/-- A byte that is no mark may be written as it is. -/
def StandsForItself (b c : UInt8) : Prop :=
  b ≠ mark ∧ c = b

end Percent

namespace Transport

variable {path text : String}

theorem readPath_of_spells
    (h : Percent.Spells Percent.StandsForItself (Utf8.ofString path) (Utf8.ofString text)) :
    readPath text = path := by
  have hstands : ∀ b c, Percent.StandsForItself b c → c = b ∧ b ≠ Percent.mark :=
    fun b c hc => ⟨hc.2, hc.1⟩
  have hdecode : Percent.decode ((Utf8.ofString text).map id) = Utf8.ofString path :=
    Percent.decode_of_spells hstands rfl (fun _ _ => rfl) h
  rw [List.map_id] at hdecode
  rw [readPath, hdecode, Utf8.toString_ofString]

theorem readPath_of_not_hasEscape (h : ¬ Percent.HasEscape text.toList) :
    readPath text = text := by
  rw [readPath, Utf8.ofString, Percent.decode_encode_of_not_hasEscape h]
  exact Utf8.toString_ofString text

/-- Every way of writing a path with all its percent signs escaped, and any other bytes too, is read
as that path. A text without an escape is read as itself. -/
theorem readPath_exact :
    (∀ path text : String,
        Percent.Spells Percent.StandsForItself (Utf8.ofString path) (Utf8.ofString text) →
          readPath text = path) ∧
      ∀ text : String, ¬ Percent.HasEscape text.toList → readPath text = text :=
  ⟨fun _ _ => readPath_of_spells, fun _ => readPath_of_not_hasEscape⟩

/-- A path that looks like an escape itself, with a letter whose bytes are escaped in digits of
either case, and signs that begin no escape, the last one cut off at the end. -/
theorem readPath_exact_once :
    Percent.Spells Percent.StandsForItself (Utf8.ofString "%41é+") (Utf8.ofString "%2541%c3%A9+") ∧
      readPath "%2541%c3%A9+" = "%41é+" ∧ ¬ Percent.HasEscape "%%z+%4".toList ∧
      readPath "%%z+%4" = "%%z+%4" := by
  obtain ⟨hundoes, hkeeps⟩ := readPath_exact
  have hbytes : Utf8.ofString "%41é+" = [0x25, 0x34, 0x31, 0xC3, 0xA9, 0x2B] := by decide +kernel
  have htext : Utf8.ofString "%2541%c3%A9+" =
      [0x25, 0x32, 0x35, 0x34, 0x31, 0x25, 0x63, 0x33, 0x25, 0x41, 0x39, 0x2B] := by
    decide +kernel
  have hitself : ∀ b, b ≠ Percent.mark → Percent.StandsForItself b b := fun _ hb => ⟨hb, rfl⟩
  have hspells :
      Percent.Spells Percent.StandsForItself (Utf8.ofString "%41é+")
        (Utf8.ofString "%2541%c3%A9+") := by
    rw [hbytes, htext]
    exact .escape rfl rfl <| .short (hitself _ (by decide)) <| .short (hitself _ (by decide)) <|
      .escape rfl rfl <| .escape rfl rfl <| .short (hitself _ (by decide)) .nil
  have hno : ¬ Percent.HasEscape "%%z+%4".toList := by
    rintro ⟨high, hhigh, low, -, hinfix⟩
    have hplaces : high = '%' ∧ low = 'z' ∨ high = 'z' ∧ low = '+' := by
      simpa [List.infix_cons_iff] using hinfix
    rcases hplaces with ⟨rfl, -⟩ | ⟨rfl, -⟩
    · exact absurd hhigh (by decide)
    · exact absurd hhigh (by decide)
  exact ⟨hspells, hundoes _ _ hspells, hno, hkeeps _ hno⟩

end Transport

end Signpost
