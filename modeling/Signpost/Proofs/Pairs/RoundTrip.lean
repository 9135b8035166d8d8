import Signpost.Pairs.Urlencoded
import Signpost.Proofs.Text.Pieces
import Signpost.Proofs.Text.Spelling
import Signpost.Proofs.Traversal

/-!
# Urlencoded pairs read back

Any urlencoded text for pairs is read as these pairs, in their order:
`Pairs.ofUrlencoded_of_spells`. Keys and values may be empty and keys may repeat. The text that
`Pairs.toUrlencoded` writes is one such text (`Pairs.spells_toUrlencoded`), and all of it is ASCII.
-/

namespace Signpost.Pairs

/-! ### Keys and values -/

/-- A plain byte stands for itself and a plus sign for a blank. -/
def Stands (b c : UInt8) : Prop :=
  isPlain b = true ∧ c = b ∨ b = blank ∧ c = plus

theorem isAscii_of_isPlain {b : UInt8} (h : isPlain b = true) : Utf8.IsAscii b := by
  simp only [isPlain, Bool.or_eq_true, Bool.and_eq_true, decide_eq_true_eq, beq_iff_eq] at h
  omega

/-- A key or a value as it may be sent. -/
abbrev SpellsComponent (s : String) (text : Bytes) : Prop :=
  Percent.Spells Stands (Utf8.ofString s) text

theorem readComponent_of_spells {s : String} {text : Bytes} (h : SpellsComponent s text) :
    readComponent text = s := by
  have hstands : ∀ b c, Stands b c → (if c = plus then blank else c) = b ∧ b ≠ Percent.mark := by
    rintro b c (⟨hb, rfl⟩ | ⟨rfl, rfl⟩)
    · have hplus : c ≠ plus := by rintro rfl; exact absurd hb (by decide)
      have hmark : c ≠ Percent.mark := by rintro rfl; exact absurd hb (by decide)
      exact ⟨if_neg hplus, hmark⟩
    · decide
  have hdigit : ∀ d, (Percent.digit? d).isSome = true → (if d = plus then blank else d) = d := by
    intro d hd
    have hplus : d ≠ plus := by rintro rfl; exact absurd hd (by decide)
    exact if_neg hplus
  rw [readComponent, Percent.decode_of_spells hstands (by decide) hdigit h, Utf8.toString_ofString]

/-- A byte that neither is plain nor belongs to an escape is in no key and no value. -/
theorem not_mem_component {s : String} {text : Bytes} (h : SpellsComponent s text) {sep : UInt8}
    (hplain : isPlain sep = false) (hplus : sep ≠ plus) (hmark : sep ≠ Percent.mark)
    (hdigit : Percent.digit? sep = none) : sep ∉ text := by
  intro hsep
  rcases h.of_mem hsep with ⟨b, ⟨hb, rfl⟩ | ⟨-, rfl⟩⟩ | hsep | hsep
  · simp [hb] at hplain
  · exact hplus rfl
  · exact hmark hsep
  · simp [hdigit] at hsep

theorem isAscii_component {s : String} {text : Bytes} (h : SpellsComponent s text) {c : UInt8}
    (hc : c ∈ text) : Utf8.IsAscii c := by
  rcases h.of_mem hc with ⟨b, ⟨hb, rfl⟩ | ⟨-, rfl⟩⟩ | rfl | hc
  · exact isAscii_of_isPlain hb
  · decide
  · decide
  · exact Percent.digit?_isAscii hc

/-! ### Pairs -/

/-- One pair as it may be sent. -/
def SpellsPair (p : String × String) (text : Bytes) : Prop :=
  ∃ key value, SpellsComponent p.1 key ∧ SpellsComponent p.2 value ∧ text = key ++ equals :: value

/-- The pairs as they may be sent, one after another. -/
def Spells (kv : Pairs) (text : Bytes) : Prop :=
  ∃ texts, List.Forall₂ SpellsPair kv.toList texts ∧ text = [ampersand].intercalate texts

variable {p : String × String} {kv : Pairs} {text : Bytes}

theorem readPair_of_spells (h : SpellsPair p text) : readPair text = p := by
  obtain ⟨key, value, hkey, hvalue, rfl⟩ := h
  have hequals : equals ∉ key :=
    not_mem_component hkey (by decide) (by decide) (by decide) (by decide)
  rw [readPair, Text.cutList_eq_some_iff.mpr ⟨rfl, hequals⟩]
  simp only [readComponent_of_spells hkey, readComponent_of_spells hvalue]

theorem ampersand_not_mem_of_spellsPair (h : SpellsPair p text) : ampersand ∉ text := by
  obtain ⟨key, value, hkey, hvalue, rfl⟩ := h
  have hkey' : ampersand ∉ key :=
    not_mem_component hkey (by decide) (by decide) (by decide) (by decide)
  have hvalue' : ampersand ∉ value :=
    not_mem_component hvalue (by decide) (by decide) (by decide) (by decide)
  have hequals : ampersand ≠ equals := by decide
  simp [hkey', hvalue', hequals]

/-- Even the empty pair has its equals sign. -/
theorem ne_nil_of_spellsPair (h : SpellsPair p text) : text ≠ [] := by
  obtain ⟨key, value, -, -, rfl⟩ := h
  simp

theorem isAscii_pair (h : SpellsPair p text) {c : UInt8} (hc : c ∈ text) : Utf8.IsAscii c := by
  obtain ⟨key, value, hkey, hvalue, rfl⟩ := h
  rcases List.mem_append.mp hc with hc | hc
  · exact isAscii_component hkey hc
  rcases List.mem_cons.mp hc with rfl | hc
  · decide
  · exact isAscii_component hvalue hc

/-- All of an urlencoded text is ASCII. -/
theorem isAscii_of_spells (h : kv.Spells text) {c : UInt8} (hc : c ∈ text) : Utf8.IsAscii c := by
  obtain ⟨texts, hall, rfl⟩ := h
  rcases Text.mem_intercalate hc with rfl | ⟨t, ht, hc⟩
  · decide
  · obtain ⟨p, -, hp⟩ := forall₂_exists_left hall ht
    exact isAscii_pair hp hc

theorem map_readPair_of_spells {ps : List (String × String)} {texts : List Bytes}
    (h : List.Forall₂ SpellsPair ps texts) : texts.map readPair = ps := by
  induction h with
  | nil => rfl
  | cons hp _ ih => rw [List.map_cons, readPair_of_spells hp, ih]

/-- Pairs are read from any text that spells them. -/
theorem ofUrlencoded_of_spells (h : kv.Spells text) : ofUrlencoded text = kv := by
  obtain ⟨texts, hall, rfl⟩ := h
  obtain ⟨ps⟩ := kv
  rw [ofUrlencoded]
  congr
  by_cases hne : texts = []
  · -- No pair is no text, and no text is one empty stretch, which is skipped.
    subst hne
    cases hall
    rfl
  · have hfree : ∀ t ∈ texts, ampersand ∉ t := by
      intro t ht
      obtain ⟨p, -, hp⟩ := forall₂_exists_left hall ht
      exact ampersand_not_mem_of_spellsPair hp
    have hfilled : ∀ t ∈ texts, decide (t ≠ []) = true := by
      intro t ht
      obtain ⟨p, -, hp⟩ := forall₂_exists_left hall ht
      exact decide_eq_true (ne_nil_of_spellsPair hp)
    rw [List.splitOn_intercalate ampersand hfree hne, List.filter_eq_self.mpr hfilled,
      map_readPair_of_spells hall]

/-! ### What is written -/

theorem spells_writeByte (b : UInt8) : Percent.Spells Stands [b] (writeByte b) := by
  unfold writeByte
  split
  · rename_i hb
    exact .short (.inl ⟨hb, rfl⟩) .nil
  split
  · rename_i hb
    exact .short (.inr ⟨hb, rfl⟩) .nil
  · exact Percent.spells_escape b

theorem spells_writeComponent (s : String) : SpellsComponent s (writeComponent s) :=
  Percent.spells_flatMap spells_writeByte _

theorem spells_writePair (p : String × String) : SpellsPair p (writePair p) :=
  ⟨_, _, spells_writeComponent p.1, spells_writeComponent p.2, rfl⟩

theorem spells_toUrlencoded (kv : Pairs) : kv.Spells kv.toUrlencoded := by
  refine ⟨kv.toList.map writePair, ?_, rfl⟩
  rw [List.forall₂_map_right_iff]
  exact List.forall₂_same.mpr fun p _ => spells_writePair p

theorem ofUrlencoded_toUrlencoded (kv : Pairs) : ofUrlencoded kv.toUrlencoded = kv :=
  ofUrlencoded_of_spells (spells_toUrlencoded kv)

/-- What is written can be sent as a string. -/
theorem ofString_toString_toUrlencoded (kv : Pairs) :
    Utf8.ofString (Utf8.toString kv.toUrlencoded) = kv.toUrlencoded :=
  Utf8.ofString_toString fun _ hb => isAscii_of_spells (spells_toUrlencoded kv) hb

end Signpost.Pairs
