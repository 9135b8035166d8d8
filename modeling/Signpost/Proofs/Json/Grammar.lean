import Mathlib.Data.List.TakeDrop
import Signpost.Json.Reader
import Signpost.Proofs.Number.Integer

/-!
# The grammar of JSON

`Denotes` is the grammar of whole texts: which value a text stands for, apart from any way to find
it. Blanks may stand before every token and at the end, a string may be spelled in many ways, and of
members with the same key the last one gives the value. The reader finds the value of every text
that has one (`read_of_denotes`), and therefore no text has two (`Denotes.unique`).
-/

namespace Signpost

/-! ### Digits -/

namespace Digits

variable {ds rest : List Char}

theorem IsNumeral.append_ne_cons (hds : IsNumeral ds) {c : Char} (hc : c.isDigit = false)
    (rest cs : List Char) : ds ++ rest ≠ c :: cs := by
  obtain ⟨hne, hds⟩ := hds
  cases ds with
  | nil => exact absurd rfl hne
  | cons d ds =>
    rintro heq
    have hd : d.isDigit = true := hds d List.mem_cons_self
    rw [(List.cons.inj heq).1, hc] at hd
    cases hd

theorem IsNumeral.span (hds : IsNumeral ds) (hrest : ∀ c ∈ rest.head?, c.isDigit = false) :
    (ds ++ rest).span Char.isDigit = (ds, rest) := by
  rw [List.span_eq_takeWhile_dropWhile, List.takeWhile_append_of_pos hds.2,
    List.dropWhile_append_of_pos hds.2]
  cases rest with
  | nil       => simp
  | cons c cs => simp [hrest c rfl]

theorem IsNumeral.readExponent_eq (hds : IsNumeral ds) (number : List Char → Nat) :
    Decimal.readExponent number ds = some (number ds : Int) := by
  have hall : ds ≠ [] ∧ ds.all Char.isDigit = true := ⟨hds.1, List.all_eq_true.mpr hds.2⟩
  have hsign {c : Char} (hc : c.isDigit = false) (cs : List Char) : ds ≠ c :: cs := by
    simpa using hds.append_ne_cons hc [] cs
  rw [Decimal.readExponent]
  · exact if_pos hall
  · exact hsign rfl
  · exact hsign rfl

theorem IsNumeral.readExponent_minus (hds : IsNumeral ds) (number : List Char → Nat) :
    Decimal.readExponent number ('-' :: ds) = some (-number ds : Int) :=
  if_pos ⟨hds.1, List.all_eq_true.mpr hds.2⟩

end Digits

namespace Json

open Digits (IsNumeral ofChars)

variable {n : Nat} {c : Char} {s cs ds bs rest : List Char}

/-! ### Blanks -/

def IsBlank (c : Char) : Prop :=
  c = ' ' ∨ c = '\n' ∨ c = '\r' ∨ c = '\t'

instance (c : Char) : Decidable (IsBlank c) :=
  inferInstanceAs (Decidable (_ ∨ _))

theorem skipBlanks_blank (hc : IsBlank c) : skipBlanks (c :: cs) = skipBlanks cs :=
  if_pos hc

theorem skipBlanks_of_not (hc : ¬ IsBlank c) : skipBlanks (c :: cs) = c :: cs :=
  if_neg hc

theorem skipBlanks_append (hbs : ∀ c ∈ bs, IsBlank c) :
    skipBlanks (bs ++ cs) = skipBlanks cs := by
  induction bs with
  | nil => rfl
  | cons b bs ih =>
    rw [List.forall_mem_cons] at hbs
    rw [List.cons_append, skipBlanks_blank hbs.1, ih hbs.2]

theorem skipBlanks_skipBlanks (cs : List Char) : skipBlanks (skipBlanks cs) = skipBlanks cs := by
  induction cs with
  | nil => rfl
  | cons c cs ih =>
    by_cases hc : IsBlank c
    · rw [skipBlanks_blank hc, ih]
    · rw [skipBlanks_of_not hc, skipBlanks_of_not hc]

/-! ### Strings -/

/-- The text between the quotes spells the characters `s`. -/
inductive SpellsChars : List Char → List Char → Prop
  | nil : SpellsChars [] []
  | plain {c : Char} {s cs : List Char} (hc : 0x20 ≤ c.toNat) (hquote : c ≠ '"')
      (hbackslash : c ≠ '\\') (h : SpellsChars s cs) : SpellsChars (c :: s) (c :: cs)
  | letter {c d : Char} {s cs : List Char} (hd : escaped? d = some c) (h : SpellsChars s cs) :
      SpellsChars (c :: s) ('\\' :: d :: cs)
  /-- Four hexadecimal digits are a character by themselves, … -/
  | unit {x₁ x₂ x₃ x₄ : Char} {u : Nat} {s cs : List Char} (hu : unit? x₁ x₂ x₃ x₄ = some u)
      (hsingle : u < 0xD800 ∨ 0xE000 ≤ u) (h : SpellsChars s cs) :
      SpellsChars (.ofNat u :: s) ('\\' :: 'u' :: x₁ :: x₂ :: x₃ :: x₄ :: cs)
  /-- … or the upper half of one, with the lower half behind it. -/
  | pair {x₁ x₂ x₃ x₄ y₁ y₂ y₃ y₄ : Char} {high low : Nat} {s cs : List Char}
      (hhigh : unit? x₁ x₂ x₃ x₄ = some (0xD800 + high)) (hhigh' : high < 0x400)
      (hlow : unit? y₁ y₂ y₃ y₄ = some (0xDC00 + low)) (hlow' : low < 0x400)
      (h : SpellsChars s cs) :
      SpellsChars (.ofNat (0x10000 + high * 0x400 + low) :: s)
        ('\\' :: 'u' :: x₁ :: x₂ :: x₃ :: x₄ :: '\\' :: 'u' :: y₁ :: y₂ :: y₃ :: y₄ :: cs)

theorem readString_of_spells (h : SpellsChars s cs) (rest : List Char) :
    readString (cs ++ '"' :: rest) = some (s, rest) := by
  induction h with
  | nil => rfl
  | plain hc hquote hbackslash _ ih =>
    rw [List.cons_append, readString, if_neg (Nat.not_lt.mpr hc), ih]
    · rfl
    · exact hquote
    · exact fun _ _ _ _ _ h => absurd h hbackslash
    · exact fun _ _ h => absurd h hbackslash
  | letter hd _ ih =>
    rw [List.cons_append, List.cons_append, readString, hd]
    · rw [ih]
      rfl
    · -- the letter of an escape with digits stands for nothing by itself
      rintro _ _ _ _ _ rfl
      cases hd
  | unit hu hsingle _ ih =>
    simp only [List.cons_append]
    rw [readString, hu]
    dsimp only
    rw [if_neg (by omega), if_neg (by omega), ih]
    rfl
  | pair hhigh hhigh' hlow hlow' _ ih =>
    simp only [List.cons_append]
    rw [readString, hhigh]
    dsimp only
    rw [if_pos (by omega)]
    simp only [hlow]
    rw [if_pos (by omega), Nat.add_sub_cancel_left, Nat.add_sub_cancel_left, ih]
    rfl

/-! ### Numbers -/

/-- The digits before the point: a zero stands in front of no others. -/
def IsWhole (ds : List Char) : Prop :=
  IsNumeral ds ∧ (ds.head? = some '0' → ds = ['0'])

inductive SpellsFraction : Option (List Char) → List Char → Prop
  | none : SpellsFraction none []
  | digits {ds : List Char} (hds : IsNumeral ds) : SpellsFraction (some ds) ('.' :: ds)

inductive SpellsPower : Option Int → List Char → Prop
  | none : SpellsPower none []
  | bare {mark : Char} {ds : List Char} (hmark : mark = 'e' ∨ mark = 'E') (hds : IsNumeral ds) :
      SpellsPower (some (ofChars ds)) (mark :: ds)
  | plus {mark : Char} {ds : List Char} (hmark : mark = 'e' ∨ mark = 'E') (hds : IsNumeral ds) :
      SpellsPower (some (ofChars ds)) (mark :: '+' :: ds)
  | minus {mark : Char} {ds : List Char} (hmark : mark = 'e' ∨ mark = 'E') (hds : IsNumeral ds) :
      SpellsPower (some (-ofChars ds)) (mark :: '-' :: ds)

inductive SpellsLiteral : Literal → List Char → Prop
  | positive {whole fs es : List Char} {fraction : Option (List Char)} {power : Option Int}
      (hwhole : IsWhole whole) (hfraction : SpellsFraction fraction fs)
      (hpower : SpellsPower power es) :
      SpellsLiteral ⟨false, whole, fraction, power⟩ (whole ++ (fs ++ es))
  | negative {whole fs es : List Char} {fraction : Option (List Char)} {power : Option Int}
      (hwhole : IsWhole whole) (hfraction : SpellsFraction fraction fs)
      (hpower : SpellsPower power es) :
      SpellsLiteral ⟨true, whole, fraction, power⟩ ('-' :: (whole ++ (fs ++ es)))

/-- No number goes on with this text. -/
def EndsNumber (rest : List Char) : Prop :=
  ∀ c ∈ rest.head?, c.isDigit = false ∧ c ≠ '.' ∧ c ≠ 'e' ∧ c ≠ 'E'

section

variable {fraction : Option (List Char)} {power : Option Int} {l : Literal}

theorem SpellsPower.head (h : SpellsPower power cs) (hrest : EndsNumber rest) :
    ∀ c ∈ (cs ++ rest).head?, c.isDigit = false ∧ c ≠ '.' := by
  have hmark {c : Char} (hc : c = 'e' ∨ c = 'E') : c.isDigit = false ∧ c ≠ '.' := by
    rcases hc with rfl | rfl <;> decide
  intro c hc
  cases h with
  | none     => exact ⟨(hrest c hc).1, (hrest c hc).2.1⟩
  | bare h _ | plus h _ | minus h _ => cases hc; exact hmark h

theorem SpellsFraction.head (h : SpellsFraction fraction cs)
    (hrest : ∀ c ∈ rest.head?, c.isDigit = false) :
    ∀ c ∈ (cs ++ rest).head?, c.isDigit = false := by
  intro c hc
  cases h with
  | none     => exact hrest c hc
  | digits _ => cases hc; rfl

theorem readFraction_of_spells (h : SpellsFraction fraction cs)
    (hrest : ∀ c ∈ rest.head?, c.isDigit = false ∧ c ≠ '.') :
    readFraction (cs ++ rest) = some (fraction, rest) := by
  cases h with
  | none =>
    rw [List.nil_append, readFraction]
    rintro cs rfl
    exact (hrest '.' rfl).2 rfl
  | digits hds =>
    rw [List.cons_append, readFraction, hds.span fun c hc => (hrest c hc).1]
    exact if_neg hds.1

theorem readPower_of_spells (h : SpellsPower power cs) (hrest : EndsNumber rest) :
    readPower (cs ++ rest) = some (power, rest) := by
  have hdigit : ∀ c ∈ rest.head?, c.isDigit = false := fun c hc => (hrest c hc).1
  cases h with
  | none =>
    cases rest with
    | nil       => rfl
    | cons c cs => exact if_neg (not_or.mpr (hrest c rfl).2.2)
  | bare hmark hds =>
    rw [List.cons_append, readPower, if_pos hmark]
    · simp only [hds.span hdigit, hds.readExponent_eq, List.nil_append, Option.map_some]
    · exact hds.append_ne_cons rfl rest
    · exact hds.append_ne_cons rfl rest
  | plus hmark hds =>
    simp only [List.cons_append, readPower, if_pos hmark, hds.span hdigit, hds.readExponent_eq,
      List.nil_append, Option.map_some]
  | minus hmark hds =>
    simp only [List.cons_append, readPower, if_pos hmark, hds.span hdigit, hds.readExponent_minus,
      List.nil_append, Option.map_some]

theorem readLiteral_of_readSign {negative : Bool} {text whole fs es : List Char}
    (hsign : readSign text = (negative, whole ++ (fs ++ (es ++ rest)))) (hwhole : IsWhole whole)
    (hfraction : SpellsFraction fraction fs) (hpower : SpellsPower power es)
    (hrest : EndsNumber rest) :
    readLiteral text = some (⟨negative, whole, fraction, power⟩, rest) := by
  have hspan := hwhole.1.span (hfraction.head fun c hc => (hpower.head hrest c hc).1)
  have hzero : ¬ (whole = [] ∨ whole.head? = some '0' ∧ whole ≠ ['0']) :=
    not_or.mpr ⟨hwhole.1.1, fun ⟨h, h'⟩ => h' (hwhole.2 h)⟩
  simp only [readLiteral, hsign, hspan, if_neg hzero,
    readFraction_of_spells hfraction (hpower.head hrest), readPower_of_spells hpower hrest,
    Option.bind_eq_bind, Option.bind_some]
  rfl

theorem readLiteral_of_spells (h : SpellsLiteral l cs) (hrest : EndsNumber rest) :
    readLiteral (cs ++ rest) = some (l, rest) := by
  cases h with
  | positive hwhole hfraction hpower =>
    refine readLiteral_of_readSign ?_ hwhole hfraction hpower hrest
    rw [List.append_assoc, List.append_assoc, readSign]
    exact hwhole.1.append_ne_cons rfl _
  | negative hwhole hfraction hpower =>
    refine readLiteral_of_readSign ?_ hwhole hfraction hpower hrest
    rw [List.cons_append, readSign, List.append_assoc, List.append_assoc]

theorem SpellsLiteral.cons (h : SpellsLiteral l cs) :
    ∃ d ds, cs = d :: ds ∧ (d = '-' ∨ d.isDigit = true) := by
  cases h with
  | @positive whole _ _ _ _ hwhole _ _ =>
    cases whole with
    | nil       => exact absurd rfl hwhole.1.1
    | cons d ds => exact ⟨d, _, rfl, .inr (hwhole.1.2 d List.mem_cons_self)⟩
  | negative _ _ _ => exact ⟨'-', _, rfl, .inl rfl⟩

end

/-! ### Values -/

/-- What a piece of text may spell. -/
inductive Phrase
  | value (v : Json)
  /-- The items behind the first one, to the end of the array. -/
  | items (vs : List Json)
  | member (m : String × Json)
  /-- The members behind the first one, to the end of the object. -/
  | members (ms : List (String × Json))

/-- The grammar, with blanks before every token. -/
inductive Spells : Phrase → List Char → Prop
  | blank {p : Phrase} {c : Char} {cs : List Char} (hc : IsBlank c) (h : Spells p cs) :
      Spells p (c :: cs)
  | null : Spells (.value .null) ['n', 'u', 'l', 'l']
  | true : Spells (.value (.bool true)) ['t', 'r', 'u', 'e']
  | false : Spells (.value (.bool false)) ['f', 'a', 'l', 's', 'e']
  | number {l : Literal} {v : Json} {cs : List Char} (hl : SpellsLiteral l cs)
      (hv : l.value = some v) : Spells (.value v) cs
  | text {s cs : List Char} (hs : SpellsChars s cs) :
      Spells (.value (.text (String.ofList s))) ('"' :: (cs ++ ['"']))
  | emptyArray {bs : List Char} (hbs : ∀ c ∈ bs, IsBlank c) :
      Spells (.value (.array [])) ('[' :: (bs ++ [']']))
  | array {v : Json} {vs : List Json} {cs ds : List Char} (hv : Spells (.value v) cs)
      (hvs : Spells (.items vs) ds) : Spells (.value (.array (v :: vs))) ('[' :: (cs ++ ds))
  | emptyObject {bs : List Char} (hbs : ∀ c ∈ bs, IsBlank c) :
      Spells (.value (.object [])) ('{' :: (bs ++ ['}']))
  | object {m : String × Json} {ms : List (String × Json)} {cs ds : List Char}
      (hm : Spells (.member m) cs) (hms : Spells (.members ms) ds) :
      Spells (.value (ofMembers (m :: ms))) ('{' :: (cs ++ ds))
  | lastItem : Spells (.items []) [']']
  | item {v : Json} {vs : List Json} {cs ds : List Char} (hv : Spells (.value v) cs)
      (hvs : Spells (.items vs) ds) : Spells (.items (v :: vs)) (',' :: (cs ++ ds))
  | member {k ks bs cs : List Char} {v : Json} (hk : SpellsChars k ks) (hbs : ∀ c ∈ bs, IsBlank c)
      (hv : Spells (.value v) cs) :
      Spells (.member (String.ofList k, v)) ('"' :: (ks ++ '"' :: (bs ++ ':' :: cs)))
  | lastMember : Spells (.members []) ['}']
  | nextMember {m : String × Json} {ms : List (String × Json)} {cs ds : List Char}
      (hm : Spells (.member m) cs) (hms : Spells (.members ms) ds) :
      Spells (.members (m :: ms)) (',' :: (cs ++ ds))

/-- The text stands for the value. -/
def Denotes (cs : List Char) (v : Json) : Prop :=
  ∃ text blanks, cs = text ++ blanks ∧ Spells (.value v) text ∧ ∀ c ∈ blanks, IsBlank c

/-! ### What the reader finds -/

/-- The reader of such phrases reads this one, and leaves `rest`. -/
def Phrase.ReadAs (n : Nat) (cs rest : List Char) : Phrase → Prop
  | value v    => readValue n cs = some (v, rest)
  | items vs   => readItems n cs = some (vs, rest)
  | member m   => readMember n cs = some (m, rest)
  | members ms => readMembers n cs = some (ms, rest)

theorem readValue_skipBlanks (n : Nat) (cs : List Char) :
    readValue n (skipBlanks cs) = readValue n cs := by
  cases n with
  | zero   => rfl
  | succ n => rw [readValue, readValue, skipBlanks_skipBlanks]

theorem readMember_skipBlanks (n : Nat) (cs : List Char) :
    readMember n (skipBlanks cs) = readMember n cs := by
  cases n with
  | zero   => rfl
  | succ n => rw [readMember, readMember, skipBlanks_skipBlanks]

theorem readAs_blank {p : Phrase} (hc : IsBlank c) :
    p.ReadAs n (c :: cs) rest ↔ p.ReadAs n cs rest := by
  cases n with
  | zero   => cases p <;> rfl
  | succ n =>
    cases p <;>
      simp only [Phrase.ReadAs, readValue, readItems, readMember, readMembers, skipBlanks_blank hc]

/-- A value starts with no closing bracket, so a bracket behind the opening one ends the array. -/
theorem readValue_bracket (n : Nat) (cs : List Char) : readValue n (']' :: cs) = none := by
  cases n <;> rfl

theorem readMember_bracket (n : Nat) (cs : List Char) : readMember n ('}' :: cs) = none := by
  cases n <;> rfl

theorem readValue_array {v : Json} (hv : readValue n cs = some (v, ds)) :
    readValue (n + 1) ('[' :: cs) =
      (readItems n ds).map fun (vs, cs) => (array (v :: vs), cs) := by
  have hopen : skipBlanks ('[' :: cs) = '[' :: cs := rfl
  rw [← readValue_skipBlanks] at hv
  simp only [readValue, hopen]
  split
  case h_1 heq =>
    rw [heq, readValue_bracket] at hv
    cases hv
  case h_2 => rw [hv]

theorem readValue_object {m : String × Json} (hm : readMember n cs = some (m, ds)) :
    readValue (n + 1) ('{' :: cs) =
      (readMembers n ds).map fun (ms, cs) => (ofMembers (m :: ms), cs) := by
  have hopen : skipBlanks ('{' :: cs) = '{' :: cs := rfl
  rw [← readMember_skipBlanks] at hm
  simp only [readValue, hopen]
  split
  case h_1 heq =>
    rw [heq, readMember_bracket] at hm
    cases hm
  case h_2 => rw [hm]

theorem readValue_number {d : Char} (hd : d = '-' ∨ d.isDigit = true) (n : Nat) (cs : List Char) :
    readValue (n + 1) (d :: cs) = readNumber (d :: cs) := by
  have hhead : ∀ c : Char, c ≠ '-' → c.isDigit = false → d ≠ c := by
    rintro _ hminus hdigit rfl
    rcases hd with hd | hd
    · exact hminus hd
    · rw [hdigit] at hd
      cases hd
  have hblank : ¬ IsBlank d := by
    rintro (rfl | rfl | rfl | rfl) <;> revert hd <;> decide
  rw [readValue, skipBlanks_of_not hblank]
  split
  case h_7 => rfl
  -- no other value starts like a number
  all_goals
    rename_i heq
    exact absurd (List.cons.inj heq).1 (hhead _ (by decide) rfl)

theorem endsNumber_cons (hc : c.isDigit = false ∧ c ≠ '.' ∧ c ≠ 'e' ∧ c ≠ 'E')
    (cs : List Char) : EndsNumber (c :: cs) := by
  rintro _ ⟨⟩
  exact hc

theorem endsNumber_blank (hc : IsBlank c) (cs : List Char) : EndsNumber (c :: cs) := by
  rcases hc with rfl | rfl | rfl | rfl <;> exact endsNumber_cons (by decide) cs

theorem endsNumber_items {vs : List Json} (h : Spells (.items vs) cs) (rest : List Char) :
    EndsNumber (cs ++ rest) := by
  cases h with
  | blank hc h => exact endsNumber_blank hc _
  | lastItem   => exact endsNumber_cons (by decide) _
  | item       => exact endsNumber_cons (by decide) _

theorem endsNumber_members {ms : List (String × Json)} (h : Spells (.members ms) cs)
    (rest : List Char) : EndsNumber (cs ++ rest) := by
  cases h with
  | blank hc h => exact endsNumber_blank hc _
  | lastMember => exact endsNumber_cons (by decide) _
  | nextMember => exact endsNumber_cons (by decide) _

theorem exists_fuel (hn : (c :: cs).length ≤ n) : ∃ m, n = m + 1 ∧ cs.length ≤ m := by
  rw [List.length_cons] at hn
  exact ⟨n - 1, by omega, by omega⟩

theorem exists_fuel_append (hn : (c :: (cs ++ ds)).length ≤ n) :
    ∃ m, n = m + 1 ∧ cs.length ≤ m ∧ ds.length ≤ m := by
  obtain ⟨m, rfl, hm⟩ := exists_fuel hn
  rw [List.length_append] at hm
  exact ⟨m, rfl, by omega, by omega⟩

/-- A phrase is read to its end and no further if no number goes on behind it. Each step takes at
least one character, so that as many steps as there are characters are enough. -/
theorem readAs_of_spells {p : Phrase} (h : Spells p cs) (hn : cs.length ≤ n)
    (hrest : EndsNumber rest) : p.ReadAs n (cs ++ rest) rest := by
  induction h generalizing n rest with
  | blank hc _ ih => exact (readAs_blank hc).mpr (ih (Nat.le_of_succ_le hn) hrest)
  | null | true | false | lastItem | lastMember =>
    obtain ⟨n, rfl, -⟩ := exists_fuel hn
    rfl
  | number hl hv =>
    have hread := readLiteral_of_spells hl hrest
    obtain ⟨d, ds, rfl, hd⟩ := hl.cons
    obtain ⟨n, rfl, -⟩ := exists_fuel hn
    rw [Phrase.ReadAs, List.cons_append, readValue_number hd, readNumber, ← List.cons_append, hread]
    simp only [Option.bind_eq_bind, Option.bind_some, hv]
    rfl
  | text hs =>
    obtain ⟨n, rfl, -⟩ := exists_fuel hn
    simp (disch := decide) only [Phrase.ReadAs, List.cons_append, List.append_assoc,
      List.nil_append, readValue, skipBlanks_of_not, readString_of_spells hs, Option.map_some]
  | emptyArray hbs | emptyObject hbs =>
    obtain ⟨n, rfl, -⟩ := exists_fuel hn
    simp (disch := decide) only [Phrase.ReadAs, List.cons_append, List.append_assoc,
      List.nil_append, readValue, skipBlanks_of_not, skipBlanks_append hbs]
  -- an item is followed by a comma or a bracket, and neither goes on with a number
  | @array v vs cs ds _ hvs ihv ihvs =>
    obtain ⟨n, rfl, hcs, hds⟩ := exists_fuel_append hn
    have hv : readValue n (cs ++ (ds ++ rest)) = some (v, ds ++ rest) :=
      ihv hcs (endsNumber_items hvs rest)
    have hvs : readItems n (ds ++ rest) = some (vs, rest) := ihvs hds hrest
    rw [Phrase.ReadAs, List.cons_append, List.append_assoc, readValue_array hv, hvs]
    rfl
  | @object m ms cs ds _ hms ihm ihms =>
    obtain ⟨n, rfl, hcs, hds⟩ := exists_fuel_append hn
    have hm : readMember n (cs ++ (ds ++ rest)) = some (m, ds ++ rest) :=
      ihm hcs (endsNumber_members hms rest)
    have hms : readMembers n (ds ++ rest) = some (ms, rest) := ihms hds hrest
    rw [Phrase.ReadAs, List.cons_append, List.append_assoc, readValue_object hm, hms]
    rfl
  | @item v vs cs ds _ hvs ihv ihvs =>
    obtain ⟨n, rfl, hcs, hds⟩ := exists_fuel_append hn
    have hv : readValue n (cs ++ (ds ++ rest)) = some (v, ds ++ rest) :=
      ihv hcs (endsNumber_items hvs rest)
    have hvs : readItems n (ds ++ rest) = some (vs, rest) := ihvs hds hrest
    simp (disch := decide) only [Phrase.ReadAs, List.cons_append, List.append_assoc, readItems,
      skipBlanks_of_not, hv, hvs, Option.map_some]
  | @nextMember m ms cs ds _ hms ihm ihms =>
    obtain ⟨n, rfl, hcs, hds⟩ := exists_fuel_append hn
    have hm : readMember n (cs ++ (ds ++ rest)) = some (m, ds ++ rest) :=
      ihm hcs (endsNumber_members hms rest)
    have hms : readMembers n (ds ++ rest) = some (ms, rest) := ihms hds hrest
    simp (disch := decide) only [Phrase.ReadAs, List.cons_append, List.append_assoc, readMembers,
      skipBlanks_of_not, hm, hms, Option.map_some]
  | @member k ks bs cs v hk hbs _ ih =>
    obtain ⟨n, rfl, hn'⟩ := exists_fuel hn
    simp only [List.length_append, List.length_cons] at hn'
    have hv : readValue n (cs ++ rest) = some (v, rest) := ih (by omega) hrest
    simp (disch := decide) only [Phrase.ReadAs, List.cons_append, List.append_assoc, readMember,
      skipBlanks_of_not, readString_of_spells hk, skipBlanks_append hbs, hv, Option.map_some]

theorem endsNumber_blanks (hbs : ∀ c ∈ bs, IsBlank c) : EndsNumber bs := by
  cases bs with
  | nil       => exact fun _ h => nomatch h
  | cons b bs => exact endsNumber_blank (hbs b List.mem_cons_self) bs

theorem read_of_denotes {v : Json} (h : Denotes cs v) : read cs = some v := by
  obtain ⟨text, blanks, rfl, htext, hblanks⟩ := h
  have hread : readValue (2 * (text ++ blanks).length + 1) (text ++ blanks) = some (v, blanks) := by
    refine readAs_of_spells htext ?_ (endsNumber_blanks hblanks)
    rw [List.length_append]
    omega
  have hend : skipBlanks (blanks ++ []) = skipBlanks [] := skipBlanks_append hblanks
  rw [List.append_nil] at hend
  rw [read, hread]
  exact if_pos hend

/-- A text stands for one value at most. -/
theorem Denotes.unique {v w : Json} (hv : Denotes cs v) (hw : Denotes cs w) : v = w :=
  Option.some.inj ((read_of_denotes hv).symm.trans (read_of_denotes hw))

end Json

end Signpost
