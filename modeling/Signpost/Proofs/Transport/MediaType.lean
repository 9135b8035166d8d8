import Mathlib.Data.List.DropRight
import Signpost.Proofs.Transport.Decoding

/-!
# Which bodies are read as forms

A content type names the type of a form if that is what stands before its first semicolon, blanks
around it aside and in letters of either case. A body is read as a form if its content type begins
with the name, letter by letter. The two agree on most content types, and `Transport.form_of_prefix`
says on which they do not: a name in other letters is overlooked, and so is one with blanks before
it; a name that only begins like that of a form is taken for it.
-/

namespace Signpost

/-! ### Media types -/

namespace HeaderValue

/-- A blank or a tab. -/
def isBlank (b : UInt8) : Bool :=
  b == 0x20 || b == 0x09

abbrev semicolon : UInt8 := 0x3B

/-- The byte with a capital letter of ASCII made small. -/
def toLower (b : UInt8) : UInt8 :=
  if 0x41 ≤ b.toNat ∧ b.toNat ≤ 0x5A then b + 0x20 else b

/-- What stands before the first semicolon, without the blanks around it and in small letters. -/
def mediaType (v : HeaderValue) : Bytes :=
  (((v.bytes.takeWhile (· ≠ semicolon)).dropWhile isBlank).rdropWhile isBlank).map toLower

end HeaderValue

open HeaderValue (isBlank semicolon toLower)

namespace Transport

variable {v : HeaderValue} {lead name rest : Bytes}

/-- The type of a form has no capital letters, blanks or semicolons. -/
theorem toLower_not_mem_formType :
    ∀ b, isBlank b = true ∨ b = semicolon → toLower b ∉ formType := by
  have hblank : toLower 0x20 ∉ formType ∧ toLower 0x09 ∉ formType := by decide +kernel
  rintro b (hb | rfl)
  · simp only [isBlank, Bool.or_eq_true, beq_iff_eq] at hb
    rcases hb with rfl | rfl
    · exact hblank.1
    · exact hblank.2
  · decide +kernel

theorem plain_of_mem_name (hname : name.map toLower = formType) {b : UInt8} (hb : b ∈ name) :
    isBlank b = false ∧ b ≠ semicolon := by
  have hmem : toLower b ∈ formType := hname ▸ List.mem_map_of_mem hb
  have hplain := mt (toLower_not_mem_formType b) (not_not.mpr hmem)
  simpa only [not_or, Bool.not_eq_true] using hplain

theorem ne_semicolon {b : UInt8} (hb : isBlank b = true) : b ≠ semicolon := by
  rintro rfl
  exact absurd hb (by decide)

/-- Blanks around a name are dropped, and all of the name stays. -/
theorem trim_name {trail : Bytes} (hlead : ∀ b ∈ lead, isBlank b = true)
    (hname : name.map toLower = formType) (htrail : ∀ b ∈ trail, isBlank b = true) :
    ((lead ++ name ++ trail).dropWhile isBlank).rdropWhile isBlank = name := by
  have hne : name ≠ [] := by
    rintro rfl
    exact absurd hname (by decide +kernel)
  have hfront : (lead ++ name ++ trail).dropWhile isBlank = name ++ trail := by
    rw [List.append_assoc, List.dropWhile_append_of_pos hlead]
    obtain ⟨b, bs, rfl⟩ := List.exists_cons_of_ne_nil hne
    exact List.dropWhile_cons_of_neg (by simp [(plain_of_mem_name hname List.mem_cons_self).1])
  have hback : (name ++ trail).rdropWhile isBlank = name.rdropWhile isBlank := by
    rw [List.rdropWhile, List.reverse_append,
      List.dropWhile_append_of_pos fun b hb => htrail b (List.mem_reverse.mp hb), List.rdropWhile]
  rw [hfront, hback, List.rdropWhile_eq_self_iff]
  intro hne
  simp [(plain_of_mem_name hname (List.getLast_mem hne)).1]

/-- A content type names the type of a form if it is the name of one, between blanks and followed by
a semicolon if by anything. -/
theorem mediaType_eq_formType_iff :
    v.mediaType = formType ↔ ∃ lead name rest, v.bytes = lead ++ name ++ rest ∧
      (∀ b ∈ lead, isBlank b = true) ∧ name.map toLower = formType ∧
        ∀ b ∈ rest.takeWhile (· ≠ semicolon), isBlank b = true := by
  constructor
  · intro h
    let front := v.bytes.takeWhile (· ≠ semicolon)
    let behind := front.dropWhile isBlank
    let parameters := v.bytes.dropWhile (· ≠ semicolon)
    have hbytes : v.bytes = front.takeWhile isBlank ++ behind.rdropWhile isBlank ++
        (behind.rtakeWhile isBlank ++ parameters) := by
      rw [← List.append_assoc, List.append_assoc _ _ (behind.rtakeWhile isBlank),
        List.rdropWhile_append_rtakeWhile, List.takeWhile_append_dropWhile,
        List.takeWhile_append_dropWhile]
    have htrail : ∀ b ∈ behind.rtakeWhile isBlank, isBlank b = true :=
      fun _ hb => List.mem_rtakeWhile_imp hb
    have hparameters : parameters.takeWhile (· ≠ semicolon) = [] :=
      List.takeWhile_eq_nil_iff.mpr (List.dropWhile_get_zero_not _ _)
    refine ⟨_, _, _, hbytes, fun _ hb => List.mem_takeWhile_imp hb, h, ?_⟩
    rw [List.takeWhile_append_of_pos fun b hb => by simp [ne_semicolon (htrail b hb)],
      hparameters, List.append_nil]
    exact htrail
  · rintro ⟨lead, name, rest, hbytes, hlead, hname, hrest⟩
    have hplain : ∀ b ∈ lead ++ name, (b ≠ semicolon : Bool) = true := by
      intro b hb
      rcases List.mem_append.mp hb with hb | hb
      · simp [ne_semicolon (hlead b hb)]
      · simp [(plain_of_mem_name hname hb).2]
    rw [HeaderValue.mediaType, hbytes, List.takeWhile_append_of_pos hplain,
      trim_name hlead hname hrest, hname]

/-- A name that stands behind blanks and begins with the type of a form has no blanks before it, and
is in small letters. -/
theorem name_of_prefix {rest' : Bytes} (h : formType ++ rest' = lead ++ name ++ rest)
    (hlead : ∀ b ∈ lead, isBlank b = true) (hname : name.map toLower = formType) :
    lead = [] ∧ name = formType ∧ rest = rest' := by
  have hnil : lead = [] := by
    cases lead with
    | nil => rfl
    | cons b lead =>
      have hfirst : formType.head? = some 0x61 := by decide +kernel
      have hb : (formType ++ rest').head? = some b := congrArg List.head? h
      rw [List.head?_append, hfirst, Option.some_or, Option.some.injEq] at hb
      subst hb
      exact absurd (hlead 0x61 List.mem_cons_self) (by decide)
  subst hnil
  have hlength : formType.length = name.length := by rw [← hname, List.length_map]
  obtain ⟨hname, hrest⟩ := List.append_inj h hlength
  exact ⟨rfl, hname.symm, hrest.symm⟩

/-- A content type that begins with the type of a form names it if no more than blanks follow before
the first semicolon. -/
theorem mediaType_of_prefix (h : v.bytes = formType ++ rest) :
    v.mediaType = formType ↔ ∀ b ∈ rest.takeWhile (· ≠ semicolon), isBlank b = true := by
  rw [mediaType_eq_formType_iff]
  constructor
  · rintro ⟨lead, name, rest', hbytes, hlead, hname, hrest'⟩
    obtain ⟨-, -, rfl⟩ := name_of_prefix (h.symm.trans hbytes) hlead hname
    exact hrest'
  · intro hrest
    exact ⟨[], formType, rest, h, by simp, by decide +kernel, hrest⟩

/-- A content type that names the type of a form begins with it only if there is no blank before the
name and no capital letter in it. -/
theorem prefix_of_mediaType (h : v.mediaType = formType) :
    ∃ lead name rest, v.bytes = lead ++ name ++ rest ∧ (∀ b ∈ lead, isBlank b = true) ∧
      name.map toLower = formType ∧
        (formType <+: v.bytes ↔ lead = [] ∧ name = formType) := by
  obtain ⟨lead, name, rest, hbytes, hlead, hname, -⟩ := mediaType_eq_formType_iff.mp h
  refine ⟨lead, name, rest, hbytes, hlead, hname, ?_⟩
  constructor
  · rintro ⟨rest', hrest'⟩
    obtain ⟨hnil, hname, -⟩ := name_of_prefix (hrest'.trans hbytes) hlead hname
    exact ⟨hnil, hname⟩
  · rintro ⟨rfl, rfl⟩
    exact ⟨rest, hbytes.symm⟩

/-! ### Forms -/

theorem isForm_iff_prefix {headers : Headers} (hv : headers.get? .contentType = some v)
    (hvisible : v.bytes.all HeaderValue.isVisible = true) :
    isForm headers = true ↔ formType <+: v.bytes := by
  simp only [isForm, hv, hvisible, Bool.true_and, List.isPrefixOf_iff_prefix]

variable {i : Incoming} {limit : Nat} {body : Bytes}

/-- A body is read as a form if its content type begins with the type of one, and has an empty form
otherwise. A content type that begins so names the form type only if it goes on in nothing but
blanks up to its first semicolon; one that names the form type begins so only if the name is in
small letters and comes first. -/
theorem form_of_prefix (hv : i.headers.get? .contentType = some v)
    (hvisible : v.bytes.all HeaderValue.isVisible = true) (hbody : i.body = .complete body)
    (hlimit : body.length ≤ limit) :
    ∃ request, i.decode limit = .ok request ∧
      (formType <+: v.bytes → request.form = .ofUrlencoded body) ∧
      (¬ formType <+: v.bytes → request.form = .empty) ∧
      (∀ rest, v.bytes = formType ++ rest →
        (v.mediaType = formType ↔ ∀ b ∈ rest.takeWhile (· ≠ semicolon), isBlank b = true)) ∧
      (v.mediaType = formType →
        ∃ lead name rest, v.bytes = lead ++ name ++ rest ∧ (∀ b ∈ lead, isBlank b = true) ∧
          name.map toLower = formType ∧
            (formType <+: v.bytes ↔ lead = [] ∧ name = formType)) := by
  have hform := isForm_iff_prefix hv hvisible
  refine ⟨_, decode_of_complete hbody hlimit, ?_, ?_, fun rest h => mediaType_of_prefix h,
    prefix_of_mediaType⟩
  · intro hprefix
    exact request_form (hform.mpr hprefix)
  · intro hprefix
    simp [Incoming.request, mt hform.mp hprefix]

/-- A name in small letters, blanks and a parameter. -/
theorem form_of_prefix_charset :
    let v : HeaderValue :=
      ⟨Utf8.ofString "application/x-www-form-urlencoded\t ;charset=UTF-8", by decide +kernel⟩
    let i : Incoming :=
      { method := .post, target := "/", headers := ⟨[(.contentType, v)]⟩
        body := .complete (Utf8.ofString "a=1") }
    v.mediaType = formType ∧
      ∃ request, i.decode 3 = .ok request ∧ request.form.toList = [("a", "1")] := by
  intro v i
  have hvisible : v.bytes.all HeaderValue.isVisible = true := by decide +kernel
  have hbytes : v.bytes = formType ++ Utf8.ofString "\t ;charset=UTF-8" := by decide +kernel
  have hlimit : (Utf8.ofString "a=1").length ≤ 3 := by decide +kernel
  obtain ⟨request, hdecode, hread, -, hnames, -⟩ :=
    form_of_prefix (i := i) rfl hvisible rfl hlimit
  refine ⟨(hnames _ hbytes).mpr (by decide +kernel), request, hdecode, ?_⟩
  rw [hread ⟨_, hbytes.symm⟩]
  decide +kernel

/-- The name of a form in capital letters is overlooked, and another name that begins like that of a
form is taken for it. -/
theorem form_misread :
    let capital : HeaderValue :=
      ⟨Utf8.ofString "Application/X-WWW-Form-Urlencoded", by decide +kernel⟩
    let longer : HeaderValue :=
      ⟨Utf8.ofString "application/x-www-form-urlencoded-v2", by decide +kernel⟩
    let i (v : HeaderValue) : Incoming :=
      { method := .post, target := "/f", headers := ⟨[(.contentType, v)]⟩
        body := .complete (Utf8.ofString "a=1") }
    (capital.bytes.all HeaderValue.isVisible = true ∧ capital.mediaType = formType ∧
      ∃ request, (i capital).decode defaultLimit = .ok request ∧ request.form = .empty) ∧
    longer.bytes.all HeaderValue.isVisible = true ∧ longer.mediaType ≠ formType ∧
      ∃ request, (i longer).decode defaultLimit = .ok request ∧
        request.form.toList = [("a", "1")] := by
  intro capital longer i
  have hlimit : (Utf8.ofString "a=1").length ≤ defaultLimit := by decide +kernel
  refine ⟨⟨by decide +kernel, by decide +kernel, ?_⟩, by decide +kernel, by decide +kernel, ?_⟩
  · exact ⟨_, decode_of_complete rfl hlimit, by decide +kernel⟩
  · exact ⟨_, decode_of_complete rfl hlimit, by decide +kernel⟩

end Transport

end Signpost
