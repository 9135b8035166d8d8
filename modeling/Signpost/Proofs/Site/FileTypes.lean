import Mathlib.Data.List.Forall2
import Signpost.Http.ContentType
import Signpost.Text.Split

/-!
# Types of files

The name of a file shows its media type: what counts is the text behind the last dot, and there the
capitals of ASCII letters count like the small ones. `mediaTypes` lists the extensions that are
known. `ContentType.hasMediaType_ofExtension` says that the content type of an extension is the one
that is listed for it, and `HasMediaType.unique` and `ShowsType.unique` that there is only one.
-/

namespace Signpost

namespace Site

/-! ### Extensions -/

/-- The extensions that are known, in small letters, and their media types. -/
def mediaTypes : List (String × String) :=
  [("css", "text/css"), ("gif", "image/gif"), ("htm", "text/html"), ("html", "text/html"),
    ("ico", "image/x-icon"), ("js", "application/javascript"), ("mjs", "application/javascript"),
    ("jpg", "image/jpeg"), ("jpeg", "image/jpeg"), ("json", "application/json"),
    ("map", "application/json"), ("png", "image/png"), ("svg", "image/svg+xml"),
    ("txt", "text/plain"), ("md", "text/plain"), ("markdown", "text/plain")]

/-- A capital ASCII letter. -/
def IsCapital (c : Char) : Prop :=
  'A'.toNat ≤ c.toNat ∧ c.toNat ≤ 'Z'.toNat

/-- `c` is `d`, or `c` is a capital and `d` its small letter, which comes 32 behind it. -/
def SameLetter (c d : Char) : Prop :=
  c = d ∨ (IsCapital c ∧ c.toNat + 32 = d.toNat)

/-- The extension is `known`, with capitals for any of its letters. -/
def WrittenAs (extension known : String) : Prop :=
  List.Forall₂ SameLetter extension.toList known.toList

theorem WrittenAs.refl (extension : String) : WrittenAs extension extension :=
  List.forall₂_same.mpr fun _ _ => .inl rfl

/-- The media type of an extension: the one that is listed for it, or else that of bytes of no known
kind. -/
inductive HasMediaType (extension : String) : String → Prop
  | listed {known mediaType : String} (h : (known, mediaType) ∈ mediaTypes)
      (hw : WrittenAs extension known) : HasMediaType extension mediaType
  | unlisted (h : ∀ entry ∈ mediaTypes, ¬ WrittenAs extension entry.1) :
      HasMediaType extension "application/octet-stream"

theorem toNat_toLower (c : Char) :
    c.toLower.toNat =
      if 'A'.toNat ≤ c.toNat ∧ c.toNat ≤ 'Z'.toNat then c.toNat + 32 else c.toNat := by
  unfold Char.toLower
  simp only [ge_iff_le, UInt32.le_iff_toNat_le, Char.toNat_val]
  split
  · rw [← Char.toNat_val, UInt32.toNat_add, Char.toNat_val]
    have hshift : ('a'.val - 'A'.val).toNat = 32 := rfl
    have hZ : 'Z'.toNat = 90 := rfl
    omega
  · rfl

theorem toLower_eq_iff {c d : Char} (hd : ¬ IsCapital d) : c.toLower = d ↔ SameLetter c d := by
  unfold IsCapital at hd
  rw [SameLetter, IsCapital, ← Char.toNat_inj, ← Char.toNat_inj, toNat_toLower]
  split <;> omega

theorem map_toLower_eq_iff {cs ds : List Char} (hds : ∀ d ∈ ds, ¬ IsCapital d) :
    cs.map Char.toLower = ds ↔ List.Forall₂ SameLetter cs ds := by
  induction ds generalizing cs with
  | nil => simp
  | cons d ds ih =>
    have hd : ¬ IsCapital d := hds d List.mem_cons_self
    have hrest : ∀ e ∈ ds, ¬ IsCapital e := fun e he => hds e (List.mem_cons_of_mem d he)
    rw [List.map_eq_cons_iff, List.forall₂_cons_right_iff]
    constructor
    · rintro ⟨c, cs, rfl, hc, hcs⟩
      exact ⟨c, cs, (toLower_eq_iff hd).mp hc, (ih hrest).mp hcs, rfl⟩
    · rintro ⟨c, cs, hc, hcs, rfl⟩
      exact ⟨c, cs, rfl, (toLower_eq_iff hd).mpr hc, (ih hrest).mpr hcs⟩

/-- An extension is written as an entry of the list if it is the entry in small letters. -/
theorem writtenAs_iff {extension : String} {entry : String × String} (h : entry ∈ mediaTypes) :
    WrittenAs extension entry.1 ↔ String.ofList (extension.toList.map Char.toLower) = entry.1 := by
  -- Nothing is listed with a capital, so only the letters of the extension change.
  have hsmall : ∀ entry ∈ mediaTypes, ∀ d ∈ entry.1.toList, ¬ IsCapital d := by
    simp [mediaTypes, IsCapital]
  rw [WrittenAs, ← map_toLower_eq_iff (hsmall entry h), ← String.toList_inj, String.toList_ofList]

theorem HasMediaType.unique {extension t t' : String} (h : HasMediaType extension t)
    (h' : HasMediaType extension t') : t = t' := by
  have hone : ∀ entry ∈ mediaTypes, ∀ entry' ∈ mediaTypes, entry.1 = entry'.1 →
      entry.2 = entry'.2 := by decide +kernel
  cases h with
  | listed h hw =>
    cases h' with
    | listed h' hw' =>
      exact hone _ h _ h' (((writtenAs_iff h).mp hw).symm.trans ((writtenAs_iff h').mp hw'))
    | unlisted h' => exact absurd hw (h' _ h)
  | unlisted h =>
    cases h' with
    | listed h' hw' => exact absurd hw' (h _ h')
    | unlisted h'   => rfl

end Site

namespace ContentType

theorem mediaType_ofExtension (extension : String) :
    (ofExtension extension).mediaType =
      (Site.mediaTypes.lookup (String.ofList (extension.toList.map Char.toLower))).getD
        "application/octet-stream" := by
  unfold ofExtension
  generalize String.ofList (extension.toList.map Char.toLower) = small
  split
  case h_17 =>
    -- The text is none of those that are listed.
    have hnone : Site.mediaTypes.lookup small = none :=
      List.lookup_eq_none_iff.mpr (by simp_all [Site.mediaTypes])
    rw [hnone]
    rfl
  all_goals rfl

/-- The content type of an extension is the one of the list. -/
theorem hasMediaType_ofExtension (extension : String) :
    Site.HasMediaType extension (ofExtension extension).mediaType := by
  rw [mediaType_ofExtension]
  cases hfound : Site.mediaTypes.lookup (String.ofList (extension.toList.map Char.toLower)) with
  | some mediaType =>
    obtain ⟨before, after, hlist, -⟩ := List.lookup_eq_some_iff.mp hfound
    have hmem : (String.ofList (extension.toList.map Char.toLower), mediaType) ∈
        Site.mediaTypes := by simp [hlist]
    exact .listed hmem ((Site.writtenAs_iff hmem).mpr rfl)
  | none =>
    refine .unlisted fun entry hmem hw => ?_
    have hne := List.lookup_eq_none_iff.mp hfound entry hmem
    exact absurd ((Site.writtenAs_iff hmem).mp hw) (by simpa using hne)

example : (ofExtension "JpEG").mediaType = "image/jpeg" := by decide

end ContentType

/-! ### Names -/

namespace Site

/-- The media type that a file name shows: that of the text behind its last dot. -/
inductive ShowsType (name : String) : String → Prop
  | dotless (h : '.' ∉ name.toList) : ShowsType name "application/octet-stream"
  | dotted {stem extension mediaType : String} (hname : name = stem ++ "." ++ extension)
      (hlast : '.' ∉ extension.toList) (h : HasMediaType extension mediaType) :
      ShowsType name mediaType

/-- A name has one last dot, so it shows one type. -/
theorem ShowsType.unique {name t t' : String} (h : ShowsType name t) (h' : ShowsType name t') :
    t = t' := by
  have hdot : ∀ stem extension : String, '.' ∈ (stem ++ "." ++ extension).toList := by simp
  cases h with
  | dotless hfree =>
    cases h' with
    | dotless => rfl
    | dotted hname' => exact absurd (hname' ▸ hdot _ _) hfree
  | @dotted stem extension _ hname hlast htype =>
    subst hname
    cases h' with
    | dotless hfree' => exact absurd (hdot stem extension) hfree'
    | @dotted stem' extension' _ hname' hlast' htype' =>
      have hcut : Text.cutList '.' (stem ++ "." ++ extension).toList.reverse =
          some (extension.toList.reverse, stem.toList.reverse) :=
        Text.cutList_eq_some_iff.mpr ⟨by simp, by simpa using hlast⟩
      have hcut' : Text.cutList '.' (stem ++ "." ++ extension).toList.reverse =
          some (extension'.toList.reverse, stem'.toList.reverse) :=
        Text.cutList_eq_some_iff.mpr ⟨by simp [hname'], by simpa using hlast'⟩
      obtain ⟨hsame, -⟩ : extension'.toList = extension.toList ∧ stem'.toList = stem.toList := by
        simpa using hcut'.symm.trans hcut
      rw [String.toList_inj.mp hsame] at htype'
      exact htype.unique htype'

end Site

end Signpost
