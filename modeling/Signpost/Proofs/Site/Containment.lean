import Mathlib.Data.List.DropRight
import Signpost.Proofs.Text.Pieces
import Signpost.Site.Resolver

/-!
# Containment

The assets of a site lie below its root, with one exception: a path without names means the root
itself, and a root that is no folder stands for itself or for the page beside it.
`Site.locate_liesBelow_iff` says exactly when an asset lies below the root.
-/

namespace Signpost

/-! ### Public names -/

namespace Site

/-- The name starts with a dot or with an underscore. -/
def StartsHidden (name : String) : Prop :=
  name.toList.head? = some '.' ∨ name.toList.head? = some '_'

instance : DecidablePred StartsHidden :=
  fun name => inferInstanceAs (Decidable (name.toList.head? = _ ∨ name.toList.head? = _))

theorem isHidden_iff {name : String} : isHidden name = true ↔ StartsHidden name := by
  unfold isHidden StartsHidden
  cases name.toList <;> simp

/-- A name of an entry that is not kept from the outside. -/
structure IsPublic (name : String) : Prop where
  nonempty : name ≠ ""
  single : '/' ∉ name.toList
  shown : ¬ StartsHidden name

/-- A public name does not stay. -/
theorem IsPublic.leads {name : String} (h : IsPublic name) : AssetPath.stays name = false := by
  have hdot : name ≠ "." := by
    rintro rfl
    exact h.shown (by decide)
  simp [AssetPath.stays, h.nonempty, hdot]

theorem IsPublic.goesDown {name : String} (h : IsPublic name) : name ≠ ".." := by
  rintro rfl
  exact h.shown (by decide)

theorem startsHidden_append {name : String} (h : name ≠ "") (rest : String) :
    StartsHidden (name ++ rest) ↔ StartsHidden name := by
  have hne : name.toList ≠ [] := by simpa using h
  obtain ⟨c, cs, hcs⟩ := List.exists_cons_of_ne_nil hne
  simp [StartsHidden, hcs]

theorem IsPublic.page {name : String} (h : IsPublic name) : IsPublic (name ++ ".html") := by
  constructor
  case nonempty => simp [h.nonempty]
  case single => simp [h.single]
  case shown => exact fun hhidden => h.shown ((startsHidden_append h.nonempty _).mp hhidden)

theorem isPublic_index : IsPublic "index.html" := by
  constructor <;> decide

end Site

/-! ### Below a folder -/

namespace AssetPath

variable {root asset : AssetPath} {names : List String}

/-- The path leads on from `root` by public names, at least one. -/
def LiesBelow (asset root : AssetPath) : Prop :=
  ∃ names, names ≠ [] ∧ (∀ name ∈ names, Site.IsPublic name) ∧ asset = root.below names

theorem names_below (h : names ≠ []) : (root.below names).names = root.opened ++ names := by
  obtain ⟨name, rest, rfl⟩ := List.exists_cons_of_ne_nil h
  rfl

theorem opened_append_ne (h : names ≠ []) (hempty : "" ∉ names) :
    root.opened ++ names ≠ root.names := by
  intro heq
  unfold opened at heq
  split at heq
  · rename_i hlast
    obtain ⟨front, hfront⟩ := List.getLast?_eq_some_iff.mp hlast
    rw [hfront, List.dropLast_concat] at heq
    have hnames : names = [""] := List.append_cancel_left heq
    exact hempty (by simp [hnames])
  · exact h (List.append_right_eq_self.mp heq)

theorem not_liesBelow_self : ¬ root.LiesBelow root := by
  rintro ⟨names, hne, hpublic, heq⟩
  have hempty : "" ∉ names := fun hmem => (hpublic "" hmem).nonempty rfl
  have hnames := congrArg AssetPath.names heq
  rw [names_below hne] at hnames
  exact opened_append_ne hne hempty hnames.symm

theorem child_liesBelow (hpublic : ∀ name ∈ names, Site.IsPublic name) {name : String}
    (hname : Site.IsPublic name) : ((root.below names).child name).LiesBelow root := by
  have hempty : "" ∉ names := fun hmem => (hpublic "" hmem).nonempty rfl
  refine ⟨names ++ [name], by simp, ?_, child_below hempty root name⟩
  intro n hn
  rcases List.mem_append.mp hn with hn | hn
  · exact hpublic n hn
  · exact List.mem_singleton.mp hn ▸ hname

/-! ### Pages -/

theorem trimmed_names (p : AssetPath) : p.trimmed.names = p.names.rdropWhile stays := rfl

theorem page?_eq_some_iff {p page : AssetPath} :
    p.page? = some page ↔
      ∃ name, p.lastName? = some name ∧ name ≠ ".." ∧ extensionOf? name = none ∧
        page = ⟨p.trimmed.names.dropLast ++ [name ++ ".html"]⟩ := by
  unfold page?
  cases p.lastName? with
  | none => simp
  | some name =>
    by_cases hname : name = ".." ∨ (extensionOf? name).isSome
    · simp only [if_pos hname, reduceCtorEq, Option.some.injEq, false_iff]
      rintro ⟨_, rfl, hup, hnone, -⟩
      simp [hup, hnone] at hname
    · obtain ⟨hup, hsome⟩ := not_or.mp hname
      have hnone : extensionOf? name = none := Option.not_isSome_iff_eq_none.mp hsome
      simp only [if_neg hname, Option.some.injEq]
      constructor
      · rintro rfl
        exact ⟨name, rfl, hup, hnone, rfl⟩
      · rintro ⟨_, rfl, -, -, rfl⟩
        rfl

theorem length_trimmed_le (p : AssetPath) : p.trimmed.names.length ≤ p.opened.length := by
  rw [trimmed_names]
  unfold opened
  split
  · rename_i hlast
    obtain ⟨front, hfront⟩ := List.getLast?_eq_some_iff.mp hlast
    have hempty : stays "" = true := by decide
    rw [hfront, List.rdropWhile_concat_pos _ _ _ hempty, List.dropLast_concat]
    exact (List.rdropWhile_prefix stays _).length_le
  · exact (List.rdropWhile_prefix stays _).length_le

/-- A page stands beside the path that it is the page of. -/
theorem not_liesBelow_page {page : AssetPath} (h : root.page? = some page) :
    ¬ page.LiesBelow root := by
  obtain ⟨name, hlast, -, -, rfl⟩ := page?_eq_some_iff.mp h
  rintro ⟨names, hne, -, heq⟩
  have hnames := congrArg (List.length ∘ AssetPath.names) heq
  simp only [Function.comp_apply, names_below hne, List.length_append, List.length_dropLast,
    List.length_singleton] at hnames
  -- A page has as many names as the trimmed root, and what lies below has more than that.
  have htrimmed : 0 < root.trimmed.names.length :=
    List.length_pos_of_mem (List.mem_of_getLast? hlast)
  have hbelow : 0 < names.length := List.length_pos_iff.mpr hne
  have hle := length_trimmed_le root
  omega

/-- A public name does not stay, so nothing is trimmed behind it. -/
theorem trimmed_below {front : List String} {last : String} (h : Site.IsPublic last) :
    (root.below (front ++ [last])).trimmed.names = root.opened ++ front ++ [last] := by
  have hleads : ¬ stays last = true := by simp [h.leads]
  rw [trimmed_names, names_below (by simp), ← List.append_assoc,
    List.rdropWhile_concat_neg _ _ _ hleads]

/-- The page of a path below the root only changes the last name. -/
theorem page_liesBelow {page : AssetPath} (hne : names ≠ [])
    (hpublic : ∀ name ∈ names, Site.IsPublic name) (h : (root.below names).page? = some page) :
    page.LiesBelow root := by
  obtain ⟨front, last, rfl⟩ : ∃ front last, names = front ++ [last] :=
    ⟨names.dropLast, names.getLast hne, (List.dropLast_concat_getLast hne).symm⟩
  have hlast : Site.IsPublic last := hpublic last (by simp)
  have htrimmed : (root.below (front ++ [last])).trimmed.names = root.opened ++ front ++ [last] :=
    trimmed_below hlast
  obtain ⟨name, hname, -, -, rfl⟩ := page?_eq_some_iff.mp h
  rw [lastName?, htrimmed, List.getLast?_concat] at hname
  cases hname
  refine ⟨front ++ [last ++ ".html"], by simp, ?_, ?_⟩
  · intro n hn
    rcases List.mem_append.mp hn with hn | hn
    · exact hpublic n (List.mem_append_left _ hn)
    · exact List.mem_singleton.mp hn ▸ hlast.page
  · have hbelow : (root.below (front ++ [last ++ ".html"])).names =
        root.opened ++ (front ++ [last ++ ".html"]) := names_below (by simp)
    rw [htrimmed, List.dropLast_concat, List.append_assoc, ← hbelow]

end AssetPath

/-! ### Located assets -/

namespace Site

variable {s : Site} {path : String} {place asset : AssetPath}

theorem place?_eq_some_iff :
    s.place? path = some place ↔
      (∀ name ∈ pathNames path, IsPublic name) ∧ place = s.root.below (pathNames path) := by
  have hproper : ∀ name ∈ pathNames path, name ≠ "" ∧ '/' ∉ name.toList := by
    intro name hname
    obtain ⟨hpiece, hleads⟩ := List.mem_filter.mp hname
    refine ⟨?_, Text.not_mem_of_mem_pieces hpiece⟩
    rintro rfl
    exact absurd hleads (by decide)
  unfold place?
  by_cases hhidden : (pathNames path).any isHidden = true
  · simp only [if_pos hhidden, reduceCtorEq, false_iff, not_and]
    intro hpublic
    obtain ⟨name, hname, hshown⟩ := List.any_eq_true.mp hhidden
    exact absurd (isHidden_iff.mp hshown) (hpublic name hname).shown
  · simp only [if_neg hhidden, Option.some.injEq]
    have hpublic : ∀ name ∈ pathNames path, IsPublic name := fun name hname =>
      ⟨(hproper name hname).1, (hproper name hname).2,
        fun hn => hhidden (List.any_eq_true.mpr ⟨name, hname, isHidden_iff.mpr hn⟩)⟩
    exact ⟨fun h => ⟨hpublic, h.symm⟩, fun h => h.2.symm⟩

/-- What is located for a place in the tree. -/
inductive Located (s : Site) (place : AssetPath) : AssetPath → Prop
  | index (hfolder : s.hasFolder place = true)
      (hindex : s.hasFile (place.child "index.html") = true) :
      Located s place (place.child "index.html")
  | file (hfolder : s.hasFolder place = false) (hfile : s.hasFile place = true) :
      Located s place place
  | page {page : AssetPath} (hfolder : s.hasFolder place = false)
      (hfile : s.hasFile place = false) (hpage : place.page? = some page)
      (hthere : s.hasFile page = true) : Located s place page

theorem Located.of_locate (h : s.locate path = some asset) :
    (∀ name ∈ pathNames path, IsPublic name) ∧ s.Located (s.root.below (pathNames path)) asset := by
  obtain ⟨place, hplace, h⟩ := Option.bind_eq_some_iff.mp h
  obtain ⟨hpublic, rfl⟩ := place?_eq_some_iff.mp hplace
  refine ⟨hpublic, ?_⟩
  split at h
  · rename_i hfolder
    obtain ⟨hindex, h⟩ := Option.ite_none_right_eq_some.mp h
    cases h
    exact .index hfolder hindex
  · rename_i hfolder
    split at h
    · rename_i hfile
      cases h
      exact .file (by simpa using hfolder) hfile
    · rename_i hfile
      obtain ⟨page, hpage, h⟩ := Option.bind_eq_some_iff.mp h
      obtain ⟨hthere, h⟩ := Option.ite_none_right_eq_some.mp h
      cases h
      exact .page (by simpa using hfolder) (by simpa using hfile) hpage hthere

/-- An asset lies below the root unless the path has no names and the root is no folder. Then it is
the root itself or the page beside it. -/
theorem locate_liesBelow_iff (h : s.locate path = some asset) :
    (asset.LiesBelow s.root ↔ pathNames path ≠ [] ∨ s.hasFolder s.root = true) ∧
      (¬ asset.LiesBelow s.root → asset = s.root ∨ s.root.page? = some asset) := by
  obtain ⟨hpublic, hlocated⟩ := Located.of_locate h
  by_cases hne : pathNames path = []
  · rw [hne, AssetPath.below_nil] at hlocated
    cases hlocated with
    | index hfolder hindex =>
      have hnames : ∀ name ∈ ([] : List String), IsPublic name := by simp
      have hbelow : (s.root.child "index.html").LiesBelow s.root :=
        AssetPath.child_liesBelow hnames isPublic_index
      exact ⟨iff_of_true hbelow (.inr hfolder), absurd hbelow⟩
    | file hfolder hfile =>
      have hbeside : ¬ s.root.LiesBelow s.root := AssetPath.not_liesBelow_self
      exact ⟨iff_of_false hbeside (by simp [hne, hfolder]), fun _ => .inl rfl⟩
    | page hfolder hfile hpage hthere =>
      have hbeside := AssetPath.not_liesBelow_page hpage
      exact ⟨iff_of_false hbeside (by simp [hne, hfolder]), fun _ => .inr hpage⟩
  · have hbelow : asset.LiesBelow s.root := by
      cases hlocated with
      | index hfolder hindex            => exact AssetPath.child_liesBelow hpublic isPublic_index
      | file hfolder hfile              => exact ⟨pathNames path, hne, hpublic, rfl⟩
      | page hfolder hfile hpage hthere => exact AssetPath.page_liesBelow hne hpublic hpage
    exact ⟨iff_of_true hbelow (.inl hne), absurd hbelow⟩

/-- A page in a folder of the site, found by its name alone. -/
theorem locate_liesBelow_iff_page :
    let news : FileTree := .folder [("today.html", .file [])]
    let site : Site := { tree := .folder [("site", .folder [("news", news)])], root := ⟨["site"]⟩ }
    site.locate "//news/./today" = some ⟨["site", "news", "today.html"]⟩ ∧
      (AssetPath.mk ["site", "news", "today.html"]).LiesBelow site.root := by
  intro news site
  have hlocate : site.locate "//news/./today" = some ⟨["site", "news", "today.html"]⟩ := by
    decide +kernel
  exact ⟨hlocate, (locate_liesBelow_iff hlocate).1.mpr (.inl (by decide +kernel))⟩

/-- If the root is missing, the start page is the page beside it, outside the root. -/
theorem locate_beside_missing_root :
    let site : Site := { tree := .folder [("site.html", .file [])], root := ⟨["site"]⟩ }
    site.locate "/" = some ⟨["site.html"]⟩ ∧
      ¬ (AssetPath.mk ["site.html"]).LiesBelow site.root := by
  intro site
  have hlocate : site.locate "/" = some ⟨["site.html"]⟩ := by decide +kernel
  have hpage : site.root.page? = some ⟨["site.html"]⟩ := by decide +kernel
  exact ⟨hlocate, AssetPath.not_liesBelow_page hpage⟩

end Site

end Signpost
