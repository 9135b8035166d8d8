import Signpost.Proofs.Dispatch.Scan
import Signpost.Proofs.Site.Containment
import Signpost.Proofs.Site.FileTypes

/-!
# What a site serves

A path of the site names an entry below the root. A folder stands for its start page, a file for
itself, and a name without a dot under which there is nothing for the page of that name.
`Site.dispatch_serves` says that a router of one site answers `GET` with that file if it is there,
any other method with a refusal, and all else with nothing found. `Site.find_below_iff` is what the
tree has to do with it: below the root, public names are followed from entry to entry.
-/

namespace Signpost

/-! ### Following names -/

namespace FileTree

/-- The names lead from `t` down to `u`, each to the entry of a folder that has it. -/
def Holds (t : FileTree) : List String → FileTree → Prop
  | [],            u => t = u
  | name :: names, u =>
    ∃ entries next, t = folder entries ∧ entries.lookup name = some next ∧
      name.utf8ByteSize ≤ longestName ∧ next.Holds names u

variable {t top u : FileTree} {names : List String}

theorem next_eq_ok_iff {s s' : Spot} {name : String} (hname : Site.IsPublic name) :
    s.next name = .ok s' ↔
      ∃ entries t, s.here = .folder entries ∧ entries.lookup name = some t ∧
        name.utf8ByteSize ≤ longestName ∧ s' = ⟨t, s.here :: s.around⟩ := by
  unfold Spot.next
  cases hhere : s.here with
  | file content => simp
  | folder entries =>
    by_cases hlong : longestName < name.utf8ByteSize
    · simp [hname.leads, hname.goesDown, hlong, Nat.not_le.mpr hlong]
    · have hshort : name.utf8ByteSize ≤ longestName := Nat.not_lt.mp hlong
      cases hentry : entries.lookup name with
      | none   => simp [hname.leads, hname.goesDown, hlong, hentry]
      | some t => simp [hname.leads, hname.goesDown, hlong, hshort, hentry, eq_comm]

/-- Public names go down from entry to entry. -/
theorem foldlM_next_eq_ok_iff (hpublic : ∀ name ∈ names, Site.IsPublic name) {s : Spot} :
    (∃ s', names.foldlM Spot.next s = .ok s' ∧ s'.here = u) ↔ s.here.Holds names u := by
  induction names generalizing s with
  | nil => simp [Holds, pure, Except.pure]
  | cons name names ih =>
    have hname := hpublic name List.mem_cons_self
    have hnames : ∀ n ∈ names, Site.IsPublic n := fun n hn =>
      hpublic n (List.mem_cons_of_mem name hn)
    rw [List.foldlM_cons]
    constructor
    · rintro ⟨s', hs, hu⟩
      obtain ⟨next, hnext, hs⟩ := bind_eq_ok_iff.mp hs
      obtain ⟨entries, t, hhere, hentry, hshort, rfl⟩ := (next_eq_ok_iff hname).mp hnext
      exact ⟨entries, t, hhere, hentry, hshort, (ih hnames).mp ⟨s', hs, hu⟩⟩
    · rintro ⟨entries, t, hhere, hentry, hshort, h⟩
      have hnext := (next_eq_ok_iff hname).mpr ⟨entries, t, hhere, hentry, hshort, rfl⟩
      have hbelow : (Spot.mk t (s.here :: s.around)).here.Holds names u := h
      obtain ⟨s', hs, hu⟩ := (ih hnames).mpr hbelow
      exact ⟨s', bind_eq_ok_iff.mpr ⟨_, hnext, hs⟩, hu⟩

theorem spot_below (t : FileTree) (path : AssetPath) (names : List String) :
    t.spot (path.below names) = t.spot path >>= (names.foldlM Spot.next ·) := by
  cases names with
  | nil => cases h : t.spot path <;> simp [h, bind, Except.bind, pure, Except.pure]
  | cons name names =>
    have hnames : (path.below (name :: names)).names = (path.child name).names ++ names := by
      simp [AssetPath.below, AssetPath.child]
    rw [spot, hnames, List.foldlM_append, ← spot, spot_child, bind_assoc]
    rfl

theorem find_eq_ok_iff {path : AssetPath} :
    t.find path = .ok u ↔ ∃ s, t.spot path = .ok s ∧ s.here = u := by
  unfold find
  cases t.spot path <;> simp [Except.map]

theorem find_below_iff {path : AssetPath} (hpath : t.find path = .ok top)
    (hpublic : ∀ name ∈ names, Site.IsPublic name) :
    t.find (path.below names) = .ok u ↔ top.Holds names u := by
  obtain ⟨s, hs, rfl⟩ := find_eq_ok_iff.mp hpath
  rw [find_eq_ok_iff, spot_below, hs, ← foldlM_next_eq_ok_iff hpublic]
  rfl

end FileTree

/-! ### Names with a dot -/

namespace AssetPath

variable {root : AssetPath} {front : List String} {name : String}

/-- A public name is cut at its last dot, which is not its first character. -/
theorem extensionOf?_cases (h : Site.IsPublic name) :
    ('.' ∉ name.toList ∧ extensionOf? name = none) ∨
      ∃ stem extension, name = stem ++ "." ++ extension ∧ '.' ∉ extension.toList ∧
        extensionOf? name = some extension := by
  unfold extensionOf?
  rw [if_neg h.goesDown]
  cases hcut : Text.cutList '.' name.toList.reverse with
  | none =>
    have hfree := Text.cutList_eq_none_iff.mp hcut
    exact .inl ⟨by simpa using hfree, rfl⟩
  | some parts =>
    obtain ⟨reversed, rest⟩ := parts
    obtain ⟨hreverse, hfree⟩ := Text.cutList_eq_some_iff.mp hcut
    have hname : name.toList = rest.reverse ++ '.' :: reversed.reverse := by
      simpa using congrArg List.reverse hreverse
    cases rest with
    | nil =>
      have hhidden : Site.StartsHidden name := .inl (by simp [hname])
      exact absurd hhidden h.shown
    | cons c rest =>
      refine .inr ⟨String.ofList (c :: rest).reverse, String.ofList reversed.reverse, ?_, ?_, rfl⟩
      · rw [← String.toList_inj, hname]
        simp
      · simpa using hfree

theorem lastName?_below (h : Site.IsPublic name) :
    (root.below (front ++ [name])).lastName? = some name := by
  rw [lastName?, trimmed_below h, List.getLast?_concat]

/-- The page of a public name without a dot stands in the same folder. -/
theorem page?_below (h : Site.IsPublic name) :
    (root.below (front ++ [name])).page? =
      if '.' ∈ name.toList then none else some (root.below (front ++ [name ++ ".html"])) := by
  have hbelow : root.below (front ++ [name ++ ".html"]) =
      ⟨root.opened ++ front ++ [name ++ ".html"]⟩ := by
    rw [List.append_assoc, ← names_below (by simp)]
  rcases extensionOf?_cases h with ⟨hdot, hnone⟩ | ⟨stem, extension, hname, -, hsome⟩
  · simp [page?, lastName?_below h, trimmed_below h, h.goesDown, hnone, hdot, hbelow]
  · have hdot : '.' ∈ name.toList := by simp [hname]
    simp [page?, lastName?_below h, hsome, hdot]

end AssetPath

namespace Site

theorem showsType_contentType {root : AssetPath} {folder : List String} {name : String}
    (h : IsPublic name) :
    ShowsType name (contentType (root.below (folder ++ [name]))).mediaType := by
  have hextension : (root.below (folder ++ [name])).extension? = AssetPath.extensionOf? name := by
    rw [AssetPath.extension?, AssetPath.lastName?_below h, Option.bind_some]
  rcases AssetPath.extensionOf?_cases h with ⟨hdot, hnone⟩ | ⟨stem, extension, hname, hlast, hsome⟩
  · rw [contentType, hextension, hnone]
    exact .dotless hdot
  · rw [contentType, hextension, hsome]
    exact .dotted hname hlast (ContentType.hasMediaType_ofExtension extension)

/-! ### What a path stands for -/

variable {s : Site} {top : FileTree} {names folder : List String} {name path : String}

/-- The path is one that a file system follows. -/
structure Fits (s : Site) (path : AssetPath) : Prop where
  noZero : path.hasZero = false
  short : path.size ≤ s.longestPath

/-- The names lead from the root, which is `top`, to `t`, on a path that can be followed. -/
def Has (s : Site) (top : FileTree) (names : List String) (t : FileTree) : Prop :=
  s.Fits (s.root.below names) ∧ top.Holds names t

theorem find_eq_ok_iff {path : AssetPath} {t : FileTree} :
    s.find path = .ok t ↔ s.Fits path ∧ s.tree.find path = .ok t := by
  unfold find
  by_cases hzero : path.hasZero = true
  · have hfits : ¬ s.Fits path := fun h => by simp [h.noZero] at hzero
    simp [hzero, hfits]
  · by_cases hlong : s.longestPath < path.size
    · have hfits : ¬ s.Fits path := fun h => absurd h.short (Nat.not_le.mpr hlong)
      simp [hzero, hlong, hfits]
    · have hfits : s.Fits path := ⟨by simpa using hzero, Nat.not_lt.mp hlong⟩
      simp [hzero, hlong, hfits]

theorem find_below_iff (hroot : s.find s.root = .ok top) (hpublic : ∀ name ∈ names, IsPublic name)
    {t : FileTree} : s.find (s.root.below names) = .ok t ↔ s.Has top names t := by
  rw [find_eq_ok_iff, Has, FileTree.find_below_iff (find_eq_ok_iff.mp hroot).2 hpublic]

/-- The file that names stand for, as the names of its folder and its own name: the start page of a
folder, a file itself, or the page of a name without a dot if there is neither. -/
inductive StandsFor (s : Site) (top : FileTree) (names : List String) :
    List String → String → Prop
  | folder {entries : List (String × FileTree)} (h : s.Has top names (.folder entries)) :
      StandsFor s top names names "index.html"
  | file {folder : List String} {name : String} {content : Bytes}
      (hnames : names = folder ++ [name]) (h : s.Has top names (.file content)) :
      StandsFor s top names folder name
  | page {folder : List String} {name : String} (hnames : names = folder ++ [name])
      (h : ∀ t, ¬ s.Has top names t) (hdot : '.' ∉ name.toList) :
      StandsFor s top names folder (name ++ ".html")

variable {asset : AssetPath} {content : Bytes} {entries : List (String × FileTree)}

theorem hasFolder_iff {path : AssetPath} :
    s.hasFolder path = true ↔ ∃ entries, s.find path = .ok (.folder entries) := by
  unfold hasFolder
  split <;> simp_all

theorem read_eq_ok_iff {path : AssetPath} :
    s.read path = .ok content ↔ s.find path = .ok (.file content) := by
  unfold read
  split <;> simp_all

theorem hasFile_iff_find {path : AssetPath} :
    s.hasFile path = true ↔ ∃ content, s.find path = .ok (.file content) := by
  simp [hasFile_iff, read_eq_ok_iff]

theorem isPublic_of_shown (h : ∀ name ∈ pathNames path, ¬ StartsHidden name) :
    ∀ name ∈ pathNames path, IsPublic name := by
  intro name hname
  obtain ⟨hpiece, hleads⟩ := List.mem_filter.mp hname
  refine ⟨?_, Text.not_mem_of_mem_pieces hpiece, h name hname⟩
  rintro rfl
  exact absurd hleads (by decide)

theorem Located.locate_eq (hpublic : ∀ name ∈ pathNames path, IsPublic name)
    (h : s.Located (s.root.below (pathNames path)) asset) : s.locate path = some asset := by
  have hplace : s.place? path = some (s.root.below (pathNames path)) :=
    place?_eq_some_iff.mpr ⟨hpublic, rfl⟩
  cases h with
  | index hfolder hindex            => simp [locate, hplace, hfolder, hindex]
  | file hfolder hfile              => simp [locate, hplace, hfolder, hfile]
  | page hfolder hfile hpage hthere => simp [locate, hplace, hfolder, hfile, hpage, hthere]

/-- Names that lead from a folder to something else have a last one. -/
theorem eq_concat_of_not_hasFolder (hroot : s.find s.root = .ok (.folder entries))
    (hfolder : s.hasFolder (s.root.below names) = false) :
    ∃ folder name, names = folder ++ [name] := by
  have hne : names ≠ [] := by
    rintro rfl
    have hthere : s.hasFolder s.root = true := hasFolder_iff.mpr ⟨entries, hroot⟩
    simp [hthere] at hfolder
  exact ⟨names.dropLast, names.getLast hne, (List.dropLast_concat_getLast hne).symm⟩

/-- What is located is the file that the names stand for, if it is there. -/
theorem located_iff_standsFor (hroot : s.find s.root = .ok (.folder entries))
    (hpublic : ∀ name ∈ names, IsPublic name) :
    s.Located (s.root.below names) asset ↔
      ∃ folder name content, s.StandsFor (.folder entries) names folder name ∧
        asset = s.root.below (folder ++ [name]) ∧ s.find asset = .ok (.file content) := by
  have hfind : ∀ t, s.find (s.root.below names) = .ok t ↔ s.Has (.folder entries) names t :=
    fun t => find_below_iff hroot hpublic
  have hempty : "" ∉ names := fun hmem => (hpublic "" hmem).nonempty rfl
  constructor
  · intro h
    cases h with
    | index hfolder hindex =>
      obtain ⟨es, hes⟩ := hasFolder_iff.mp hfolder
      obtain ⟨content, hcontent⟩ := hasFile_iff_find.mp hindex
      exact ⟨names, "index.html", content, .folder ((hfind _).mp hes),
        AssetPath.child_below hempty s.root "index.html", hcontent⟩
    | file hfolder hfile =>
      obtain ⟨folder, name, rfl⟩ := eq_concat_of_not_hasFolder hroot hfolder
      obtain ⟨content, hcontent⟩ := hasFile_iff_find.mp hfile
      exact ⟨folder, name, content, .file rfl ((hfind _).mp hcontent), rfl, hcontent⟩
    | page hfolder hfile hpage hthere =>
      obtain ⟨folder, name, rfl⟩ := eq_concat_of_not_hasFolder hroot hfolder
      obtain ⟨content, hcontent⟩ := hasFile_iff_find.mp hthere
      rw [AssetPath.page?_below (hpublic name (by simp))] at hpage
      obtain ⟨hdot, hpage⟩ := Option.ite_none_left_eq_some.mp hpage
      cases hpage
      refine ⟨folder, name ++ ".html", content, .page rfl ?_ hdot, rfl, hcontent⟩
      intro t ht
      cases t with
      | file bs   => simp [hasFile_iff_find.mpr ⟨bs, (hfind _).mpr ht⟩] at hfile
      | folder es => simp [hasFolder_iff.mpr ⟨es, (hfind _).mpr ht⟩] at hfolder
  · rintro ⟨folder, name, content, hstands, rfl, hcontent⟩
    have hthere := hasFile_iff_find.mpr ⟨content, hcontent⟩
    cases hstands with
    | folder h =>
      have hfolder := hasFolder_iff.mpr ⟨_, (hfind _).mpr h⟩
      rw [← AssetPath.child_below hempty] at hthere ⊢
      exact .index hfolder hthere
    | file hnames h =>
      subst hnames
      have hfolder : s.hasFolder (s.root.below (folder ++ [name])) = false := by
        simp [hasFolder, hcontent]
      exact .file hfolder hthere
    | @page _ name hnames h hdot =>
      subst hnames
      -- Neither kind of entry is there.
      have hfolder : ¬ s.hasFolder (s.root.below (folder ++ [name])) = true := fun hf =>
        (hasFolder_iff.mp hf).elim fun es hes => h _ ((hfind _).mp hes)
      have hfile : ¬ s.hasFile (s.root.below (folder ++ [name])) = true := fun hf =>
        (hasFile_iff_find.mp hf).elim fun bs hbs => h _ ((hfind _).mp hbs)
      have hpage : (s.root.below (folder ++ [name])).page? =
          some (s.root.below (folder ++ [name ++ ".html"])) := by
        rw [AssetPath.page?_below (hpublic name (by simp)), if_neg hdot]
      exact .page (by simpa using hfolder) (by simpa using hfile) hpage hthere

/-! ### Answers of a site -/

variable {r : Router} {request : Request}

/-- A located file is the answer to `GET`, and any other method is refused. -/
theorem response_of_locate (hroutes : r.routes = [.assets s.resolver])
    (hfilters : ∀ f ∈ r.filters, f request = .finished none)
    (hlocate : s.locate request.path = some asset) (hcontent : s.find asset = .ok (.file content)) :
    (r.dispatch request).response =
      if request.method = .get then ⟨.ok, (contentType asset).mediaType, .empty, content⟩
      else .methodNotAllowed := by
  have hresolver : s.resolver.locate request.path = .finished (some asset) :=
    congrArg Attempt.finished hlocate
  rw [Router.response_of_declined hfilters]
  by_cases hm : request.method = .get
  · have hoffer := Resolver.offer_eq_located_iff.mpr ⟨hresolver, hm⟩
    have hfirst : r.routes = [] ++ .assets s.resolver :: [] := hroutes
    have hselect := Router.select_of_located hfirst (by simp) hoffer
    have hload : s.load asset =
        .ok (.ofBytes (contentType asset).mediaType content) := by
      rw [load, read_eq_ok_iff.mpr hcontent]
    rw [hselect, if_pos hm, Router.answer_asset, Answer.caught_ofRun_response]
    simp only [resolver, hload]
    rfl
  · have hoffer := Resolver.offer_eq_wrongMethod_iff.mpr ⟨⟨asset, hresolver⟩, hm⟩
    have hpasses : ∀ q ∈ r.routes, q.Passes request := by
      simp [hroutes, Route.Passes, hoffer]
    have hrefuses : r.routes.any (·.refusesMethod request) = true := by
      simp [hroutes, Route.refusesMethod_iff, hoffer]
    rw [Router.select_of_passes hpasses, if_pos hrefuses, if_neg hm]
    rfl

/-- If nothing is located, nothing is found. -/
theorem response_of_locate_none (hroutes : r.routes = [.assets s.resolver])
    (hfilters : ∀ f ∈ r.filters, f request = .finished none)
    (hlocate : s.locate request.path = none) :
    (r.dispatch request).response = .notFound ∧
      (r.dispatch request).response.status.code = 404 := by
  have hoffer : s.resolver.offer request = .finished .declined := by
    simp [Resolver.offer, resolver, hlocate]
  have hpasses : ∀ q ∈ r.routes, q.Passes request := by
    simp [hroutes, Route.Passes, hoffer]
  have hrefuses : ¬ r.routes.any (·.refusesMethod request) = true := by
    simp [hroutes, Route.refusesMethod_iff, hoffer]
  rw [Router.response_of_declined hfilters, Router.select_of_passes hpasses, if_neg hrefuses]
  exact ⟨rfl, rfl⟩

/-- The names that lead to the file are public like those it stands for. -/
theorem StandsFor.isPublic {top : FileTree} (h : s.StandsFor top names folder name)
    (hpublic : ∀ n ∈ names, IsPublic n) : ∀ n ∈ folder ++ [name], IsPublic n := by
  cases h with
  | folder h =>
    exact List.forall_mem_append.mpr ⟨hpublic, List.forall_mem_singleton.mpr isPublic_index⟩
  | file hnames h => exact hnames ▸ hpublic
  | page hnames h hdot =>
    obtain ⟨hfolder, hname⟩ := List.forall_mem_append.mp (hnames ▸ hpublic)
    have hpage := (List.forall_mem_singleton.mp hname).page
    exact List.forall_mem_append.mpr ⟨hfolder, List.forall_mem_singleton.mpr hpage⟩

/-- The response to a request is that of a site whose root is the folder `top`. -/
structure Serves (s : Site) (top : FileTree) (request : Request) (response : Response) : Prop where
  /-- A path with a name that starts with a dot or an underscore stands for nothing. -/
  hidden : (∃ name ∈ pathNames request.path, StartsHidden name) →
    response = .notFound ∧ response.status.code = 404
  /-- If the file that a path stands for is there, `GET` is answered with its bytes under the media
  type that its name shows, and no other method is allowed. -/
  there : (∀ name ∈ pathNames request.path, ¬ StartsHidden name) →
    ∀ folder name content, s.StandsFor top (pathNames request.path) folder name →
      s.Has top (folder ++ [name]) (.file content) →
      ∃ mediaType, ShowsType name mediaType ∧
        (request.method = .get → response = ⟨{ code := 200 }, mediaType, .empty, content⟩) ∧
        (request.method ≠ .get →
          response = .methodNotAllowed ∧ response.status.code = 405)
  /-- If the path stands for no file that is there, nothing is found. -/
  missing : (∀ name ∈ pathNames request.path, ¬ StartsHidden name) →
    (∀ folder name content, s.StandsFor top (pathNames request.path) folder name →
      ¬ s.Has top (folder ++ [name]) (.file content)) →
    response = .notFound ∧ response.status.code = 404

/-- A router whose only route is a site answers every request that its filters decline as the tree
below the root says. -/
theorem dispatch_serves {entries : List (String × FileTree)}
    (hroot : s.find s.root = .ok (.folder entries)) (hroutes : r.routes = [.assets s.resolver])
    (hfilters : ∀ f ∈ r.filters, f request = .finished none) :
    s.Serves (.folder entries) request (r.dispatch request).response := by
  constructor
  case hidden =>
    rintro ⟨name, hname, hhidden⟩
    have hany : (pathNames request.path).any isHidden = true :=
      List.any_eq_true.mpr ⟨name, hname, isHidden_iff.mpr hhidden⟩
    have hplace : s.place? request.path = none := if_pos hany
    exact response_of_locate_none hroutes hfilters (by simp [locate, hplace])
  case there =>
    intro hshown folder name content hstands hthere
    have hpublic := isPublic_of_shown hshown
    have hnames := hstands.isPublic hpublic
    have hcontent := (find_below_iff hroot hnames).mpr hthere
    have hlocate := ((located_iff_standsFor hroot hpublic).mpr
      ⟨folder, name, content, hstands, rfl, hcontent⟩).locate_eq hpublic
    have hresponse := response_of_locate hroutes hfilters hlocate hcontent
    have htype : ShowsType name (contentType (s.root.below (folder ++ [name]))).mediaType :=
      showsType_contentType (hnames name (by simp))
    refine ⟨_, htype, ?get, ?other⟩
    case get => exact fun hm => hresponse.trans (if_pos hm)
    case other =>
      intro hm
      have hrefused := hresponse.trans (if_neg hm)
      exact ⟨hrefused, hrefused ▸ rfl⟩
  case missing =>
    intro hshown hmissing
    have hpublic := isPublic_of_shown hshown
    cases hlocate : s.locate request.path with
    | none => exact response_of_locate_none hroutes hfilters hlocate
    | some asset =>
      obtain ⟨folder, name, content, hstands, rfl, hcontent⟩ :=
        (located_iff_standsFor hroot hpublic).mp (Located.of_locate hlocate).2
      have hthere := (find_below_iff hroot (hstands.isPublic hpublic)).mp hcontent
      exact absurd hthere (hmissing folder name content hstands)

/-- The page of a name in a folder, asked for with stays and a closing slash. -/
theorem dispatch_serves_page :
    let news : FileTree := .folder [("today.html", .file [0x68, 0x69]), ("notes.v2", .file [])]
    let top : FileTree := .folder [("news", news)]
    let site : Site := { tree := .folder [("site", top)], root := ⟨["site", ""]⟩ }
    let r : Router := { routes := [.assets site.resolver] }
    site.find site.root = .ok top ∧
      (r.dispatch { method := .get, path := "//news/./today/" }).response =
        ⟨.ok, "text/html", .empty, [0x68, 0x69]⟩ := by
  intro news top site r
  have hroot : site.find site.root = .ok top := rfl
  let request : Request := { method := .get, path := "//news/./today/" }
  have hfilters : ∀ f ∈ r.filters, f request = .finished none := by simp [r]
  have hserves := dispatch_serves hroot rfl hfilters
  have hnames : pathNames "//news/./today/" = ["news", "today"] := by decide +kernel
  have hpage : site.StandsFor top (pathNames "//news/./today/") ["news"] ("today" ++ ".html") := by
    refine .page hnames ?_ (by decide)
    rintro t ⟨-, h⟩
    simp only [hnames, FileTree.Holds, top, news, FileTree.folder.injEq] at h
    obtain ⟨_, _, rfl, hentry, -, _, _, rfl, hentry', -⟩ := h
    cases hentry
    cases hentry'
  have hthere : site.Has top ["news", "today.html"] (.file [0x68, 0x69]) :=
    ⟨⟨by decide +kernel, by decide +kernel⟩,
      _, news, rfl, rfl, by decide, _, _, rfl, rfl, by decide, rfl⟩
  obtain ⟨t, ht, hresponse, -⟩ := hserves.there (by decide +kernel) _ _ _ hpage hthere
  have hlisted : ("html", "text/html") ∈ mediaTypes := by decide
  have hname : "today.html" = "today" ++ "." ++ "html" := rfl
  have hhtml : ShowsType "today.html" "text/html" :=
    .dotted hname (by decide) (.listed hlisted (.refl "html"))
  rw [ht.unique hhtml] at hresponse
  exact ⟨hroot, hresponse rfl⟩

end Site

end Signpost
