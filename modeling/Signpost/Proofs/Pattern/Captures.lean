import Signpost.Proofs.Pattern.Compile

/-!
# Captures

Matching undoes filling. A pattern captures from a path exactly the values that make the path when
they are put into the placeholders, and from the query the first value under each key.
`Pattern.captures_eq_some_iff` is this law for every text that compiles;
`Segment.captureAll_eq_some_iff` is the part about segments, by induction on them.
-/

namespace Signpost

/-! ### First values -/

/-- The first pair under the key has the value. -/
def Pairs.FirstUnder (kv : Pairs) (key value : String) : Prop :=
  ∃ before after, kv.toList = before ++ (key, value) :: after ∧ ∀ p ∈ before, key ≠ p.1

theorem Pairs.get?_eq_some_iff {kv : Pairs} {key value : String} :
    kv.get? key = some value ↔ kv.FirstUnder key value := by
  simp [get?, FirstUnder, List.lookup_eq_some_iff]

/-! ### Segments -/

namespace Segment

/-- The names of the placeholders among segments. -/
def names (ss : List Segment) : List String :=
  ss.filterMap name?

@[simp] theorem names_nil : names [] = [] := rfl

@[simp] theorem names_literal (t : String) (ss : List Segment) :
    names (literal t :: ss) = names ss := rfl

@[simp] theorem names_placeholder (n : String) (ss : List Segment) :
    names (placeholder n :: ss) = n :: names ss := rfl

theorem captureAll_literal_iff {t part : String} {ss : List Segment} {parts values : List String} :
    captureAll (literal t :: ss) (part :: parts) = some values ↔
      t = part ∧ captureAll ss parts = some values := by
  by_cases h : t = part <;> simp [captureAll, capture?, h]

theorem captureAll_placeholder_iff {n part : String} {ss : List Segment}
    {parts values : List String} :
    captureAll (placeholder n :: ss) (part :: parts) = some values ↔
      part ≠ "" ∧ ∃ rest, captureAll ss parts = some rest ∧ part :: rest = values := by
  by_cases h : part = "" <;> simp [captureAll, capture?, h, Option.bind_eq_some_iff]

/-- Segments capture the values that make the parts, one for each placeholder and none empty. -/
theorem captureAll_eq_some_iff {ss : List Segment} {parts values : List String} :
    captureAll ss parts = some values ↔
      fill ss values = parts ∧ values.length = (names ss).length ∧ ∀ v ∈ values, v ≠ "" := by
  induction ss generalizing parts values with
  | nil => cases parts <;> cases values <;> simp [captureAll, fill]
  | cons s ss ih =>
    cases parts with
    | nil => cases s <;> cases values <;> simp [captureAll, fill]
    | cons part parts =>
      cases s with
      | literal t =>
        rw [captureAll_literal_iff, ih]
        simp [fill, and_assoc]
      | placeholder n =>
        rw [captureAll_placeholder_iff]
        cases values with
        | nil => simp
        | cons v values =>
          simp only [ih, fill, names_placeholder, List.cons.injEq, List.length_cons,
            Nat.add_right_cancel_iff, List.forall_mem_cons]
          constructor
          · rintro ⟨hne, _, ⟨hfill, hlen, hrest⟩, rfl, rfl⟩
            exact ⟨⟨rfl, hfill⟩, hlen, hne, hrest⟩
          · rintro ⟨⟨rfl, hfill⟩, hlen, hne, hrest⟩
            exact ⟨hne, values, ⟨hfill, hlen, hrest⟩, rfl, rfl⟩

theorem fill_ne_nil {ss : List Segment} (h : ss ≠ []) (values : List String) :
    fill ss values ≠ [] := by
  cases ss with
  | nil => exact absurd rfl h
  | cons s ss => cases s <;> cases values <;> simp [fill]

theorem mem_fill_of_mem {ss : List Segment} {values : List String}
    (hlen : values.length = (names ss).length) {v : String} (hv : v ∈ values) :
    v ∈ fill ss values := by
  induction ss generalizing values with
  | nil => simp_all
  | cons s ss ih =>
    cases s with
    | literal t => exact List.mem_cons_of_mem t (ih hlen hv)
    | placeholder n =>
      cases values with
      | nil => simp at hv
      | cons w values =>
        rcases List.mem_cons.mp hv with rfl | hv
        · exact List.mem_cons_self
        · exact List.mem_cons_of_mem w (ih (by simpa using hlen) hv)

/-- What is filled in holds no separator that neither a segment nor a value holds. -/
theorem not_mem_of_mem_fill {sep : Char} {ss : List Segment} {values : List String}
    (hss : ∀ s ∈ ss, sep ∉ s.render.toList) (hvalues : ∀ v ∈ values, sep ∉ v.toList)
    {part : String} (hpart : part ∈ fill ss values) : sep ∉ part.toList := by
  induction ss generalizing values with
  | nil => simp [fill] at hpart
  | cons s ss ih =>
    have hrest : ∀ s ∈ ss, sep ∉ s.render.toList := fun t ht => hss t (List.mem_cons_of_mem s ht)
    cases s with
    | literal t =>
      rcases List.mem_cons.mp hpart with rfl | hpart
      · exact hss (literal part) List.mem_cons_self
      · exact ih hrest hvalues hpart
    | placeholder n =>
      cases values with
      | nil =>
        rcases List.mem_cons.mp hpart with rfl | hpart
        · simp
        · exact ih hrest hvalues hpart
      | cons v values =>
        rcases List.mem_cons.mp hpart with rfl | hpart
        · exact hvalues part List.mem_cons_self
        · exact ih hrest (fun w hw => hvalues w (List.mem_cons_of_mem v hw)) hpart

/-- Placeholders that stand for themselves make the segments as they are written. -/
theorem fill_names (ss : List Segment) :
    fill ss ((names ss).map (":" ++ ·)) = ss.map render := by
  induction ss with
  | nil => rfl
  | cons s ss ih => cases s <;> simp [fill, render, ih]

/-- The names of the placeholders with the parts at their places. -/
def bindings (ss : List Segment) (parts : List String) : List (String × String) :=
  (ss.zip parts).filterMap fun sp => sp.1.name?.map (·, sp.2)

theorem zip_names_of_captureAll {ss : List Segment} {parts values : List String}
    (h : captureAll ss parts = some values) : (names ss).zip values = bindings ss parts := by
  induction ss generalizing parts values with
  | nil => rfl
  | cons s ss ih =>
    cases parts with
    | nil => cases s <;> simp [captureAll] at h
    | cons part parts =>
      cases s with
      | literal t => simpa [bindings, name?] using ih (captureAll_literal_iff.mp h).2
      | placeholder n =>
        obtain ⟨-, rest, hrest, rfl⟩ := captureAll_placeholder_iff.mp h
        simpa [bindings, name?] using ih hrest

end Segment

/-! ### Patterns -/

namespace Pattern

/-- `ps` and `qs` are values for the placeholders of the path and of the query that make a request
with the given path and query. -/
structure Fits (p : Pattern) (path : String) (query : Pairs) (ps qs : List String) : Prop where
  count : ps.length = (Segment.names p.segments).length
  fills : p.fill ps = path
  whole : ∀ v ∈ ps, v ≠ "" ∧ '/' ∉ v.toList
  found : List.Forall₂ (fun e v => query.FirstUnder e.key v) p.query qs

/-- The names of a pattern with what they stand for in a request: a name of the path part with the
part at its place, a name of the query part with the first value under its key. -/
def bindings (p : Pattern) (path : String) (query : Pairs) : List (String × String) :=
  Segment.bindings p.segments (Text.pieces '/' path) ++
    p.query.filterMap fun e => (query.get? e.key).map (e.name, ·)

variable {raw path : String} {query : Pairs} {p : Pattern}

theorem captures_eq_some_iff_parts {cs : List String} :
    p.captures path query = some cs ↔
      ∃ ps qs, Segment.captureAll p.segments (Text.pieces '/' path) = some ps ∧
        List.Forall₂ (fun e v => query.get? e.key = some v) p.query qs ∧ ps ++ qs = cs := by
  simp [captures, Option.bind_eq_some_iff, mapM_eq_some_iff]

theorem captureAll_pieces_iff (h : compile raw = .ok p) {ps : List String} :
    Segment.captureAll p.segments (Text.pieces '/' path) = some ps ↔
      ps.length = (Segment.names p.segments).length ∧ p.fill ps = path ∧
        ∀ v ∈ ps, v ≠ "" ∧ '/' ∉ v.toList := by
  -- The pieces are the parts with which the path is filled only if no part holds a slash.
  have hne := Segment.fill_ne_nil (segments_ne_nil h) ps
  rw [Segment.captureAll_eq_some_iff, eq_comm, Text.pieces_eq_iff hne]
  constructor
  · rintro ⟨⟨hfill, hfree⟩, hlen, hempty⟩
    exact ⟨hlen, hfill, fun v hv => ⟨hempty v hv, hfree v (Segment.mem_fill_of_mem hlen hv)⟩⟩
  · rintro ⟨hlen, hfill, hwhole⟩
    have hfree : ∀ part ∈ Segment.fill p.segments ps, '/' ∉ part.toList := fun part hpart =>
      Segment.not_mem_of_mem_fill (fun s hs => slash_not_mem_render h hs)
        (fun v hv => (hwhole v hv).2) hpart
    exact ⟨⟨hfill, hfree⟩, hlen, fun v hv => (hwhole v hv).1⟩

theorem captures_eq_some_iff_fits (h : compile raw = .ok p) {cs : List String} :
    p.captures path query = some cs ↔ ∃ ps qs, cs = ps ++ qs ∧ p.Fits path query ps qs := by
  simp only [captures_eq_some_iff_parts, captureAll_pieces_iff h, Pairs.get?_eq_some_iff]
  constructor
  · rintro ⟨ps, qs, ⟨hlen, hfill, hwhole⟩, hfound, rfl⟩
    exact ⟨ps, qs, rfl, hlen, hfill, hwhole, hfound⟩
  · rintro ⟨ps, qs, rfl, hfits⟩
    exact ⟨ps, qs, ⟨hfits.count, hfits.fills, hfits.whole⟩, hfits.found, rfl⟩

/-- No two different lists of values make the same request. -/
theorem Fits.unique (h : compile raw = .ok p) {ps ps' qs qs' : List String}
    (hfits : p.Fits path query ps qs) (hfits' : p.Fits path query ps' qs') :
    ps = ps' ∧ qs = qs' := by
  have hcaptures := (captures_eq_some_iff_fits h).mpr ⟨ps, qs, rfl, hfits⟩
  have hcaptures' := (captures_eq_some_iff_fits h).mpr ⟨ps', qs', rfl, hfits'⟩
  have happend : ps ++ qs = ps' ++ qs' := Option.some.inj (hcaptures.symm.trans hcaptures')
  exact List.append_inj happend (hfits.count.trans hfits'.count.symm)

theorem arity_eq (p : Pattern) :
    p.arity = (Segment.names p.segments).length + p.query.length := by
  simp [← length_names, names, Segment.names]

theorem length_of_captures {cs : List String} (h : p.captures path query = some cs) :
    cs.length = p.arity := by
  obtain ⟨ps, qs, hps, hqs, rfl⟩ := captures_eq_some_iff_parts.mp h
  rw [List.length_append, arity_eq, (Segment.captureAll_eq_some_iff.mp hps).2.1, hqs.length_eq]

theorem zip_names_of_found {entries : List QueryEntry} {qs : List String}
    (h : List.Forall₂ (fun e v => query.get? e.key = some v) entries qs) :
    (entries.map QueryEntry.name).zip qs =
      entries.filterMap fun e => (query.get? e.key).map (e.name, ·) := by
  induction h with
  | nil => rfl
  | cons hv _ ih => simp [hv, ih]

/-- What is captured stands at the places of the names. -/
theorem zip_names_of_captures {cs : List String} (h : p.captures path query = some cs) :
    p.names.zip cs = p.bindings path query := by
  obtain ⟨ps, qs, hps, hqs, rfl⟩ := captures_eq_some_iff_parts.mp h
  have hlen := (Segment.captureAll_eq_some_iff.mp hps).2.1
  rw [names, List.zip_append (by simpa [Segment.names] using hlen.symm), zip_names_of_found hqs,
    bindings, ← Segment.zip_names_of_captureAll hps]
  rfl

/-- A pattern captures `cs` exactly if `cs` is made of non-empty values without slashes that give
the path when they are put into the placeholders, and then of the first value under each key of the
query. There is one such list at most; it has one value for each name, in the order of the names.
The path part that is filled is that of the text. -/
theorem captures_eq_some_iff (h : compile raw = .ok p) (path : String) (query : Pairs) :
    (∀ cs, p.captures path query = some cs ↔
        ∃ ps qs, cs = ps ++ qs ∧ p.Fits path query ps qs) ∧
      (∀ ps qs ps' qs', p.Fits path query ps qs → p.Fits path query ps' qs' →
        ps = ps' ∧ qs = qs') ∧
      (∀ cs, p.captures path query = some cs →
        cs.length = p.arity ∧ p.names.length = p.arity ∧
          p.names.zip cs = p.bindings path query) ∧
      p.fill ((Segment.names p.segments).map (":" ++ ·)) = (parts raw).1 := by
  refine ⟨fun cs => captures_eq_some_iff_fits h, fun _ _ _ _ => Fits.unique h, ?_, ?_⟩
  · intro cs hcs
    exact ⟨length_of_captures hcs, length_names p, zip_names_of_captures hcs⟩
  · rw [fill, Segment.fill_names, map_render_segments h, Text.joined_pieces]

/-- An empty literal matches an empty stretch of the path, and a key that is there twice has its
first value. -/
theorem captures_eq_some_iff_repeated_key :
    let p : Pattern :=
      ⟨"/users//:id?page=:page", [.literal "", .literal "users", .literal "", .placeholder "id"],
        [⟨"page", "page"⟩]⟩
    compile "/users//:id?page=:page" = .ok p ∧
      ∃ ps qs, ["7", "2"] = ps ++ qs ∧
        p.Fits "/users//7" ⟨[("size", "1"), ("page", "2"), ("page", "3")]⟩ ps qs := by
  intro p
  have hp : compile "/users//:id?page=:page" = .ok p := by decide +kernel
  have hlaw := captures_eq_some_iff hp "/users//7" ⟨[("size", "1"), ("page", "2"), ("page", "3")]⟩
  exact ⟨hp, (hlaw.1 ["7", "2"]).mp (by decide +kernel)⟩

end Pattern

end Signpost
