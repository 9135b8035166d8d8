import Signpost.Proofs.Pattern.Captures
import Signpost.Proofs.Pattern.Grammar

/-!
# Mounted patterns

A mount point and a pattern are joined as texts, and what comes of it is a pattern that matches the
paths of the one followed by the paths of the other: `Pattern.captures_mounted`. The first segment
of a pattern is empty, so the segments of the joined pattern are those of the mount point and all
but the first of the pattern.
-/

namespace Signpost

/-! ### Segments one after another -/

namespace Segment

theorem names_append (ss ts : List Segment) : names (ss ++ ts) = names ss ++ names ts :=
  List.filterMap_append

/-- Each of two stretches of segments is filled with the values for its own placeholders. -/
theorem fill_append {ss : List Segment} {values : List String}
    (h : values.length = (names ss).length) (ts : List Segment) (more : List String) :
    fill (ss ++ ts) (values ++ more) = fill ss values ++ fill ts more := by
  induction ss generalizing values with
  | nil =>
    obtain rfl : values = [] := by simpa using h
    rfl
  | cons s ss ih =>
    cases s with
    | literal t => exact congrArg (t :: ·) (ih h)
    | placeholder n =>
      cases values with
      | nil           => simp at h
      | cons v values => exact congrArg (v :: ·) (ih (by simpa using h))

end Segment

namespace Pattern

/-! ### Patterns one after another -/

theorem render_append {ss ts : List Segment} (hss : ss ≠ []) (hts : ts ≠ [])
    (query : List QueryEntry) :
    render (ss ++ ts) query = render ss [] ++ render (.literal "" :: ts) query := by
  have hleft : ss.map Segment.render ≠ [] := by simpa using hss
  have hright : ts.map Segment.render ≠ [] := by simpa using hts
  have hpath := Text.joined_append '/' hleft hright
  have hempty : (Segment.literal "" :: ts).map Segment.render = "" :: ts.map Segment.render := rfl
  by_cases hquery : query.isEmpty = true
  · simp [render, hquery, hpath, hempty]
  · simp [render, hquery, hpath, hempty, String.append_assoc]

theorem WellFormed.append {ss ts : List Segment} {query : List QueryEntry} (h : WellFormed ss [])
    (h' : WellFormed (.literal "" :: ts) query) : WellFormed (ss ++ ts) query := by
  constructor
  case rooted =>
    obtain ⟨s, rest, rfl⟩ := h.rooted
    exact ⟨s, rest ++ ts, rfl⟩
  case segments =>
    intro s hs
    rcases List.mem_append.mp hs with hs | hs
    · exact h.segments s hs
    · exact h'.segments s (List.mem_cons_of_mem _ hs)
  case query => exact h'.query

/-- The pattern that matches what `p` matches and behind it what `q` matches, if `p` has no
query. -/
def followedBy (p q : Pattern) : Pattern :=
  ⟨p.raw ++ q.raw, p.segments ++ q.segments.tail, q.query⟩

variable {raw raw' path : String} {query : Pairs} {p q : Pattern}

theorem compile_followedBy (hp : compile raw = .ok p) (hquery : p.query = [])
    (hq : compile raw' = .ok q) : compile (raw ++ raw') = .ok (p.followedBy q) := by
  have hwell := wellFormed_of_compile hp
  have hwell' := wellFormed_of_compile hq
  have hrender := render_of_compile hp
  have hrender' := render_of_compile hq
  obtain ⟨s, rest, hsegments⟩ := hwell'.rooted
  obtain rfl : p.raw = raw := (compile_eq_ok_iff.mp hp).2.2.2
  obtain rfl : q.raw = raw' := (compile_eq_ok_iff.mp hq).2.2.2
  rw [hquery] at hwell hrender
  rw [hsegments] at hwell' hrender'
  have hcompile := (hwell.append hwell').compile_eq
  rw [render_append (segments_ne_nil hp) (by simp), hrender, hrender'] at hcompile
  rw [hcompile, followedBy, hsegments]
  rfl

theorem names_followedBy (hquery : p.query = []) (hq : compile raw' = .ok q) :
    (p.followedBy q).names = p.names ++ q.names := by
  obtain ⟨s, rest, hsegments⟩ := (wellFormed_of_compile hq).rooted
  simp only [names, followedBy, hquery, hsegments, List.tail_cons, List.filterMap_append,
    List.map_nil, List.append_nil, List.append_assoc]
  rfl

/-- What makes a path of both patterns makes the paths of each, one behind the other. -/
theorem fill_followedBy (hp : compile raw = .ok p) (hq : compile raw' = .ok q)
    {values : List String} (h : values.length = (Segment.names p.segments).length)
    (more : List String) :
    (p.followedBy q).fill (values ++ more) = p.fill values ++ q.fill more := by
  obtain ⟨s, rest, hsegments⟩ := (wellFormed_of_compile hq).rooted
  rw [fill, fill, fill, followedBy, Segment.fill_append h, hsegments]
  exact Text.joined_append '/' (Segment.fill_ne_nil (segments_ne_nil hp) values)
    (Segment.fill_ne_nil (by simp) more)

theorem segmentNames_followedBy (hq : compile raw' = .ok q) :
    Segment.names (p.followedBy q).segments =
      Segment.names p.segments ++ Segment.names q.segments := by
  obtain ⟨s, rest, hsegments⟩ := (wellFormed_of_compile hq).rooted
  rw [followedBy, hsegments, Segment.names_append]
  rfl

theorem fits_followedBy_iff (hp : compile raw = .ok p) (hquery : p.query = [])
    (hq : compile raw' = .ok q) {ps qs : List String} :
    (p.followedBy q).Fits path query ps qs ↔
      ∃ u v ps₁ ps₂, path = u ++ v ∧ ps = ps₁ ++ ps₂ ∧ p.Fits u query ps₁ [] ∧
        q.Fits v query ps₂ qs := by
  constructor
  · intro h
    have hcount := h.count
    rw [segmentNames_followedBy hq, List.length_append] at hcount
    -- The values for the placeholders of `p` come first.
    obtain ⟨ps₁, ps₂, rfl, hlen⟩ : ∃ ps₁ ps₂, ps = ps₁ ++ ps₂ ∧
        ps₁.length = (Segment.names p.segments).length := by
      refine ⟨ps.take (Segment.names p.segments).length, ps.drop (Segment.names p.segments).length,
        (List.take_append_drop _ ps).symm, ?_⟩
      rw [List.length_take, hcount]
      omega
    have hlen' : ps₂.length = (Segment.names q.segments).length := by
      rw [List.length_append] at hcount
      omega
    refine ⟨_, _, ps₁, ps₂, h.fills.symm.trans (fill_followedBy hp hq hlen ps₂), rfl, ?_, ?_⟩
    · exact ⟨hlen, rfl, fun v hv => h.whole v (List.mem_append_left _ hv), hquery ▸ .nil⟩
    · exact ⟨hlen', rfl, fun v hv => h.whole v (List.mem_append_right _ hv), h.found⟩
  · rintro ⟨u, v, ps₁, ps₂, rfl, rfl, h, h'⟩
    constructor
    case count =>
      rw [segmentNames_followedBy hq, List.length_append, List.length_append, h.count, h'.count]
    case fills => rw [fill_followedBy hp hq h.count, h.fills, h'.fills]
    case whole =>
      intro w hw
      exact (List.mem_append.mp hw).elim (h.whole w) (h'.whole w)
    case found => exact h'.found

theorem captures_followedBy_iff (hp : compile raw = .ok p) (hquery : p.query = [])
    (hq : compile raw' = .ok q) {cs : List String} :
    (p.followedBy q).captures path query = some cs ↔
      ∃ u v cs₁ cs₂, path = u ++ v ∧ p.captures u query = some cs₁ ∧
        q.captures v query = some cs₂ ∧ cs = cs₁ ++ cs₂ := by
  simp only [captures_eq_some_iff_fits hp, captures_eq_some_iff_fits hq,
    captures_eq_some_iff_fits (compile_followedBy hp hquery hq), fits_followedBy_iff hp hquery hq]
  constructor
  · rintro ⟨_, qs, rfl, u, v, ps₁, ps₂, rfl, rfl, h, h'⟩
    exact ⟨u, v, ps₁, ps₂ ++ qs, rfl, ⟨ps₁, [], by simp, h⟩, ⟨ps₂, qs, rfl, h'⟩, by simp⟩
  · rintro ⟨u, v, cs₁, cs₂, rfl, ⟨ps₁, es, rfl, h⟩, ⟨ps₂, qs, rfl, h'⟩, rfl⟩
    obtain rfl : es = [] := by
      have hfound := h.found
      rw [hquery] at hfound
      exact List.forall₂_nil_left_iff.mp hfound
    exact ⟨ps₁ ++ ps₂, qs, by simp, u, v, ps₁, ps₂, rfl, rfl, h, h'⟩

/-! ### Mount points -/

/-- What stands before a mounted pattern. -/
inductive Front
  | nothing
  | pattern (p : Pattern)

namespace Front

def names : Front → List String
  | nothing   => []
  | pattern p => p.names

/-- What is captured from the front part of a path; if nothing stands there, that part is empty. -/
def captures : Front → String → Pairs → Option (List String)
  | nothing,   path, _     => if path = "" then some [] else none
  | pattern p, path, query => p.captures path query

/-- The mount point is this front, a pattern without a query, and any number of slashes. -/
inductive StandsAt : Front → String → Prop
  | nothing (n : Nat) : StandsAt nothing (String.ofList (List.replicate n '/'))
  | pattern {raw : String} {p : Pattern} (h : compile raw = .ok p) (hquery : p.query = [])
      (hend : raw.toList.getLast? ≠ some '/') (n : Nat) :
      StandsAt (pattern p) (raw ++ String.ofList (List.replicate n '/'))

variable {mountPoint : String}

/-- Nothing stands at a mount point without anything before its trailing slashes. -/
theorem standsAt_nothing_iff :
    nothing.StandsAt mountPoint ↔ Text.dropTrailing '/' mountPoint = "" := by
  constructor
  · rintro ⟨n⟩
    have hend : "".toList.getLast? ≠ some '/' := by simp
    have hdrop := Text.dropTrailing_append_replicate hend n
    rwa [String.empty_append] at hdrop
  · intro h
    obtain ⟨n, hn, -⟩ := Text.exists_eq_dropTrailing_append '/' mountPoint
    rw [hn, h, String.empty_append]
    exact .nothing n

/-- A pattern stands at a mount point if it is what comes before the trailing slashes. -/
theorem standsAt_pattern_iff :
    (pattern p).StandsAt mountPoint ↔
      compile (Text.dropTrailing '/' mountPoint) = .ok p ∧ p.query = [] := by
  constructor
  · intro h
    cases h with
    | pattern h hquery hend n =>
      rw [Text.dropTrailing_append_replicate hend]
      exact ⟨h, hquery⟩
  · rintro ⟨h, hquery⟩
    obtain ⟨n, hn, hend⟩ := Text.exists_eq_dropTrailing_append '/' mountPoint
    rw [hn]
    exact .pattern h hquery hend n

theorem captures_nothing_iff {u : String} {cs : List String} :
    nothing.captures u query = some cs ↔ u = "" ∧ cs = [] := by
  simp [captures, eq_comm]

end Front

/-- A mounted pattern compiles. It has the names of the mount point and then those of the pattern.
It matches a path that the mount point matches with a path behind it that the pattern matches, and
captures from both in this order. -/
theorem captures_mounted {mountPoint : String} {front : Front} (hfront : front.StandsAt mountPoint)
    (hq : compile raw = .ok q) :
    ∃ m, compile (mounted mountPoint raw) = .ok m ∧ m.names = front.names ++ q.names ∧
      ∀ path query cs, m.captures path query = some cs ↔
        ∃ u v cs₁ cs₂, path = u ++ v ∧ front.captures u query = some cs₁ ∧
          q.captures v query = some cs₂ ∧ cs = cs₁ ++ cs₂ := by
  cases front with
  | nothing =>
    have hmounted : mounted mountPoint raw = raw := by
      rw [mounted, Front.standsAt_nothing_iff.mp hfront, String.empty_append]
    refine ⟨q, by rw [hmounted, hq], rfl, fun path query cs => ?_⟩
    simp only [Front.captures_nothing_iff]
    constructor
    · intro h
      exact ⟨"", path, [], cs, by simp, ⟨rfl, rfl⟩, h, rfl⟩
    · rintro ⟨u, v, cs₁, cs₂, rfl, ⟨rfl, rfl⟩, h, rfl⟩
      simpa using h
  | pattern p =>
    obtain ⟨hp, hquery⟩ := Front.standsAt_pattern_iff.mp hfront
    refine ⟨_, compile_followedBy hp hquery hq, names_followedBy hquery hq, fun path query cs => ?_⟩
    exact captures_followedBy_iff hp hquery hq

/-- The mount point brings a placeholder, and the pattern one in its path and one in its query. -/
theorem captures_mounted_placeholders :
    let p : Pattern := ⟨"/:user/mail", [.literal "", .placeholder "user", .literal "mail"], []⟩
    let q : Pattern := ⟨"/:id?page=:page", [.literal "", .placeholder "id"], [⟨"page", "page"⟩]⟩
    (Front.pattern p).StandsAt "/:user/mail//" ∧ compile "/:id?page=:page" = .ok q ∧
      ∃ m, compile (mounted "/:user/mail//" "/:id?page=:page") = .ok m ∧
        m.names = ["user", "id", "page"] ∧
        m.captures "/ann/mail/7" ⟨[("page", "2")]⟩ = some ["ann", "7", "2"] := by
  intro p q
  have hp : compile "/:user/mail" = .ok p := by decide +kernel
  have hq : compile "/:id?page=:page" = .ok q := by decide +kernel
  have hfront : (Front.pattern p).StandsAt "/:user/mail//" := .pattern hp rfl (by decide) 2
  obtain ⟨m, hm, hnames, hcaptures⟩ := captures_mounted hfront hq
  refine ⟨hfront, hq, m, hm, hnames, (hcaptures _ _ _).mpr ?_⟩
  exact ⟨"/ann/mail", "/7", ["ann"], ["7", "2"], by decide +kernel⟩

end Pattern

end Signpost
