import FrontDoor.Proofs.Assembly.Mounting
import FrontDoor.Proofs.Route.Overlap
import Mathlib.Data.List.Induction

namespace FrontDoor

namespace Route

structure Servable (path : String) : Prop where
  absolute : path.toList.head? = some '/'
  noOldCapture : ∀ s ∈ segments path.toList, s.head? ≠ some ':' ∧ s.head? ≠ some '*'
  parses : ∃ π, Pattern.parse? path = some π

def Overlap (p q : String) : Prop :=
  ∃ π ρ, Pattern.parse? p = some π ∧ Pattern.parse? q = some ρ ∧ π.conflicts ρ = true

/-- A path can be served and overlaps none of the mounted paths that go before it. -/
def Fits (mounted : List String) (path : String) : Prop :=
  Servable path ∧ ∀ q ∈ mounted, q < path → ¬ Overlap q path

def ShapeTaken (mounted : List String) (path : String) : Prop :=
  ∃ q ∈ mounted, q < path ∧ shape q = shape path

theorem problem?_eq_none_iff (path : String) :
    problem? path = none ↔ path.toList.head? = some '/' ∧
      ∀ s ∈ segments path.toList, s.head? ≠ some ':' ∧ s.head? ≠ some '*' := by
  rw [problem?]
  by_cases habsolute : path.toList.head? = some '/'
  · by_cases hold : (segments path.toList).any fun s ↦ s.head? = some ':' || s.head? = some '*'
    · have hbad : ¬ ∀ s ∈ segments path.toList, s.head? ≠ some ':' ∧ s.head? ≠ some '*' := by
        obtain ⟨s, hs, hhead⟩ := List.any_eq_true.1 hold
        intro hall
        simp [hall s hs] at hhead
      simp [habsolute, hold, hbad]
    · have hgood : ∀ s ∈ segments path.toList, s.head? ≠ some ':' ∧ s.head? ≠ some '*' := by
        simpa using hold
      simpa [habsolute, hold] using hgood
  · simp [habsolute]

theorem fits_append_singleton {mounted : List String} {path q : String} (h : ¬ q < path) :
    Fits (mounted ++ [q]) path ↔ Fits mounted path := by
  simp only [Fits, List.forall_mem_append, List.forall_mem_singleton, h, false_implies, and_true]

theorem shapeTaken_append_singleton {mounted : List String} {path q : String} (h : ¬ q < path) :
    ShapeTaken (mounted ++ [q]) path ↔ ShapeTaken mounted path := by
  simp only [ShapeTaken, List.mem_append, List.mem_singleton, or_and_right, exists_or,
    exists_eq_left, h, false_and, or_false]

theorem servable_iff (path : String) :
    Servable path ↔ problem? path = none ∧ (Pattern.parse? path).isSome = true := by
  rw [problem?_eq_none_iff, Option.isSome_iff_exists]
  constructor
  · rintro ⟨habsolute, hsegments, hparses⟩
    exact ⟨⟨habsolute, hsegments⟩, hparses⟩
  · rintro ⟨⟨habsolute, hsegments⟩, hparses⟩
    exact ⟨habsolute, hsegments, hparses⟩

theorem overlap_iff (p q : String) :
    Overlap p q ↔ ((Pattern.parse? p).any fun π ↦ (Pattern.parse? q).any π.conflicts) = true := by
  simp only [Overlap, Option.any_eq_true]
  constructor
  · rintro ⟨π, ρ, hπ, hρ, h⟩
    exact ⟨π, hπ, ρ, hρ, h⟩
  · rintro ⟨π, hπ, ρ, hρ, h⟩
    exact ⟨π, ρ, hπ, hρ, h⟩

instance (path : String) : Decidable (Servable path) := decidable_of_iff' _ (servable_iff path)

instance (p q : String) : Decidable (Overlap p q) := decidable_of_iff' _ (overlap_iff p q)

instance (mounted : List String) (path : String) : Decidable (Fits mounted path) :=
  inferInstanceAs (Decidable (Servable path ∧ ∀ q ∈ mounted, q < path → ¬ Overlap q path))

theorem not_overlap_iff {p q : String} {π : Pattern} (hq : Pattern.parse? q = some π) :
    ¬ Overlap p q ↔ ∀ ρ, Pattern.parse? p = some ρ → ρ.conflicts π = false := by
  constructor
  · intro hnot ρ hρ
    exact Bool.eq_false_iff.2 fun hconflicts ↦ hnot ⟨ρ, π, hρ, hq, hconflicts⟩
  · rintro hapart ⟨ρ, σ, hρ, hσ, hconflicts⟩
    obtain rfl : π = σ := Option.some.inj (hq.symm.trans hσ)
    rw [hapart ρ hρ] at hconflicts
    cases hconflicts

theorem overlap_of_shape_eq {p q : String} (hp : ¬ DoublesBrace p.toList)
    (hq : ¬ DoublesBrace q.toList) (hp' : Servable p) (hq' : Servable q) (h : shape p = shape q) :
    Overlap p q := by
  obtain ⟨π, hπ⟩ := hp'.parses
  obtain ⟨ρ, hρ⟩ := hq'.parses
  obtain rfl : π = ρ := parse?_eq_of_shape_eq hp hq hπ hρ h
  exact ⟨π, π, hπ, hρ, π.conflicts_self⟩

end Route

namespace Http

variable {υ : Type} {layerOf : Middleware (host υ) → Layer υ} {middleware : List (Middleware (host υ))}
  {table : EndpointTable (MethodTable υ)} {m : Mounting υ} {path : String} {π : Route.Pattern}

namespace Mounting

theorem pattern?_eq_some_iff :
    m.pattern? path = some π ↔ Route.Servable path ∧ Route.Pattern.parse? path = some π ∧
      ∀ s ∈ m.shapes, s.1 ≠ Route.shape path := by
  rw [pattern?]
  cases hproblem : Route.problem? path with
  | some problem =>
    have hnot : ¬ Route.Servable path := by
      intro h
      rw [(Route.problem?_eq_none_iff path).2 ⟨h.absolute, h.noOldCapture⟩] at hproblem
      cases hproblem
    exact iff_of_false (by simp) fun h ↦ hnot h.1
  | none =>
    obtain ⟨habsolute, hsegments⟩ := (Route.problem?_eq_none_iff path).1 hproblem
    cases hshape : m.shapes.find? fun s ↦ s.1 = Route.shape path with
    | some s =>
      have htaken : ¬ ∀ s ∈ m.shapes, s.1 ≠ Route.shape path := by
        intro hfree
        exact hfree s (List.mem_of_find?_eq_some hshape) (by simpa using List.find?_some hshape)
      exact iff_of_false (by simp) fun h ↦ htaken h.2.2
    | none =>
      have hfree : ∀ s ∈ m.shapes, s.1 ≠ Route.shape path := by simpa using hshape
      simp only [Option.isSome_none, Bool.false_eq_true, if_false]
      constructor
      · intro h
        exact ⟨⟨habsolute, hsegments, π, h⟩, h, hfree⟩
      · rintro ⟨-, h, -⟩
        exact h

def Recorded (m : Mounting υ) : Prop := ∀ s ∈ m.shapes, s.1 = Route.shape s.2

theorem Recorded.free_iff (h : m.Recorded) (shape : String) :
    (∀ s ∈ m.shapes, s.1 ≠ shape) ↔ ∀ q ∈ m.paths, Route.shape q ≠ shape := by
  simp only [paths, List.forall_mem_map]
  exact forall₂_congr fun s hs ↦ by rw [h s hs]

theorem Standing.forall_routes_iff (h : Standing layerOf middleware table m)
    (hπ : Route.Pattern.parse? path = some π) :
    (∀ route ∈ m.router.routes, route.pattern.conflicts π = false) ↔
    ∀ q ∈ m.paths, ¬ Route.Overlap q path := by
  simp only [Route.not_overlap_iff hπ]
  constructor
  · intro hroutes q hq ρ hρ
    obtain ⟨route, hroute, hrouteOf⟩ := h.exists_route hq
    obtain rfl : ρ = route.pattern := Option.some.inj (hρ.symm.trans hrouteOf.pattern)
    exact hroutes route hroute
  · intro hpaths route hroute
    obtain ⟨q, hq, hrouteOf⟩ := h.exists_path hroute
    exact hpaths q hq route.pattern hrouteOf.pattern

theorem Standing.added_cases (h : Standing layerOf middleware table m)
    (hwraps : Wraps layerOf middleware) (hrecorded : m.Recorded) (hlast : ∀ q ∈ m.paths, q < path)
    (endpoint : MethodTable υ) :
    (Route.Fits m.paths path ∧ ¬ Route.ShapeTaken m.paths path) ∧
      (m.added middleware path endpoint).shapes = m.shapes ++ [(Route.shape path, path)] ∨
    ¬ (Route.Fits m.paths path ∧ ¬ Route.ShapeTaken m.paths path) ∧
    m.added middleware path endpoint = m := by
  have hfits : Route.Fits m.paths path ↔ Route.Servable path ∧ ∀ q ∈ m.paths, ¬ Route.Overlap q path :=
    and_congr_right fun _ ↦ forall₂_congr fun q hq ↦ by simp only [hlast q hq, true_implies]
  have hfree : ¬ Route.ShapeTaken m.paths path ↔ ∀ s ∈ m.shapes, s.1 ≠ Route.shape path := by
    rw [hrecorded.free_iff]
    simp only [Route.ShapeTaken, not_exists, not_and]
    exact forall₂_congr fun q hq ↦ by simp only [hlast q hq, true_implies, ne_eq]
  rw [hfits, hfree, Mounting.added]
  cases hπ : m.pattern? path with
  | none =>
    refine .inr ⟨?_, rfl⟩
    rintro ⟨⟨hservable, -⟩, hshapes⟩
    obtain ⟨π, hparse⟩ := hservable.parses
    rw [pattern?_eq_some_iff.2 ⟨hservable, hparse, hshapes⟩] at hπ
    cases hπ
  | some π =>
    obtain ⟨hservable, hparse, hshapes⟩ := pattern?_eq_some_iff.1 hπ
    rw [← h.forall_routes_iff hparse]
    dsimp only
    rw [wrapped_eq_layer hwraps]
    cases hmerge : m.router.merge?
      ((Router.single π endpoint).layer (around layerOf (covering middleware path))) with
    | some router =>
      obtain ⟨hapart, -, -⟩ := Router.merge?_eq_some.1 hmerge
      exact .inl ⟨⟨⟨hservable, hapart _ List.mem_cons_self⟩, hshapes⟩, rfl⟩
    | none =>
      refine .inr ⟨?_, rfl⟩
      rintro ⟨⟨-, hapart⟩, -⟩
      have hmerged : ∀ b ∈
          ((Router.single π endpoint).layer (around layerOf (covering middleware path))).routes,
          ∀ a ∈ m.router.routes, a.pattern.conflicts b.pattern = false := by
        intro b hb
        rw [List.mem_singleton.1 hb]
        exact hapart
      rw [Router.merge?_eq_some.2 ⟨hmerged, by rw [h.ownFallback]; rfl, rfl⟩] at hmerge
      cases hmerge

structure Walked (m : Mounting υ) (es : List (String × OwnedEndpoint (MethodTable υ))) : Prop where
  recorded : m.Recorded
  sublist : m.paths.Sublist (es.map (·.1))
  mem_iff : ∀ e ∈ es, e.1 ∈ m.paths ↔ Route.Fits m.paths e.1 ∧ ¬ Route.ShapeTaken m.paths e.1

theorem walked_mount (hwraps : Wraps layerOf middleware)
    {es : List (String × OwnedEndpoint (MethodTable υ))} (hes : ∀ e ∈ es, table.get? e.1 = some e.2)
    (hascending : es.Pairwise fun a b ↦ a.1 < b.1) :
    (({} : Mounting υ).mount middleware es).Walked es := by
  induction es using List.reverseRecOn with
  | nil =>
    refine ⟨?_, List.Sublist.refl _, ?_⟩
    · rintro s ⟨⟩
    · rintro e ⟨⟩
  | append_singleton es e ih =>
    obtain ⟨hbefore, -, hlast⟩ := List.pairwise_append.1 hascending
    have hstanding : Standing layerOf middleware table (({} : Mounting υ).mount middleware es) :=
      standing_empty.mount hwraps fun a ha ↦ hes a (List.mem_append_left _ ha)
    have hwalked := ih (fun a ha ↦ hes a (List.mem_append_left _ ha)) hbefore
    set m := ({} : Mounting υ).mount middleware es with hm
    have hlt : ∀ a ∈ es, a.1 < e.1 := fun a ha ↦ hlast a ha e List.mem_cons_self
    have hbelow : ∀ q ∈ m.paths, q < e.1 := by
      intro q hq
      obtain ⟨a, ha, rfl⟩ := List.mem_map.1 (hwalked.sublist.mem hq)
      exact hlt a ha
    have hmount : ({} : Mounting υ).mount middleware (es ++ [e]) =
        m.added middleware e.1 e.2.endpoint := by
      rw [mount, List.foldl_append]
      rfl
    have hnot : e.1 ∉ m.paths := fun hmem ↦ String.lt_irrefl _ (hbelow _ hmem)
    rw [hmount]
    rcases hstanding.added_cases hwraps hwalked.recorded hbelow e.2.endpoint
      with ⟨hfits, hshapes⟩ | ⟨hfits, heq⟩
    · have hpaths : (m.added middleware e.1 e.2.endpoint).paths = m.paths ++ [e.1] := by
        rw [paths, hshapes, List.map_append]
        rfl
      refine ⟨?_, ?_, ?_⟩
      · rw [Recorded, hshapes]
        intro s hs
        rcases List.mem_append.1 hs with hs | hs
        · exact hwalked.recorded s hs
        · rw [List.mem_singleton.1 hs]
      · rw [hpaths, List.map_append]
        exact hwalked.sublist.append (List.Sublist.refl _)
      · rw [hpaths]
        intro a ha
        rcases List.mem_append.1 ha with ha | ha
        · have hafter : ¬ e.1 < a.1 := fun h ↦ String.lt_irrefl _ (String.lt_trans h (hlt a ha))
          have hne : a.1 ≠ e.1 := fun heq ↦ String.lt_irrefl _ (heq ▸ hlt a ha)
          rw [Route.fits_append_singleton hafter, Route.shapeTaken_append_singleton hafter,
            ← hwalked.mem_iff a ha]
          simp [hne]
        · rw [List.mem_singleton.1 ha, Route.fits_append_singleton (String.lt_irrefl _),
            Route.shapeTaken_append_singleton (String.lt_irrefl _)]
          exact iff_of_true (List.mem_append_right _ List.mem_cons_self) hfits
    · rw [heq]
      refine ⟨hwalked.recorded, ?_, fun a ha ↦ ?_⟩
      · rw [List.map_append]
        exact hwalked.sublist.trans (List.sublist_append_left _ _)
      · rcases List.mem_append.1 ha with ha | ha
        · exact hwalked.mem_iff a ha
        · rw [List.mem_singleton.1 ha]
          exact iff_of_false hnot hfits

end Mounting

theorem contains_iff_exists_mem {table : EndpointTable (MethodTable υ)} :
    table.contains path = true ↔ ∃ e ∈ table.entries, e.1 = path := by
  rw [← Dict.mem_keys_iff, Dict.keys, List.mem_map]

/-- Let middleware wrap. The endpoints of a manager are walked in ascending order of their paths. A
path is mounted exactly when it can be served, overlaps no mounted path before it and has the shape
of none; a shape that is taken matters only where an opening brace is doubled, since otherwise paths
of one shape overlap. Every mounted path has a route of its own, which serves its endpoint behind
the middleware that covers it. -/
theorem assemble_mounts (m : Manager (host υ) υ) (server : Config.ServerConfig)
    (layerOf : Middleware (host υ) → Layer υ) (hwraps : Wraps layerOf m.middleware) :
    let mounted := (mounting m).paths
    (assemble m server).Yields
      ((mounting m).router.layer (hookLayer m.hooks server.requestTimeoutSeconds)) ∧
    (mounting m).Standing layerOf m.middleware m.table ∧ mounted.Pairwise (· < ·) ∧
    (∀ path, path ∈ mounted ↔ m.table.contains path ∧ Route.Fits mounted path ∧
      ¬ Route.ShapeTaken mounted path) ∧
    ((∀ path, m.table.contains path → ¬ Route.DoublesBrace path.toList) →
      ∀ path, path ∈ mounted ↔ m.table.contains path ∧ Route.Fits mounted path) := by
  intro mounted
  have hstanding := standing_mounting m hwraps
  have hwalked : (mounting m).Walked m.table.entries :=
    Mounting.walked_mount hwraps (fun e he ↦ (m.table.mem_entries_iff e.1 e.2).1 he) m.table.ascending
  have hsorted : mounted.Pairwise (· < ·) :=
    (List.pairwise_map.2 m.table.ascending).sublist hwalked.sublist
  have hcontains : ∀ path ∈ mounted, m.table.contains path := by
    intro path hpath
    obtain ⟨e, he, rfl⟩ := List.mem_map.1 (hwalked.sublist.mem hpath)
    exact contains_iff_exists_mem.2 ⟨e, he, rfl⟩
  have hexact : ∀ path, path ∈ mounted ↔
      m.table.contains path ∧ Route.Fits mounted path ∧ ¬ Route.ShapeTaken mounted path := by
    intro path
    constructor
    · intro hpath
      obtain ⟨e, he, rfl⟩ := contains_iff_exists_mem.1 (hcontains path hpath)
      exact ⟨hcontains _ hpath, (hwalked.mem_iff e he).1 hpath⟩
    · rintro ⟨hpath, hfits⟩
      obtain ⟨e, he, rfl⟩ := contains_iff_exists_mem.1 hpath
      exact (hwalked.mem_iff e he).2 hfits
  refine ⟨yields_assemble m server, hstanding, hsorted, hexact, fun hplain path ↦ ?_⟩
  rw [hexact]
  refine and_congr_right fun hpath ↦ and_iff_left_of_imp fun hfits ↦ ?_
  rintro ⟨q, hq, hlt, hshape⟩
  have hservable : Route.Servable q := ((hexact q).1 hq).2.1.1
  exact hfits.2 q hq hlt
    (Route.overlap_of_shape_eq (hplain q (hcontains q hq))
      (hplain path hpath) hservable hfits.1 hshape)

def echoManager (paths : List String) (middleware : List (Middleware (host Unit))) :
    Manager (host Unit) Unit where
  plugins := []
  table := .ofList (paths.map fun path ↦ (path, ⟨"echo", .get fun _ ↦ return .text 200 path⟩))
  middleware := middleware

theorem assemble_mounts_users :
    let m := echoManager ["/users/\x7bname\x7d", "/health", "/users/\x7bid\x7d", "/old/:id"]
      [teapot "/users"]
    let layerOf : Middleware (host Unit) → Layer Unit := fun _ _ _ ↦ return .empty 418
    Wraps layerOf m.middleware ∧ (mounting m).paths = ["/health", "/users/\x7bid\x7d"] ∧
    (mounting m).Standing layerOf m.middleware m.table ∧
    (∀ path, m.table.contains path → ¬ Route.DoublesBrace path.toList) ∧
    ∀ path, path ∈ (mounting m).paths ↔
      m.table.contains path ∧ Route.Fits (mounting m).paths path := by
  intro m layerOf
  have hwraps : Wraps layerOf m.middleware := by
    intro mw hmw r
    rw [List.mem_singleton.1 hmw]
    rfl
  have hentries : ∀ e ∈ m.table.entries, ¬ Route.DoublesBrace e.1.toList := by decide +kernel
  have hplain : ∀ path, m.table.contains path → ¬ Route.DoublesBrace path.toList := by
    intro path hpath
    obtain ⟨e, he, rfl⟩ := contains_iff_exists_mem.1 hpath
    exact hentries e he
  obtain ⟨-, hstanding, -, -, hexact⟩ := assemble_mounts m {} layerOf hwraps
  exact ⟨hwraps, by decide +kernel, hstanding, hplain, hexact hplain⟩

/-- Of two literal paths with doubled braces the second one is skipped for its shape, though it
overlaps no other path. -/
theorem braces_shadow :
    let m := echoManager ["/\x7b\x7ba\x7d\x7d", "/\x7b\x7bb\x7d\x7d"] []
    (mounting m).paths = ["/\x7b\x7ba\x7d\x7d"] ∧ m.table.contains "/\x7b\x7bb\x7d\x7d" = true ∧
    Route.Fits (mounting m).paths "/\x7b\x7bb\x7d\x7d" ∧
    ∃ router w, (assemble m {}).outcome (World.start ()) = (.ok router, w) ∧
      ((router.handle { method := "GET", path := "/\x7bb\x7d" }).outcome (World.start ())).1 =
        .ok (.empty 404) := by
  intro m
  obtain ⟨events, hassemble⟩ := yields_assemble m {} (World.start ())
  refine ⟨?_, ?_, ?_, _, _, hassemble, ?_⟩
  · decide +kernel
  · decide +kernel
  · decide +kernel
  · decide +kernel

end Http

end FrontDoor
