import FrontDoor.Proofs.Manager.Start
import Mathlib.Data.List.Forall2
import Mathlib.Data.List.Perm.Basic

namespace FrontDoor

variable {H : Host} {υ : Type}

theorem eq_of_perm_of_forall_eq {α : Type} {xs ys : List α} (h : xs.Perm ys)
    (heq : ∀ x ∈ xs, ∀ y ∈ xs, x = y) :
    xs = ys := by
  have hpair (zs : List α) : zs.Pairwise fun _ _ ↦ True := List.pairwise_of_forall fun _ _ ↦ trivial
  exact h.eq_of_pairwise (fun x y hx hy _ _ ↦ heq x hx y (h.mem_iff.2 hy)) (hpair xs) (hpair ys)

namespace Contribution

/-- A plugin that is untouched gives what the context says, and only that; to initialize one plugin
touches no other. -/
structure Independent (ctx : H.Context) (untouched : Plugin H υ → World υ → Prop)
    (ps : PluginList H υ) :
    Prop where
  same : ∀ c v v' u, c.plugin ∈ ps → untouched c.plugin v → Given ctx c v v' → untouched c.plugin u →
    ∃ u', Given ctx c u u'
  apart : ∀ c v v' p, c.plugin ∈ ps → p ∈ ps → p.id ≠ c.plugin.id → Given ctx c v v' → untouched p v →
    untouched p v'

variable {ctx : H.Context} {untouched : Plugin H υ → World υ → Prop} {ps qs : PluginList H υ}
  {cs ds : List (Contribution H υ)} {w w' : World υ}

theorem Independent.perm (h : Independent ctx untouched ps) (hperm : ps.Perm qs) :
    Independent ctx untouched qs where
  same c v v' u hc := h.same c v v' u (hperm.mem_iff.2 hc)
  apart c v v' p hc hp := h.apart c v v' p (hperm.mem_iff.2 hc) (hperm.mem_iff.2 hp)

theorem Independent.untouched_of_given (h : Independent ctx untouched ps) {c : Contribution H υ}
    (hids : ((c :: cs).map (·.plugin.id)).Nodup) (hcs : ∀ a ∈ c :: cs, a.plugin ∈ ps)
    (hgiven : Given ctx c w w')
    (hw : ∀ a ∈ c :: cs, untouched a.plugin w) : ∀ a ∈ cs, untouched a.plugin w' := by
  intro a ha
  have hother : a.plugin.id ≠ c.plugin.id := by
    intro heq
    exact (List.nodup_cons.1 hids).1 (List.mem_map.2 ⟨a, ha, heq⟩)
  have ha' := List.mem_cons_of_mem c ha
  exact h.apart c w w' a.plugin (hcs c List.mem_cons_self) (hcs a ha') hother hgiven (hw a ha')

theorem Independent.exists_given (h : Independent ctx untouched ps) (hruns : Runs (Given ctx) cs w w')
    (hids : (cs.map (·.plugin.id)).Nodup) (hcs : ∀ c ∈ cs, c.plugin ∈ ps)
    (hw : ∀ c ∈ cs, untouched c.plugin w) :
    ∀ c ∈ cs, ∃ v v', untouched c.plugin v ∧ Given ctx c v v' := by
  induction hruns with
  | nil => simp
  | @cons c cs w w₁ _ hgiven _ ih =>
    have hw₁ := h.untouched_of_given hids hcs hgiven hw
    have hrest := ih (List.nodup_cons.1 hids).2 (fun a ha ↦ hcs a (List.mem_cons_of_mem c ha)) hw₁
    intro a ha
    rcases List.mem_cons.1 ha with rfl | ha
    · exact ⟨w, w₁, hw a List.mem_cons_self, hgiven⟩
    · exact hrest a ha

theorem Independent.exists_runs (h : Independent ctx untouched ps)
    (hids : (cs.map (·.plugin.id)).Nodup) (hcs : ∀ c ∈ cs, c.plugin ∈ ps)
    (hgiven : ∀ c ∈ cs, ∃ v v', untouched c.plugin v ∧ Given ctx c v v')
    (hw : ∀ c ∈ cs, untouched c.plugin w) : ∃ w', Runs (Given ctx) cs w w' := by
  induction cs generalizing w with
  | nil => exact ⟨w, .nil w⟩
  | cons c cs ih =>
    obtain ⟨v, v', hv, hc⟩ := hgiven c List.mem_cons_self
    obtain ⟨w₁, hc⟩ := h.same c v v' w (hcs c List.mem_cons_self) hv hc (hw c List.mem_cons_self)
    have hw₁ := h.untouched_of_given hids hcs hc hw
    obtain ⟨w', hruns⟩ := ih (List.nodup_cons.1 hids).2 (fun a ha ↦ hcs a (List.mem_cons_of_mem c ha))
      (fun a ha ↦ hgiven a (List.mem_cons_of_mem c ha)) hw₁
    exact ⟨w', .cons hc hruns⟩

theorem NoSharedPath.perm (h : NoSharedPath cs) (hperm : cs.Perm ds) : NoSharedPath ds :=
  (hperm.pairwise_iff fun {_ _} hab path hb ha ↦ hab path ha hb).1 h

/-- No priority is used by two different plugins. -/
def NoSharedPriority (cs : List (Contribution H υ)) : Prop :=
  ∀ a ∈ cs, ∀ b ∈ cs, a.plugin.id ≠ b.plugin.id → ∀ x ∈ a.middleware, ∀ y ∈ b.middleware,
    x.priority ≠ y.priority

end Contribution

namespace Manager

open Contribution

variable {ctx : H.Context} {untouched : Plugin H υ → World υ → Prop} {ps qs : PluginList H υ}
  {cs ds : List (Contribution H υ)} {w : World υ} {m n : Manager H υ}

theorem Contributed.ids (h : Contributed ctx ps w cs) : cs.map (·.plugin.id) = ps.ids := by
  rw [PluginList.ids, ← h.plugins, List.map_map]
  rfl

theorem Contributed.unique (h : Contributed ctx ps w cs) (h' : Contributed ctx ps w ds) : cs = ds := by
  obtain ⟨w₁, hruns⟩ := h.given
  obtain ⟨w₂, hruns'⟩ := h'.given
  exact (runs_deterministic hruns hruns' (h.plugins.trans h'.plugins.symm)).1

theorem exists_contributed_of_perm (hperm : ps.Perm qs) (hids : ps.ids.Nodup)
    (h : Independent ctx untouched ps) (hw : ∀ p ∈ ps, untouched p w) (hcs : Contributed ctx ps w cs) :
    ∃ ds, cs.Perm ds ∧ Contributed ctx qs w ds := by
  have hmem : ∀ c ∈ cs, c.plugin ∈ ps := fun c hc ↦ hcs.plugins ▸ List.mem_map_of_mem hc
  obtain ⟨w', hruns⟩ := hcs.given
  have hgiven := h.exists_given hruns (hcs.ids ▸ hids) hmem fun c hc ↦ hw _ (hmem c hc)
  have hplugins : List.Forall₂ (fun p (c : Contribution H υ) ↦ c.plugin = p) ps cs := by
    rw [← hcs.plugins]
    exact List.forall₂_map_left_iff.2 (List.forall₂_same.2 fun _ _ ↦ rfl)
  -- Each plugin takes its contribution along to its new place.
  obtain ⟨ds, hds, hback⟩ := List.perm_comp_forall₂ hperm.symm hplugins
  have hdsPlugins : ds.map (·.plugin) = qs := by
    rw [← List.forall₂_eq_eq_eq]
    exact List.forall₂_map_left_iff.2 (hds.flip.imp fun _ _ heq ↦ heq)
  have hdsIds : (ds.map (·.plugin.id)).Nodup := ((hback.map _).nodup_iff).2 (hcs.ids ▸ hids)
  have hdsMem : ∀ d ∈ ds, d.plugin ∈ ps := fun d hd ↦ hmem d (hback.mem_iff.1 hd)
  obtain ⟨w'', hruns'⟩ := h.exists_runs hdsIds hdsMem (fun d hd ↦ hgiven d (hback.mem_iff.1 hd))
    fun d hd ↦ hw _ (hdsMem d hd)
  exact ⟨ds, hback.symm, hdsPlugins, ⟨w'', hruns'⟩, hcs.noSharedPath.perm hback.symm⟩

/-- Two managers that serve the same, up to the order of middleware of one priority. -/
structure SameServed (cs : List (Contribution H υ)) (m n : Manager H υ) : Prop where
  endpoints : m.endpoints = n.endpoints
  owner : ∀ path, m.endpointOwner? path = n.endpointOwner? path
  hooks : ∀ p id, m.hooks.hooksOf p id = n.hooks.hooksOf p id
  permutation : m.middleware.Perm n.middleware
  middleware : NoSharedPriority cs → m.middleware = n.middleware

theorem SameServed.table (h : SameServed cs m n) : m.table = n.table := by
  have hsame (x y : Option (OwnedEndpoint H.Endpoint)) (howner : x.map (·.owner) = y.map (·.owner))
      (hendpoint : x.map (·.endpoint) = y.map (·.endpoint)) : x = y := by
    rcases x with - | ⟨owner, endpoint⟩ <;> rcases y with - | ⟨owner', endpoint'⟩ <;> simp_all
  refine Dict.ext_get? fun path ↦ hsame _ _ (h.owner path) ?_
  rw [← EndpointTable.get?_endpoints, ← EndpointTable.get?_endpoints]
  exact congrArg (Dict.get? · path) h.endpoints

theorem filter_middleware_of_perm (hperm : cs.Perm ds) (hids : (cs.map (·.plugin.id)).Nodup)
    (h : NoSharedPriority cs) (n : Int) : (cs.flatMap (·.middleware)).filter (fun a ↦ a.priority = n) =
      (ds.flatMap (·.middleware)).filter fun a ↦ a.priority = n := by
  let chosen (c : Contribution H υ) : List (Middleware H) := c.middleware.filter fun a ↦ a.priority = n
  have hchosen (as : List (Contribution H υ)) :
      as.flatMap chosen = (as.filter fun c ↦ !(chosen c).isEmpty).flatMap chosen := by
    induction as with
    | nil => rfl
    | cons a as ih =>
      rw [List.flatMap_cons, List.filter_cons, ih]
      cases hempty : chosen a with
      | nil => simp
      | cons x xs => simp [hempty]
  have hsome {c : Contribution H υ} (hc : (!(chosen c).isEmpty) = true) :
      ∃ x ∈ c.middleware, x.priority = n := by
    obtain ⟨x, hx⟩ := List.exists_mem_of_ne_nil (chosen c) (by simpa using hc)
    obtain ⟨hx, hn⟩ := List.mem_filter.1 hx
    exact ⟨x, hx, of_decide_eq_true hn⟩
  rw [List.filter_flatMap, List.filter_flatMap]
  refine (hchosen cs).trans (Eq.trans ?_ (hchosen ds).symm)
  congr 1
  -- Only one plugin has middleware of this priority, so the order of the plugins is no matter.
  refine eq_of_perm_of_forall_eq (hperm.filter _) fun a ha b hb ↦ ?_
  obtain ⟨ha, hsomea⟩ := List.mem_filter.1 ha
  obtain ⟨hb, hsomeb⟩ := List.mem_filter.1 hb
  obtain ⟨x, hx, hxn⟩ := hsome hsomea
  obtain ⟨y, hy, hyn⟩ := hsome hsomeb
  by_contra hne
  have hid : a.plugin.id ≠ b.plugin.id := fun hid ↦ hne (List.inj_on_of_nodup_map hids ha hb hid)
  exact h a ha b hb hid x hx y hy (hxn.trans hyn.symm)

theorem priority_le_of_mem {x y : Middleware H} {ys : List (Middleware H)}
    (hys : (y :: ys).Pairwise fun a b ↦ a.priority ≤ b.priority) (hx : x ∈ y :: ys) :
    y.priority ≤ x.priority := by
  rcases List.mem_cons.1 hx with rfl | hx
  · exact Int.le_refl _
  · exact (List.pairwise_cons.1 hys).1 x hx

theorem eq_of_filter_priority {xs ys : List (Middleware H)}
    (hxs : xs.Pairwise fun a b ↦ a.priority ≤ b.priority)
    (hys : ys.Pairwise fun a b ↦ a.priority ≤ b.priority)
    (h : ∀ n : Int, xs.filter (fun a ↦ a.priority = n) = ys.filter fun a ↦ a.priority = n) :
    xs = ys := by
  have hfilter (zs : List (Middleware H)) (a : Middleware H) :
      a ∈ zs ↔ a ∈ zs.filter fun b ↦ b.priority = a.priority := by
    simp
  induction xs generalizing ys with
  | nil =>
    refine (List.eq_nil_iff_forall_not_mem.2 fun a ha ↦ ?_).symm
    rw [hfilter ys a, ← h] at ha
    cases ha
  | cons x xs ih =>
    have hmem (a : Middleware H) : a ∈ x :: xs ↔ a ∈ ys := by rw [hfilter (x :: xs), hfilter ys, h]
    cases ys with
    | nil => exact absurd ((hmem x).1 List.mem_cons_self) List.not_mem_nil
    | cons y ys =>
      have hpriority : x.priority = y.priority := Int.le_antisymm
        (priority_le_of_mem hxs ((hmem y).2 List.mem_cons_self))
          (priority_le_of_mem hys ((hmem x).1 List.mem_cons_self))
      have hhead := h x.priority
      rw [List.filter_cons_of_pos (by simp), List.filter_cons_of_pos (by simp [hpriority])] at hhead
      obtain ⟨rfl, -⟩ := List.cons.inj hhead
      have hrest (n : Int) :
          xs.filter (fun a ↦ a.priority = n) = ys.filter fun a ↦ a.priority = n := by
        have hn := h n
        rw [List.filter_cons, List.filter_cons] at hn
        split at hn
        · exact (List.cons.inj hn).2
        · exact hn
      rw [ih (List.pairwise_cons.1 hxs).2 (List.pairwise_cons.1 hys).2 hrest]

theorem sameServed_of_perm (hperm : cs.Perm ds) (hids : (cs.map (·.plugin.id)).Nodup)
    (hm : m.Serves cs) (hn : n.Serves ds) : SameServed cs m n where
  endpoints := by
    refine Dict.ext_get? fun path ↦ Option.ext fun endpoint ↦ ?_
    rw [hm.endpoints, hn.endpoints]
    simp only [hperm.mem_iff]
  owner path := by
    refine Option.ext fun id ↦ ?_
    rw [hm.owner, hn.owner]
    simp only [hperm.mem_iff]
  hooks p id := by
    rw [hm.hooks, hn.hooks]
    congr 1
    refine eq_of_perm_of_forall_eq (hperm.filter _) fun a ha b hb ↦ ?_
    obtain ⟨ha, hida⟩ := List.mem_filter.1 ha
    obtain ⟨hb, hidb⟩ := List.mem_filter.1 hb
    exact List.inj_on_of_nodup_map hids ha hb
      ((of_decide_eq_true hida).trans (of_decide_eq_true hidb).symm)
  permutation := (hm.permutation.trans (hperm.flatMap_right _)).trans hn.permutation.symm
  middleware h := by
    refine eq_of_filter_priority hm.ascending hn.ascending fun priority ↦ ?_
    rw [hm.stable, hn.stable]
    exact filter_middleware_of_perm hperm hids h priority

end Manager

end FrontDoor
