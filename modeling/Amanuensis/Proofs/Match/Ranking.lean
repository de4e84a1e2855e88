import Amanuensis.Proofs.Match.Route
import Mathlib.Data.List.Sort
/-!
# What a ranking is

`Ranking` says which routes a ranking holds and in which order, and no two
lists are so (`Ranking.unique`). The list that the router sorts is one
(`rank_ranking`). How rankings under two thresholds compare, and under two
orders of registration, follows from the description alone.
-/


namespace Amanuensis

namespace Match

/-! ## Lists in order -/

section Lists

variable {α : Type} {l : List α} {p : α → Bool}

/-- Elements that are all as good as one another keep their order when a list
is sorted. -/
theorem filter_mergeSort {le : α → α → Bool}
    (htrans : ∀ a b c, le a b = true → le b c = true → le a c = true)
    (htotal : ∀ a b, (le a b || le b a) = true)
    (hsame : ∀ a b, p a = true → p b = true → le a b = true) :
    (l.mergeSort le).filter p = l.filter p := by
  have hsorted : (l.filter p).Pairwise fun a b => le a b = true :=
    List.pairwise_of_forall_mem_list fun a ha b hb =>
      hsame a b (List.of_mem_filter ha) (List.of_mem_filter hb)
  have hkept := (List.sublist_mergeSort htrans htotal hsorted List.filter_sublist).filter p
  simp only [List.filter_filter, Bool.and_self] at hkept
  exact (hkept.eq_of_length ((List.mergeSort_perm l le).filter p).length_eq.symm).symm

/-- What a test picks is a prefix where the test prefers earlier elements. -/
theorem filter_prefix (h : l.Pairwise fun a b => p b = true → p a = true) : l.filter p <+: l := by
  induction l with
  | nil => exact List.prefix_refl _
  | cons a l ih =>
    obtain ⟨hfirst, hrest⟩ := List.pairwise_cons.1 h
    by_cases ha : p a = true
    · rw [List.filter_cons_of_pos ha]
      exact (List.prefix_cons_inj a).2 (ih hrest)
    · rw [List.filter_cons_of_neg ha, List.filter_eq_nil_iff.2 fun b hb hpb => ha (hfirst b hb hpb)]
      exact List.nil_prefix

/-- A list without repetition is in the order of its places. -/
theorem pairwise_idxOf [DecidableEq α] (h : l.Nodup) :
    l.Pairwise fun a b => l.idxOf a < l.idxOf b := by
  rw [List.pairwise_iff_getElem]
  intro i j hi hj hij
  rwa [h.idxOf_getElem i hi, h.idxOf_getElem j hj]

end Lists

/-! ## The description -/

/-- One route stands before another: it has the greater number, or it has
the same and its tool is registered earlier. -/
def Before (tools : List Tool) (a b : Route) : Prop :=
  b.number.lt a.number = true ∨ a.number = b.number ∧ tools.idxOf a.tool < tools.idxOf b.tool

/-- The routes that a text's ranking is made of: those by which a registered
tool is chosen, if they reach the threshold, held between zero and one. -/
structure Qualifies (registry : Tool.Registry) (least : Binary64) (text : String)
    (route : Route) : Prop where
  registered : route.tool ∈ registry.tools
  chosen : Chosen text route
  reaches : (least.clamp (hundredths 0) (hundredths 100)).le route.number = true

/-- A ranking of a text: the routes that qualify, each tool once, the best
first and those of one number in the order of registration. -/
structure Ranking (registry : Tool.Registry) (least : Binary64) (text : String)
    (routes : List Route) : Prop where
  mem : ∀ route, route ∈ routes ↔ Qualifies registry least text route
  once : (routes.map Route.tool).Nodup
  order : routes.Pairwise (Before registry.tools)

variable {registry registry' : Tool.Registry} {least more : Binary64} {text : String}
  {routes routes' : List Route} {a b route : Route} {tools : List Tool}

theorem Before.asymm (hab : Before tools a b) : ¬ Before tools b a := by
  have hirrefl := Binary64.lt_irrefl
  rintro (hba | ⟨hnumber, hba⟩) <;> obtain hab | ⟨hnumber', hab⟩ := hab
  · exact hirrefl _ (Binary64.lt_of_lt_of_le hba (Binary64.le_of_lt hab))
  · exact hirrefl _ (hnumber' ▸ hba)
  · exact hirrefl _ (hnumber ▸ hab)
  · exact Nat.lt_asymm hab hba

/-- **No two lists are rankings of one text.** -/
theorem Ranking.unique (h : Ranking registry least text routes)
    (h' : Ranking registry least text routes') : routes = routes' := by
  have : Std.Irrefl (Before registry.tools) := ⟨fun _ h => h.asymm h⟩
  have : Std.Antisymm (Before registry.tools) := ⟨fun _ _ h h' => absurd h' h.asymm⟩
  exact h.order.eq_of_mem_iff h'.order fun route => (h.mem route).trans (h'.mem route).symm

/-! ## The sorted list -/

/-- The routes of a text before they are sorted, in the order of
registration. -/
def Router.unsorted (r : Router) (text : String) : List Route :=
  (r.registry.tools.filterMap (route? · text)).filter r.admits

theorem map_tool_filterMap (tools : List Tool) (text : String) :
    ((tools.filterMap (route? · text)).map Route.tool).Sublist tools := by
  induction tools with
  | nil => exact List.Sublist.slnil
  | cons t tools ih =>
    rw [List.filterMap_cons]
    split
    · exact ih.cons t
    · rename_i route hroute
      obtain ⟨rfl, -⟩ := route?_eq_some.1 hroute
      exact ih.cons_cons _

theorem tools_nodup (registry : Tool.Registry) : registry.tools.Nodup :=
  List.Nodup.of_map _ registry.names_nodup

theorem map_tool_unsorted (r : Router) (text : String) :
    ((r.unsorted text).map Route.tool).Sublist r.registry.tools :=
  (List.filter_sublist.map _).trans (map_tool_filterMap _ _)

theorem unsorted_pairwise (r : Router) (text : String) :
    (r.unsorted text).Pairwise fun a b =>
      r.registry.tools.idxOf a.tool < r.registry.tools.idxOf b.tool := by
  have hplaces := (pairwise_idxOf (tools_nodup r.registry)).sublist (map_tool_unsorted r text)
  rwa [List.pairwise_map] at hplaces

theorem notAfter_trans (a b c : Route) (hab : Router.notAfter a b = true)
    (hbc : Router.notAfter b c = true) : Router.notAfter a c = true := by
  simp only [Router.notAfter, decide_eq_true_eq] at hab hbc ⊢
  exact Int.le_trans hbc hab

theorem notAfter_total (a b : Route) : (Router.notAfter a b || Router.notAfter b a) = true := by
  simp only [Router.notAfter, Bool.or_eq_true, decide_eq_true_eq]
  exact Int.le_total _ _

/-- Sorting parts no routes of one number. -/
theorem filter_rank (r : Router) (text : String) (x : Binary64) :
    (r.rank text).filter (·.number = x) = (r.unsorted text).filter (·.number = x) := by
  refine filter_mergeSort notAfter_trans notAfter_total fun a b ha hb => ?_
  rw [decide_eq_true_eq] at ha hb
  rw [Router.notAfter, ha, hb]
  exact decide_eq_true (Int.le_refl _)

/-- **The router ranks by number and then by registration.** -/
theorem rank_pairwise (r : Router) (text : String) :
    (r.rank text).Pairwise (Before r.registry.tools) := by
  rw [List.pairwise_iff_forall_sublist]
  intro a b hab
  have hsorted : Router.notAfter a b = true :=
    List.pairwise_iff_forall_sublist.1
      (List.pairwise_mergeSort notAfter_trans notAfter_total _) hab
  have hunsigned : ∀ route ∈ [a, b], route.number.Unsigned := fun route hroute =>
    (mem_rank.1 (hab.subset hroute)).2.1.number_unsigned
  have ha := hunsigned a (by simp)
  have hb := hunsigned b (by simp)
  rw [Router.notAfter, decide_eq_true_eq, ha.orderKey, hb.orderKey, Int.ofNat_le] at hsorted
  obtain hlt | heq := Nat.lt_or_eq_of_le hsorted
  · exact .inl ((hb.lt_iff ha).2 hlt)
  · have hnumber := hb.eq_of_magnitudeBits ha heq
    have hkept : [a, b].Sublist (r.unsorted text) := by
      refine List.Sublist.trans ?_ (List.filter_sublist (p := (·.number = b.number)))
      rw [← filter_rank]
      simpa [hnumber] using hab.filter (·.number = b.number)
    exact .inr ⟨hnumber.symm, List.pairwise_iff_forall_sublist.1 (unsorted_pairwise r text) hkept⟩

theorem map_tool_rank_nodup (r : Router) (text : String) :
    ((r.rank text).map Route.tool).Nodup :=
  (((List.mergeSort_perm _ _).map _).nodup_iff).2
    ((tools_nodup r.registry).sublist (map_tool_unsorted r text))

/-- **The router's list is the ranking.** -/
theorem rank_ranking (registry : Tool.Registry) (least : Binary64) (text : String) :
    Ranking registry least text ((Router.new registry least).rank text) where
  mem _ := mem_rank.trans ⟨fun h => ⟨h.1, h.2.1, h.2.2⟩, fun h => ⟨h.1, h.2, h.3⟩⟩
  once := map_tool_rank_nodup _ text
  order := rank_pairwise (Router.new registry least) text

/-! ## What the description yields -/

namespace Ranking

/-- The first route is the one that stands before all others. -/
theorem head_eq_some (h : Ranking registry least text routes) :
    routes.head? = some route ↔
      Qualifies registry least text route ∧
        ∀ other, Qualifies registry least text other → other ≠ route →
          Before registry.tools route other := by
  have hmem := h.mem
  have horder := h.order
  cases routes with
  | nil =>
    exact iff_of_false (Option.some_ne_none _).symm fun hfirst =>
      List.not_mem_nil ((hmem route).2 hfirst.1)
  | cons first rest =>
    obtain ⟨hfirst, -⟩ := List.pairwise_cons.1 horder
    rw [List.head?_cons, Option.some.injEq]
    constructor
    · rintro rfl
      refine ⟨(hmem first).1 List.mem_cons_self, fun other hother hne => hfirst other ?_⟩
      exact (List.mem_cons.1 ((hmem other).2 hother)).resolve_left hne
    · rintro ⟨hroute, hbefore⟩
      by_contra hne
      have hrest := (List.mem_cons.1 ((hmem route).2 hroute)).resolve_left (Ne.symm hne)
      exact (hfirst route hrest).asymm
        (hbefore first ((hmem first).1 List.mem_cons_self) hne)

/-- **A higher threshold leaves a prefix.** -/
theorem prefix_of_le (h : Ranking registry least text routes)
    (h' : Ranking registry more text routes') (hle : least.le more = true) :
    routes' <+: routes := by
  have hreaches : ∀ {route : Route}, Qualifies registry more text route →
      (least.clamp (hundredths 0) (hundredths 100)).le route.number = true := fun hroute =>
    Binary64.clamp_le_of_le hle (hundredths_zero_le hroute.chosen.number_unsigned) hroute.reaches
  have hkept : Ranking registry more text
      (routes.filter fun route =>
        (more.clamp (hundredths 0) (hundredths 100)).le route.number) := by
    refine ⟨fun route => ?_, h.once.sublist (List.filter_sublist.map _),
      h.order.sublist List.filter_sublist⟩
    rw [List.mem_filter, h.mem]
    exact ⟨fun hboth => ⟨hboth.1.registered, hboth.1.chosen, hboth.2⟩, fun hroute =>
      ⟨⟨hroute.registered, hroute.chosen, hreaches hroute⟩, hroute.reaches⟩⟩
  rw [h'.unique hkept]
  refine filter_prefix (h.order.imp fun hbefore hb => ?_)
  obtain hlt | ⟨heq, -⟩ := hbefore
  · exact Binary64.le_trans hb (Binary64.le_of_lt hlt)
  · rwa [heq]

/-- **Another order of registration moves routes of one number only.** -/
theorem perm_of_perm (h : Ranking registry least text routes)
    (h' : Ranking registry' least text routes') (hperm : registry'.tools.Perm registry.tools) :
    routes'.Perm routes ∧ routes'.map Route.number = routes.map Route.number := by
  have hsame : routes'.Perm routes := by
    refine (List.perm_ext_iff_of_nodup h'.once.of_map h.once.of_map).2 fun route => ?_
    rw [h.mem, h'.mem]
    exact ⟨fun hroute => ⟨hperm.subset hroute.registered, hroute.chosen, hroute.reaches⟩,
      fun hroute => ⟨hperm.symm.subset hroute.registered, hroute.chosen, hroute.reaches⟩⟩
  have hnumbers : ∀ {tools : List Tool} {routes : List Route},
      routes.Pairwise (Before tools) →
      (routes.map Route.number).Pairwise fun x y => y.lt x = true ∨ x = y := fun horder =>
    List.pairwise_map.2 (horder.imp fun hbefore => hbefore.imp_right And.left)
  refine ⟨hsame, (hsame.map _).eq_of_pairwise ?_ (hnumbers h'.order) (hnumbers h.order)⟩
  rintro x y - - (hxy | hxy) (hyx | hyx)
  · exact absurd (Binary64.lt_of_lt_of_le hxy (Binary64.le_of_lt hyx)) (Binary64.lt_irrefl _)
  · exact hyx.symm
  · exact hxy
  · exact hxy

end Ranking

theorem rank_of_isNaN (registry : Tool.Registry) (text : String) (h : least.isNaN = true) :
    (Router.new registry least).rank text = [] := by
  refine List.eq_nil_iff_forall_not_mem.2 fun route hroute => ?_
  have hreaches := ((rank_ranking registry least text).mem route |>.1 hroute).reaches
  rw [Binary64.clamp_isNaN h, Binary64.not_le_of_isNaN h] at hreaches
  exact Bool.false_ne_true hreaches

/-- **The routing of a text.** The router's list is the one ranking of the
text: the routes by the first positive phrase of each tool that reach the
threshold, in order. It resolves to the route before all others, a NaN leaves
nothing, a higher threshold leaves a prefix, and another order of
registration exchanges routes of one number. -/
theorem routing (registry : Tool.Registry) (least : Binary64) (text : String) :
    (∀ t, (∃ route, route.tool = t ∧ Chosen text route) ↔
        ∃ phrase ∈ t.phrases, Positive text phrase) ∧
      (∀ routes, Ranking registry least text routes ↔
        routes = (Router.new registry least).rank text) ∧
      (∀ route, (Router.new registry least).resolve text = some route ↔
        Qualifies registry least text route ∧
          ∀ other, Qualifies registry least text other → other ≠ route →
            Before registry.tools route other) ∧
      (Router.new registry least).resolve text = ((Router.new registry least).rank text).head? ∧
      ((Router.new registry least).resolve text = none ↔
        (Router.new registry least).rank text = []) ∧
      (least.isNaN = true → (Router.new registry least).rank text = []) ∧
      (∀ more : Binary64, least.le more = true →
        (Router.new registry more).rank text <+: (Router.new registry least).rank text) ∧
      (∀ registry' : Tool.Registry, registry'.tools.Perm registry.tools →
        ((Router.new registry' least).rank text).Perm ((Router.new registry least).rank text) ∧
          ((Router.new registry' least).rank text).map Route.number =
            ((Router.new registry least).rank text).map Route.number) := by
  have hranking := rank_ranking registry least text
  refine ⟨fun _ => exists_chosen, fun routes => ⟨fun h => h.unique hranking, ?_⟩,
    fun _ => hranking.head_eq_some, rfl, List.head?_eq_none_iff, rank_of_isNaN registry text,
    fun more hle => hranking.prefix_of_le (rank_ranking registry more text) hle,
    fun registry' hperm => hranking.perm_of_perm (rank_ranking registry' least text) hperm⟩
  rintro rfl
  exact hranking

end Match

end Amanuensis
