import ZigDecl.Graph.InlineCycle
import ZigDecl.Proofs.Graph.Inline

/-! # The search for inline cycles misses none

A type is finished after everything undeclared inside it, so the list of finished types is in an
order in which nothing leads forward: `Settled` says so, and every part of the search keeps it.
Main statement: when the search finds nothing, no type is needed to write out itself. -/

namespace ZigDecl.TypeGraph

open Relation (TransGen ReflTransGen)

variable {g : TypeGraph} {Node : Ty → Prop}

/-- The types of a graph and of their parts, among which a key stands for one type only. -/
structure Coherent (g : TypeGraph) (Node : Ty → Prop) : Prop where
  root : ∀ top ∈ g.topLevels, Node top.2
  child : ∀ t, Node t → ∀ c ∈ g.children t, Node c
  unique : ∀ s t key, Node s → Node t → s.key? = some key → t.key? = some key → s = t

theorem Coherent.leaf (h : g.Coherent Node) {t : Ty} {id : Nat} (ht : Node t)
    (hid : t.target? = some id) : Node (.named id) := by
  induction t with
  | primitive p => cases hid
  | array m t ih => exact ih (h.child _ ht t (by simp [children])) hid
  | map m t ih => exact ih (h.child _ ht t (by simp [children])) hid
  | named j => cases hid; exact ht

theorem mem_roots {id : Nat} : id ∈ g.roots ↔ ∃ top ∈ g.topLevels, top.2.target? = some id := by
  simp only [roots, List.mem_filterMap]

theorem mentions_iff {i j : Nat} : g.Mentions i j ↔ ∃ t ∈ g.parts i, t.target? = some j := by
  simp only [Mentions, successors, List.mem_filterMap]

theorem Coherent.reachable (h : g.Coherent Node) {id : Nat} (hr : g.Reachable id) :
    Node (.named id) := by
  obtain ⟨root, hroot, hp⟩ := hr
  induction hp with
  | refl =>
    obtain ⟨top, htop, hid⟩ := mem_roots.mp hroot
    exact h.leaf (h.root top htop) hid
  | tail _ hm ih =>
    obtain ⟨t, ht, hid⟩ := mentions_iff.mp hm
    exact h.leaf (h.child _ ih t ht) hid

/-! ## Finished types -/

/-- The key of a type, if it has one, is in the list. -/
def KeyIn (t : Ty) (keys : List Ty.Key) : Prop := ∀ key, t.key? = some key → key ∈ keys

theorem KeyIn.mono {t : Ty} {keys more : List Ty.Key} (h : KeyIn t keys) (hs : keys ⊆ more) :
    KeyIn t more := fun key hk => hs (h key hk)

/-- Every undeclared type inside a type with the given key has its key in the list. -/
def Below (g : TypeGraph) (Node : Ty → Prop) (key : Ty.Key) (keys : List Ty.Key) : Prop :=
  ∀ t, Node t → t.key? = some key → ∀ c ∈ g.children t, g.needsDeclaration c = false → KeyIn c keys

/-- A list of finished types, the last one first: what is inside a type was finished before it. -/
def Settled (g : TypeGraph) (Node : Ty → Prop) : List Ty.Key → Prop
  | [] => True
  | key :: rest => g.Below Node key rest ∧ Settled g Node rest

theorem Settled.below {keys : List Ty.Key} (h : g.Settled Node keys) {key : Ty.Key}
    (hk : key ∈ keys) : g.Below Node key keys := by
  induction keys with
  | nil => cases hk
  | cons head rest ih =>
    have hmono : g.Below Node key rest → g.Below Node key (head :: rest) :=
      fun hb t ht hkey c hc hd => (hb t ht hkey c hc hd).mono (List.subset_cons_self head rest)
    rcases List.mem_cons.mp hk with rfl | hk
    · exact hmono h.1
    · exact hmono (ih h.2 hk)

theorem needsDeclaration_of_target? {t : Ty} {id : Nat} (ht : t.target? = some id)
    (hid : g.isDeclared id = false) : g.needsDeclaration t = false := by
  cases t with
  | named j => cases ht; exact hid
  | _ => rfl

/-- Of a finished type the undeclared type at the bottom is finished, too. -/
theorem Settled.leaf (hc : g.Coherent Node) {keys : List Ty.Key} (h : g.Settled Node keys) {t : Ty}
    (ht : Node t) (hk : KeyIn t keys) {id : Nat} (hid : t.target? = some id)
    (hd : g.isDeclared id = false) : Ty.Key.id id ∈ keys := by
  induction t with
  | primitive p => cases hid
  | array m t ih =>
    have hin : KeyIn t keys := h.below (hk (.mark m) rfl) _ ht rfl t (by simp [children])
      (needsDeclaration_of_target? hid hd)
    exact ih (hc.child _ ht t (by simp [children])) hin hid
  | map m t ih =>
    have hin : KeyIn t keys := h.below (hk (.mark m) rfl) _ ht rfl t (by simp [children])
      (needsDeclaration_of_target? hid hd)
    exact ih (hc.child _ ht t (by simp [children])) hin hid
  | named j => cases hid; exact hk (.id id) rfl

/-- What a named type needs to be written out is finished before it. -/
theorem Settled.inlines (hc : g.Coherent Node) {keys : List Ty.Key} (h : g.Settled Node keys)
    {i j : Nat} (hi : Node (.named i)) (hb : g.Below Node (.id i) keys) (hij : g.Inlines i j)
    (hj : g.isDeclared j = false) : Ty.Key.id j ∈ keys := by
  obtain ⟨t, ht, hid⟩ := mentions_iff.mp hij.2
  have hin : KeyIn t keys := hb _ hi rfl t ht (needsDeclaration_of_target? hid hj)
  exact h.leaf hc (hc.child _ hi t ht) hin hid hj

/-- A path that ends in an undeclared type passes undeclared types only. -/
theorem isDeclared_of_path {i j : Nat} (hj : g.isDeclared j = false)
    (hp : ReflTransGen g.Inlines i j) : g.isDeclared i = false := by
  rcases ReflTransGen.cases_head hp with rfl | ⟨_, hm, _⟩
  · exact hj
  · exact hm.1

/-- Along a path that ends in an undeclared type, everything is finished if the start is. -/
theorem Settled.path (hc : g.Coherent Node) {keys : List Ty.Key} (h : g.Settled Node keys)
    {i j : Nat} (hj : g.isDeclared j = false) (hp : ReflTransGen g.Inlines i j)
    (hi : Node (.named i)) (hk : Ty.Key.id i ∈ keys) : Ty.Key.id j ∈ keys := by
  induction hp using ReflTransGen.head_induction_on with
  | refl => exact hk
  | @head a b hab hbj ih =>
    have hb : g.isDeclared b = false := isDeclared_of_path hj hbj
    obtain ⟨t, ht, hid⟩ := mentions_iff.mp hab.2
    exact ih (hc.leaf (hc.child _ hi t ht) hid) (h.inlines hc hi (h.below hk) hab hb)

/-- No finished type is needed to write out itself. -/
theorem Settled.not_transGen (hc : g.Coherent Node) {keys : List Ty.Key}
    (h : g.Settled Node keys) {id : Nat} (hid : Node (.named id)) (hk : Ty.Key.id id ∈ keys) :
    ¬ TransGen g.Inlines id id := by
  induction keys with
  | nil => cases hk
  | cons key rest ih =>
    by_cases hrest : Ty.Key.id id ∈ rest
    · exact ih h.2 hrest
    · -- the type was finished last, so the rest of the cycle was finished before it
      intro hcycle
      rcases List.mem_cons.mp hk with rfl | hk
      · obtain ⟨j, hij, hji⟩ := TransGen.head'_iff.mp hcycle
        have hi : g.isDeclared id = false := hij.1
        have hj : g.isDeclared j = false := isDeclared_of_path hi hji
        obtain ⟨t, ht, htj⟩ := mentions_iff.mp hij.2
        have hjrest : Ty.Key.id j ∈ rest := h.2.inlines hc hid h.1 hij hj
        exact hrest (h.2.path hc hi hji (hc.leaf (hc.child _ hid t ht) htj) hjrest)
      · exact hrest hk

/-! ## The search -/

/-- A search for `t` that finds nothing keeps the order of the finished types and finishes `t`. -/
def Settles (g : TypeGraph) (Node : Ty → Prop) (t : Ty) (finished : List Ty.Key) (r : Search) :
    Prop :=
  r.found = none → g.Settled Node r.finished ∧ finished ⊆ r.finished ∧ KeyIn t r.finished

/-- The named types that a search is inside of. -/
def activeIds (active : List Ty.Key) : List Nat := active.filterMap fun
  | .id id => some id
  | .mark _ => none

theorem mem_activeIds {active : List Ty.Key} {id : Nat} :
    id ∈ activeIds active ↔ Ty.Key.id id ∈ active := by
  rw [activeIds, List.mem_filterMap]
  constructor
  · rintro ⟨key, hk, h⟩
    cases key with
    | mark m => cases h
    | id j => cases h; exact hk
  · exact fun h => ⟨.id id, h, rfl⟩

theorem settles_searchBelow (hc : g.Coherent Node) {t : Ty} {key : Ty.Key} (ht : Node t)
    (hkey : t.key? = some key) {active finished : List Ty.Key} (hf : g.Settled Node finished)
    {below : List Ty.Key → List Ty.Key → Search}
    (hb : key ∉ active → (below (key :: active) finished).found = none →
      g.Settled Node (below (key :: active) finished).finished ∧
      finished ⊆ (below (key :: active) finished).finished ∧
      ∀ c ∈ g.children t, g.needsDeclaration c = false →
        KeyIn c (below (key :: active) finished).finished) :
    g.Settles Node t finished (searchBelow t key active finished below) := by
  have hin : ∀ {keys : List Ty.Key}, key ∈ keys → KeyIn t keys := by
    intro keys h k hk
    rw [hkey] at hk
    exact Option.some.inj hk ▸ h
  unfold searchBelow Settles
  split
  · intro h; cases h
  · next hactive =>
    split
    · next hmem => exact fun _ => ⟨hf, fun _ h => h, hin (by simpa using hmem)⟩
    · rcases hr : below (key :: active) finished with ⟨_ | found, after⟩
      · intro _
        rw [hr] at hb
        obtain ⟨hs, hsub, hin'⟩ := hb (by simpa using hactive) rfl
        refine ⟨⟨?_, hs⟩, fun k hk => List.mem_cons_of_mem _ (hsub hk), hin (by simp)⟩
        intro s hs' hskey
        rw [hc.unique s t key hs' ht hskey hkey]
        exact hin'
      · intro h; cases h

/-- A search in an array or map of `c` settles it if the search in `c` settles `c`. -/
theorem settles_container (hc : g.Coherent Node) {t c : Ty} {mark : Nat} (ht : Node t)
    (hkey : t.key? = some (.mark mark)) (hchild : g.children t = [c])
    {active finished : List Ty.Key} (hf : g.Settled Node finished)
    {search : List Ty.Key → List Ty.Key → Search}
    (hs : g.Settles Node c finished (search (.mark mark :: active) finished)) :
    g.Settles Node t finished (searchBelow t (.mark mark) active finished
      fun active finished => if g.needsDeclaration c then ⟨none, finished⟩
        else search active finished) := by
  refine settles_searchBelow hc ht hkey hf fun _ hnone => ?_
  by_cases hd : g.needsDeclaration c = true
  · simp only [hd, if_true] at hnone ⊢
    exact ⟨hf, fun _ h => h, by simp [hchild, hd]⟩
  · simp only [hd, Bool.false_eq_true, if_false] at hnone ⊢
    obtain ⟨hset, hsub, hin⟩ := hs hnone
    exact ⟨hset, hsub, by simpa [hchild] using fun _ => hin⟩

theorem settles_searchAll {search : Ty → List Ty.Key → Search} :
    ∀ {ts : List Ty} {finished : List Ty.Key},
      (∀ t ∈ ts, ∀ finished, g.Settled Node finished →
        g.Settles Node t finished (search t finished)) →
      g.Settled Node finished → (g.searchAll search ts finished).found = none →
      g.Settled Node (g.searchAll search ts finished).finished ∧
      finished ⊆ (g.searchAll search ts finished).finished ∧
      ∀ t ∈ ts, g.needsDeclaration t = false → KeyIn t (g.searchAll search ts finished).finished
  | [], finished, _, hf, _ => ⟨hf, fun _ h => h, by simp⟩
  | t :: ts, finished, hs, hf, hnone => by
    have hrest := fun u hu => hs u (List.mem_cons_of_mem t hu)
    rw [searchAll] at hnone ⊢
    by_cases hd : g.needsDeclaration t = true
    · rw [if_pos hd] at hnone ⊢
      obtain ⟨hset, hsub, hin⟩ := settles_searchAll hrest hf hnone
      refine ⟨hset, hsub, ?_⟩
      rintro u (_ | ⟨_, hu⟩) hud
      · rw [hd] at hud; cases hud
      · exact hin u hu hud
    · rw [if_neg hd] at hnone ⊢
      have ht := hs t (by simp) finished hf
      rcases hr : search t finished with ⟨_ | found, after⟩
      · rw [hr] at hnone ht
        obtain ⟨hset, hsub, hkey⟩ := ht rfl
        obtain ⟨hset', hsub', hin⟩ := settles_searchAll hrest hset hnone
        refine ⟨hset', fun k hk => hsub' (hsub hk), ?_⟩
        rintro u (_ | ⟨_, hu⟩) hud
        · exact hkey.mono hsub'
        · exact hin u hu hud
      · rw [hr] at hnone; cases hnone

theorem settles_searchIn (hc : g.Coherent Node) {fuel : Nat}
    {enter : Nat → List Ty.Key → List Ty.Key → Search}
    (he : ∀ id active finished, Node (.named id) → g.Settled Node finished →
      (g.unseen (activeIds active)).length < fuel →
      g.Settles Node (.named id) finished (enter id active finished)) :
    ∀ (t : Ty) (active finished : List Ty.Key), Node t → g.Settled Node finished →
      (g.unseen (activeIds active)).length < fuel →
      g.Settles Node t finished (g.searchIn enter t active finished)
  | .primitive _, _, finished, _, hf, _ => fun _ =>
    ⟨hf, fun _ h => h, fun key hk => by cases hk⟩
  | .array mark items, active, finished, ht, hf, hfuel => by
    have hitems := hc.child _ ht items (by simp [children])
    -- arrays and maps use up no fuel
    exact settles_container hc ht rfl rfl hf
      (settles_searchIn hc he items (.mark mark :: active) finished hitems hf hfuel)
  | .map mark values, active, finished, ht, hf, hfuel => by
    have hvalues := hc.child _ ht values (by simp [children])
    exact settles_container hc ht rfl rfl hf
      (settles_searchIn hc he values (.mark mark :: active) finished hvalues hf hfuel)
  | .named id, active, finished, ht, hf, hfuel => he id active finished ht hf hfuel

/-- The search has fuel enough as long as it is more than there are types it is not inside of. -/
theorem settles_searchFrom (hc : g.Coherent Node) :
    ∀ (fuel id : Nat) (active finished : List Ty.Key), Node (.named id) →
      g.Settled Node finished → (g.unseen (activeIds active)).length < fuel →
      g.Settles Node (.named id) finished (g.searchFrom fuel id active finished)
  | 0, _, _, _, _, _, h => absurd h (Nat.not_lt_zero _)
  | fuel + 1, id, active, finished, hid, hf, hfuel => by
    refine settles_searchBelow hc hid rfl hf fun hactive hnone => ?_
    rcases Nat.lt_or_ge id g.types.size with hlt | hge
    · have hroom : (g.unseen (activeIds (.id id :: active))).length < fuel := by
        have hsub : activeIds active ⊆ activeIds (.id id :: active) := by
          intro j hj
          exact mem_activeIds.mpr (List.mem_cons_of_mem _ (mem_activeIds.mp hj))
        have := length_unseen_lt hsub hlt (fun h => hactive (mem_activeIds.mp h))
          (mem_activeIds.mpr (by simp))
        omega
      refine settles_searchAll (fun t ht finished hf => ?_) hf hnone
      exact settles_searchIn hc (settles_searchFrom hc fuel) t _ finished
        (hc.child _ hid t ht) hf hroom
    · have hparts : g.parts id = [] := parts_of_shape?_eq_none (shape?_eq_none_iff.mpr hge)
      simp only [hparts, searchAll, children] at hnone ⊢
      exact ⟨hf, fun _ h => h, by simp⟩

theorem settled_of_searchStarts (hc : g.Coherent Node) :
    ∀ {ts : List Ty} {finished : List Ty.Key}, (∀ t ∈ ts, Node t) → g.Settled Node finished →
      g.searchStarts ts finished = none →
      ∃ after, g.Settled Node after ∧ finished ⊆ after ∧ ∀ t ∈ ts, KeyIn t after
  | [], finished, _, hf, _ => ⟨finished, hf, fun _ h => h, by simp⟩
  | t :: ts, finished, hn, hf, hnone => by
    have hroom : (g.unseen (activeIds [])).length < g.types.size + 2 := by
      have := List.length_filter_le (fun id => !(activeIds []).contains id)
        (List.range g.types.size)
      rw [List.length_range] at this
      exact Nat.lt_of_le_of_lt this (by omega)
    have ht := settles_searchIn hc (settles_searchFrom hc (g.types.size + 2)) t [] finished
      (hn t (by simp)) hf hroom
    rw [searchStarts] at hnone
    split at hnone
    · cases hnone
    · next after hr =>
      rw [hr] at ht
      obtain ⟨hset, hsub, hkey⟩ := ht rfl
      obtain ⟨last, hlast, hsub', hin⟩ :=
        settled_of_searchStarts hc (fun u hu => hn u (List.mem_cons_of_mem t hu)) hset hnone
      refine ⟨last, hlast, fun k hk => hsub' (hsub hk), ?_⟩
      rintro u (_ | ⟨_, hu⟩)
      · exact hkey.mono hsub'
      · exact hin u hu

/-- When the search finds nothing, there is no inline cycle. -/
theorem isInlineFree_of_inlineCycle? (hc : g.Coherent Node) (h : g.inlineCycle? = none) :
    g.IsInlineFree := by
  have hstart : ∀ t ∈ g.topLevels.map (·.2) ++ g.namedTypes.map Ty.named, Node t := by
    intro t ht
    rcases List.mem_append.mp ht with ht | ht
    · obtain ⟨top, htop, rfl⟩ := List.mem_map.mp ht
      exact hc.root top htop
    · obtain ⟨id, hid, rfl⟩ := List.mem_map.mp ht
      exact hc.reachable (mem_namedTypes_iff.mp hid)
  obtain ⟨keys, hset, _, hin⟩ := settled_of_searchStarts hc hstart (by simp [Settled]) h
  intro id hid
  have hkey : Ty.Key.id id ∈ keys := by
    have hmem : Ty.named id ∈ g.topLevels.map (·.2) ++ g.namedTypes.map Ty.named :=
      List.mem_append_right _ (List.mem_map_of_mem (mem_namedTypes_iff.mpr hid))
    exact hin _ hmem (.id id) rfl
  exact hset.not_transGen hc (hc.reachable hid) hkey

end ZigDecl.TypeGraph
