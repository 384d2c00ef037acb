import ZigDecl.Proofs.Graph.Search

/-! # The search for inline cycles finds one just if there is one

Arrays, maps and undeclared unions are inline: they are written out where they stand. An inline
cycle is a way from a type back to itself through inline types only. Main statement: the search
finds a type just if the top-levels lead to a type on such a cycle, and what it finds is one. -/

namespace ZigDecl.TypeGraph

open Relation (TransGen ReflTransGen)

variable {g : TypeGraph} {Node : Ty → Prop}

/-- Whether a type is written out in place with what it is made of. -/
def isInline (g : TypeGraph) : Ty → Bool
  | .primitive _ => false
  | .array _ _ => true
  | .map _ _ => true
  | .named id =>
    match g.shape? id with
    | some (.union members) => (nonNulls members).length < 2
    | _ => false

/-- The top-levels lead to a type: one of them has it as its root or somewhere inside. -/
def Occurs (g : TypeGraph) (t : Ty) : Prop :=
  ∃ top ∈ g.topLevels, ReflTransGen (fun s c => c ∈ g.children s) top.2 t

/-- A step from an inline type to an inline type directly inside it. -/
def Expands (g : TypeGraph) (s t : Ty) : Prop :=
  g.isInline s = true ∧ t ∈ g.children s ∧ g.isInline t = true

/-- A type leads back to itself, and everything on the way is inline. -/
def OnInlineCycle (g : TypeGraph) (t : Ty) : Prop := TransGen g.Expands t t

/-- A key tells which array, map or named type a type is: no two that the top-levels lead to share
one. -/
def IsMarked (g : TypeGraph) : Prop :=
  ∀ s t key, g.Occurs s → g.Occurs t → s.key? = some key → t.key? = some key → s = t

theorem occurs_root {top : String × Ty} (h : top ∈ g.topLevels) : g.Occurs top.2 :=
  ⟨top, h, .refl⟩

theorem Occurs.child {t c : Ty} (h : g.Occurs t) (hc : c ∈ g.children t) : g.Occurs c := by
  obtain ⟨top, htop, hp⟩ := h
  exact ⟨top, htop, hp.tail hc⟩

theorem IsMarked.coherent (h : g.IsMarked) : g.Coherent g.Occurs :=
  ⟨fun _ htop => occurs_root htop, fun _ ht _ hc => ht.child hc, h⟩

theorem Coherent.of_occurs (hc : g.Coherent Node) {t : Ty} (h : g.Occurs t) : Node t := by
  obtain ⟨top, htop, hp⟩ := h
  induction hp with
  | refl => exact hc.root top htop
  | tail _ hchild ih => exact hc.child _ ih _ hchild

theorem Coherent.isMarked (hc : g.Coherent Node) : g.IsMarked :=
  fun s t key hs ht => hc.unique s t key (hc.of_occurs hs) (hc.of_occurs ht)

/-- A named type that is inside something is one that the walk in graph order reaches. -/
theorem Occurs.reachable {t : Ty} (h : g.Occurs t) {id : Nat} (hid : t.target? = some id) :
    g.Reachable id := by
  obtain ⟨top, htop, hp⟩ := h
  induction hp generalizing id with
  | refl => exact ⟨id, mem_roots.mpr ⟨top, htop, hid⟩, .refl⟩
  | @tail s c _ hc ih =>
    cases s with
    | primitive p => cases hc
    | array m s => rw [List.mem_singleton.mp hc] at hid; exact ih hid
    | map m s => rw [List.mem_singleton.mp hc] at hid; exact ih hid
    | named j => exact (ih rfl).mentions (mentions_iff.mpr ⟨c, hc, hid⟩)

theorem Reachable.occurs {id : Nat} (h : g.Reachable id) : g.Occurs (.named id) := by
  have hleaf : ∀ {t : Ty}, g.Occurs t → ∀ {j}, t.target? = some j → g.Occurs (.named j) := by
    intro t
    induction t with
    | primitive p => intro _ j hj; cases hj
    | array m t ih => exact fun ht j hj => ih (ht.child (by simp [children])) hj
    | map m t ih => exact fun ht j hj => ih (ht.child (by simp [children])) hj
    | named k => intro ht j hj; cases hj; exact ht
  obtain ⟨root, hroot, hp⟩ := h
  induction hp with
  | refl =>
    obtain ⟨top, htop, hid⟩ := mem_roots.mp hroot
    exact hleaf (occurs_root htop) hid
  | tail _ hm ih =>
    obtain ⟨t, ht, hid⟩ := mentions_iff.mp hm
    exact hleaf (ih.child ht) hid

/-! ## Inline types -/

theorem not_needsDeclaration_of_isInline {t : Ty} (h : g.isInline t = true) :
    g.needsDeclaration t = false := by
  cases t with
  | named id =>
    simp only [isInline] at h
    split at h
    · next ms hs => simpa [needsDeclaration, isDeclared_of_union hs] using h
    · cases h
  | _ => rfl

/-- What is not declared and has something inside is inline. -/
theorem isInline_of_mem_children {s t : Ty} (hs : g.needsDeclaration s = false)
    (ht : t ∈ g.children s) : g.isInline s = true := by
  cases s with
  | primitive p => cases ht
  | array m s => rfl
  | map m s => rfl
  | named id =>
    simp only [needsDeclaration, isDeclared] at hs
    simp only [children, parts] at ht
    cases hshape : g.shape? id with
    | none => rw [hshape] at ht; cases ht
    | some shape =>
      rw [hshape] at hs ht
      cases shape with
      | record ps => cases hs
      | enum cs => cases hs
      | union ms => simpa [isInline, hshape] using hs

/-! ## What is found is on a cycle -/

/-- A step into a type that is not declared, from one that may be. -/
def Enters (g : TypeGraph) (s t : Ty) : Prop :=
  t ∈ g.children s ∧ g.needsDeclaration t = false

/-- On a way back everything is entered, so nothing on it is declared. -/
theorem onInlineCycle_of_enters {t : Ty} (h : TransGen g.Enters t t) : g.OnInlineCycle t := by
  have hundeclared : g.needsDeclaration t = false := by
    obtain ⟨_, _, hlast⟩ := TransGen.tail'_iff.mp h
    exact hlast.2
  obtain ⟨next, hfirst, _⟩ := TransGen.head'_iff.mp h
  have hinline : g.isInline t = true := isInline_of_mem_children hundeclared hfirst.1
  -- The last type of each stretch is inline, for the way goes on from it or ends in `t`.
  have hway : ∀ s, TransGen g.Enters s t → g.needsDeclaration s = false →
      TransGen g.Expands s t := by
    intro s hs
    induction hs using TransGen.head_induction_on with
    | single hlast =>
      exact fun hd => .single ⟨isInline_of_mem_children hd hlast.1, hlast.1, hinline⟩
    | @head a b hab hbt ih =>
      intro hd
      obtain ⟨c, hbc, _⟩ := TransGen.head'_iff.mp hbt
      have hb : g.isInline b = true := isInline_of_mem_children hab.2 hbc.1
      exact .head ⟨isInline_of_mem_children hd hab.1, hab.1, hb⟩ (ih hab.2)
  exact hway t h hundeclared

/-- A type that is found leads back to itself, and the top-levels lead to it. -/
def Search.IsSound (g : TypeGraph) (r : Search) : Prop :=
  ∀ t, r.found = some t → g.Occurs t ∧ TransGen g.Enters t t

/-- From every type that the search is inside of, it came to `t` through types it entered. -/
def Trail (g : TypeGraph) (active : List Ty.Key) (t : Ty) : Prop :=
  ∀ s key, g.Occurs s → s.key? = some key → key ∈ active → TransGen g.Enters s t

theorem trail_nil (t : Ty) : g.Trail [] t := fun _ _ _ _ h => by cases h

theorem Trail.child (hm : g.IsMarked) {active : List Ty.Key} {t c : Ty} {key : Ty.Key}
    (h : g.Trail active t) (ht : g.Occurs t) (hkey : t.key? = some key) (hc : g.Enters t c) :
    g.Trail (key :: active) c := by
  intro s k hs hsk hk
  rcases List.mem_cons.mp hk with rfl | hk
  · rw [hm s t k hs ht hsk hkey]
    exact .single hc
  · exact (h s k hs hsk hk).tail hc

theorem isSound_searchBelow {t : Ty} {key : Ty.Key} {active finished : List Ty.Key}
    (ht : g.Occurs t) (hkey : t.key? = some key) (htrail : g.Trail active t)
    {below : List Ty.Key → List Ty.Key → Search}
    (hb : (below (key :: active) finished).IsSound g) :
    (searchBelow t key active finished below).IsSound g := by
  unfold searchBelow
  split
  · next hactive =>
    intro s hs
    cases hs
    exact ⟨ht, htrail t key ht hkey (by simpa using hactive)⟩
  · split
    · intro s hs; cases hs
    · rcases hr : below (key :: active) finished with ⟨_ | found, after⟩
      · intro s hs; cases hs
      · rw [hr] at hb
        intro s hs
        exact hb s hs

theorem isSound_searchAll {search : Ty → List Ty.Key → Search} {ts : List Ty}
    (hs : ∀ t ∈ ts, g.needsDeclaration t = false → ∀ finished, (search t finished).IsSound g) :
    ∀ finished, (g.searchAll search ts finished).IsSound g := by
  induction ts with
  | nil => intro finished t ht; cases ht
  | cons t ts ih =>
    intro finished
    have hrest := ih fun u hu => hs u (List.mem_cons_of_mem t hu)
    rw [searchAll]
    split
    · exact hrest finished
    · next hd =>
      have ht := hs t (by simp) (by simpa using hd) finished
      rcases hr : search t finished with ⟨_ | found, after⟩
      · exact hrest after
      · rw [hr] at ht
        intro s hfound
        exact ht s hfound

theorem isSound_searchIn (hm : g.IsMarked) {enter : Nat → List Ty.Key → List Ty.Key → Search}
    (he : ∀ id active finished, g.Occurs (.named id) → g.Trail active (.named id) →
      (enter id active finished).IsSound g) (t : Ty) :
    ∀ active finished, g.Occurs t → g.Trail active t →
      (g.searchIn enter t active finished).IsSound g := by
  induction t with
  | primitive p => intro active finished _ _ s hs; cases hs
  | array mark items ih =>
    intro active finished ht htrail
    refine isSound_searchBelow ht rfl htrail ?_
    split
    · intro s hs; cases hs
    · next hd =>
      have hin : g.Enters (.array mark items) items := ⟨by simp [children], by simpa using hd⟩
      exact ih _ _ (ht.child hin.1) (htrail.child hm ht rfl hin)
  | map mark values ih =>
    intro active finished ht htrail
    refine isSound_searchBelow ht rfl htrail ?_
    split
    · intro s hs; cases hs
    · next hd =>
      have hin : g.Enters (.map mark values) values := ⟨by simp [children], by simpa using hd⟩
      exact ih _ _ (ht.child hin.1) (htrail.child hm ht rfl hin)
  | named id => exact he id

theorem isSound_searchFrom (hm : g.IsMarked) : ∀ fuel id active finished,
    g.Occurs (.named id) → g.Trail active (.named id) →
    (g.searchFrom fuel id active finished).IsSound g := by
  intro fuel
  induction fuel with
  | zero => intro id active finished _ _ t ht; cases ht
  | succ fuel ih =>
    intro id active finished hid htrail
    refine isSound_searchBelow hid rfl htrail ?_
    refine isSound_searchAll (fun t ht hd after => ?_) finished
    exact isSound_searchIn hm ih t _ _ (hid.child ht) (htrail.child hm hid rfl ⟨ht, hd⟩)

/-- What the search starts from. -/
theorem occurs_of_start {t : Ty} (h : t ∈ g.topLevels.map (·.2) ++ g.namedTypes.map Ty.named) :
    g.Occurs t := by
  rcases List.mem_append.mp h with h | h
  · obtain ⟨top, htop, rfl⟩ := List.mem_map.mp h
    exact occurs_root htop
  · obtain ⟨id, hid, rfl⟩ := List.mem_map.mp h
    exact (mem_namedTypes_iff.mp hid).occurs

theorem onInlineCycle_of_searchStarts (hm : g.IsMarked) {ts : List Ty}
    (hts : ∀ t ∈ ts, g.Occurs t) : ∀ {finished : List Ty.Key} {t : Ty},
    g.searchStarts ts finished = some t → g.Occurs t ∧ g.OnInlineCycle t := by
  induction ts with
  | nil => intro finished t h; cases h
  | cons start ts ih =>
    intro finished t h
    have hsound := isSound_searchIn hm (isSound_searchFrom hm (g.types.size + 2)) start []
      finished (hts start (by simp)) (trail_nil start)
    rw [searchStarts] at h
    split at h
    · next found after hr =>
      cases h
      obtain ⟨hoccurs, hback⟩ := hsound t (by rw [hr])
      exact ⟨hoccurs, onInlineCycle_of_enters hback⟩
    · exact ih (fun u hu => hts u (List.mem_cons_of_mem start hu)) h

/-- What the search finds is on an inline cycle. -/
theorem onInlineCycle_of_inlineCycle? (hm : g.IsMarked) {t : Ty} (h : g.inlineCycle? = some t) :
    g.Occurs t ∧ g.OnInlineCycle t :=
  onInlineCycle_of_searchStarts hm (fun _ => occurs_of_start) h

/-! ## Every cycle is found -/

theorem Expands.inlines {id : Nat} {t : Ty} (h : g.Expands (.named id) t) {j : Nat}
    (hj : t.target? = some j) : g.Inlines id j :=
  ⟨not_needsDeclaration_of_isInline h.1, mentions_iff.mpr ⟨t, h.2.1, hj⟩⟩

/-- A way to a named type passes the named types at the bottom of what it passes. -/
theorem exists_inlines_of_expands {t : Ty} {j : Nat} (h : ReflTransGen g.Expands t (.named j)) :
    ∃ i, t.target? = some i ∧ ReflTransGen g.Inlines i j := by
  induction h using ReflTransGen.head_induction_on with
  | refl => exact ⟨j, rfl, .refl⟩
  | @head s t hst _ ih =>
    obtain ⟨i, hi, hij⟩ := ih
    cases s with
    | primitive p => cases hst.1
    | array m s => rw [List.mem_singleton.mp hst.2.1] at hi; exact ⟨i, hi, hij⟩
    | map m s => rw [List.mem_singleton.mp hst.2.1] at hi; exact ⟨i, hi, hij⟩
    | named k => exact ⟨k, rfl, .head (hst.inlines hi) hij⟩

/-- Going down through arrays and maps ends, so an inline cycle passes a named type. -/
theorem OnInlineCycle.exists_named {t : Ty} (h : g.OnInlineCycle t) :
    ∃ id, ReflTransGen g.Expands t (.named id) ∧ TransGen g.Inlines id id := by
  induction t with
  | primitive p =>
    obtain ⟨_, hfirst, _⟩ := TransGen.head'_iff.mp h
    cases hfirst.1
  | array m t ih =>
    obtain ⟨next, hfirst, hback⟩ := TransGen.head'_iff.mp h
    obtain rfl := List.mem_singleton.mp hfirst.2.1
    obtain ⟨id, hid, hcycle⟩ := ih (.tail' hback hfirst)
    exact ⟨id, .head hfirst hid, hcycle⟩
  | map m t ih =>
    obtain ⟨next, hfirst, hback⟩ := TransGen.head'_iff.mp h
    obtain rfl := List.mem_singleton.mp hfirst.2.1
    obtain ⟨id, hid, hcycle⟩ := ih (.tail' hback hfirst)
    exact ⟨id, .head hfirst hid, hcycle⟩
  | named id =>
    obtain ⟨next, hfirst, hback⟩ := TransGen.head'_iff.mp h
    obtain ⟨i, hi, hp⟩ := exists_inlines_of_expands hback
    exact ⟨id, .refl, .head' (hfirst.inlines hi) hp⟩

theorem Occurs.expands {s t : Ty} (h : g.Occurs s) (hp : ReflTransGen g.Expands s t) :
    g.Occurs t := by
  induction hp with
  | refl => exact h
  | tail _ hst ih => exact ih.child hst.2.1

theorem not_onInlineCycle_of_isInlineFree (hf : g.IsInlineFree) {t : Ty} (h : g.Occurs t) :
    ¬ g.OnInlineCycle t := by
  intro hcycle
  obtain ⟨id, hp, hback⟩ := hcycle.exists_named
  exact hf id ((h.expands hp).reachable rfl) hback

theorem inlineCycle?_eq_none_iff (hm : g.IsMarked) :
    g.inlineCycle? = none ↔ ∀ t, g.Occurs t → ¬ g.OnInlineCycle t := by
  constructor
  · intro h t
    exact not_onInlineCycle_of_isInlineFree (isInlineFree_of_inlineCycle? hm.coherent h)
  · intro h
    cases hfound : g.inlineCycle? with
    | none => rfl
    | some t =>
      obtain ⟨hoccurs, hcycle⟩ := onInlineCycle_of_inlineCycle? hm hfound
      exact absurd hcycle (h t hoccurs)

/-- The search finds nothing just if no type that the top-levels lead to is on an inline cycle, and
what it finds is such a type and not declared. -/
theorem inlineCycle?_sound_complete (hm : g.IsMarked) :
    (g.inlineCycle? = none ↔ ∀ t, g.Occurs t → ¬ g.OnInlineCycle t) ∧
      ∀ t, g.inlineCycle? = some t →
        g.Occurs t ∧ g.needsDeclaration t = false ∧ g.OnInlineCycle t := by
  refine ⟨inlineCycle?_eq_none_iff hm, fun t h => ?_⟩
  obtain ⟨hoccurs, hcycle⟩ := onInlineCycle_of_inlineCycle? hm h
  obtain ⟨_, hfirst, _⟩ := TransGen.head'_iff.mp hcycle
  exact ⟨hoccurs, not_needsDeclaration_of_isInline hfirst.1, hcycle⟩

/-- A record and an undeclared union that share an array, and the array leads back to the union. -/
def sharingGraph : TypeGraph where
  types := #[
    ⟨.str "Forest", .null, .record [⟨.str "trees", .array 0 (.named 1), false, .null⟩]⟩,
    ⟨.str "Tree", .null, .union [.primitive .null, .map 1 (.array 0 (.named 1))]⟩]
  topLevels := [("Forest", .named 0), ("Tree", .map 2 (.named 1))]

theorem isMarked_sharingGraph : sharingGraph.IsMarked := by
  let inside : List Ty := [.named 0, .map 2 (.named 1), .array 0 (.named 1), .named 1,
    .primitive .null, .map 1 (.array 0 (.named 1))]
  have hunique : ∀ s ∈ inside, ∀ t ∈ inside, s.key? = t.key? → s.key? = none ∨ s = t := by decide
  have hcoherent : sharingGraph.Coherent (· ∈ inside) := by
    refine ⟨by decide, by decide, ?_⟩
    intro s t key hs ht hsk htk
    rcases hunique s hs t ht (hsk.trans htk.symm) with hnone | heq
    · rw [hsk] at hnone; cases hnone
    · exact heq
  exact hcoherent.isMarked

/-- The search comes back to the array that both share. -/
theorem inlineCycle?_sharingGraph :
    sharingGraph.inlineCycle? = some (.array 0 (.named 1)) ∧
      sharingGraph.Occurs (.array 0 (.named 1)) ∧
      sharingGraph.OnInlineCycle (.array 0 (.named 1)) := by
  have hfound : sharingGraph.inlineCycle? = some (.array 0 (.named 1)) := by decide
  obtain ⟨hoccurs, _, hcycle⟩ := (inlineCycle?_sound_complete isMarked_sharingGraph).2 _ hfound
  exact ⟨hfound, hoccurs, hcycle⟩

end ZigDecl.TypeGraph
