import ZigDecl.Proofs.Generation.Mentions
import ZigDecl.Proofs.Zig.Nesting

/-! # The names that the type map asks for

The type map is given a lookup for the names of declared types. `Asks` says for which types, and in
which order, a computation uses its lookup. It is told by what the computation does under every
lookup, and that fixes the types but for repetitions. Main statement: the declarations found for a
type are those that the type map asks for while it maps what the type is declared with, each once,
in the order in which it first asks for them, and without the type itself. -/

namespace ZigDecl.Generation

open Zig (Expr Leads Options Spells TypeExpr TypeMap)

/-- A lookup for the names of declared types. -/
abbrev Lookup := Nat → Except NameError String

/-- A computation looks up types one after the other, and then its result is made of the names. -/
def Asks {α : Type} (run : Lookup → Except NameError α) (ids : List Nat) : Prop :=
  ∃ finish : List String → α, ∀ typeName, run typeName = finish <$> ids.mapM typeName

section

variable {α β γ : Type} {run : Lookup → Except NameError α} {run' : Lookup → Except NameError β}
  {ids ids' : List Nat}

theorem asks_ok (a : α) : Asks (fun _ => .ok a) [] := ⟨fun _ => a, fun _ => rfl⟩

theorem Asks.map (f : α → β) (h : Asks run ids) :
    Asks (fun typeName => f <$> run typeName) ids := by
  obtain ⟨finish, hrun⟩ := h
  refine ⟨f ∘ finish, fun typeName => ?_⟩
  simp only [hrun]
  cases ids.mapM typeName <;> rfl

theorem length_of_mapM {typeName : Lookup} {names : List String}
    (h : ids.mapM typeName = .ok names) : names.length = ids.length := by
  induction ids generalizing names with
  | nil => cases h; rfl
  | cons id ids ih =>
    rw [List.mapM_cons] at h
    obtain ⟨name, -, h⟩ := exists_of_bind_eq_ok h
    obtain ⟨rest, hrest, h⟩ := exists_of_bind_eq_ok h
    cases h
    rw [List.length_cons, List.length_cons, ih hrest]

/-- What one computation asks for and what the next one asks for. -/
theorem Asks.andThen (f : α → β → γ) (h : Asks run ids) (h' : Asks run' ids') :
    Asks (fun typeName => do return f (← run typeName) (← run' typeName)) (ids ++ ids') := by
  obtain ⟨finish, hrun⟩ := h
  obtain ⟨finish', hrun'⟩ := h'
  refine ⟨fun names => f (finish (names.take ids.length)) (finish' (names.drop ids.length)),
    fun typeName => ?_⟩
  simp only [hrun, hrun', List.mapM_append]
  cases hnames : ids.mapM typeName with
  | error e => rfl
  | ok names =>
    cases ids'.mapM typeName with
    | error e => rfl
    | ok names' =>
      have hlen := length_of_mapM hnames
      simp only [Functor.map, Except.map, bind, Except.bind, pure, Except.pure,
        List.take_left' hlen, List.drop_left' hlen]

theorem asks_mapM {run : α → Lookup → Except NameError β} {as : List α} {es : List Expr}
    (h : List.Forall₂ (fun a e => Asks (run a) e.target?.toList) as es) :
    Asks (fun typeName => as.mapM fun a => run a typeName) (refsOf es) := by
  induction h with
  | nil => exact asks_ok []
  | @cons a e as es ha _ ih =>
    have hrefs : refsOf (e :: es) = e.target?.toList ++ refsOf es := by
      rw [refsOf, List.filterMap_cons]
      cases e.target? <;> rfl
    simpa only [hrefs, List.mapM_cons] using ha.andThen List.cons ih

end

/-! ## What is asked for is settled -/

/-- A lookup with names for the given types only; its failure tells the first other type. -/
def lookupOnly (named : List Nat) (id : Nat) : Except NameError String :=
  if id ∈ named then .ok "" else .error (.unresolved (String.ofList (List.replicate id 'i')))

theorem mapM_lookupOnly (named : List Nat) : ∀ ids : List Nat,
    ids.mapM (lookupOnly named) = match ids.find? (· ∉ named) with
      | some id => .error (.unresolved (String.ofList (List.replicate id 'i')))
      | none => .ok (ids.map fun _ => "")
  | [] => rfl
  | id :: ids => by
    rw [List.mapM_cons, mapM_lookupOnly named ids, lookupOnly]
    by_cases hid : id ∈ named
    · rw [if_pos hid, List.find?_cons_of_neg (by simpa using hid)]
      cases ids.find? (· ∉ named) <;> rfl
    · rw [if_neg hid, List.find?_cons_of_pos (by simpa using hid)]
      rfl

/-- Lists that agree on the first element outside of every set agree on the order in which elements
first come up in them. -/
theorem eraseDups_eq_of_find? : ∀ {ids ids' : List Nat},
    (∀ named : List Nat, ids.find? (· ∉ named) = ids'.find? (· ∉ named)) →
      ids.eraseDups = ids'.eraseDups
  | [], ids', h => by
    cases ids' with
    | nil => rfl
    | cons id' ids' => simpa using h []
  | id :: ids, ids', h => by
    cases ids' with
    | nil => simpa using h []
    | cons id' ids' =>
      obtain rfl : id = id' := by simpa using h []
      have hrest : ∀ named : List Nat, (ids.filter fun j => !j == id).find? (· ∉ named) =
          (ids'.filter fun j => !j == id).find? (· ∉ named) := fun named => by
        simpa [List.find?_filter, not_or] using h (id :: named)
      rw [List.eraseDups_cons, List.eraseDups_cons, eraseDups_eq_of_find? hrest]
termination_by ids => ids.length
decreasing_by exact Nat.lt_succ_of_le (List.length_filter_le _ _)

/-- A computation asks for the same types in the same order, however that is told. -/
theorem Asks.eraseDups_eq {α : Type} {run : Lookup → Except NameError α} {ids ids' : List Nat}
    (h : Asks run ids) (h' : Asks run ids') : ids.eraseDups = ids'.eraseDups := by
  obtain ⟨finish, hrun⟩ := h
  obtain ⟨finish', hrun'⟩ := h'
  refine eraseDups_eq_of_find? fun named => ?_
  have heq := (hrun (lookupOnly named)).symm.trans (hrun' (lookupOnly named))
  rw [mapM_lookupOnly, mapM_lookupOnly] at heq
  cases hi : ids.find? (· ∉ named) <;> cases hj : ids'.find? (· ∉ named) <;>
    rw [hi, hj] at heq <;> simp [Functor.map, Except.map] at heq ⊢
  simpa using congrArg String.length heq

/-! ## What the type map asks for -/

variable {g : TypeGraph} {o : Options}

/-- Writing a type asks for what the type refers to. -/
theorem asks_write (hany : ∃ s, o.anyType = .str s) (withIssues : Bool) (e : Expr) :
    Asks (fun typeName => e.write ⟨g, typeName, o⟩ withIssues) e.target?.toList := by
  induction e with
  | builtin p =>
    obtain ⟨t, ht⟩ := Zig.exists_primitiveType hany withIssues p
    simpa only [Expr.write, ht, Expr.target?, Option.toList_none] using asks_ok t
  | ref id =>
    refine ⟨fun names => .plain (names.headD ""), fun typeName => ?_⟩
    show TypeExpr.plain <$> typeName id = _
    rw [Expr.target?, Option.toList_some, List.mapM_cons, List.mapM_nil]
    cases typeName id <;> rfl
  | slice e ih => exact ih.map _
  | hashMap e ih => exact ih.map _
  | optional e ih => exact ih.map _

theorem asks_type (hg : g.IsFounded) (hany : ∃ s, o.anyType = .str s) (withIssues : Bool) {t : Ty}
    {e : Expr} (ht : Leads g t) (h : Spells g t e) :
    Asks (fun typeName => TypeMap.type ⟨g, typeName, o⟩ withIssues t) e.target?.toList := by
  have hwrite : ∀ typeName : Lookup, TypeMap.type ⟨g, typeName, o⟩ withIssues t =
      e.write ⟨g, typeName, o⟩ withIssues := fun typeName =>
    Spells.type_eq (m := ⟨g, typeName, o⟩) hg withIssues h ht
  simpa only [hwrite] using asks_write hany withIssues e

theorem asks_propertyType (hg : g.IsFounded) (hany : ∃ s, o.anyType = .str s) {p : Property}
    {e : Expr} (ht : Leads g p.type) (h : Spells g p.type e) :
    Asks (fun typeName => TypeMap.propertyType ⟨g, typeName, o⟩ p) e.target?.toList := by
  have htype := asks_type hg hany true ht h
  cases hopt : p.isOptional with
  | true =>
    simpa only [TypeMap.propertyType, TypeMap.nullableType, hopt, if_true] using
      htype.map TypeExpr.asOptional
  | false => simpa only [TypeMap.propertyType, hopt, Bool.false_eq_true, if_false] using htype

/-- The Zig types that a type is declared with: those of the fields of a record and of the members
of a declared union that are not null. What has no declaration is mapped itself. -/
def declaredWith (m : TypeMap) (withIssues : Bool) (t : Ty) : Except NameError (List TypeExpr) :=
  if m.graph.needsDeclaration t then
    match t.target?.bind m.graph.shape? with
    | some (.record ps) => ps.mapM m.propertyType
    | some (.union ms) => (nonNulls ms).mapM (m.type withIssues)
    | _ => .ok []
  else ([·]) <$> m.type withIssues t

/-- A declared type asks for what it is written with. -/
theorem asks_written (hg : g.IsFounded) (hany : ∃ s, o.anyType = .str s) (withIssues : Bool)
    {id : Nat} (hr : g.Reachable id) (hd : g.isDeclared id = true) {es : List Expr}
    (h : List.Forall₂ (Spells g) ((Declaration.type id).written g) es) :
    Asks (fun typeName => declaredWith ⟨g, typeName, o⟩ withIssues (.named id)) (refsOf es) := by
  have hneeds : g.needsDeclaration (.named id) = true := hd
  have hspelled := (List.forall₂_and_left _ _).mpr ⟨fun t ht => leads_of_mem_written hr ht, h⟩
  simp only [declaredWith, hneeds, if_true, Ty.target?, Ty.leaf, Option.bind_some]
  rw [Declaration.written] at hspelled
  cases hs : g.shape? id with
  | none => simp [TypeGraph.isDeclared, hs] at hd
  | some s =>
    rw [hs] at hspelled
    cases s with
    | record ps =>
      exact asks_mapM ((List.forall₂_map_left_iff.mp hspelled).imp fun p e hp =>
        asks_propertyType hg hany hp.1 hp.2)
    | enum cs =>
      cases hspelled
      exact asks_ok []
    | union ms =>
      exact asks_mapM (hspelled.imp fun t e ht => asks_type hg hany withIssues ht.1 ht.2)

/-- What is found for a type is what it is declared with, and the type map asks for that. -/
theorem exists_asked (hg : g.IsFounded) (hany : ∃ s, o.anyType = .str s) (withIssues : Bool)
    {t : Ty} (ht : Leads g t) :
    ∃ asked, Asks (fun typeName => declaredWith ⟨g, typeName, o⟩ withIssues t) asked ∧
      g.referencedDeclarations t = .ok (asked.filter fun id => t ≠ .named id).eraseDups := by
  cases hneeds : g.needsDeclaration t with
  | true =>
    cases t with
    | named id =>
      have hr := ht id rfl
      obtain ⟨es, hes⟩ := exists_spelled hg fun s hs => leads_of_mem_written hr hs
      refine ⟨refsOf es, asks_written hg hany withIssues hr hneeds hes, ?_⟩
      rw [referencedDeclarations_of_isDeclared hg hr hneeds hes, references]
      simp
    | _ => cases hneeds
  | false =>
    obtain ⟨e, he⟩ := Zig.exists_spells hg ht
    have hrefs : refsOf [e] = e.target?.toList := by
      rw [refsOf, List.filterMap_cons]
      cases e.target? <;> rfl
    refine ⟨refsOf [e], ?_, ?_⟩
    · simpa only [declaredWith, hneeds, Bool.false_eq_true, if_false, hrefs] using
        (asks_type hg hany withIssues ht he).map ([·])
    · rw [referencedDeclarations_of_not_needsDeclaration hg ht hneeds he, references]
      refine congrArg (Except.ok <| List.eraseDups ·) (List.filter_congr fun id hid => ?_)
      -- What is referred to is declared, and the type is not.
      have hdeclared := (TypeGraph.mem_declarations.mp (refsOf_mem (.cons he .nil)
        (by simpa using ht) id hid)).2
      have hne : t ≠ .named id := by
        rintro rfl
        exact absurd (hneeds.symm.trans hdeclared) (by simp)
      simp [hne]

theorem filter_eraseDups (p : Nat → Bool) (ids : List Nat) :
    ids.eraseDups.filter p = (ids.filter p).eraseDups := by
  have hguard : ∀ a b c, Option.guard p a = some c → Option.guard p b = some c → a = b := by
    intro a b c ha hb
    rw [Option.guard_eq_some_iff] at ha hb
    exact ha.1.trans hb.1.symm
  simpa only [List.filterMap_eq_filter] using filterMap_eraseDups hguard ids

theorem nodup_eraseDups : ∀ ids : List Nat, ids.eraseDups.Nodup
  | [] => by simp
  | id :: ids => by
    rw [List.eraseDups_cons, List.nodup_cons]
    exact ⟨by simp [List.mem_eraseDups], nodup_eraseDups _⟩
termination_by ids => ids.length
decreasing_by exact Nat.lt_succ_of_le (List.length_filter_le _ _)

/-- Without inline cycles, the declarations found for a type are the ones whose names the type map
asks for while it maps what the type is declared with, without the type itself, each once and in
the order in which it first asks. -/
theorem referencedDeclarations_eq_asked (hc : g.IsClosed) (hm : g.IsMarked)
    (hfree : g.inlineCycle? = none) (hany : ∃ s, o.anyType = .str s) (withIssues : Bool) {t : Ty}
    (ht : g.Occurs t) :
    ∃ found, g.referencedDeclarations t = .ok found ∧ found.Nodup ∧ (∀ id ∈ found, t ≠ .named id) ∧
      (∃ asked, Asks (fun typeName => declaredWith ⟨g, typeName, o⟩ withIssues t) asked) ∧
      ∀ asked, Asks (fun typeName => declaredWith ⟨g, typeName, o⟩ withIssues t) asked →
        found = asked.eraseDups.filter fun id => t ≠ .named id := by
  have hg : g.IsFounded := ⟨hc, TypeGraph.isInlineFree_of_inlineCycle? hm.coherent hfree⟩
  obtain ⟨asked, hasked, hfound⟩ :=
    exists_asked hg hany withIssues fun id hid => ht.reachable hid
  rw [← filter_eraseDups] at hfound
  refine ⟨_, hfound, ?_, ?_, ⟨asked, hasked⟩, fun asked' hasked' => ?_⟩
  · exact (nodup_eraseDups asked).filter _
  · intro id hid
    simpa using (List.mem_filter.mp hid).2
  · rw [hasked.eraseDups_eq hasked']

theorem isClosed_knotGraph : knotGraph.IsClosed := by
  refine ⟨by decide, fun i j hij => ?_⟩
  obtain ⟨t, ht, htarget⟩ := TypeGraph.mentions_iff.mp hij
  have hparts : ∀ i < 3, ∀ t ∈ knotGraph.parts i, ∀ j ∈ t.target?, j < 3 := by decide
  by_cases hi : i < 3
  · exact hparts i hi t ht j htarget
  · have hnone : knotGraph.shape? i = none := TypeGraph.shape?_eq_none_iff.mpr (not_lt.mp hi)
    simp [TypeGraph.parts_of_shape?_eq_none hnone] at ht

/-- The declared union asks for the record and for itself, and the union of null and a map of arrays
for what is in the arrays. -/
theorem asked_knotGraph :
    (knotGraph.referencedDeclarations (.named 1) = .ok [0] ∧ ∃ asked,
      Asks (fun typeName => declaredWith ⟨knotGraph, typeName, .default⟩ true (.named 1)) asked ∧
      asked.eraseDups.filter (fun id => Ty.named 1 ≠ .named id) = [0]) ∧
    (knotGraph.referencedDeclarations (.named 2) = .ok [1] ∧ ∃ asked,
      Asks (fun typeName => declaredWith ⟨knotGraph, typeName, .default⟩ true (.named 2)) asked ∧
      asked.eraseDups.filter (fun id => Ty.named 2 ≠ .named id) = [1]) := by
  have hm : knotGraph.IsMarked := by decide
  have hfree : knotGraph.inlineCycle? = none := by decide
  have hany : ∃ s, Options.default.anyType = .str s := ⟨_, rfl⟩
  have hitem : knotGraph.Occurs (.named 1) := TypeGraph.mem_nodes_iff.mp (by decide)
  have hnamed : knotGraph.Occurs (.named 2) := TypeGraph.mem_nodes_iff.mp (by decide)
  obtain ⟨found, hfound, -, -, ⟨asked, hasked⟩, heq⟩ :=
    referencedDeclarations_eq_asked isClosed_knotGraph hm hfree hany true hitem
  obtain ⟨found', hfound', -, -, ⟨asked', hasked'⟩, heq'⟩ :=
    referencedDeclarations_eq_asked isClosed_knotGraph hm hfree hany true hnamed
  have hzero : knotGraph.referencedDeclarations (.named 1) = .ok [0] := by rfl
  have hone : knotGraph.referencedDeclarations (.named 2) = .ok [1] := by rfl
  obtain rfl := Except.ok.inj (hfound.symm.trans hzero)
  obtain rfl := Except.ok.inj (hfound'.symm.trans hone)
  exact ⟨⟨hzero, asked, hasked, (heq asked hasked).symm⟩,
    ⟨hone, asked', hasked', (heq' asked' hasked').symm⟩⟩

end ZigDecl.Generation
