import ZigDecl.Graph.Document

/-! # What reading a document does

`Loads` relates a part of a document to what reading it yields, and the graph in the making before
and after. It has one rule for every way in which a part is read, so that a fact about all loaded
graphs is proved by one induction. Main statement: every successful run of the reader is a
derivation of `Loads`. -/

namespace ZigDecl

open TextLike (lit)

variable {τ : Type}

/-! ## Steps that return -/

/-- A step ends with a value. -/
def Link.Returns {α : Type} (x : Link τ α) (l : Linking τ) (a : α) (l' : Linking τ) : Prop :=
  x.run l = .ok (a, l')

namespace Link.Returns

variable {α β : Type} {l l' l'' : Linking τ}

theorem of_pure {a b : α} (h : Returns (pure a) l b l') : b = a ∧ l' = l := by
  cases h
  exact ⟨rfl, rfl⟩

theorem of_bind {x : Link τ α} {f : α → Link τ β} {b : β} (h : Returns (x >>= f) l b l'') :
    ∃ a l', Returns x l a l' ∧ Returns (f a) l' b l'' := by
  simp only [Returns, StateT.run_bind] at h
  cases hx : x.run l with
  | error e => rw [hx] at h; cases h
  | ok r => rw [hx] at h; exact ⟨r.1, r.2, hx, h⟩

theorem run_bind {x : Link τ α} {a : α} (h : Returns x l a l') (f : α → Link τ β) :
    (x >>= f).run l = (f a).run l' := by
  rw [StateT.run_bind, show x.run l = .ok (a, l') from h]
  rfl

theorem of_throw {e : GraphError τ} {a : α} (h : Returns (throw e) l a l') : False := by
  cases h

theorem of_get {a : Linking τ} (h : Returns get l a l') : a = l ∧ l' = l := by
  cases h
  exact ⟨rfl, rfl⟩

theorem of_set {s : Linking τ} {u : PUnit} (h : Returns (set s) l u l') : l' = s := by
  cases h
  rfl

theorem of_modify {f : Linking τ → Linking τ} {u : PUnit} (h : Returns (modify f) l u l') :
    l' = f l := by
  cases h
  rfl

end Link.Returns

theorem Link.returns_newMark {l l' : Linking τ} {n : Nat} (h : Returns newMark l n l') :
    n = l.nextMark ∧ l' = { l with nextMark := l.nextMark + 1 } := by
  cases h
  exact ⟨rfl, rfl⟩

/-! ## The parts of a document and what they are read as -/

/-- A part of a document that is to be read. -/
inductive Task (τ : Type := String) where
  | type (place : τ) (reference : Option τ) (d : Definition τ)
  | members (place : τ) (ds : List (Definition τ))
  | properties (owner : Value τ) (ps : List (Definition.Property τ))
  /-- The definition under a name. -/
  | follow (name : τ)

/-- What a part of a document is read as. -/
inductive Reading (τ : Type := String) where
  | type (t : Ty)
  | members (ts : List Ty)
  | properties (ps : List (Property τ))

variable [DecidableEq τ]

theorem Linking.mem_of_find? {name : τ} {entries : List (τ × Ty)} {t : Ty}
    (h : find? name entries = some t) : (name, t) ∈ entries := by
  induction entries with
  | nil => cases h
  | cons e rest ih =>
    obtain ⟨n, s⟩ := e
    rw [find?] at h
    split at h
    · next hn =>
      cases h
      rw [beq_iff_eq.mp hn]
      exact List.mem_cons_self
    · exact List.mem_cons_of_mem _ (ih h)

/-- The graph with a new named type, to which a reference may lead from now on. -/
def Linking.withType (l : Linking τ) (t : NamedType τ) (reference : Option τ) : Linking τ :=
  let l' := { l with graph := (l.graph.addType t).1 }
  match reference with
  | some name => l'.settle name (.named l.graph.types.size)
  | none => l'

theorem Link.returns_newType {l l' : Linking τ} {t : NamedType τ} {reference : Option τ} {id : Nat}
    (h : Returns (newType t reference) l id l') :
    id = l.graph.types.size ∧ l' = l.withType t reference := by
  cases h
  exact ⟨rfl, rfl⟩

variable [TextLike τ]

/-- Reading a part of a document whose named definitions are given. -/
inductive Loads (definitions : List (τ × Value τ)) :
    Task τ → Linking τ → Reading τ → Linking τ → Prop
  | primitive (place : τ) (reference : Option τ) (p : Primitive) (l : Linking τ) :
      Loads definitions (.type place reference (.primitive p)) l (.type (.primitive p)) l
  | reference {place : τ} {reference : Option τ} {name : τ} {l l' : Linking τ}
      {t : Ty} (h : Loads definitions (.follow name) l (.type t) l') :
      Loads definitions (.type place reference (.reference (.str name))) l (.type t) l'
  | array {place : τ} {reference : Option τ} {d : Definition τ} {l l' : Linking τ} {t : Ty}
      (h : Loads definitions (.type (place ++ lit " item") none d) l (.type t) l') :
      Loads definitions (.type place reference (.array d)) l (.type (.array l'.nextMark t))
        { l' with nextMark := l'.nextMark + 1 }
  | map {place : τ} {reference : Option τ} {d : Definition τ} {l l' : Linking τ} {t : Ty}
      (h : Loads definitions (.type (place ++ lit " value") none d) l (.type t) l') :
      Loads definitions (.type place reference (.map d)) l (.type (.map l'.nextMark t))
        { l' with nextMark := l'.nextMark + 1 }
  | record {place : τ} {reference : Option τ} {name description : Value τ}
      {ds : List (Definition.Property τ)} {l l' : Linking τ} {ps : List (Property τ)}
      (h : Loads definitions (.properties (Link.nameOr name place) ds)
        (l.withType ⟨Link.nameOr name place, description, .record []⟩ reference)
        (.properties ps) l') :
      Loads definitions (.type place reference (.record name description (some ds))) l
        (.type (.named l.graph.types.size))
        { l' with graph := l'.graph.setShape l.graph.types.size (.record ps) }
  | enum (place : τ) (reference : Option τ) (name description : Value τ)
      (cases : List τ) (l : Linking τ) :
      Loads definitions (.type place reference (.enum name description (some cases))) l
        (.type (.named l.graph.types.size))
        (l.withType ⟨Link.nameOr name place, description, .enum cases⟩ none)
  | union {place : τ} {reference : Option τ} {name description : Value τ}
      {ds : List (Definition τ)} {l l' : Linking τ} {ts : List Ty}
      (h : Loads definitions (.members ((Link.nameOr name place).display ++ lit " member") ds)
        (l.withType ⟨Link.nameOr name place, description, .union []⟩ reference)
        (.members ts) l') :
      Loads definitions (.type place reference (.union name description (some ds))) l
        (.type (.named l.graph.types.size))
        { l' with graph := l'.graph.setMembers l.graph.types.size ts }
  | noMembers (place : τ) (l : Linking τ) :
      Loads definitions (.members place []) l (.members []) l
  | member {place : τ} {d : Definition τ} {ds : List (Definition τ)} {l l' l'' : Linking τ} {t : Ty}
      {ts : List Ty} (h : Loads definitions (.type place none d) l (.type t) l')
      (hs : Loads definitions (.members place ds) l' (.members ts) l'') :
      Loads definitions (.members place (d :: ds)) l (.members (t :: ts)) l''
  | noProperties (owner : Value τ) (l : Linking τ) :
      Loads definitions (.properties owner []) l (.properties []) l
  | property {owner name description : Value τ} {d : Definition τ} {isOptional : Bool}
      {ds : List (Definition.Property τ)} {l l' l'' : Linking τ} {t : Ty} {ps : List (Property τ)}
      (h : Loads definitions (.type (owner.display ++ lit " " ++ name.display) none d) l
        (.type t) l')
      (hs : Loads definitions (.properties owner ds) l' (.properties ps) l'') :
      Loads definitions (.properties owner (.valid name d isOptional description :: ds)) l
        (.properties (⟨name, t, isOptional, description⟩ :: ps)) l''
  | found {name : τ} {l : Linking τ} {t : Ty} (h : Linking.find? name l.resolved = some t) :
      Loads definitions (.follow name) l (.type t) l
  | enter {name : τ} {l l' : Linking τ} {t : Ty} {value : Value τ}
      (hfind : Linking.find? name l.resolved = none)
      (hvalue : Value.lookup name definitions = some value) (hpending : name ∉ l.pending)
      (h : Loads definitions (.type name (some name) (Definition.ofValue value))
        { l with pending := name :: l.pending } (.type t) l') :
      Loads definitions (.follow name) l (.type t) (l'.settle name t)

/-- The graph in the making with a new top-level at the end. -/
def Linking.withTopLevel (l : Linking τ) (name : τ) (root : Ty) : Linking τ :=
  { l with graph := { l.graph with topLevels := l.graph.topLevels ++ [(name, root)] } }

/-- Reading the top-levels of a document, none of which has a name twice. -/
inductive LoadsTops (definitions : List (τ × Value τ)) :
    List (τ × Value τ) → Linking τ → Linking τ → Prop
  | nil (l : Linking τ) : LoadsTops definitions [] l l
  | cons {name : τ} {value : Value τ} {rest : List (τ × Value τ)} {l l' l'' : Linking τ}
      {t : Ty} (h : Loads definitions (.type name none (Definition.ofValue value)) l (.type t) l')
      (hnew : l'.graph.hasTopLevel name = false)
      (hs : LoadsTops definitions rest (l'.withTopLevel name t) l'') :
      LoadsTops definitions ((name, value) :: rest) l l''

/-! ## Reading is a function -/

/-- A part of a document is read in one way only. -/
theorem Loads.functional {definitions : List (τ × Value τ)} {task : Task τ} {l l₁ l₂ : Linking τ}
    {r₁ r₂ : Reading τ} (h₁ : Loads definitions task l r₁ l₁)
    (h₂ : Loads definitions task l r₂ l₂) :
    r₁ = r₂ ∧ l₁ = l₂ := by
  induction h₁ generalizing r₂ l₂ with
  | primitive | enum | noMembers | noProperties => cases h₂; exact ⟨rfl, rfl⟩
  | reference _ ih =>
    cases h₂ with
    | reference h => exact ih h
  | array _ ih =>
    cases h₂ with
    | array h =>
      obtain ⟨ht, rfl⟩ := ih h
      cases ht
      exact ⟨rfl, rfl⟩
  | map _ ih =>
    cases h₂ with
    | map h =>
      obtain ⟨ht, rfl⟩ := ih h
      cases ht
      exact ⟨rfl, rfl⟩
  | record _ ih =>
    cases h₂ with
    | record h =>
      obtain ⟨hps, rfl⟩ := ih h
      cases hps
      exact ⟨rfl, rfl⟩
  | union _ ih =>
    cases h₂ with
    | union h =>
      obtain ⟨hts, rfl⟩ := ih h
      cases hts
      exact ⟨rfl, rfl⟩
  | member _ _ ih ihs =>
    cases h₂ with
    | member h hs =>
      obtain ⟨ht, rfl⟩ := ih h
      obtain ⟨hts, rfl⟩ := ihs hs
      cases ht
      cases hts
      exact ⟨rfl, rfl⟩
  | property _ _ ih ihs =>
    cases h₂ with
    | property h hs =>
      obtain ⟨ht, rfl⟩ := ih h
      obtain ⟨hps, rfl⟩ := ihs hs
      cases ht
      cases hps
      exact ⟨rfl, rfl⟩
  | found hfound =>
    cases h₂ with
    | found h =>
      cases hfound.symm.trans h
      exact ⟨rfl, rfl⟩
    | enter hfind => cases hfound.symm.trans hfind
  | enter hfind hvalue _ _ ih =>
    cases h₂ with
    | found h => cases h.symm.trans hfind
    | enter _ hvalue' _ h =>
      cases hvalue.symm.trans hvalue'
      obtain ⟨ht, rfl⟩ := ih h
      cases ht
      exact ⟨rfl, rfl⟩

/-- The top-levels of a document are read in one way only. -/
theorem LoadsTops.functional {definitions tops : List (τ × Value τ)} {l l₁ l₂ : Linking τ}
    (h₁ : LoadsTops definitions tops l l₁) (h₂ : LoadsTops definitions tops l l₂) : l₁ = l₂ := by
  induction h₁ with
  | nil => cases h₂; rfl
  | cons h _ _ ih =>
    cases h₂ with
    | cons h' _ hs =>
      obtain ⟨ht, rfl⟩ := h.functional h'
      cases ht
      exact ih hs

/-! ## Runs of the reader -/

namespace Link

variable {definitions : List (τ × Value τ)}

/-- Whoever follows references does it as `Loads` says. -/
def Follows (definitions : List (τ × Value τ)) (follow : τ → Link τ Ty) : Prop :=
  ∀ name l t l', Returns (follow name) l t l' → Loads definitions (.follow name) l (.type t) l'

mutual

theorem loads_type {follow : τ → Link τ Ty} (hf : Follows definitions follow) :
    ∀ (d : Definition τ) {place : τ} {reference : Option τ} {l l' : Linking τ} {t : Ty},
      Returns (type follow place reference d) l t l' →
      Loads definitions (.type place reference d) l (.type t) l'
  | .primitive p, place, reference, l, l', t, h => by
    obtain ⟨rfl, rfl⟩ := Returns.of_pure h
    exact .primitive place reference p l'
  | .unknownPrimitive _, _, _, _, _, _, h => (Returns.of_throw h).elim
  | .invalid _, _, _, _, _, _, h => (Returns.of_throw h).elim
  | .reference target, place, reference, l, l', t, h => by
    cases target with
    | str name => exact .reference (hf name l t l' h)
    | _ => exact (Returns.of_throw h).elim
  | .array items, place, reference, l, l', t, h => by
    obtain ⟨s, m, hs, h⟩ := Returns.of_bind h
    obtain ⟨mark, m', hm, h⟩ := Returns.of_bind h
    obtain ⟨rfl, rfl⟩ := returns_newMark hm
    obtain ⟨rfl, rfl⟩ := Returns.of_pure h
    exact .array (loads_type hf items hs)
  | .map values, place, reference, l, l', t, h => by
    obtain ⟨s, m, hs, h⟩ := Returns.of_bind h
    obtain ⟨mark, m', hm, h⟩ := Returns.of_bind h
    obtain ⟨rfl, rfl⟩ := returns_newMark hm
    obtain ⟨rfl, rfl⟩ := Returns.of_pure h
    exact .map (loads_type hf values hs)
  | .record name description properties, place, reference, l, l', t, h => by
    rw [type] at h
    obtain ⟨id, m, hid, h⟩ := Returns.of_bind h
    obtain ⟨rfl, rfl⟩ := returns_newType hid
    cases properties with
    | none => exact (Returns.of_throw h).elim
    | some ds =>
      obtain ⟨ps, m', hps, h⟩ := Returns.of_bind h
      obtain ⟨u, m'', hu, h⟩ := Returns.of_bind h
      obtain rfl := Returns.of_modify hu
      obtain ⟨rfl, rfl⟩ := Returns.of_pure h
      exact .record (loads_propertyList hf ds hps)
  | .enum name description cases, place, reference, l, l', t, h => by
    cases cases with
    | none => exact (Returns.of_throw h).elim
    | some cs =>
      obtain ⟨id, m, hid, h⟩ := Returns.of_bind h
      obtain ⟨rfl, rfl⟩ := returns_newType hid
      obtain ⟨rfl, rfl⟩ := Returns.of_pure h
      exact .enum place reference name description cs l
  | .union name description members, place, reference, l, l', t, h => by
    rw [type] at h
    obtain ⟨id, m, hid, h⟩ := Returns.of_bind h
    obtain ⟨rfl, rfl⟩ := returns_newType hid
    cases members with
    | none => exact (Returns.of_throw h).elim
    | some ds =>
      obtain ⟨ts, m', hts, h⟩ := Returns.of_bind h
      obtain ⟨u, m'', hu, h⟩ := Returns.of_bind h
      obtain rfl := Returns.of_modify hu
      obtain ⟨rfl, rfl⟩ := Returns.of_pure h
      exact .union (loads_memberList hf ds hts)
  | .unknownKind _, _, _, _, _, _, h => (Returns.of_throw h).elim
  | .unusableKind, _, _, _, _, _, h => (Returns.of_throw h).elim

theorem loads_memberList {follow : τ → Link τ Ty} (hf : Follows definitions follow) :
    ∀ (ds : List (Definition τ)) {place : τ} {l l' : Linking τ} {ts : List Ty},
      Returns (memberList follow place ds) l ts l' →
      Loads definitions (.members place ds) l (.members ts) l'
  | [], place, l, l', ts, h => by
    obtain ⟨rfl, rfl⟩ := Returns.of_pure h
    exact .noMembers place l'
  | d :: ds, place, l, l', ts, h => by
    obtain ⟨t, m, ht, h⟩ := Returns.of_bind h
    obtain ⟨rest, m', hrest, h⟩ := Returns.of_bind h
    obtain ⟨rfl, rfl⟩ := Returns.of_pure h
    exact .member (loads_type hf d ht) (loads_memberList hf ds hrest)

theorem loads_propertyList {follow : τ → Link τ Ty} (hf : Follows definitions follow) :
    ∀ (ds : List (Definition.Property τ)) {owner : Value τ} {l l' : Linking τ}
      {ps : List (Property τ)},
      Returns (propertyList follow owner ds) l ps l' →
      Loads definitions (.properties owner ds) l (.properties ps) l'
  | [], owner, l, l', ps, h => by
    obtain ⟨rfl, rfl⟩ := Returns.of_pure h
    exact .noProperties owner l'
  | .invalid _ :: _, _, _, _, _, h => (Returns.of_throw h).elim
  | .valid name d isOptional description :: ds, owner, l, l', ps, h => by
    obtain ⟨t, m, ht, h⟩ := Returns.of_bind h
    obtain ⟨rest, m', hrest, h⟩ := Returns.of_bind h
    obtain ⟨rfl, rfl⟩ := Returns.of_pure h
    exact .property (loads_type hf d ht) (loads_propertyList hf ds hrest)

end

/-- References are followed as `Loads` says, however much fuel there is. -/
theorem follows_follow : ∀ fuel, Follows definitions (follow definitions fuel)
  | 0 => fun _ _ _ _ h => (Returns.of_throw h).elim
  | fuel + 1 => by
    intro name l t l' hrun
    obtain ⟨m, m', hget, h⟩ := Returns.of_bind hrun
    obtain ⟨rfl, rfl⟩ := Returns.of_get hget
    clear hrun
    split at h
    · next s hs =>
      obtain ⟨rfl, rfl⟩ := Returns.of_pure h
      exact .found hs
    · next hfind =>
      split at h
      · exact (Returns.of_throw h).elim
      · next value hvalue =>
        split at h
        · exact (Returns.of_throw h).elim
        · next hp =>
          obtain ⟨u, m, hu, h⟩ := Returns.of_bind h
          obtain rfl := Returns.of_set hu
          obtain ⟨s, m, hs, h⟩ := Returns.of_bind h
          obtain ⟨u, m', hm, h⟩ := Returns.of_bind h
          obtain rfl := Returns.of_modify hm
          obtain ⟨rfl, rfl⟩ := Returns.of_pure h
          exact .enter hfind hvalue (by simpa using hp) (loads_type (follows_follow fuel) _ hs)

theorem loadsTops_topLevels {follow : τ → Link τ Ty} (hf : Follows definitions follow) :
    ∀ (tops : List (τ × Value τ)) {l l' : Linking τ} {u : Unit},
      Returns (topLevels follow tops) l u l' → LoadsTops definitions tops l l'
  | [], l, l', u, h => by
    obtain ⟨_, rfl⟩ := Returns.of_pure h
    exact .nil l'
  | (name, value) :: rest, l, l', u, h => by
    rw [topLevels] at h
    obtain ⟨t, m, ht, hafter⟩ := Returns.of_bind h
    obtain ⟨m', m'', hget, hadd⟩ := Returns.of_bind hafter
    obtain ⟨rfl, rfl⟩ := Returns.of_get hget
    rw [TypeGraph.addTopLevel?] at hadd
    by_cases hnew : m''.graph.hasTopLevel name = true
    · rw [if_pos hnew] at hadd
      exact (Returns.of_throw hadd).elim
    · rw [if_neg hnew] at hadd
      obtain ⟨v, n, hv, hrest⟩ := Returns.of_bind hadd
      obtain rfl := Returns.of_modify hv
      exact .cons (loads_type hf _ ht) (by simpa using hnew) (loadsTops_topLevels hf rest hrest)

end Link

/-- A document is loaded by reading its top-levels and searching the graph that they make. -/
theorem TypeGraph.ofDocument_eq {definitions tops : List (τ × Value τ)}
    {document : Value τ} (h : documentParts document = .ok (definitions, tops)) :
    ofDocument document =
      ((Link.topLevels (Link.follow definitions (definitions.length + 1)) tops).run .start).bind
        fun r => match r.2.graph.inlineCycle? with
          | some t => .error (.inlineCycle (r.2.graph.shown t))
          | none => .ok r.2.graph := by
  rw [ofDocument, h]
  rfl

/-- Every graph that a document describes was read from its top-levels, and has no inline cycle. -/
theorem loadsTops_of_ofDocument {document : Value τ} {g : TypeGraph τ}
    (h : TypeGraph.ofDocument document = .ok g) :
    ∃ definitions tops l, TypeGraph.documentParts document = .ok (definitions, tops) ∧
      LoadsTops definitions tops .start l ∧ l.graph = g ∧ g.inlineCycle? = none := by
  unfold TypeGraph.ofDocument at h
  cases hp : TypeGraph.documentParts document with
  | error e => rw [hp] at h; cases h
  | ok parts =>
    obtain ⟨definitions, tops⟩ := parts
    rw [hp] at h
    cases hl : (Link.topLevels (Link.follow definitions (definitions.length + 1)) tops).run
        .start with
    | error e => simp only [Except.bind, bind, hl] at h; cases h
    | ok r =>
      obtain ⟨u, l⟩ := r
      simp only [Except.bind, bind, hl] at h
      split at h
      · cases h
      · next hnone =>
        cases h
        exact ⟨definitions, tops, l, rfl, Link.loadsTops_topLevels (Link.follows_follow _) tops hl,
          rfl, hnone⟩

end ZigDecl
