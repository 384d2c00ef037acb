import Mathlib.Logic.Relation
import ZigDecl.Proofs.Graph.Entered
import ZigDecl.Proofs.Value.Members

/-! # Why a sound document is refused

While an array, a map or a reference is read, its name stays pending, and every pending name leads
by references to the name that is looked up. So if all definitions are sound, reading can only be
refused at such a name that leads back to itself. Fuel never runs out, because every name that is
looked up and not found yet is one name less to take up. -/

namespace ZigDecl

open Relation

variable {τ : Type}

/-! ## Steps that return or are refused -/

namespace Link

/-- A step returns, or it is refused for some reason. -/
def Ends {α : Type} (x : Link τ α) (l : Linking τ) (reason : GraphError τ → Prop) : Prop :=
  (∃ a l', Returns x l a l') ∨ ∃ e, x.run l = .error e ∧ reason e

namespace Ends

variable {α β : Type} {l : Linking τ} {reason : GraphError τ → Prop}

theorem returns (x : Link τ α) {a : α} {l' : Linking τ} (h : Returns x l a l') : Ends x l reason :=
  .inl ⟨a, l', h⟩

theorem bind {x : Link τ α} {f : α → Link τ β} (hx : Ends x l reason)
    (hf : ∀ a l', Returns x l a l' → Ends (f a) l' reason) : Ends (x >>= f) l reason := by
  rcases hx with ⟨a, l', hx⟩ | ⟨e, hx, he⟩
  · rcases hf a l' hx with ⟨b, l'', hb⟩ | ⟨e, hb, he⟩
    · exact .inl ⟨b, l'', (hx.run_bind f).trans hb⟩
    · exact .inr ⟨e, (hx.run_bind f).trans hb, he⟩
  · exact .inr ⟨e, by rw [StateT.run_bind, hx]; rfl, he⟩

theorem mono {reason' : GraphError τ → Prop} {x : Link τ α} (h : Ends x l reason)
    (hr : ∀ e, reason e → reason' e) : Ends x l reason' :=
  h.imp_right fun ⟨e, hrun, he⟩ => ⟨e, hrun, hr e he⟩

theorem throw {e : GraphError τ} (h : reason e) :
    Ends (MonadExcept.throw e : Link τ α) l reason := .inr ⟨e, rfl, h⟩

end Ends

theorem ends_newMark {α : Type} {f : Nat → α} {l : Linking τ} {reason : GraphError τ → Prop} :
    Ends (do return f (← newMark)) l reason := .inl ⟨_, _, rfl⟩

end Link

/-! ## Definitions that are not taken up yet -/

section

variable [DecidableEq τ]

theorem Link.returns_newType_rfl (t : NamedType τ) (reference : Option τ) (l : Linking τ) :
    Returns (newType t reference) l l.graph.types.size (l.withType t reference) := rfl

/-- How many definitions are not taken up yet. -/
def Linking.unread (definitions : List (τ × Value τ)) (l : Linking τ) : Nat :=
  (definitions.map (·.1)).countP fun name => !decide (l.Entered name)

variable {definitions : List (τ × Value τ)}

theorem Linking.unread_mono {l l' : Linking τ} (h : ∀ name, l.Entered name → l'.Entered name) :
    l'.unread definitions ≤ l.unread definitions := by
  refine List.countP_mono_left fun name _ hn => ?_
  simp only [Bool.not_eq_true', decide_eq_false_iff_not] at hn ⊢
  exact fun he => hn (h name he)

theorem Linking.unread_withType_le (definitions : List (τ × Value τ)) (l : Linking τ)
    (t : NamedType τ) (reference : Option τ) :
    (l.withType t reference).unread definitions ≤ l.unread definitions :=
  Linking.unread_mono fun _ hn => hn.withType t reference

/-- At the start, no more definitions are left than there are. -/
theorem Linking.unread_start_lt (definitions : List (τ × Value τ)) :
    Linking.start.unread definitions < definitions.length + 1 :=
  Nat.lt_succ_of_le (Nat.le_trans List.countP_le_length (Nat.le_of_eq (List.length_map _)))

theorem countP_lt_countP {α : Type} {p q : α → Bool} {xs : List α}
    (h : ∀ x, q x = true → p x = true) {x : α} (hx : x ∈ xs) (hp : p x = true)
    (hq : q x = false) : xs.countP q < xs.countP p := by
  have hsplit : xs.filter q = (xs.filter p).filter q := by
    rw [List.filter_filter]
    refine List.filter_congr fun y _ => ?_
    cases hy : q y with
    | false => simp
    | true => simp [h y hy]
  rw [List.countP_eq_length_filter, List.countP_eq_length_filter, hsplit]
  exact List.length_filter_lt_length_iff_exists.mpr
    ⟨x, List.mem_filter.mpr ⟨hx, hp⟩, by simp [hq]⟩

/-- Taking up a name leaves fewer. -/
theorem Linking.unread_lt {l : Linking τ} {name : τ} {v : Value τ}
    (hv : Value.lookup name definitions = some v) (hnew : ¬ l.Entered name) :
    unread definitions { l with pending := name :: l.pending } < l.unread definitions := by
  have hmem : name ∈ definitions.map (·.1) := List.mem_map.mpr ⟨_, Value.mem_of_lookup hv, rfl⟩
  refine countP_lt_countP (fun other h => ?_) hmem (by simpa using hnew) ?_
  · simp only [Bool.not_eq_true', decide_eq_false_iff_not] at h ⊢
    exact fun he => h (he.enter name)
  · have : Entered { l with pending := name :: l.pending } name := .inr List.mem_cons_self
    simpa using this

end

/-! ## References between definitions -/

namespace Definition

/-- A reference to a name is somewhere in a definition. -/
inductive Mentions (name : τ) : Definition τ → Prop
  | reference : Mentions name (.reference (.str name))
  | array {d : Definition τ} (h : Mentions name d) : Mentions name (.array d)
  | map {d : Definition τ} (h : Mentions name d) : Mentions name (.map d)
  | record {n s : Value τ} {ps : List (Definition.Property τ)} {pn : Value τ} {d : Definition τ}
      {o : Bool} {ps' : Value τ} (hmem : .valid pn d o ps' ∈ ps) (h : Mentions name d) :
      Mentions name (.record n s (some ps))
  | union {n s : Value τ} {ds : List (Definition τ)} {d : Definition τ} (hmem : d ∈ ds)
      (h : Mentions name d) : Mentions name (.union n s (some ds))

/-- Whether references to a definition have to wait until it is read to the end. -/
def waits : Definition τ → Bool
  | .array _ | .map _ | .reference _ => true
  | _ => false

end Definition

variable [DecidableEq τ] [TextLike τ]

section

variable (definitions : List (τ × Value τ))

/-- The definition under a name is an array, a map or a reference. -/
def Waits (name : τ) : Prop :=
  ∃ v, Value.lookup name definitions = some v ∧ (Definition.ofValue v).waits = true

/-- The definition under a name has a reference to another. -/
def Refers (name other : τ) : Prop :=
  ∃ v, Value.lookup name definitions = some v ∧ (Definition.ofValue v).Mentions other

/-- A refusal at a name that waits for itself. -/
def IsUnnamedCycle (e : GraphError τ) : Prop :=
  ∃ name, e = .unnamedCycle name ∧ Waits definitions name ∧
    TransGen (Refers definitions) name name

end

variable {definitions : List (τ × Value τ)}

theorem Loads.unread_le {task : Task τ} {l l' : Linking τ} {r : Reading τ}
    (h : Loads definitions task l r l') : l'.unread definitions ≤ l.unread definitions :=
  Linking.unread_mono fun _ => h.entered

namespace Link

/-- Whoever follows references does it to the end, or comes to a name that waits for itself: for
names that can be read, if few enough are not taken up, and all that are pending lead there. -/
def Answers (definitions : List (τ × Value τ)) (known : τ → Prop) (room : Nat)
    (follow : τ → Link τ Ty) : Prop :=
  ∀ name l, known name → l.unread definitions < room →
    (∀ m ∈ l.pending, Waits definitions m ∧ TransGen (Refers definitions) m name) →
    Ends (follow name) l (IsUnnamedCycle definitions)

section

variable {known : τ → Prop} {room : Nat} {follow : τ → Link τ Ty}

mutual

theorem ends_type (ha : Answers definitions known room follow) (hf : Follows definitions follow) :
    ∀ (d : Definition τ) {place : τ} {reference : Option τ} {l : Linking τ},
      d.IsSound known → l.unread definitions < room →
      (∀ m ∈ l.pending, (Waits definitions m ∨ reference = some m ∧ d.waits = false) ∧
        ∀ n, d.Mentions n → TransGen (Refers definitions) m n) →
      Ends (type follow place reference d) l (IsUnnamedCycle definitions)
  | .primitive p, place, reference, l, _, _, _ => .inl ⟨_, _, rfl⟩
  | .unknownPrimitive _, _, _, _, hs, _, _ => by cases hs
  | .invalid _, _, _, _, hs, _, _ => by cases hs
  | .reference target, place, reference, l, hs, hroom, hp => by
    cases hs with
    | @reference name hk =>
      refine ha name l hk hroom fun m hm => ?_
      obtain ⟨hw, href⟩ := hp m hm
      exact ⟨hw.resolve_right (fun h => by cases h.2), href name .reference⟩
  | .array items, place, reference, l, hs, hroom, hp => by
    cases hs with
    | array hs =>
      refine (ends_type ha hf items hs hroom fun m hm => ?_).bind fun _ _ _ => ends_newMark
      obtain ⟨hw, href⟩ := hp m hm
      exact ⟨hw.imp_right (fun h => by cases h.2), fun n hn => href n (.array hn)⟩
  | .map values, place, reference, l, hs, hroom, hp => by
    cases hs with
    | map hs =>
      refine (ends_type ha hf values hs hroom fun m hm => ?_).bind fun _ _ _ => ends_newMark
      obtain ⟨hw, href⟩ := hp m hm
      exact ⟨hw.imp_right (fun h => by cases h.2), fun n hn => href n (.map hn)⟩
  | .record name description properties, place, reference, l, hs, hroom, hp => by
    rw [type]
    cases hs with
    | @record _ _ ds hvalid hs =>
      refine (Ends.returns _ (returns_newType_rfl _ _ _)).bind fun id m hid => ?_
      obtain ⟨rfl, rfl⟩ := returns_newType hid
      refine (ends_propertyList ha hf ds hvalid hs ?_ ?_).bind fun _ _ _ => .inl ⟨_, _, rfl⟩
      · exact Nat.lt_of_le_of_lt (Linking.unread_withType_le _ _ _ _) hroom
      · intro m hm
        obtain ⟨hm, hne⟩ := Linking.mem_pending_of_withType hm
        obtain ⟨hw, href⟩ := hp m hm
        exact ⟨hw.resolve_right fun h => hne h.1,
          fun _ _ _ _ hmem n hn => href n (.record hmem hn)⟩
  | .enum name description cases, place, reference, l, hs, _, _ => by
    cases hs
    exact .inl ⟨_, _, rfl⟩
  | .union name description members, place, reference, l, hs, hroom, hp => by
    rw [type]
    cases hs with
    | @union _ _ ds hs =>
      refine (Ends.returns _ (returns_newType_rfl _ _ _)).bind fun id m hid => ?_
      obtain ⟨rfl, rfl⟩ := returns_newType hid
      refine (ends_memberList ha hf ds hs ?_ ?_).bind fun _ _ _ => .inl ⟨_, _, rfl⟩
      · exact Nat.lt_of_le_of_lt (Linking.unread_withType_le _ _ _ _) hroom
      · intro m hm
        obtain ⟨hm, hne⟩ := Linking.mem_pending_of_withType hm
        obtain ⟨hw, href⟩ := hp m hm
        exact ⟨hw.resolve_right fun h => hne h.1, fun _ hmem n hn => href n (.union hmem hn)⟩
  | .unknownKind _, _, _, _, hs, _, _ => by cases hs
  | .unusableKind, _, _, _, hs, _, _ => by cases hs

theorem ends_memberList (ha : Answers definitions known room follow)
    (hf : Follows definitions follow) :
    ∀ (ds : List (Definition τ)) {place : τ} {l : Linking τ},
      (∀ d ∈ ds, d.IsSound known) → l.unread definitions < room →
      (∀ m ∈ l.pending, Waits definitions m ∧
        ∀ d ∈ ds, ∀ n, d.Mentions n → TransGen (Refers definitions) m n) →
      Ends (memberList follow place ds) l (IsUnnamedCycle definitions)
  | [], place, l, _, _, _ => .inl ⟨_, _, rfl⟩
  | d :: ds, place, l, hs, hroom, hp => by
    refine (ends_type ha hf d (hs d (by simp)) hroom fun m hm => ?_).bind fun t l' ht => ?_
    · exact ⟨.inl (hp m hm).1, (hp m hm).2 d (by simp)⟩
    · have hload := loads_type hf d ht
      refine Ends.bind (ends_memberList ha hf ds (fun e he => hs e (by simp [he])) ?_ ?_)
        fun _ _ _ => .inl ⟨_, _, rfl⟩
      · exact Nat.lt_of_le_of_lt hload.unread_le hroom
      · intro m hm
        obtain ⟨hw, href⟩ := hp m (hload.mem_pending hm)
        exact ⟨hw, fun e he => href e (by simp [he])⟩

theorem ends_propertyList (ha : Answers definitions known room follow)
    (hf : Follows definitions follow) :
    ∀ (ds : List (Definition.Property τ)) {owner : Value τ} {l : Linking τ},
      (∀ v, .invalid v ∉ ds) → (∀ n d o s, .valid n d o s ∈ ds → d.IsSound known) →
      l.unread definitions < room →
      (∀ m ∈ l.pending, Waits definitions m ∧ ∀ pn d o s, .valid pn d o s ∈ ds →
        ∀ n, d.Mentions n → TransGen (Refers definitions) m n) →
      Ends (propertyList follow owner ds) l (IsUnnamedCycle definitions)
  | [], owner, l, _, _, _, _ => .inl ⟨_, _, rfl⟩
  | .invalid v :: _, _, _, hvalid, _, _, _ => (hvalid v List.mem_cons_self).elim
  | .valid name d isOptional description :: ds, owner, l, hvalid, hs, hroom, hp => by
    refine (ends_type ha hf d (hs _ _ _ _ List.mem_cons_self) hroom fun m hm => ?_).bind
      fun t l' ht => ?_
    · exact ⟨.inl (hp m hm).1, (hp m hm).2 _ d _ _ List.mem_cons_self⟩
    · have hload := loads_type hf d ht
      refine Ends.bind (ends_propertyList ha hf ds
        (fun v hv => hvalid v (List.mem_cons_of_mem _ hv))
        (fun n e o s he => hs n e o s (List.mem_cons_of_mem _ he)) ?_ ?_)
        fun _ _ _ => .inl ⟨_, _, rfl⟩
      · exact Nat.lt_of_le_of_lt hload.unread_le hroom
      · intro m hm
        obtain ⟨hw, href⟩ := hp m (hload.mem_pending hm)
        exact ⟨hw, fun n e o s he => href n e o s (List.mem_cons_of_mem _ he)⟩

end

end

/-- References to sound definitions are followed to the end, or to a name that waits for itself. -/
theorem answers_follow {known : τ → Prop}
    (hknown : ∀ name, known name → ∃ v, Value.lookup name definitions = some v ∧
      (Definition.ofValue v).IsSound known) :
    ∀ fuel, Answers definitions known fuel (follow definitions fuel)
  | 0 => fun _ _ _ hroom _ => absurd hroom (Nat.not_lt_zero _)
  | fuel + 1 => by
    intro name l hk hroom hp
    obtain ⟨v, hv, hs⟩ := hknown name hk
    refine (Ends.returns get rfl).bind fun m m' hget => ?_
    obtain ⟨rfl, rfl⟩ := Returns.of_get hget
    split
    · exact .inl ⟨_, _, rfl⟩
    · next hfind =>
      rw [hv]
      dsimp only
      split
      · next hmem =>
        exact .inr ⟨_, rfl, name, rfl, hp name (by simpa using hmem)⟩
      · next hmem =>
        have hnew := Linking.not_entered hfind (by simpa using hmem)
        refine Ends.bind (.inl ⟨_, _, rfl⟩) fun u m' hset => ?_
        obtain rfl := Returns.of_set hset
        have hless := Linking.unread_lt hv hnew
        refine Ends.bind (ends_type (answers_follow hknown fuel) (follows_follow fuel) _ hs
          (by omega) fun n hn => ?_) fun _ _ _ => .inl ⟨_, _, rfl⟩
        rcases List.mem_cons.mp hn with rfl | hn
        · refine ⟨?_, fun other hother => .single ⟨v, hv, hother⟩⟩
          by_cases hwaits : (Definition.ofValue v).waits = true
          · exact .inl ⟨v, hv, hwaits⟩
          · exact .inr ⟨rfl, by simpa using hwaits⟩
        · obtain ⟨hw, href⟩ := hp n hn
          exact ⟨.inl hw, fun other hother => href.tail ⟨v, hv, hother⟩⟩

end Link

end ZigDecl
