import ZigDecl.Proofs.Graph.Loads

/-! # Names that are taken up

A name is taken up when its definition is first read; from then on it is pending or resolved. Main
statements: a name that is taken up stays so, nothing is left pending by what was read, and every
definition that was taken up is sound, that is, all it needs can be found. -/

namespace ZigDecl

variable {τ : Type}

namespace Linking

/-- The definition under a name is read, or is being read. -/
def Entered (l : Linking τ) (name : τ) : Prop :=
  name ∈ l.resolved.map (·.1) ∨ name ∈ l.pending

variable {l : Linking τ} {name : τ}

theorem Entered.enter (h : l.Entered name) (other : τ) :
    Entered { l with pending := other :: l.pending } name :=
  h.imp_right fun hp => List.mem_cons_of_mem other hp

theorem Entered.of_enter {other : τ}
    (h : Entered { l with pending := other :: l.pending } name) :
    l.Entered name ∨ name = other := by
  rcases h with hr | hp
  · exact .inl (.inl hr)
  · rcases List.mem_cons.mp hp with heq | hp
    · exact .inr heq
    · exact .inl (.inr hp)

variable [DecidableEq τ]

instance (l : Linking τ) (name : τ) : Decidable (l.Entered name) :=
  inferInstanceAs (Decidable (_ ∨ _))

theorem Entered.settle (h : l.Entered name) (other : τ) (t : Ty) :
    (l.settle other t).Entered name := by
  rcases h with hr | hp
  · exact .inl (List.mem_cons_of_mem _ hr)
  · by_cases hname : name = other
    · exact .inl (by rw [hname]; exact List.mem_cons_self)
    · exact .inr (List.mem_filter.mpr ⟨hp, by simpa using hname⟩)

theorem Entered.withType (h : l.Entered name) (t : NamedType τ) (reference : Option τ) :
    (l.withType t reference).Entered name := by
  cases reference with
  | none => exact h
  | some other =>
    exact Entered.settle (l := { l with graph := (l.graph.addType t).1 }) h other _

theorem Entered.of_settle {other : τ} {t : Ty} (h : (l.settle other t).Entered name) :
    l.Entered name ∨ name = other := by
  rcases h with hr | hp
  · rcases List.mem_cons.mp hr with heq | hr
    · exact .inr heq
    · exact .inl (.inl hr)
  · exact .inl (.inr (List.mem_filter.mp hp).1)

theorem Entered.of_withType {t : NamedType τ} {reference : Option τ}
    (h : (l.withType t reference).Entered name) : l.Entered name ∨ reference = some name := by
  cases reference with
  | none => exact .inl h
  | some other => exact (Entered.of_settle h).imp_right fun heq => by rw [heq]

theorem not_entered (hfind : find? name l.resolved = none) (hpending : name ∉ l.pending) :
    ¬ l.Entered name := by
  rintro (hr | hp)
  · have hnone : ∀ {entries : List (τ × Ty)}, name ∈ entries.map (·.1) →
        find? name entries ≠ none := by
      intro entries hmem
      induction entries with
      | nil => cases hmem
      | cons e rest ih =>
        obtain ⟨n, s⟩ := e
        rw [find?]
        split
        · exact Option.some_ne_none s
        · next hne =>
          rcases List.mem_cons.mp hmem with heq | hmem
          · cases heq; simp at hne
          · exact ih hmem
    exact hnone hr hfind
  · exact hpending hp

theorem mem_pending_of_settle {other : τ} {t : Ty} (h : name ∈ (l.settle other t).pending) :
    name ∈ l.pending ∧ name ≠ other := by
  obtain ⟨hmem, hne⟩ := List.mem_filter.mp h
  exact ⟨hmem, by simpa using hne⟩

theorem mem_pending_of_withType {t : NamedType τ} {reference : Option τ}
    (h : name ∈ (l.withType t reference).pending) :
    name ∈ l.pending ∧ reference ≠ some name := by
  cases reference with
  | none => exact ⟨h, nofun⟩
  | some other =>
    obtain ⟨hmem, hne⟩ := mem_pending_of_settle h
    exact ⟨hmem, fun heq => hne (Option.some.inj heq).symm⟩

end Linking

variable [DecidableEq τ] [TextLike τ] {definitions : List (τ × Value τ)} {k : Task τ}
  {l l' : Linking τ} {r : Reading τ}

/-- A name that is taken up stays so. -/
theorem Loads.entered (h : Loads definitions k l r l') {name : τ} (hn : l.Entered name) :
    l'.Entered name := by
  induction h with
  | primitive | noMembers | noProperties | found => exact hn
  | reference _ ih | array _ ih | map _ ih => exact ih hn
  | record _ ih | union _ ih => exact ih (hn.withType _ _)
  | enum => exact hn.withType _ _
  | member _ _ ih ihs | property _ _ ih ihs => exact ihs (ih hn)
  | enter _ _ _ _ ih => exact (ih (hn.enter _)).settle _ _

/-- Nothing is left pending that was not pending before. -/
theorem Loads.mem_pending (h : Loads definitions k l r l') {name : τ}
    (hn : name ∈ l'.pending) : name ∈ l.pending := by
  induction h with
  | primitive | noMembers | noProperties | found => exact hn
  | reference _ ih | array _ ih | map _ ih => exact ih hn
  | record _ ih | union _ ih => exact (Linking.mem_pending_of_withType (ih hn)).1
  | enum => exact (Linking.mem_pending_of_withType hn).1
  | member _ _ ih ihs | property _ _ ih ihs => exact ih (ihs hn)
  | enter _ _ _ _ ih =>
    obtain ⟨hmem, hne⟩ := Linking.mem_pending_of_settle hn
    exact (List.mem_cons.mp (ih hmem)).resolve_left hne

/-! ## Sound definitions -/

/-- A definition can be read, if all names that are given can. -/
inductive Definition.IsSound (known : τ → Prop) : Definition τ → Prop
  | primitive (k : Primitive) : IsSound known (.primitive k)
  | reference {name : τ} (h : known name) : IsSound known (.reference (.str name))
  | array {d : Definition τ} (h : IsSound known d) : IsSound known (.array d)
  | map {d : Definition τ} (h : IsSound known d) : IsSound known (.map d)
  | record {name description : Value τ} {ps : List (Definition.Property τ)}
      (hvalid : ∀ v, .invalid v ∉ ps)
      (h : ∀ n d o s, .valid n d o s ∈ ps → IsSound known d) :
      IsSound known (.record name description (some ps))
  | enum (name description : Value τ) (cases : List τ) :
      IsSound known (.enum name description (some cases))
  | union {name description : Value τ} {ds : List (Definition τ)} (h : ∀ d ∈ ds, IsSound known d) :
      IsSound known (.union name description (some ds))

/-- All that is to be read can be. -/
def Task.IsSound (known : τ → Prop) : Task τ → Prop
  | .type _ _ d => d.IsSound known
  | .members _ ds => ∀ d ∈ ds, d.IsSound known
  | .properties _ ps => (∀ v, .invalid v ∉ ps) ∧ ∀ n d o s, .valid n d o s ∈ ps → d.IsSound known
  | .follow name => known name

/-- The name that what is to be read is written under. -/
def Task.reference? : Task τ → Option τ
  | .type _ reference _ => reference
  | _ => none

/-- What was read can be read, if the names that are taken up can; and so can every definition that
was taken up on the way. -/
theorem Loads.isSound (h : Loads definitions k l r l') {known : τ → Prop}
    (hk : ∀ name, l'.Entered name → known name) :
    k.IsSound known ∧ ∀ name, l'.Entered name → l.Entered name ∨ k.reference? = some name ∨
      ∃ v, Value.lookup name definitions = some v ∧ (Definition.ofValue v).IsSound known := by
  induction h with
  | primitive place reference p l => exact ⟨.primitive p, fun _ => .inl⟩
  | reference _ ih =>
    obtain ⟨hsound, hnew⟩ := ih hk
    exact ⟨.reference hsound,
      fun name hn => (hnew name hn).imp_right (.inr <| ·.resolve_left nofun)⟩
  | array _ ih =>
    obtain ⟨hsound, hnew⟩ := ih hk
    exact ⟨.array hsound, fun name hn => (hnew name hn).imp_right (.inr <| ·.resolve_left nofun)⟩
  | map _ ih =>
    obtain ⟨hsound, hnew⟩ := ih hk
    exact ⟨.map hsound, fun name hn => (hnew name hn).imp_right (.inr <| ·.resolve_left nofun)⟩
  | record _ ih =>
    obtain ⟨⟨hvalid, hsound⟩, hnew⟩ := ih hk
    refine ⟨.record hvalid hsound, fun name hn => ?_⟩
    rcases hnew name hn with hold | hnone | hnew
    · exact hold.of_withType.imp_right .inl
    · cases hnone
    · exact .inr (.inr hnew)
  | enum place reference name description cases l =>
    exact ⟨.enum _ _ _, fun name hn => hn.of_withType.imp_right nofun⟩
  | union _ ih =>
    obtain ⟨hsound, hnew⟩ := ih hk
    refine ⟨.union hsound, fun name hn => ?_⟩
    rcases hnew name hn with hold | hnone | hnew
    · exact hold.of_withType.imp_right .inl
    · cases hnone
    · exact .inr (.inr hnew)
  | noMembers place l => exact ⟨nofun, fun _ => .inl⟩
  | member _ hs ih ihs =>
    obtain ⟨hsounds, hnews⟩ := ihs hk
    obtain ⟨hsound, hnew⟩ := ih fun name hn => hk name (hs.entered hn)
    refine ⟨List.forall_mem_cons.mpr ⟨hsound, hsounds⟩, fun name hn => ?_⟩
    rcases hnews name hn with hmid | hnone | hnew'
    · exact (hnew name hmid).imp_right (.inr <| ·.resolve_left nofun)
    · cases hnone
    · exact .inr (.inr hnew')
  | noProperties owner l => exact ⟨⟨nofun, nofun⟩, fun _ => .inl⟩
  | property _ hs ih ihs =>
    obtain ⟨⟨hvalid, hsounds⟩, hnews⟩ := ihs hk
    obtain ⟨hsound, hnew⟩ := ih fun name hn => hk name (hs.entered hn)
    refine ⟨⟨fun v hv => ?_, fun n d o s hmem => ?_⟩, fun name hn => ?_⟩
    · cases hv with
      | tail _ hv => exact hvalid v hv
    · cases hmem with
      | head => exact hsound
      | tail _ hmem => exact hsounds n d o s hmem
    · rcases hnews name hn with hmid | hnone | hnew'
      · exact (hnew name hmid).imp_right (.inr <| ·.resolve_left nofun)
      · cases hnone
      · exact .inr (.inr hnew')
  | found h =>
    refine ⟨hk _ (.inl ?_), fun _ => .inl⟩
    exact List.mem_map.mpr ⟨_, Linking.mem_of_find? h, rfl⟩
  | @enter name l l' t value _ hvalue _ _ ih =>
    obtain ⟨hsound, hnew⟩ := ih fun other hn => hk other (hn.settle name t)
    have hname : (Definition.ofValue value).IsSound known := hsound
    refine ⟨hk name (.inl List.mem_cons_self), fun other hn => ?_⟩
    by_cases heq : other = name
    · exact .inr (.inr ⟨value, by rw [heq]; exact hvalue, hname⟩)
    · rcases hnew other (hn.of_settle.resolve_right heq) with hold | hself | hnew
      · exact .inl (hold.of_enter.resolve_right heq)
      · exact absurd (Option.some.inj hself).symm heq
      · exact .inr (.inr hnew)

end ZigDecl
