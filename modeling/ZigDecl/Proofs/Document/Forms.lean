import ZigDecl.Proofs.Document.Spelled
import ZigDecl.Proofs.Graph.Loaded

/-! # What a document says is said once

References lead to one definition, a definition has one form, and a path leads to one place. Main
statements: uniqueness of each of these, and the first positions of a list that gets a new last
entry. -/

namespace ZigDecl

namespace Value

/-- The words for the kinds of types that are no primitive types name none. -/
@[grind →] theorem kind?_of_primitive? {v : Value} {k : Primitive} (h : v.primitive? = some k) :
    v.kind? ≠ some "array" ∧ v.kind? ≠ some "map" ∧ v.kind? ≠ some "class" ∧
      v.kind? ≠ some "enum" ∧ v.kind? ≠ some "union" := by
  cases v with
  | obj members =>
    obtain ⟨kind, hkind, hk⟩ := Option.bind_eq_some_iff.mp h
    rw [hkind]
    refine ⟨?_, ?_, ?_, ?_, ?_⟩ <;> rintro ⟨⟩ <;>
      cases hk.symm.trans (show Primitive.ofName? _ = none by decide)
  | _ => simp [kind?, get?]

attribute [grind →] reference?_of_kind? reference?_of_primitive?

@[grind →] theorem kind?_of_definesNamed {v : Value} (h : v.definesNamed = true) :
    v.kind? = some "class" ∨ v.kind? = some "enum" ∨ v.kind? = some "union" := by
  simpa [definesNamed, or_assoc] using h

end Value

namespace Document

variable {d : Document}

theorem Denotes.exists_at? {p q : Place} (h : d.Denotes p q) :
    ∃ v, d.at? q = some v ∧ v.reference? = none := by
  induction h with
  | self hv href => exact ⟨_, hv, href⟩
  | follow _ _ _ ih => exact ih

theorem Denotes.refl {p q : Place} (h : d.Denotes p q) : d.Denotes q q := by
  obtain ⟨v, hv, href⟩ := h.exists_at?
  exact .self hv href

theorem Denotes.unique {p q r : Place} (h : d.Denotes p q) (h' : d.Denotes p r) : q = r := by
  induction h with
  | self hv href =>
    cases h' with
    | self => rfl
    | follow hv' href' => grind
  | follow hv href _ ih =>
    cases h' with
    | self hv' href' => grind
    | follow hv' href' h' =>
      cases hv.symm.trans hv'
      cases href.symm.trans href'
      exact ih h'

/-- A reference has the form of what it leads to. -/
theorem HasForm.of_reference {p : Place} {v : Value} {name : String} {f : Form}
    (hv : d.at? p = some v) (href : v.reference? = some name) (h : d.HasForm (.ofName name) f) :
    d.HasForm p f := by
  cases h with
  | primitive h hw hk => exact .primitive (.follow hv href h) hw hk
  | array h hw hk hf => exact .array (.follow hv href h) hw hk hf
  | map h hw hk hf => exact .map (.follow hv href h) hw hk hf
  | named h hw hk => exact .named (.follow hv href h) hw hk

theorem HasForm.unique {p : Place} {f f' : Form} (h : d.HasForm p f) (h' : d.HasForm p f') :
    f = f' := by
  induction h generalizing f' with
  | primitive h hv hk =>
    cases h' with
    | _ h' => cases h.unique h'; grind
  | array h hv hk _ ih =>
    cases h' with
    | array h' _ _ hf => cases h.unique h'; rw [ih hf]
    | _ h' => cases h.unique h'; grind
  | map h hv hk _ ih =>
    cases h' with
    | map h' _ _ hf => cases h.unique h'; rw [ih hf]
    | _ h' => cases h.unique h'; grind
  | named h hv hk =>
    cases h' with
    | named h' => cases h.unique h'; rfl
    | _ h' => cases h.unique h'; grind

theorem MemberForms.unique {p : Place} {v v' : Value} {forms forms' : List Form}
    (h : d.MemberForms p v forms) (h' : d.MemberForms p v' forms') : v = v' ∧ forms = forms' := by
  cases h.here.symm.trans h'.here
  have hlength := h.length.trans h'.length.symm
  refine ⟨rfl, List.ext_getElem hlength fun i hi hi' => ?_⟩
  exact (h.form i _ (List.getElem?_eq_getElem hi)).unique
    (h'.form i _ (List.getElem?_eq_getElem hi'))

theorem Inside.unique {p q r : Place} {s : Step} (h : d.Inside p s q) (h' : d.Inside p s r) :
    q = r := by
  cases h with
  | items | values | property => cases h'; rfl
  | member hf hk =>
    cases h' with
    | member hf' hk' =>
      obtain ⟨rfl, rfl⟩ := hf.unique hf'
      cases hk.symm.trans hk'
      rfl

/-- A path leads to one place. -/
theorem Arrives.unique {p q r : Place} {path : List Step} (h : d.Arrives p path q)
    (h' : d.Arrives p path r) : q = r := by
  induction h with
  | here p => cases h'; rfl
  | step h hs _ ih =>
    cases h' with
    | step h' hs' hr' =>
      cases h.unique h'
      cases hs.unique hs'
      exact ih hr'

end Document

/-! ## First positions -/

theorem lt_of_mem_firstPositions {α : Type} [BEq α] {xs : List α} {i : Nat}
    (h : i ∈ firstPositions xs) : i < xs.length :=
  List.mem_range.mp (List.mem_filter.mp h).1

theorem firstPositions_append_singleton {α : Type} [BEq α] (xs : List α) (x : α) :
    firstPositions (xs ++ [x]) =
      firstPositions xs ++ if xs.contains x then [] else [xs.length] := by
  unfold firstPositions
  rw [List.length_append, List.length_singleton, List.range_succ, List.filter_append]
  congr 1
  · refine List.filter_congr fun i hi => ?_
    have hlt := List.mem_range.mp hi
    rw [List.getElem?_append_left hlt, List.take_append_of_le_length (Nat.le_of_lt hlt)]
  · simp only [List.filter_cons, List.filter_nil]
    rw [List.getElem?_append_right (Nat.le_refl _), List.take_left]
    cases hx : xs.contains x <;> simp [hx]

/-- A type is kept if none of those that were kept before is equal to it. -/
theorem distinctTypes_concat (ts : List Ty) (t : Ty) :
    distinctTypes (ts ++ [t]) =
      if (distinctTypes ts).any (·.same t) then distinctTypes ts else distinctTypes ts ++ [t] := by
  simp [distinctTypes, List.foldl_append]

/-- Under forms that tell types apart as equality does, the members that are kept are those at first
positions. -/
theorem map_some_distinctTypes {β : Type} [BEq β] [LawfulBEq β] (form : Ty → β) {ts : List Ty}
    (h : ∀ s ∈ ts, ∀ t ∈ ts, (s.same t = true ↔ form s = form t)) :
    (distinctTypes ts).map some = (firstPositions (ts.map form)).map (ts[·]?) := by
  -- What is kept has all the forms there are, so a type is kept if its form is new.
  suffices hall : (distinctTypes ts).map some = (firstPositions (ts.map form)).map (ts[·]?) ∧
      ∀ f, f ∈ (distinctTypes ts).map form ↔ f ∈ ts.map form from hall.1
  induction ts using List.reverseRecOn with
  | nil => simp [distinctTypes, firstPositions]
  | append_singleton ts t ih =>
    obtain ⟨ihmap, ihforms⟩ := ih fun s hs u hu => h s (by simp [hs]) u (by simp [hu])
    have hany : (distinctTypes ts).any (·.same t) = (ts.map form).contains (form t) := by
      rw [Bool.eq_iff_iff, List.any_eq_true, List.contains_iff_mem, ← ihforms, List.mem_map]
      refine exists_congr fun s => and_congr_right fun hs => ?_
      exact h s (by simp [mem_distinctTypes hs]) t (by simp)
    have hbefore : (firstPositions (ts.map form)).map ((ts ++ [t])[·]?) =
        (firstPositions (ts.map form)).map (ts[·]?) := by
      refine List.map_congr_left fun i hi => ?_
      have := lt_of_mem_firstPositions hi
      rw [List.getElem?_append_left (by simpa using this)]
    rw [List.map_append, List.map_singleton, firstPositions_append_singleton, List.map_append,
      hbefore, ← ihmap, distinctTypes_concat, hany]
    by_cases hold : form t ∈ ts.map form
    · rw [if_pos (by simpa using hold), if_pos (by simpa using hold)]
      refine ⟨by simp, fun f => ?_⟩
      rw [ihforms, List.mem_append, List.mem_singleton]
      exact ⟨.inl, fun hf => hf.elim id fun heq => heq ▸ hold⟩
    · rw [if_neg (by simpa using hold), if_neg (by simpa using hold)]
      refine ⟨by simp, fun f => ?_⟩
      rw [List.map_append, List.mem_append, ihforms, List.mem_append, List.map_singleton]

end ZigDecl
