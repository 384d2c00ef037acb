import ZigDecl.Value.Raw

/-! # Values and the code points in them

A value of any type of texts is known by the code points of its texts. A text is torn if half of a
surrogate pair is in it, and a value is torn if such a text is anywhere in it. Main statements: the
value with given code points for its texts is the only one with these code points, and a value is
one of strings just if it is not torn. -/

namespace ZigDecl

namespace TextLike

variable {τ : Type} [TextLike τ]

/-- Half of a surrogate pair is in a text. -/
def IsTorn (t : τ) : Prop := ∃ n, .half n ∈ points t

theorem not_isTorn_lit (s : String) : ¬ IsTorn (lit s : τ) := by
  rintro ⟨n, hn⟩
  rw [points_lit] at hn
  simp at hn

theorem chars?_eq_none_iff {ps : List Point} :
    Point.chars? ps = none ↔ ∃ n, .half n ∈ ps := by
  induction ps with
  | nil => simp [Point.chars?]
  | cons p ps ih => cases p <;> simp [Point.chars?, ih]

/-- Only a torn text is no string. -/
theorem string?_eq_none_iff {t : τ} : string? t = none ↔ IsTorn t :=
  Option.map_eq_none_iff.trans chars?_eq_none_iff

end TextLike

namespace Value

open TextLike

variable {τ : Type} [TextLike τ]

theorem rawMembers_eq_map (members : List (τ × Value τ)) :
    rawMembers members = members.map fun m => (⟨points m.1⟩, m.2.raw) := by
  induction members with
  | nil => rfl
  | cons m rest ih => rw [rawMembers, ih, List.map_cons]

mutual

/-- The value with given code points for its texts is the one that has these code points. -/
theorem ofRaw?_eq_some_iff : ∀ {r : Value RawText} {v : Value τ}, ofRaw? r = some v ↔ v.raw = r
  | .null, v | .bool _, v | .int _, v | .float _, v => by
    cases v <;> simp [ofRaw?, raw, eq_comm]
  | .str s, v => by
    obtain ⟨s⟩ := s
    cases v <;> simp [ofRaw?, raw, ofPoints?_eq_some_iff]
  | .arr items, v => by cases v <;> simp [ofRaw?, raw, ofRawItems?_eq_some_iff items]
  | .obj members, v => by cases v <;> simp [ofRaw?, raw, ofRawMembers?_eq_some_iff members]

theorem ofRawItems?_eq_some_iff : ∀ (rs : List (Value RawText)) {vs : List (Value τ)},
    ofRawItems? rs = some vs ↔ rawItems vs = rs
  | [], vs => by cases vs <;> simp [ofRawItems?, rawItems]
  | r :: rs, vs => by
    cases vs <;> simp [ofRawItems?, rawItems, Option.bind_eq_some_iff,
      ofRaw?_eq_some_iff (r := r), ofRawItems?_eq_some_iff rs]

theorem ofRawMembers?_eq_some_iff : ∀ (rs : List (RawText × Value RawText))
    {vs : List (τ × Value τ)}, ofRawMembers? rs = some vs ↔ rawMembers vs = rs
  | [], vs => by cases vs <;> simp [ofRawMembers?, rawMembers]
  | (⟨k⟩, r) :: rs, vs => by
    simp only [ofRawMembers?, Option.bind_eq_bind, Option.bind_eq_some_iff, ofPoints?_eq_some_iff,
      ofRaw?_eq_some_iff (r := r), ofRawMembers?_eq_some_iff rs]
    rcases vs with _ | ⟨⟨k', v⟩, vs⟩
    · simp [rawMembers]
    · simp only [rawMembers, List.cons.injEq, Prod.mk.injEq, RawText.mk.injEq]
      grind

end

mutual

theorem raw_rawText : ∀ r : Value RawText, r.raw = r
  | .null | .bool _ | .int _ | .float _ | .str _ => rfl
  | .arr items => congrArg Value.arr (rawItems_rawText items)
  | .obj members => congrArg Value.obj (rawMembers_rawText members)

theorem rawItems_rawText : ∀ items : List (Value RawText), rawItems items = items
  | [] => rfl
  | r :: rest => by rw [rawItems, raw_rawText r, rawItems_rawText rest]

theorem rawMembers_rawText : ∀ members : List (RawText × Value RawText),
    rawMembers members = members
  | [] => rfl
  | (k, r) :: rest => by
    rw [rawMembers, raw_rawText r, rawMembers_rawText rest]
    rfl

end

/-- At the type of any texts, the value with given code points is what they are given in. -/
theorem ofRaw?_rawText (r : Value RawText) : ofRaw? r = some r :=
  ofRaw?_eq_some_iff.mpr (raw_rawText r)

/-- A value of strings with the same code points as another value. -/
theorem whole?_eq_some_iff {v : Value τ} {w : Value} : v.whole? = some w ↔ w.raw = v.raw :=
  ofRaw?_eq_some_iff

/-! ## Torn values -/

/-- A torn text is somewhere in a value. -/
inductive IsTorn : Value τ → Prop
  | str {s : τ} (h : TextLike.IsTorn s) : IsTorn (.str s)
  | item {items : List (Value τ)} {v : Value τ} (hmem : v ∈ items) (h : IsTorn v) :
      IsTorn (.arr items)
  | key {members : List (τ × Value τ)} {m : τ × Value τ} (hmem : m ∈ members)
      (h : TextLike.IsTorn m.1) : IsTorn (.obj members)
  | member {members : List (τ × Value τ)} {m : τ × Value τ} (hmem : m ∈ members)
      (h : IsTorn m.2) : IsTorn (.obj members)

theorem isTorn_arr_iff {items : List (Value τ)} :
    IsTorn (.arr items) ↔ ∃ v ∈ items, v.IsTorn := by
  constructor
  · rintro (_ | ⟨hmem, h⟩)
    exact ⟨_, hmem, h⟩
  · rintro ⟨v, hmem, h⟩
    exact .item hmem h

theorem isTorn_obj_iff {members : List (τ × Value τ)} :
    IsTorn (.obj members) ↔ ∃ m ∈ members, TextLike.IsTorn m.1 ∨ m.2.IsTorn := by
  constructor
  · rintro (_ | _ | ⟨hmem, h⟩ | ⟨hmem, h⟩)
    · exact ⟨_, hmem, .inl h⟩
    · exact ⟨_, hmem, .inr h⟩
  · rintro ⟨m, hmem, h | h⟩
    · exact .key hmem h
    · exact .member hmem h

mutual

/-- A value is one of strings just if it is not torn. -/
theorem whole?_eq_none_iff : ∀ {v : Value τ}, v.whole? = none ↔ v.IsTorn
  | .null | .bool _ | .int _ | .float _ => by
    simp only [whole?, raw, ofRaw?, reduceCtorEq, false_iff]
    rintro ⟨⟩
  | .str s => by
    rw [whole?, raw, ofRaw?, Option.map_eq_none_iff]
    exact string?_eq_none_iff.trans ⟨.str, fun | .str h => h⟩
  | .arr items => by
    rw [whole?, raw, ofRaw?, Option.map_eq_none_iff, isTorn_arr_iff]
    exact wholeItems?_eq_none_iff items
  | .obj members => by
    rw [whole?, raw, ofRaw?, Option.map_eq_none_iff, isTorn_obj_iff]
    exact wholeMembers?_eq_none_iff members

theorem wholeItems?_eq_none_iff : ∀ items : List (Value τ),
    (ofRawItems? (rawItems items) : Option (List Value)) = none ↔ ∃ v ∈ items, v.IsTorn
  | [] => by simp [rawItems, ofRawItems?]
  | v :: rest => by
    have hv : (ofRaw? v.raw : Option Value) = none ↔ v.IsTorn := whole?_eq_none_iff
    have hrest := wholeItems?_eq_none_iff rest
    simp only [List.mem_cons, exists_eq_or_imp]
    rw [← hv, ← hrest, rawItems, ofRawItems?]
    cases (ofRaw? v.raw : Option Value) <;>
      cases (ofRawItems? (rawItems rest) : Option (List Value)) <;> simp

theorem wholeMembers?_eq_none_iff : ∀ members : List (τ × Value τ),
    (ofRawMembers? (rawMembers members) : Option (List (String × Value))) = none ↔
      ∃ m ∈ members, TextLike.IsTorn m.1 ∨ m.2.IsTorn
  | [] => by simp [rawMembers, ofRawMembers?]
  | (k, v) :: rest => by
    have hk : (ofPoints? (points k) : Option String) = none ↔ TextLike.IsTorn k :=
      string?_eq_none_iff
    have hv : (ofRaw? v.raw : Option Value) = none ↔ v.IsTorn := whole?_eq_none_iff
    have hrest := wholeMembers?_eq_none_iff rest
    simp only [List.mem_cons, exists_eq_or_imp]
    rw [← hv, ← hk, ← hrest, rawMembers, ofRawMembers?]
    cases (ofPoints? (points k) : Option String) <;> cases (ofRaw? v.raw : Option Value) <;>
      cases (ofRawMembers? (rawMembers rest) : Option (List (String × Value))) <;> simp

end

end Value

end ZigDecl
