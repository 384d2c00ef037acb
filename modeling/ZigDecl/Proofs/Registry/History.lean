import Mathlib.Data.List.Basic
import Mathlib.Data.List.Induction
import ZigDecl.Registry.Basic

/-! # Registries and the changes made to them

A registry is what a history of registering and unregistering makes of the empty one. A change
leaves the registry as it is, stores a registration, or removes one; what each does is said by what
is found afterwards, so that nothing below depends on how the tables are kept. -/

namespace ZigDecl.Registry

variable {φ : Type} {r : Registry φ}

/-- A change asked of a registry. -/
inductive Change (φ : Type) where
  | register (language : String) (factory : φ) (aliases : List String) (replace : Bool)
  | unregister (language : String)

/-- The registry after a change; a change that is refused leaves it as it was. -/
def apply (r : Registry φ) : Change φ → Registry φ
  | .register language factory aliases replace =>
    match r.register language factory aliases replace with
    | .ok changed => changed
    | .error _ => r
  | .unregister language => r.unregister language

/-- The registry after a history of changes, from the empty one. -/
def after (changes : List (Change φ)) : Registry φ := changes.foldl apply empty

theorem after_concat (changes : List (Change φ)) (c : Change φ) :
    after (changes ++ [c]) = (after changes).apply c := List.foldl_concat ..

/-! ## Storing and removing a registration -/

/-- The registry with a registration in its place and its aliases pointing at it. -/
def stored (r : Registry φ) (new : Registration φ) : Registry φ where
  registrations := setRegistration new r.registrations
  aliases := new.aliases.foldl (setAlias new.language) r.aliases

/-- The registry without a language and without some aliases. -/
def removed (r : Registry φ) (old : Registration φ) : Registry φ where
  registrations := r.registrations.filter (·.language != old.language)
  aliases := r.aliases.filter fun (a, _) => !old.aliases.contains a

theorem language_of_find? {key : String} {found : Registration φ} (h : r.find? key = some found) :
    found.language = key := by
  simpa using List.find?_some h

theorem has_iff {key : String} : r.has key = true ↔ ∃ found, r.find? key = some found :=
  Option.isSome_iff_exists

/-- A table with an entry in the place of those with its key, or at the end if there is none. -/
def put {α : Type} (keyOf : α → String) (new : α) (table : List α) : List α :=
  if table.any (keyOf · == keyOf new) then
    table.map fun old => if keyOf old == keyOf new then new else old
  else table ++ [new]

theorem find?_put {α : Type} (keyOf : α → String) (new : α) (table : List α) (key : String) :
    (put keyOf new table).find? (keyOf · == key) =
      if key = keyOf new then some new else table.find? (keyOf · == key) := by
  unfold put
  by_cases hany : table.any (keyOf · == keyOf new) = true
  · -- Every entry keeps its key, so what was found first is found first.
    have hsame : ((keyOf · == key) ∘ fun old => if keyOf old == keyOf new then new else old) =
        (keyOf · == key) := by
      funext old
      by_cases h : keyOf old = keyOf new <;> simp [h]
    rw [if_pos hany, List.find?_map, hsame]
    cases hfound : table.find? (keyOf · == key) with
    | none =>
      obtain ⟨old, hmem, hold⟩ := List.any_eq_true.mp hany
      have hne : key ≠ keyOf new := fun h => List.find?_eq_none.mp hfound old hmem (h ▸ hold)
      simp [hne]
    | some old =>
      have hold : keyOf old = key := by simpa using List.find?_some hfound
      by_cases h : key = keyOf new <;> simp [h, hold]
  · rw [if_neg hany, List.find?_append]
    by_cases h : key = keyOf new
    · have hnone : table.find? (keyOf · == key) = none := by
        rw [List.find?_eq_none]
        intro old hmem hold
        exact hany (List.any_eq_true.mpr ⟨old, hmem, h ▸ hold⟩)
      rw [hnone, if_pos h]
      simp [h]
    · simp [h, Ne.symm h]

theorem setAlias_eq (key : String) (aliases : List (String × String)) (name : String) :
    setAlias key aliases name = put Prod.fst (name, key) aliases := by
  have hchange : (fun entry : String × String =>
      (entry.1, if entry.1 == name then key else entry.2)) =
      fun old => if old.1 == name then (name, key) else old := by
    funext entry
    by_cases h : entry.1 = name <;> simp [h]
  simp only [setAlias, put, hchange]

theorem find?_stored (r : Registry φ) (new : Registration φ) (key : String) :
    (r.stored new).find? key = if key = new.language then some new else r.find? key :=
  find?_put Registration.language new r.registrations key

theorem aliasTarget?_stored (r : Registry φ) (new : Registration φ) (name : String) :
    (r.stored new).aliasTarget? name =
      if name ∈ new.aliases then some new.language else r.aliasTarget? name := by
  unfold stored aliasTarget?
  generalize r.aliases = aliases
  induction new.aliases generalizing aliases with
  | nil => simp
  | cons a rest ih =>
    rw [List.foldl_cons, ih, setAlias_eq, find?_put]
    by_cases hrest : name ∈ rest
    · simp [hrest]
    · by_cases h : name = a <;> simp [hrest, h]

theorem find?_removed (r : Registry φ) (old : Registration φ) (key : String) :
    (r.removed old).find? key = if key = old.language then none else r.find? key := by
  unfold removed find?
  rw [List.find?_filter]
  by_cases h : key = old.language
  · rw [if_pos h, List.find?_eq_none]
    intro found _
    simp [h]
  · rw [if_neg h]
    congr 1
    funext found
    by_cases hkey : found.language = key <;> simp [hkey, h]

theorem aliasTarget?_removed (r : Registry φ) (old : Registration φ) (name : String) :
    (r.removed old).aliasTarget? name =
      if name ∈ old.aliases then none else r.aliasTarget? name := by
  unfold removed aliasTarget?
  rw [List.find?_filter]
  by_cases h : name ∈ old.aliases
  · rw [if_pos h, Option.map_eq_none_iff, List.find?_eq_none]
    intro entry _ hentry
    obtain ⟨hkept, hname⟩ : entry.1 ∉ old.aliases ∧ entry.1 = name := by simpa using hentry
    exact hkept (hname ▸ h)
  · rw [if_neg h]
    congr 2
    funext entry
    by_cases hname : entry.1 = name <;> simp [hname, h]

/-! ## What a change does -/

/-- Registering keeps a registration that is not to be replaced, or refuses an alias, or stores. -/
theorem register_cases (r : Registry φ) (language : String) (factory : φ) (aliases : List String)
    (replace : Bool) :
    let key := Text.lower language
    let new : Registration φ := ⟨key, factory, aliasKeys key aliases⟩
    (r.has key = true ∧ replace = false ∧
      r.register language factory aliases replace = .ok r) ∨
    (replace = false ∧ ∃ e, r.register language factory aliases replace = .error e) ∨
    ((r.has key = true → replace = true) ∧
      r.register language factory aliases replace = .ok (r.stored new)) := by
  unfold register
  by_cases hkept : (r.has (Text.lower language) && !replace) = true
  · simp only [Bool.and_eq_true, Bool.not_eq_true'] at hkept
    exact .inl ⟨hkept.1, hkept.2, by simp [hkept.1, hkept.2]⟩
  · have hreplace : r.has (Text.lower language) = true → replace = true := by
      intro hhas
      simpa [hhas] using hkept
    simp only [if_neg hkept]
    split
    · next e he =>
      cases replace with
      | true => cases he
      | false => exact .inr (.inl ⟨rfl, e, rfl⟩)
    · exact .inr (.inr ⟨hreplace, rfl⟩)

/-- A change leaves a registry as it is, stores a registration, or removes one. -/
inductive Step (r : Registry φ) : Change φ → Registry φ → Prop
  | unchanged (c : Change φ) : Step r c r
  | store {language : String} {factory : φ} {aliases : List String} {replace : Bool}
      (hreplace : r.has (Text.lower language) = true → replace = true) :
      Step r (.register language factory aliases replace)
        (r.stored ⟨Text.lower language, factory, aliasKeys (Text.lower language) aliases⟩)
  | remove {language : String} {old : Registration φ}
      (hold : r.find? (Text.lower language) = some old) :
      Step r (.unregister language) (r.removed old)

theorem step_apply (r : Registry φ) (c : Change φ) : Step r c (r.apply c) := by
  cases c with
  | register language factory aliases replace =>
    rcases r.register_cases language factory aliases replace with
      ⟨_, _, h⟩ | ⟨_, e, h⟩ | ⟨hreplace, h⟩
    · simp only [apply, h]; exact .unchanged _
    · simp only [apply, h]; exact .unchanged _
    · simp only [apply, h]; exact .store hreplace
  | unregister language =>
    cases hold : r.find? (Text.lower language) with
    | none =>
      simp only [apply, unregister, hold]
      exact .unchanged _
    | some old =>
      have hstep := Step.remove hold
      simp only [removed, language_of_find? hold] at hstep
      simp only [apply, unregister, hold]
      exact hstep

end ZigDecl.Registry
