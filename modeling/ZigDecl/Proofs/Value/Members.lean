import Mathlib.Data.List.Nodup
import ZigDecl.Value.Basic

/-! # Members of objects

The members of an object are found by their keys, and what is stored over them takes the place of
what was there. Main statements: where several entries are stored, the last one with a key counts,
and storing what was made of some members over these members again makes the same. -/

namespace ZigDecl.Value

variable {τ : Type} [DecidableEq τ]

/-- The value of the last entry with a key. -/
def last? (key : τ) (entries : List (τ × Value τ)) : Option (Value τ) :=
  lookup key entries.reverse

variable {key : τ} {value : Value τ} {ms es : List (τ × Value τ)}

/-! ## Looking up -/

theorem mem_of_lookup (h : lookup key ms = some value) : (key, value) ∈ ms := by
  induction ms with
  | nil => cases h
  | cons m rest ih =>
    obtain ⟨k, w⟩ := m
    rw [lookup] at h
    split at h
    · next hk =>
      cases h
      rw [beq_iff_eq.mp hk]
      exact List.mem_cons_self
    · exact List.mem_cons_of_mem _ (ih h)

theorem lookup_of_mem (h : (ms.map (·.1)).Nodup) {m : τ × Value τ} (hm : m ∈ ms) :
    lookup m.1 ms = some m.2 := by
  induction ms with
  | nil => cases hm
  | cons first rest ih =>
    obtain ⟨hfirst, hrest⟩ := List.nodup_cons.mp h
    rw [lookup]
    rcases List.mem_cons.mp hm with rfl | hm
    · rw [if_pos (by simp)]
    · have hne : first.1 ≠ m.1 := fun heq => hfirst (List.mem_map.mpr ⟨m, hm, heq.symm⟩)
      rw [if_neg (by simpa using hne)]
      exact ih hrest hm

theorem lookup_eq_none_iff : lookup key ms = none ↔ key ∉ ms.map (·.1) := by
  induction ms with
  | nil => simp [lookup]
  | cons m rest ih =>
    rw [lookup, List.map_cons, List.mem_cons, not_or]
    by_cases hk : m.1 = key
    · simp [hk]
    · simp [hk, Ne.symm hk, ih]

theorem lookup_append (key : τ) (ms rest : List (τ × Value τ)) :
    lookup key (ms ++ rest) = (lookup key ms).or (lookup key rest) := by
  induction ms with
  | nil => rfl
  | cons m ms ih =>
    rw [List.cons_append, lookup, lookup, ih]
    split <;> rfl

theorem last?_append (key : τ) (es later : List (τ × Value τ)) :
    last? key (es ++ later) = (last? key later).or (last? key es) := by
  rw [last?, List.reverse_append, lookup_append, last?, last?]

theorem last?_singleton (key : τ) (e : τ × Value τ) :
    last? key [e] = if e.1 = key then some e.2 else none := by
  simp [last?, lookup]

theorem mem_of_last? (h : last? key es = some value) : (key, value) ∈ es :=
  List.mem_reverse.mp (mem_of_lookup h)

theorem last?_eq_none_iff : last? key es = none ↔ key ∉ es.map (·.1) := by
  rw [last?, lookup_eq_none_iff, List.map_reverse, List.mem_reverse]

/-- Where no key comes twice, the last entry with a key is the only one. -/
theorem last?_eq_lookup (h : (ms.map (·.1)).Nodup) (key : τ) :
    last? key ms = lookup key ms := by
  cases hlookup : lookup key ms with
  | none =>
    rw [last?_eq_none_iff]
    exact lookup_eq_none_iff.mp hlookup
  | some value =>
    have hreverse : (ms.reverse.map (·.1)).Nodup := by rwa [List.map_reverse, List.nodup_reverse]
    exact lookup_of_mem hreverse (List.mem_reverse.mpr (mem_of_lookup hlookup))

/-! ## Storing -/

theorem keys_put_of_mem (h : key ∈ ms.map (·.1)) (value : Value τ) :
    (put key value ms).map (·.1) = ms.map (·.1) := by
  induction ms with
  | nil => cases h
  | cons m rest ih =>
    rw [put]
    by_cases hk : m.1 = key
    · simp [hk]
    · have hrest : key ∈ rest.map (·.1) := (List.mem_cons.mp h).resolve_left (Ne.symm hk)
      simp [hk, ih hrest]

theorem put_append_of_not_mem (h : key ∉ ms.map (·.1)) (value : Value τ)
    (rest : List (τ × Value τ)) : put key value (ms ++ rest) = ms ++ put key value rest := by
  induction ms with
  | nil => rfl
  | cons m ms ih =>
    obtain ⟨hk, hms⟩ := List.ne_and_not_mem_of_not_mem_cons h
    rw [List.cons_append, put, if_neg (by simpa using Ne.symm hk), ih hms]
    rfl

/-- A key that is new comes behind those that are there. -/
theorem put_of_not_mem (h : key ∉ ms.map (·.1)) (value : Value τ) :
    put key value ms = ms ++ [(key, value)] := by
  have happend := put_append_of_not_mem h value []
  rwa [List.append_nil] at happend

theorem nodup_put (h : (ms.map (·.1)).Nodup) (key : τ) (value : Value τ) :
    ((put key value ms).map (·.1)).Nodup := by
  by_cases hk : key ∈ ms.map (·.1)
  · rwa [keys_put_of_mem hk]
  · rw [put_of_not_mem hk, List.map_append]
    exact h.append (List.nodup_singleton _) (by simpa using hk)

theorem putAll_cons (e : τ × Value τ) (es ms : List (τ × Value τ)) :
    putAll (e :: es) ms = putAll es (put e.1 e.2 ms) := rfl

theorem putAll_append (es later ms : List (τ × Value τ)) :
    putAll (es ++ later) ms = putAll later (putAll es ms) := List.foldl_append

theorem nodup_putAll (h : (ms.map (·.1)).Nodup) (es : List (τ × Value τ)) :
    ((putAll es ms).map (·.1)).Nodup := by
  induction es generalizing ms with
  | nil => exact h
  | cons e es ih => exact ih (nodup_put h e.1 e.2)

theorem nodup_putAll_nil (es : List (τ × Value τ)) : ((putAll es []).map (·.1)).Nodup := by
  refine nodup_putAll ?_ es
  exact List.nodup_nil

/-- Of all that is stored under a key, what is stored last is found. -/
theorem lookup_putAll (key : τ) (es ms : List (τ × Value τ)) :
    lookup key (putAll es ms) = (last? key es).or (lookup key ms) := by
  induction es generalizing ms with
  | nil => rfl
  | cons e es ih =>
    rw [putAll_cons, ih, ← List.singleton_append, last?_append, Option.or_assoc, last?_singleton]
    congr 1
    by_cases hk : e.1 = key
    · rw [if_pos hk, ← hk, lookup_put_self]
      rfl
    · rw [if_neg hk, lookup_put_ne (Ne.symm hk)]
      rfl

/-- Entries with keys that are all new come behind what is there. -/
theorem putAll_of_new (h : ((ms ++ es).map (·.1)).Nodup) : putAll es ms = ms ++ es := by
  induction es generalizing ms with
  | nil => exact (List.append_nil ms).symm
  | cons e es ih =>
    have hsplit : ms ++ e :: es = ms ++ [e] ++ es := by simp
    have hnew : e.1 ∉ ms.map (·.1) := fun hmem => by
      rw [List.map_append] at h
      exact (List.nodup_append.mp h).2.2 e.1 hmem e.1 (by simp) rfl
    rw [putAll_cons, put_of_not_mem hnew, hsplit]
    exact ih (hsplit ▸ h)

/-- Entries with the keys that are there, in the same order, take the place of everything. -/
theorem putAll_of_same (hkeys : es.map (·.1) = ms.map (·.1)) (before : List (τ × Value τ))
    (h : ((before ++ ms).map (·.1)).Nodup) : putAll es (before ++ ms) = before ++ es := by
  induction es generalizing before ms with
  | nil => rw [List.map_eq_nil_iff.mp hkeys.symm]; rfl
  | cons e es ih =>
    obtain _ | ⟨m, ms⟩ := ms
    · cases hkeys
    · obtain ⟨hkey, hkeys⟩ := List.cons.inj hkeys
      have hfresh : e.1 ∉ before.map (·.1) := fun hmem => by
        rw [List.map_append] at h
        exact (List.nodup_append.mp h).2.2 e.1 hmem e.1 (by simp [hkey]) rfl
      replace hkey : e.1 = m.1 := hkey
      have hput : put e.1 e.2 (m :: ms) = e :: ms := by
        rw [put, if_pos (by simp [hkey]), ← hkey]
      have hsplit : ∀ rest, before ++ e :: rest = before ++ [e] ++ rest := by simp
      rw [putAll_cons, put_append_of_not_mem hfresh, hput, hsplit ms, hsplit es]
      refine ih hkeys _ ?_
      simpa [hkey] using h

/-- What is stored over members leaves their keys in front. -/
theorem exists_putAll_eq_append (es ms : List (τ × Value τ)) :
    ∃ kept new, putAll es ms = kept ++ new ∧ kept.map (·.1) = ms.map (·.1) := by
  induction es generalizing ms with
  | nil => exact ⟨ms, [], (List.append_nil ms).symm, rfl⟩
  | cons e es ih =>
    obtain ⟨kept, new, heq, hkeys⟩ := ih (put e.1 e.2 ms)
    by_cases hk : e.1 ∈ ms.map (·.1)
    · exact ⟨kept, new, heq, hkeys.trans (keys_put_of_mem hk e.2)⟩
    · -- the new key is the last one of those that are kept from here on
      rw [put_of_not_mem hk, List.map_append] at hkeys
      obtain ⟨front, back, rfl, hfront, hback⟩ := List.map_eq_append_iff.mp hkeys
      exact ⟨front, back ++ new, by rw [putAll_cons, heq, List.append_assoc], hfront⟩

/-- Storing over members what was made of them makes the same again. -/
theorem putAll_putAll (h : (ms.map (·.1)).Nodup) (es : List (τ × Value τ)) :
    putAll (putAll es ms) ms = putAll es ms := by
  obtain ⟨kept, new, heq, hkeys⟩ := exists_putAll_eq_append es ms
  have hnodup : ((kept ++ new).map (·.1)).Nodup := heq ▸ nodup_putAll h es
  have hkept : putAll kept ms = kept := putAll_of_same hkeys [] h
  rw [heq, putAll_append, hkept, putAll_of_new hnodup]

end ZigDecl.Value
