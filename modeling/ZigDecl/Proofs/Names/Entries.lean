import Mathlib.Data.List.Basic
import ZigDecl.Names.Basic

/-! # Looking up entries

A table is a list of keys with their entries. Main statement: where no key stands twice, every entry
is found under its key. -/

namespace ZigDecl

variable {κ α : Type} [BEq κ] [LawfulBEq κ] {key : κ} {a : α} {entries : List (κ × α)}

theorem mem_of_entryFor? (h : entryFor? key entries = some a) : (key, a) ∈ entries := by
  induction entries with
  | nil => cases h
  | cons e rest ih =>
    obtain ⟨k, b⟩ := e
    rw [entryFor?] at h
    split at h
    · next hk =>
      cases h
      rw [beq_iff_eq.mp hk]
      exact List.mem_cons_self
    · exact List.mem_cons_of_mem _ (ih h)

theorem entryFor?_eq_none_iff : entryFor? key entries = none ↔ key ∉ entries.map (·.1) := by
  induction entries with
  | nil => simp [entryFor?]
  | cons e rest ih =>
    obtain ⟨k, b⟩ := e
    rw [entryFor?, List.map_cons, List.mem_cons, not_or]
    by_cases hk : k = key
    · simp [hk]
    · rw [if_neg (by simpa using hk), ih]
      simp [Ne.symm hk]

theorem exists_entryFor?_iff : (∃ a, entryFor? key entries = some a) ↔ key ∈ entries.map (·.1) := by
  rw [← Option.isSome_iff_exists, ← not_iff_not, ← entryFor?_eq_none_iff,
    Option.not_isSome_iff_eq_none]

theorem entryFor?_of_mem (hn : (entries.map (·.1)).Nodup) (h : (key, a) ∈ entries) :
    entryFor? key entries = some a := by
  induction entries with
  | nil => cases h
  | cons e rest ih =>
    obtain ⟨k, b⟩ := e
    rw [List.map_cons, List.nodup_cons] at hn
    rw [entryFor?]
    rcases List.mem_cons.mp h with h | h
    · cases h
      rw [if_pos (by simp)]
    · have hk : k ≠ key := by
        rintro rfl
        exact hn.1 (List.mem_map.mpr ⟨_, h, rfl⟩)
      rw [if_neg (by simpa using hk)]
      exact ih hn.2 h

end ZigDecl
