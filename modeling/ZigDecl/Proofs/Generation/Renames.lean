import Mathlib.Data.List.Nodup
import ZigDecl.Proofs.Generation.Fill

/-! # Entries of renamed members

Main statements: the members of a declaration that have an entry are those whose identifier is not
their external name, the blocks of both directions have the same entries in the same order, and with
the entries every external name is found again. -/

namespace ZigDecl

namespace Rename

/-- The pairs of different names, in order. -/
def renamed (pairs : List (String × String)) : List (String × String) :=
  pairs.filter fun e => e.1 != e.2

theorem foldl_record (pairs : List (String × String)) (entries : List Entry) :
    pairs.foldl (fun es e => record es e.1 e.2) entries =
      entries ++ (renamed pairs).map fun e => ⟨e.1, e.2⟩ := by
  induction pairs generalizing entries with
  | nil => exact (List.append_nil entries).symm
  | cons e pairs ih =>
    rw [List.foldl_cons, ih, record]
    by_cases h : e.1 = e.2
    · simp [h, renamed]
    · simp [h, renamed]

/-- Recorded are the pairs of different names. -/
theorem recordAll_eq (pairs : List (String × String)) :
    recordAll pairs = (renamed pairs).map fun e => ⟨e.1, e.2⟩ := foldl_record pairs []

/-- The external name that an identifier stands for: the one in its entry, or else itself. -/
def externalName (entries : List (String × String)) (identifier : String) : String :=
  (entries.lookup identifier).getD identifier

theorem externalName_of_not_mem {entries : List (String × String)} {identifier : String}
    (h : identifier ∉ entries.map (·.1)) : externalName entries identifier = identifier := by
  have hnone : entries.lookup identifier = none := List.lookup_eq_none_iff.mpr fun e he => by
    simpa using fun heq : identifier = e.1 => h (heq ▸ List.mem_map_of_mem he)
  rw [externalName, hnone]
  rfl

theorem externalName_cons_of_ne {entries : List (String × String)} {e : String × String}
    {identifier : String} (h : identifier ≠ e.1) :
    externalName (e :: entries) identifier = externalName entries identifier := by
  rw [externalName, List.lookup_cons, beq_eq_false_iff_ne.mpr h, externalName]

/-- With the entries of renamed members, the identifiers give back all external names. -/
theorem map_externalName : ∀ {identifiers externalNames : List String}, identifiers.Nodup →
    identifiers.length = externalNames.length →
    identifiers.map (externalName (renamed (identifiers.zip externalNames))) = externalNames
  | [], [], _, _ => rfl
  | i :: identifiers, e :: externalNames, hnodup, hlen => by
    obtain ⟨hi, hnodup⟩ := List.nodup_cons.mp hnodup
    have hrest := map_externalName hnodup (by simpa using hlen)
    have hkeys : i ∉ (renamed (identifiers.zip externalNames)).map (·.1) := fun hmem => by
      obtain ⟨pair, hpair, rfl⟩ := List.mem_map.mp hmem
      exact hi (List.of_mem_zip (List.mem_of_mem_filter hpair)).1
    by_cases h : i = e
    · subst h
      have hsame : renamed ((i :: identifiers).zip (i :: externalNames)) =
          renamed (identifiers.zip externalNames) := by simp [renamed]
      rw [hsame, List.map_cons, externalName_of_not_mem hkeys, hrest]
    · have hmore : renamed ((i :: identifiers).zip (e :: externalNames)) =
          (i, e) :: renamed (identifiers.zip externalNames) := by simp [renamed, h]
      have hfirst : externalName ((i, e) :: renamed (identifiers.zip externalNames)) i = e := by
        simp [externalName]
      rw [hmore, List.map_cons, hfirst]
      refine congrArg (e :: ·) (Eq.trans (List.map_congr_left fun j hj => ?_) hrest)
      exact externalName_cons_of_ne fun heq : j = i => hi (heq ▸ hj)

end Rename

namespace Generation.Context

open Rename (renamed)

/-- The blocks of a declaration: none if nothing is renamed, or else one for each direction, with
the same entries. -/
def blocksFor (entries : List (String × String)) : List (String × List (String × String)) :=
  if entries.isEmpty then [] else [("db", entries), ("sb", entries)]

theorem renameTexts_renamesOf (identifiers : List String) (externalNames : List Value) :
    renameTexts (renamesOf identifiers externalNames) =
      blocksFor (renamed (identifiers.zip (externalNames.map Value.display))) := by
  rw [renamesOf, Rename.recordAll_eq, renameTexts, Rename.blocks, blocksFor]
  generalize renamed _ = entries
  cases entries with
  | nil => rfl
  | cons e entries =>
    have hsame : ((e :: entries).map fun e => (⟨e.1, e.2⟩ : Rename.Entry)).map
        (fun e => (e.identifier, e.externalName)) = e :: entries := by
      rw [List.map_map]
      exact List.map_id _
    show [("db", _), ("sb", _)] = _
    rw [hsame]
    rfl

end Generation.Context

end ZigDecl
