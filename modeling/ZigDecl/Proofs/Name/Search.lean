import Mathlib.Data.Finset.Card
import Mathlib.Data.List.Nodup
import Mathlib.Order.Bounds.Basic
import ZigDecl.Proofs.Name.Numbered

/-! # The search for a free name

A name is found by a loop that looks at one candidate after the other. Main statement: it looks at
no candidate twice and therefore ends, at the latest one candidate after all reserved names; it ends
at the first one that is free, and what it leaves behind is that this name is in use. -/

namespace ZigDecl.Name

open ZigDecl.Zig

/-- The loop as it runs without a limit: it stands at a candidate, the next one has the given
number, and it looks at the listed candidates until it ends at the last of them. -/
inductive Search (ns : Namespace) (case : NamingCase) (base : String) :
    Nat → String → List String → String → Prop
  | free {n : Nat} {name : String} :
      ns.isAvailable name = true → Search ns case base n name [name] name
  | taken {n : Nat} {candidate name : String} {later : List String} :
      ns.isAvailable candidate = false →
      Search ns case base (n + 1) (numbered case base n) later name →
      Search ns case base n candidate (candidate :: later) name

/-- A name that is given for a base: the base where it is free, and else the form of it with the
least number from two on that is free. -/
def FirstFree (ns : Namespace) (base : String) (suffixed : Nat → String) (name : String) : Prop :=
  (ns.isAvailable base = true → name = base) ∧
    (ns.isAvailable base = false →
      ∃ n, IsLeast {n | 2 ≤ n ∧ ns.isAvailable (suffixed n) = true} n ∧ name = suffixed n)

theorem isAvailable_iff {ns : Namespace} {name : String} :
    ns.isAvailable name = true ↔ name ∉ ns.forbidden ∧ name ∉ ns.used := by
  simp [Namespace.isAvailable]

namespace Search

variable {ns : Namespace} {case : NamingCase} {base candidate name : String} {n : Nat}
  {examined : List String}

/-- The candidates behind the first one are numbered in a row. -/
theorem exists_eq (h : Search ns case base n candidate examined name) :
    ∃ k, examined = candidate :: (List.range' n k).map (numbered case base) := by
  induction h with
  | free _ => exact ⟨0, rfl⟩
  | taken _ _ ih =>
    obtain ⟨k, rfl⟩ := ih
    exact ⟨k + 1, rfl⟩

/-- No candidate comes twice. -/
theorem nodup (h : Search ns case base n base examined name) : examined.Nodup := by
  obtain ⟨k, rfl⟩ := h.exists_eq
  refine List.nodup_cons.mpr ⟨?_, ?_⟩
  · intro hmem
    obtain ⟨i, _, hi⟩ := List.mem_map.mp hmem
    exact numbered_ne case base i hi
  · exact List.Nodup.map_on (fun i _ j _ h => numbered_inj case base h) List.nodup_range'

/-- All that the search passes on its way is taken. -/
theorem exists_passed (h : Search ns case base n candidate examined name) :
    ∃ passed, examined = passed ++ [name] ∧ ∀ c ∈ passed, ns.isAvailable c = false := by
  induction h with
  | free _ => exact ⟨[], rfl, by simp⟩
  | @taken _ candidate _ _ htaken _ ih =>
    obtain ⟨passed, rfl, hpassed⟩ := ih
    exact ⟨candidate :: passed, rfl, by simpa using ⟨htaken, hpassed⟩⟩

theorem find?_eq (h : Search ns case base n candidate examined name) :
    examined.find? ns.isAvailable = some name := by
  induction h with
  | free hfree => rw [List.find?_cons_of_pos hfree]
  | taken htaken _ ih => rw [List.find?_cons_of_neg (by simp [htaken]), ih]

theorem isAvailable (h : Search ns case base n candidate examined name) :
    ns.isAvailable name = true := List.find?_some h.find?_eq

/-- Everything passed is reserved, and nothing is passed twice. -/
theorem length_le (h : Search ns case base n base examined name) :
    examined.length ≤ (ns.forbidden.toFinset ∪ ns.used.toFinset).card + 1 := by
  obtain ⟨passed, rfl, hpassed⟩ := h.exists_passed
  have hnodup : passed.Nodup := h.nodup.of_append_left
  have hreserved : passed.toFinset ⊆ ns.forbidden.toFinset ∪ ns.used.toFinset := by
    intro c hc
    have htaken := hpassed c (List.mem_toFinset.mp hc)
    rw [← Bool.not_eq_true, isAvailable_iff, not_and_or, not_not, not_not] at htaken
    simpa using htaken
  have hcard := Finset.card_le_card hreserved
  rw [List.toFinset_card_of_nodup hnodup] at hcard
  rw [List.length_append, List.length_singleton]
  omega

/-- A search that does not end at its first candidate ends at the least free number. -/
theorem isLeast (h : Search ns case base n candidate examined name) :
    (ns.isAvailable candidate = true → name = candidate) ∧
      (ns.isAvailable candidate = false →
        ∃ k, IsLeast {k | n ≤ k ∧ ns.isAvailable (numbered case base k) = true} k ∧
          name = numbered case base k) := by
  induction h with
  | free hfree => exact ⟨fun _ => rfl, fun htaken => by simp [hfree] at htaken⟩
  | @taken n candidate name later htaken _ ih =>
    refine ⟨fun hfree => by simp [hfree] at htaken, fun _ => ?_⟩
    cases hn : ns.isAvailable (numbered case base n) with
    | true => exact ⟨n, ⟨⟨Nat.le_refl n, hn⟩, fun k hk => hk.1⟩, ih.1 hn⟩
    | false =>
      obtain ⟨k, ⟨⟨hle, hfree⟩, hleast⟩, hname⟩ := ih.2 hn
      refine ⟨k, ⟨⟨by omega, hfree⟩, ?_⟩, hname⟩
      rintro m ⟨hm, hmfree⟩
      have hne : n ≠ m := by
        rintro rfl
        rw [hn] at hmfree
        cases hmfree
      exact hleast ⟨Nat.lt_of_le_of_ne hm hne, hmfree⟩

theorem firstFree (h : Search ns case base 2 base examined name) :
    FirstFree ns base (numbered case base) name := h.isLeast

end Search

/-- Limited to enough steps, the search does what the loop does. -/
theorem search_seek {case : NamingCase} {ns : Namespace} {base : String} :
    ∀ {fuel n : Nat} {candidate : String},
      (ns.isAvailable candidate = true ∨
        ∃ i < fuel, ns.isAvailable (numbered case base (n + i)) = true) →
      ∃ examined, Search ns case base n candidate examined (seek case ns base fuel n candidate)
  | 0, _, candidate, h => by
    rcases h with h | ⟨i, hi, _⟩
    · exact ⟨[candidate], .free h⟩
    · omega
  | fuel + 1, n, candidate, h => by
    rw [seek]
    split
    · next hfree => exact ⟨[candidate], .free hfree⟩
    · next htaken =>
      have hlater : ns.isAvailable (numbered case base n) = true ∨
          ∃ i < fuel, ns.isAvailable (numbered case base (n + 1 + i)) = true := by
        rcases h with h | ⟨i, hi, h⟩
        · exact absurd h htaken
        · cases i with
          | zero => exact Or.inl h
          | succ i => exact Or.inr ⟨i, by omega, by rwa [Nat.add_right_comm]⟩
      obtain ⟨later, hsearch⟩ := search_seek hlater
      exact ⟨candidate :: later, .taken (by simpa using htaken) hsearch⟩

/-- A proposal is given the name at which the search for its styled form ends. -/
theorem exists_search (ns : Namespace) (case : NamingCase) (proposal : String) :
    ∃ examined, Search ns case (case.style proposal) 2 (case.style proposal) examined
      (ns.assign case proposal).1.name := by
  obtain ⟨i, hi, hfree⟩ := exists_not_mem (numbered_inj case (case.style proposal))
    (ns.forbidden ++ ns.used) 2
  rw [List.length_append] at hi
  rw [List.mem_append, not_or] at hfree
  exact search_seek (Or.inr ⟨i, hi, isAvailable_iff.mpr hfree⟩)

/-- A proposal is always given a free name. -/
theorem isAvailable_assign (ns : Namespace) (case : NamingCase) (proposal : String) :
    ns.isAvailable (ns.assign case proposal).1.name = true := by
  obtain ⟨_, h⟩ := exists_search ns case proposal
  exact h.isAvailable

theorem firstFree_assign (ns : Namespace) (case : NamingCase) (proposal : String) :
    FirstFree ns (case.style proposal) (numbered case (case.style proposal))
      (ns.assign case proposal).1.name := by
  obtain ⟨_, h⟩ := exists_search ns case proposal
  exact h.firstFree

@[simp] theorem forbidden_assign (ns : Namespace) (case : NamingCase) (proposal : String) :
    (ns.assign case proposal).2.forbidden = ns.forbidden := by
  simp only [Namespace.assign, Namespace.add]
  split <;> rfl

@[simp] theorem used_assign (ns : Namespace) (case : NamingCase) (proposal : String) :
    (ns.assign case proposal).2.used = ns.used ++ [(ns.assign case proposal).1.name] := by
  have h := (isAvailable_iff.mp (isAvailable_assign ns case proposal)).2
  simp only [Namespace.assign] at h
  simp only [Namespace.assign, Namespace.add]
  rw [if_neg (by simpa using h)]

end ZigDecl.Name
