import Mathlib.Data.List.Basic
import Mathlib.Data.List.Forall2
import ZigDecl.Proofs.Name.Search

/-! # Names given out in a namespace

`Derives` relates a proposal to the names it may end up with: its styled form, or that form with a
number. Main statements: a proposal is given the first of these that is free, and nothing else
changes in the namespace; the names given for several proposals in a row are derived from them one
by one, are free, and differ from each other. -/

namespace ZigDecl.Name

open ZigDecl.Zig

/-- A name that a proposal may be given in a style. -/
def Derives (case : NamingCase) (proposal name : String) : Prop :=
  name = case.style proposal ∨ ∃ n, 2 ≤ n ∧ name = numbered case (case.style proposal) n

/-- Whatever the proposal, the name has the form of an identifier. -/
theorem Derives.hasIdentifierForm {case : NamingCase} {proposal name : String}
    (h : Derives case proposal name) : hasIdentifierForm name.toList = true := by
  rcases h with rfl | ⟨n, _, rfl⟩
  · exact hasIdentifierForm_style case proposal
  · exact hasIdentifierForm_style case _

/-- Such a name is never made of underscores alone. -/
theorem Derives.hasWordChar {case : NamingCase} {proposal name : String}
    (h : Derives case proposal name) : HasWordChar name := by
  rcases h with rfl | ⟨n, _, rfl⟩
  · exact hasWordChar_style case proposal
  · exact hasWordChar_style case _

theorem derives_assign (ns : Namespace) (case : NamingCase) (proposal : String) :
    Derives case proposal (ns.assign case proposal).1.name := by
  obtain ⟨hfree, htaken⟩ := firstFree_assign ns case proposal
  cases h : ns.isAvailable (case.style proposal) with
  | true => exact Or.inl (hfree h)
  | false =>
    obtain ⟨n, hleast, hname⟩ := htaken h
    exact Or.inr ⟨n, hleast.1.1, hname⟩

/-- The search for a name looks at no candidate twice and at one more than there are reserved names
at most. It gives the first one that is neither forbidden nor in use, which has the form of an
identifier and a letter or digit in it, and all that changes in the namespace is that this name is
in use. -/
theorem search_assign (ns : Namespace) (case : NamingCase) (proposal : String) :
    ∃ examined,
      Search ns case (case.style proposal) 2 (case.style proposal) examined
        (ns.assign case proposal).1.name ∧
      examined.Nodup ∧
      examined.length ≤ (ns.forbidden.toFinset ∪ ns.used.toFinset).card + 1 ∧
      examined.find? (fun name => name ∉ ns.forbidden ∧ name ∉ ns.used) =
        some (ns.assign case proposal).1.name ∧
      hasIdentifierForm (ns.assign case proposal).1.name.toList = true ∧
      HasWordChar (ns.assign case proposal).1.name ∧
      (ns.assign case proposal).2 =
        { ns with used := ns.used ++ [(ns.assign case proposal).1.name] } := by
  obtain ⟨examined, hsearch⟩ := exists_search ns case proposal
  have hderives := derives_assign ns case proposal
  have hfree : (fun name => decide (name ∉ ns.forbidden ∧ name ∉ ns.used)) = ns.isAvailable := by
    funext name
    rw [Bool.eq_iff_iff, decide_eq_true_iff, isAvailable_iff]
  refine ⟨examined, hsearch, hsearch.nodup, hsearch.length_le, ?_,
    hderives.hasIdentifierForm, hderives.hasWordChar, ?_⟩
  · rw [hfree, hsearch.find?_eq]
  · rw [Namespace.mk.injEq]
    exact ⟨forbidden_assign ns case proposal, used_assign ns case proposal⟩

/-- What is true of names given for proposals one after the other, from the namespace before them to
the one after them. -/
structure Given (case : NamingCase) (before : Namespace) (proposals names : List String)
    (after : Namespace) : Prop where
  derives : List.Forall₂ (Derives case) proposals names
  allowed : ∀ name ∈ names, name ∉ before.forbidden
  unused : ∀ name ∈ names, name ∉ before.used
  nodup : names.Nodup
  forbidden : after.forbidden = before.forbidden
  used : after.used = before.used ++ names

theorem given_assignAll (case : NamingCase) :
    ∀ (proposals : List String) (ns : Namespace),
      Given case ns proposals ((ns.assignAll case proposals).1.map (·.name))
        (ns.assignAll case proposals).2
  | [], ns => ⟨.nil, by simp [Namespace.assignAll], by simp [Namespace.assignAll],
      by simp [Namespace.assignAll], rfl, by simp [Namespace.assignAll]⟩
  | p :: ps, ns => by
    obtain ⟨hallowed, hunused⟩ := isAvailable_iff.mp (isAvailable_assign ns case p)
    have ih := given_assignAll case ps (ns.assign case p).2
    have hnew : ∀ name ∈ ((ns.assign case p).2.assignAll case ps).1.map (·.name),
        name ∉ ns.used ∧ name ≠ (ns.assign case p).1.name := by
      intro name h
      have := ih.unused name h
      simpa using this
    simp only [Namespace.assignAll, List.map_cons]
    refine ⟨.cons (derives_assign ns case p) ih.derives, ?_, ?_, ?_, ?_, ?_⟩
    · rintro name (_ | ⟨_, h⟩)
      · exact hallowed
      · simpa using ih.allowed name h
    · rintro name (_ | ⟨_, h⟩)
      · exact hunused
      · exact (hnew name h).1
    · exact List.nodup_cons.mpr ⟨fun h => (hnew _ h).2 rfl, ih.nodup⟩
    · rw [ih.forbidden, forbidden_assign]
    · rw [ih.used, used_assign, List.append_assoc]
      rfl

/-- Names are as many as proposals. -/
theorem Given.length_eq {case : NamingCase} {before after : Namespace}
    {proposals names : List String} (h : Given case before proposals names after) :
    names.length = proposals.length := h.derives.length_eq.symm

theorem hasIdentifierForm_of_derives {case : NamingCase} {proposals names : List String}
    (h : List.Forall₂ (Derives case) proposals names) :
    ∀ name ∈ names, hasIdentifierForm name.toList = true := by
  induction h with
  | nil => simp
  | cons hd _ ih =>
    rintro name (_ | ⟨_, hname⟩)
    · exact hd.hasIdentifierForm
    · exact ih name hname

theorem isIdentifier_iff {name : String} :
    isIdentifier name = true ↔ hasIdentifierForm name.toList = true ∧ name ∉ keywords := by
  simp [isIdentifier]

/-- In a namespace that forbids the keywords all names are identifiers. -/
theorem Given.isIdentifier {case : NamingCase} {before after : Namespace}
    {proposals names : List String} (h : Given case before proposals names after)
    (hk : keywords ⊆ before.forbidden) : ∀ name ∈ names, isIdentifier name = true :=
  fun name hname => isIdentifier_iff.mpr
    ⟨hasIdentifierForm_of_derives h.derives name hname, fun hw => h.allowed name hname (hk hw)⟩

end ZigDecl.Name
