import ZigDecl.Proofs.Name.Identifier
import ZigDecl.Proofs.Names.Files
import ZigDecl.Proofs.Names.Resolved
import ZigDecl.Proofs.Output.Lines
import ZigDecl.Proofs.Zig.Reader

/-! # What the names of files look like

The candidates for the name of a file are the lower-case name of the declaration and then numbered
forms of it. Main statements: the search for a free name ends at the first candidate that is not
taken, after at most as many failures as there are taken names; and the file of a declaration with a
legal name has lower-case ASCII letters, digits and underscores in front of its extension. -/

namespace ZigDecl.Names

open ZigDecl.Name
open Text (isLowerAscii isDigitAscii)

/-! ## The search for a free name -/

/-- The names that are tried for a file, in order. -/
def fileCandidate (stem : String) : Nat → String
  | 0 => stem ++ fileExtension
  | n + 1 => numberedFile stem (n + 2)

/-- A numbered name is longer than the name without a number. -/
theorem numberedFile_ne (stem : String) (n : Nat) :
    numberedFile stem n ≠ stem ++ fileExtension := by
  intro h
  have hlen := congrArg String.length h
  simp only [numberedFile, String.length_append] at hlen
  have hmark : "_".length = 1 := rfl
  omega

theorem fileCandidate_inj (stem : String) {i j : Nat}
    (h : fileCandidate stem i = fileCandidate stem j) : i = j := by
  cases i with
  | zero =>
    cases j with
    | zero => rfl
    | succ j => exact absurd h.symm (numberedFile_ne stem _)
  | succ i =>
    cases j with
    | zero => exact absurd h (numberedFile_ne stem _)
    | succ j => exact congrArg Nat.succ (Nat.add_right_cancel (numberedFile_inj stem h))

/-- A file of a declaration has the first name that is free: a candidate that is not taken, while
all candidates before it are, of which there are no more than taken names. -/
structure IsFirstFree (taken : List String) (name file : String) : Prop where
  free : file ∉ taken
  isFirst : ∃ k ≤ taken.length, file = fileCandidate (Text.lower name) k ∧
    ∀ i < k, fileCandidate (Text.lower name) i ∈ taken

/-- All that the search passes over is taken. -/
theorem exists_seekFile (taken : List String) (stem : String) : ∀ fuel n : Nat,
    ∃ k, seekFile taken stem fuel n = numberedFile stem (n + k) ∧
      ∀ i < k, numberedFile stem (n + i) ∈ taken
  | 0, n => ⟨0, rfl, nofun⟩
  | fuel + 1, n => by
    rw [seekFile]
    split
    · next hc =>
      obtain ⟨k, hk, hbefore⟩ := exists_seekFile taken stem fuel (n + 1)
      refine ⟨k + 1, by rw [hk, Nat.add_right_comm]; rfl, fun i hi => ?_⟩
      cases i with
      | zero => simpa using hc
      | succ i =>
        rw [Nat.add_comm i 1, ← Nat.add_assoc]
        exact hbefore i (by omega)
    · exact ⟨0, rfl, nofun⟩

theorem isFirstFree_fileNameFor (taken : List String) (name : String) :
    IsFirstFree taken name (fileNameFor taken name) := by
  refine ⟨fileNameFor_not_mem taken name, ?_⟩
  have hfirst : ∃ k, fileNameFor taken name = fileCandidate (Text.lower name) k ∧
      ∀ i < k, fileCandidate (Text.lower name) i ∈ taken := by
    rw [fileNameFor]
    split
    · next hc =>
      obtain ⟨k, hk, hbefore⟩ := exists_seekFile taken (Text.lower name) (taken.length + 1) 2
      refine ⟨k + 1, by rw [hk, Nat.add_comm 2 k]; rfl, fun i hi => ?_⟩
      cases i with
      | zero => exact List.contains_iff_mem.mp hc
      | succ i =>
        rw [fileCandidate, Nat.add_comm i 2]
        exact hbefore i (by omega)
    · exact ⟨0, rfl, fun i hi => absurd hi (Nat.not_lt_zero i)⟩
  obtain ⟨k, hk, hbefore⟩ := hfirst
  refine ⟨k, ?_, hk, hbefore⟩
  obtain ⟨i, hi, hfree⟩ := exists_not_mem (fileCandidate_inj (Text.lower name)) taken 0
  rw [Nat.zero_add] at hfree
  by_contra hlt
  exact hfree (hbefore i (by omega))

/-- Of several files, each has the first name that the files before it leave free. -/
theorem isFirstFree_giveFiles : ∀ (declarations taken : List String)
    {before : List (String × String)} {e : String × String} {after : List (String × String)},
    giveFiles taken declarations = before ++ e :: after →
      IsFirstFree (taken ++ before.map (·.2)) e.1 e.2
  | [], _, before, _, _, h => by cases before <;> cases h
  | name :: rest, taken, before, e, after, h => by
    rw [giveFiles] at h
    cases before with
    | nil =>
      cases h
      rw [List.map_nil, List.append_nil]
      exact isFirstFree_fileNameFor taken name
    | cons b before =>
      obtain ⟨rfl, hrest⟩ := List.cons.inj h
      rw [List.map_cons, List.append_cons]
      exact isFirstFree_giveFiles rest _ hrest

/-! ## The characters of a file name -/

/-- The characters in front of the extension. -/
def isFileChar (c : Char) : Bool := isLowerAscii c || isDigitAscii c || c == '_'

/-- A file name of lower-case ASCII letters, digits and underscores, and then the extension. -/
def IsSafeFile (file : String) : Prop :=
  ∃ stem : String, stem ≠ "" ∧ (∀ c ∈ stem.toList, isFileChar c = true) ∧ file = stem ++ ".zig"

theorem isFileChar_toLower {c : Char} (h : isNameChar c = true) : isFileChar c.toLower = true :=
  forall_ascii (P := fun c => isNameChar c = true → isFileChar c.toLower = true)
    (by decide +kernel) c (toNat_lt_of_isNameChar h) h

theorem isFileChar_lower {name : String} (h : Zig.isIdentifier name = true) :
    Text.lower name ≠ "" ∧ ∀ c ∈ (Text.lower name).toList, isFileChar c = true := by
  have hlegal := Zig.Reader.isLegal_of_isIdentifier h
  rw [Text.lower, lowerChars_of_isLegal hlegal, String.toList_ofList]
  constructor
  · intro hempty
    have hnil : name.toList = [] := by simpa using congrArg String.toList hempty
    rw [Zig.isIdentifier, hnil] at h
    cases h
  · intro c hc
    obtain ⟨d, hd, rfl⟩ := List.mem_map.mp hc
    exact isFileChar_toLower (hlegal d hd)

theorem isSafeFile_fileCandidate {stem : String} (hne : stem ≠ "")
    (h : ∀ c ∈ stem.toList, isFileChar c = true) (k : Nat) :
    IsSafeFile (fileCandidate stem k) := by
  cases k with
  | zero => exact ⟨stem, hne, h, rfl⟩
  | succ k =>
    refine ⟨stem ++ "_" ++ toString (k + 2), ?_, fun c hc => ?_, rfl⟩
    · intro hempty
      have hlen := congrArg String.length hempty
      simp [String.length_append] at hlen
    · rw [String.toList_append, String.toList_append, List.mem_append, List.mem_append] at hc
      rcases hc with (hc | hc) | hc
      · exact h c hc
      · rw [List.mem_singleton.mp hc]
        rfl
      · rw [Nat.toString_eq_ofList_toDigits, String.toList_ofList] at hc
        simp [isFileChar, (isDigits_toDigits (k + 2)).2 c hc]

/-- The file of a declaration with a legal name is safe. -/
theorem IsFirstFree.isSafeFile {taken : List String} {name file : String}
    (h : IsFirstFree taken name file) (hname : Zig.isIdentifier name = true) :
    IsSafeFile file := by
  obtain ⟨k, _, rfl, _⟩ := h.isFirst
  obtain ⟨hne, hchars⟩ := isFileChar_lower hname
  exact isSafeFile_fileCandidate hne hchars k

/-- A character of a safe file name is written as it is. -/
theorem literalChar_of_isFileChar {c : Char} (h : isFileChar c = true ∨ c ∈ ".zig".toList) :
    Zig.literalChar c = [c] := by
  have hascii : c.toNat < 128 := by
    rcases h with h | h
    · refine toNat_lt_of_isNameChar ?_
      simp only [isFileChar, Bool.or_eq_true] at h
      rcases h with (h | h) | h <;> simp [isNameChar, isWordChar, isLetter, h]
    · have hall : ".zig".toList.all (fun c => decide (c.toNat < 128)) = true := rfl
      exact of_decide_eq_true (List.all_eq_true.mp hall c h)
  exact forall_ascii (P := fun c => isFileChar c = true ∨ c ∈ ".zig".toList →
    Zig.literalChar c = [c]) (by decide +kernel) c hascii h

theorem IsSafeFile.isLine {file : String} (h : IsSafeFile file) : Text.IsLine file := by
  obtain ⟨stem, _, hchars, rfl⟩ := h
  refine Text.IsLine.append (fun hmem => ?_) (by decide)
  cases hchars _ hmem

/-- The literal of a safe file name needs no escapes. -/
theorem IsSafeFile.stringLiteral_eq {file : String} (h : IsSafeFile file) :
    Zig.stringLiteral file = "\"" ++ file ++ "\"" := by
  obtain ⟨stem, _, hchars, rfl⟩ := h
  have hplain : ∀ c ∈ (stem ++ ".zig").toList, Zig.literalChar c = [c] := by
    intro c hc
    rw [String.toList_append, List.mem_append] at hc
    exact literalChar_of_isFileChar (hc.imp_left (hchars c))
  have hsame : (stem ++ ".zig").toList.flatMap Zig.literalChar = (stem ++ ".zig").toList := by
    rw [List.flatMap_congr hplain, List.flatMap_singleton']
  rw [Zig.stringLiteral, Zig.literalChars, hsame, ← String.toList_inj]
  simp

/-! ## The files of a graph -/

variable {g : TypeGraph} {names : Names}

theorem Resolved.isFirstFree (h : Resolved g names) {before : List (String × String)}
    {e : String × String} {after : List (String × String)}
    (hsplit : names.files = before ++ e :: after) :
    IsFirstFree (before.map (·.2)) e.1 e.2 := by
  rw [h.files] at hsplit
  simpa using isFirstFree_giveFiles _ [] hsplit

/-- A name that has a file is declared. -/
theorem Resolved.mem_declaredNames (h : Resolved g names) {e : String × String}
    (he : e ∈ names.files) : e.1 ∈ names.declaredNames := by
  have hdeclared : e.1 ∈ names.declared g.declarations := by
    rw [← map_fst_giveFiles [] (names.declared g.declarations), ← h.files]
    exact List.mem_map_of_mem he
  refine (List.mem_append.mp hdeclared).elim (List.mem_append_left _) fun hmem => ?_
  obtain ⟨id, _, hname⟩ := List.mem_filterMap.mp hmem
  exact List.mem_append_right _ (List.mem_map_of_mem (mem_of_entryFor? hname))

theorem Resolved.isSafeFile (h : Resolved g names) {e : String × String} (he : e ∈ names.files) :
    IsSafeFile e.2 := by
  obtain ⟨before, after, hsplit⟩ := List.append_of_mem he
  obtain ⟨ns, hd⟩ := h.declared
  exact (h.isFirstFree hsplit).isSafeFile (hd.isIdentifier (h.mem_declaredNames he)).1

end ZigDecl.Names
