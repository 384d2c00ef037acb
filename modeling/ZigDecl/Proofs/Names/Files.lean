import ZigDecl.Names.Resolve
import ZigDecl.Proofs.Name.Numbered

/-! # The names of files

A declaration whose file name is taken gets a numbered one. Main statement: the files of several
declarations have different names, and none of them is empty. -/

namespace ZigDecl.Names

open ZigDecl.Name

theorem numberedFile_inj (stem : String) {i j : Nat}
    (h : numberedFile stem i = numberedFile stem j) :
    i = j := by
  have htext := congrArg String.toList h
  simp only [numberedFile, String.toList_append, List.append_assoc] at htext
  have hdigits := List.append_cancel_right (List.append_cancel_left (List.append_cancel_left htext))
  have hvalue := congrArg (Nat.ofDigitChars 10 · 0) hdigits
  simpa [Nat.toString_eq_ofList_toDigits] using hvalue

/-- The search ends at a free file name as soon as one of the candidates is free. -/
theorem seekFile_not_mem {taken : List String} {stem : String} : ∀ {fuel n : Nat},
    (∃ i < fuel, numberedFile stem (n + i) ∉ taken) → seekFile taken stem fuel n ∉ taken
  | 0, _, h => by
    obtain ⟨i, hi, _⟩ := h
    omega
  | fuel + 1, n, h => by
    rw [seekFile]
    split
    · next hc =>
      apply seekFile_not_mem
      obtain ⟨i, hi, hfree⟩ := h
      cases i with
      | zero => exact absurd (by simpa using hc) hfree
      | succ i => exact ⟨i, by omega, by rwa [Nat.add_right_comm]⟩
    · next hc => simpa using hc

theorem fileNameFor_not_mem (taken : List String) (name : String) :
    fileNameFor taken name ∉ taken := by
  rw [fileNameFor]
  split
  · exact seekFile_not_mem (exists_not_mem (numberedFile_inj _) taken 2)
  · next hc => simpa using hc

theorem exists_seekFile_eq (taken : List String) (stem : String) : ∀ (fuel n : Nat),
    ∃ before, seekFile taken stem fuel n = before ++ fileExtension
  | 0, n => ⟨stem ++ "_" ++ toString n, rfl⟩
  | fuel + 1, n => by
    rw [seekFile]
    split
    · exact exists_seekFile_eq taken stem fuel (n + 1)
    · exact ⟨stem ++ "_" ++ toString n, rfl⟩

/-- Every file name ends with the extension. -/
theorem exists_fileNameFor_eq (taken : List String) (name : String) :
    ∃ before, fileNameFor taken name = before ++ fileExtension := by
  rw [fileNameFor]
  split
  · exact exists_seekFile_eq taken _ _ 2
  · exact ⟨_, rfl⟩

theorem fileNameFor_ne_empty (taken : List String) (name : String) :
    fileNameFor taken name ≠ "" := by
  obtain ⟨before, h⟩ := exists_fileNameFor_eq taken name
  rw [h]
  intro hempty
  have := congrArg String.toList hempty
  simp [fileExtension] at this

@[simp] theorem map_fst_giveFiles : ∀ (taken declarations : List String),
    (giveFiles taken declarations).map (·.1) = declarations
  | _, [] => rfl
  | taken, name :: rest => by
    rw [giveFiles, List.map_cons, map_fst_giveFiles]

theorem nodup_giveFiles : ∀ (declarations taken : List String),
    ((giveFiles taken declarations).map (·.2)).Nodup ∧
      ∀ file ∈ (giveFiles taken declarations).map (·.2), file ∉ taken ∧ file ≠ ""
  | [], _ => ⟨List.nodup_nil, by simp [giveFiles]⟩
  | name :: rest, taken => by
    obtain ⟨hnodup, hnew⟩ := nodup_giveFiles rest (taken ++ [fileNameFor taken name])
    rw [giveFiles, List.map_cons]
    refine ⟨List.nodup_cons.mpr ⟨fun h => (hnew _ h).1 (by simp), hnodup⟩, ?_⟩
    rintro file (_ | ⟨_, h⟩)
    · exact ⟨fileNameFor_not_mem taken name, fileNameFor_ne_empty taken name⟩
    · exact ⟨fun ht => (hnew file h).1 (List.mem_append_left _ ht), (hnew file h).2⟩

end ZigDecl.Names
