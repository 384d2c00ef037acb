import ZigDecl.File.Directory

/-! # Files that are written

Writing a file takes no directory away, so a path leads to the same place before and after. Main
statement: what is written under a path is read under it. -/

namespace ZigDecl.Directory

variable {d d' : Directory}

/-- Where every directory is still there, a path leads on as before. -/
theorem walk_of_hasDir (h : ∀ parts, d.hasDir parts = true → d'.hasDir parts = true)
    {parts : List String} : ∀ {rest place : List String}, d.walk place rest = .ok parts →
      d'.walk place rest = .ok parts
  | [], _, hwalk => hwalk
  | part :: rest, place, hwalk => by
    rw [walk] at hwalk ⊢
    cases hplace : d.hasDir place with
    | false => simp [hplace] at hwalk
    | true =>
      rw [hplace] at hwalk
      rw [h place hplace]
      -- up, or into a part that is not too long
      by_cases hup : part = ".."
      · simp only [hup, Bool.not_true, Bool.false_eq_true, if_false, beq_self_eq_true, if_true]
          at hwalk ⊢
        exact walk_of_hasDir h hwalk
      · have hup : (part == "..") = false := by simpa using hup
        simp only [hup, Bool.not_true, Bool.false_eq_true, if_false] at hwalk ⊢
        split at hwalk
        · cases hwalk
        · next hlen =>
          rw [if_neg hlen]
          exact walk_of_hasDir h hwalk

/-- With the same files and maybe more of them, no directory is gone. -/
theorem hasDir_of_files {files : List (List String × ByteArray)}
    (hfiles : ∀ file ∈ d.files.map (·.1), file ∈ files.map (·.1)) (parts : List String)
    (h : d.hasDir parts = true) : ({ d with files } : Directory).hasDir parts = true := by
  simp only [hasDir, Bool.or_eq_true, List.any_eq_true] at h ⊢
  refine h.imp_right ?_
  rintro ⟨file, hfile, hinside⟩
  obtain ⟨other, hother, heq⟩ := List.mem_map.mp (hfiles file.1 (List.mem_map_of_mem hfile))
  exact ⟨other, hother, by rw [heq]; exact hinside⟩

theorem locate_of_files {files : List (List String × ByteArray)}
    (hfiles : ∀ file ∈ d.files.map (·.1), file ∈ files.map (·.1)) {p : Path} {parts : List String}
    (hlocate : d.locate p = .ok parts) : ({ d with files } : Directory).locate p = .ok parts := by
  rw [locate] at hlocate ⊢
  cases hproblem : p.problem? with
  | some e => simp [hproblem] at hlocate
  | none =>
    simp only [hproblem] at hlocate ⊢
    exact walk_of_hasDir (hasDir_of_files hfiles) hlocate

theorem read_of_locate {p : Path} {parts : List String} (hlocate : d.locate p = .ok parts)
    {bytes : ByteArray} (h : d.files.find? (·.1 == parts) = some (parts, bytes)) :
    d.read p = .ok bytes := by
  simp only [read, hlocate, bind, Except.bind, h]
  rfl

/-- What is written under a path is read under it. -/
theorem read_of_write {p : Path} {text : String} (h : d.write p text = .ok d') :
    d'.read p = .ok text.toUTF8 := by
  rw [write] at h
  cases hlocate : d.locate p with
  | error e => rw [hlocate] at h; cases h
  | ok parts =>
    simp only [hlocate, bind, Except.bind] at h
    split at h
    · cases h
    · rw [hasFile, ← List.isSome_find?] at h
      cases hfound : d.files.find? (·.1 == parts) with
      | some found =>
        -- the file was there, and its bytes are replaced
        simp only [hfound, Option.isSome_some, if_true] at h
        cases h
        refine read_of_locate (locate_of_files ?_ hlocate) ?_
        · intro file hmem
          simpa [List.map_map] using hmem
        · have hsame : found.1 = parts := by simpa using List.find?_some hfound
          have hkeys : (fun e : List String × ByteArray => e.1 == parts) ∘
              (fun e : List String × ByteArray =>
                (e.1, if e.1 == parts then text.toUTF8 else e.2)) = fun e => e.1 == parts := rfl
          rw [List.find?_map, hkeys, hfound]
          simp [hsame]
      | none =>
        -- the file is new and comes behind the others
        simp only [hfound, Option.isSome_none, Bool.false_eq_true, if_false] at h
        cases h
        refine read_of_locate (locate_of_files ?_ hlocate) ?_
        · intro file hmem
          rw [List.map_append]
          exact List.mem_append_left _ hmem
        · rw [List.find?_append, hfound]
          simp

/-- Whether a path can be written does not depend on what is written. -/
theorem exists_write {p : Path} {text : String} (h : d.write p text = .ok d') (other : String) :
    ∃ written, d.write p other = .ok written := by
  rw [write] at h ⊢
  cases hlocate : d.locate p with
  | error e => rw [hlocate] at h; cases h
  | ok parts =>
    simp only [hlocate, bind, Except.bind] at h ⊢
    split at h
    · cases h
    · next hdir =>
      rw [if_neg hdir]
      split <;> exact ⟨_, rfl⟩

end ZigDecl.Directory
