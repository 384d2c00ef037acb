import ZigDecl.Proofs.Generation.Runs

/-! # What a run yields

Main statement: the files of a successful run hold all declarations in order, in one file without a
name or in one file for each of them. -/

namespace ZigDecl

open Generation
open Output (Sink Buffer File)

namespace Generation

/-- A finished file holds parts under a name, and is tidy. -/
structure Holds (c : Context) (name : Option String) (parts : List String) (file : File) :
    Prop where
  name_eq : file.name = name
  tidy : ∃ lineEnding, c.config.lineEnding = .str lineEnding ∧
    Output.tidy? lineEnding ((Buffer.ofParts parts).text lineEnding) = some file.text

/-- A finished file holds header, prelude and all declarations, and has no name. -/
def HoldsAll (c : Context) (ds : List (String × Declaration)) (file : File) : Prop :=
  ∃ parts, StreamParts c ds parts ∧ Holds c none parts file

/-- A finished file holds one declaration and what is imported for it, under the name that belongs
to the declaration. -/
def HoldsOne (c : Context) (e : String × Declaration) (file : File) : Prop :=
  ∃ name parts, FileOf c e (name, parts) ∧ Holds c (some name) parts file

variable {c : Context}

theorem tidied_eq_ok {lineEnding : String} {file done : File}
    (h : tidied lineEnding file = .ok done) :
    done.name = file.name ∧ Output.tidy? lineEnding file.text = some done.text := by
  rw [tidied] at h
  split at h
  · next text htext => cases h; exact ⟨rfl, htext⟩
  · cases h

/-- What a sink holds comes out in the finished files. -/
theorem holds_of_finishedFiles {s : Sink} {named : List (Option String × List String)}
    (hs : s.FinishedWith named) {files : List File}
    (h : finishedFiles s c.config.lineEnding = .ok files) :
    List.Forall₂ (fun e file => Holds c e.1 e.2 file) named files := by
  cases hending : c.config.lineEnding with
  | str lineEnding =>
    rw [hending, finishedFiles, hs lineEnding, mapError_ok, ok_bind] at h
    have htidied := forall₂_of_mapM h
    rw [List.forall₂_map_left_iff] at htidied
    exact htidied.imp fun e file h =>
      ⟨(tidied_eq_ok h).1, lineEnding, hending, (tidied_eq_ok h).2⟩
  | _ => rw [hending] at h; cases h

end Generation

/-- An outcome with other files. -/
def RunResult.mapFiles (f : File → File) : RunResult → RunResult
  | .success files warnings facts => .success (files.map f) warnings facts
  | .failure message cause => .failure message cause

namespace Generator

variable {gen : Generator} {g : TypeGraph}

theorem result_run (gen : Generator) (g : TypeGraph) :
    (gen.run g).result = (gen.conclude g (gen.generate g).result).result := rfl

theorem result_generate_error {e : NameError} (htops : g.topLevels ≠ [])
    (hnames : (Names.resolve g).result = .error e) :
    (gen.generate g).result = .error (.naming e) := by
  rw [generate, generateWith, if_neg (by simp [htops])]
  simp only [Logged.result_bind, Logged.result_mapError, Logged.result_liftM, hnames]
  rfl

/-- How a run ends does not depend on what is in its files. -/
theorem result_conclude_map (f : File → File) {other : Generator}
    (hsplit : other.config.splitFiles = gen.config.splitFiles)
    (done : Except Failure (List File × List String)) :
    (other.conclude g ((fun d => (d.1.map f, d.2)) <$> done)).result =
      RunResult.mapFiles f <$> (gen.conclude g done).result := by
  cases done with
  | error e => cases e <;> rfl
  | ok done =>
    show Except.ok _ = Except.ok _
    simp only [facts, List.length_map, hsplit]
    rfl

/-- A run is only successful if all its steps are. -/
theorem steps_of_run {files : List File} {warnings : List String} {facts : List (String × Value)}
    (h : (gen.run g).result = .ok (.success files warnings facts)) :
    ∃ names s, (Names.resolve g).result = .ok names ∧
      (gen.emission (gen.context g names)
        (.new gen.config.splitFiles.isTruthy Names.fileExtension)).result = .ok s ∧
      finishedFiles s.1 gen.config.lineEnding = .ok files ∧ warnings = g.warnings ++ s.2 := by
  rw [run, runWith] at h
  cases hdone : (gen.generateWith gen.emission g).result with
  | error e =>
    rw [hdone] at h
    cases e <;> cases h
  | ok done =>
    rw [hdone] at h
    cases h
    rw [generateWith] at hdone
    split at hdone
    · cases hdone
    · simp only [Logged.result_bind, Logged.result_mapError, Logged.result_liftM] at hdone
      obtain ⟨names, hnames, hdone⟩ := exists_of_bind_eq_ok hdone
      obtain ⟨s, hemit, hdone⟩ := exists_of_bind_eq_ok hdone
      obtain ⟨finished, hfinished, hdone⟩ := exists_of_bind_eq_ok hdone
      cases hdone
      exact ⟨names, s, eq_ok_of_mapError_eq_ok hnames, hemit, hfinished, rfl⟩

/-- The files of a successful run hold all declarations in order. -/
theorem files_of_run (hw : g.WellFormed) {files : List File} {warnings : List String}
    {facts : List (String × Value)} (h : (gen.run g).result = .ok (.success files warnings facts)) :
    ∃ names ds, (Names.resolve g).result = .ok names ∧ Ordered (gen.context g names) ds ∧
      (gen.config.splitFiles.isTruthy = false →
        ∃ all, files = [all] ∧ HoldsAll (gen.context g names) ds all) ∧
      (gen.config.splitFiles.isTruthy = true →
        List.Forall₂ (HoldsOne (gen.context g names)) ds files) := by
  obtain ⟨names, s, hnames, hemit, hfinished, -⟩ := steps_of_run h
  have hc : (gen.context g names).Named := ⟨hw, Names.resolved_of_resolve hw hnames⟩
  have hholds : ∀ {named}, s.1.FinishedWith named →
      List.Forall₂ (fun e file => Holds (gen.context g names) e.1 e.2 file) named files :=
    fun hs => holds_of_finishedFiles hs hfinished
  obtain ⟨ds, hds, hordered⟩ := exists_declarations hc.wellFormed hc.names
  cases hsplit : gen.config.splitFiles.isTruthy with
  | false =>
    rw [emission, hsplit] at hemit
    obtain ⟨parts, hparts, hs⟩ := hc.parts_of_emitSingle hds hemit
    obtain ⟨all, rest, hall, hrest, rfl⟩ := List.forall₂_cons_left_iff.mp (hholds hs)
    obtain rfl := List.forall₂_nil_left_iff.mp hrest
    exact ⟨names, ds, hnames, hordered, fun _ => ⟨all, rfl, parts, hparts, hall⟩, nofun⟩
  | true =>
    rw [emission, hsplit] at hemit
    obtain ⟨named, hnamed, hs⟩ := hc.files_of_emitSplit hds hemit
    have hfiles := List.forall₂_map_left_iff.mp (hholds hs)
    refine ⟨names, ds, hnames, hordered, nofun, fun _ => ?_⟩
    exact forall₂_trans (fun _ file _ hof hfile => ⟨file.1, file.2, hof, hfile⟩) hnamed hfiles

end Generator

end ZigDecl
