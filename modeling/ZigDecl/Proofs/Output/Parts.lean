import Mathlib.Data.List.Basic
import ZigDecl.Output.Sink
import ZigDecl.Output.Tidy

/-! # Parts of a file

A file is emitted part by part, with one empty line between them. Main statements: a sink that is
opened, written to and closed has one file more, of the parts that were emitted. -/

namespace ZigDecl.Output

namespace Buffer

/-- The buffer with one more part, after an empty line. -/
def emitPart (b : Buffer) (text : String) : Buffer := b.ensureBlankLine.emit text

/-- Parts emitted one after the other. -/
def ofParts (parts : List String) : Buffer := parts.foldl emitPart .empty

theorem ofParts_append (parts more : List String) :
    ofParts (parts ++ more) = more.foldl emitPart (ofParts parts) := by
  rw [ofParts, List.foldl_append]
  rfl

theorem ofParts_concat (parts : List String) (text : String) :
    ofParts (parts ++ [text]) = (ofParts parts).emitPart text := ofParts_append parts [text]

end Buffer

namespace Sink

variable {s : Sink}

/-- A sink is finished with buffers of parts, one after the other, under names or without. -/
def FinishedWith (s : Sink) (named : List (Option String × List String)) : Prop :=
  ∀ lineEnding, s.finished lineEnding =
    .ok (named.map fun e => ⟨e.1, (Buffer.ofParts e.2).text lineEnding⟩)

/-! ## Split output -/

/-- A sink between two files: it keeps named buffers, and none is open. -/
structure IsIdle (s : Sink) : Prop where
  isSplit : s.isSplit = true
  current : s.current = none

/-- The sink with one more file, which is finished. -/
def withFile (s : Sink) (file : String) (b : Buffer) : Sink :=
  { s with files := s.files ++ [(file, b)] }

/-- The sink with one more file, which is still open. -/
def writing (s : Sink) (file : String) (b : Buffer) : Sink :=
  { s with files := s.files ++ [(file, b)], current := some file }

theorem isIdle_new (extension : String) : (new true extension).IsIdle := ⟨rfl, rfl⟩

theorem IsIdle.withFile (h : s.IsIdle) (file : String) (b : Buffer) :
    (s.withFile file b).IsIdle := ⟨h.isSplit, h.current⟩

theorem fileFor_of_ne {name file : String} (h : file ≠ "") :
    s.fileFor name (some file) = file := by
  rw [fileFor]
  exact h

/-- A buffer is opened under a file name that was not used before. -/
theorem IsIdle.open_eq (h : s.IsIdle) (name : String) {file : String} (hne : file ≠ "")
    (hfree : file ∉ s.files.map (·.1)) : s.open name (some file) = .ok (s.writing file .empty) := by
  have hany : s.files.any (·.1 == file) = false := by
    rw [List.any_eq_false]
    intro e he heq
    exact hfree (List.mem_map.mpr ⟨e, he, beq_iff_eq.mp heq⟩)
  rw [Sink.open, h.current, h.isSplit, if_pos rfl, fileFor_of_ne hne]
  simp only [hany, writing, h.isSplit]
  rfl

theorem modifyLast_concat (f : Buffer → Buffer) (name : String) (b : Buffer) :
    ∀ (files : List (String × Buffer)),
      modifyLast f (files ++ [(name, b)]) = files ++ [(name, f b)]
  | [] => rfl
  | entry :: rest => by
    obtain ⟨e, es, he⟩ : ∃ e es, rest ++ [(name, b)] = e :: es :=
      List.exists_cons_of_ne_nil (by simp)
    have ih := modifyLast_concat f name b rest
    rw [he] at ih
    rw [List.cons_append, he, modifyLast, ih]
    · rfl
    · simp

theorem IsIdle.modify_writing (h : s.IsIdle) (f : Buffer → Buffer) (file : String) (b : Buffer) :
    (s.writing file b).modify f = s.writing file (f b) := by
  have hsplit : (s.writing file b).isSplit = true := h.isSplit
  rw [modify, if_pos hsplit, writing, writing]
  simp only [modifyLast_concat]

theorem IsIdle.close_writing (h : s.IsIdle) (file : String) (b : Buffer) :
    (s.writing file b).close = .ok (s.withFile file b) := by
  rw [Sink.withFile, h.current]
  rfl

theorem IsIdle.finished_eq (h : s.IsIdle) (lineEnding : String) :
    s.finished lineEnding = .ok (s.files.map fun (name, b) => ⟨some name, b.text lineEnding⟩) := by
  rw [finished, h.current, h.isSplit]
  rfl

/-! ## One stream -/

/-- A sink that collects everything in one stream, which is open under a name. -/
def streaming (extension name : String) (b : Buffer) : Sink := ⟨false, extension, b, [], some name⟩

theorem open_new (extension name : String) :
    (new false extension).open name none = .ok (streaming extension name .empty) := rfl

theorem modify_streaming (f : Buffer → Buffer) (extension name : String) (b : Buffer) :
    (streaming extension name b).modify f = streaming extension name (f b) := rfl

end Sink

/-- A text can be tidied as long as lines end with something. -/
theorem exists_tidy {lineEnding : String} (h : lineEnding ≠ "") (text : String) :
    ∃ tidied, tidy? lineEnding text = some tidied := ⟨_, if_neg h⟩

end ZigDecl.Output
