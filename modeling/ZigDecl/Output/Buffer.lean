import ZigDecl.Text.Blank
import ZigDecl.Text.Lines

/-! # Line buffers

Generated text is collected line by line and gets its line endings only when it is read back. -/

namespace ZigDecl.Output

/-- Lines of text in the order in which they were emitted. -/
structure Buffer where
  lines : List String
  deriving DecidableEq, Repr

namespace Buffer

def empty : Buffer := ⟨[]⟩

def emitLine (b : Buffer) (line : String) : Buffer := ⟨b.lines ++ [line]⟩

/-- Emit a block of text, one line for each of its lines; line feeds at its end do not count. -/
def emit (b : Buffer) (text : String) : Buffer :=
  ⟨b.lines ++ Text.splitLines (Text.stripLineFeeds text)⟩

/-- Emit an empty line unless there is no line yet or the last one is empty. -/
def ensureBlankLine (b : Buffer) : Buffer :=
  match b.lines.getLast? with
  | none => b
  | some last => if last == "" then b else b.emitLine ""

def text (b : Buffer) (lineEnding : String) : String :=
  if b.lines.isEmpty then "" else lineEnding.intercalate b.lines ++ lineEnding

@[simp] theorem lines_emitLine (b : Buffer) (line : String) :
    (b.emitLine line).lines = b.lines ++ [line] := rfl

@[simp] theorem lines_emit (b : Buffer) (text : String) :
    (b.emit text).lines = b.lines ++ Text.splitLines (Text.stripLineFeeds text) := rfl

end Buffer

end ZigDecl.Output
