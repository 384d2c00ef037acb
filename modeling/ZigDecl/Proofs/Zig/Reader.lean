import Mathlib.Data.List.Basic
import ZigDecl.Proofs.Name.Identifier
import ZigDecl.Proofs.Zig.Decode

/-! # Reading declarations

A record or an enumeration is read from its lines, one after the other, without anything known of
what they were made from: its name, its members with the texts of their types, and the blocks behind
them with what their literals stand for. A line that is none of those that can come next stops the
reader. -/

namespace ZigDecl.Zig

/-- What can be read back. -/
inductive Kind where
  | struct | enum
  deriving DecidableEq, Repr

/-- What follows the name of a declaration on its first line. -/
def Kind.opening : Kind → String
  | .struct => " = struct \x7b"
  | .enum => " = enum \x7b"

/-- What was read of a declaration; only the members of records have types. -/
structure Transcript where
  kind : Kind
  name : String
  members : List (String × Option String)
  /-- The blocks with their names, identifiers and external names. -/
  blocks : List (String × List (String × String))
  deriving DecidableEq, Repr

namespace Reader

/-! ## Lines -/

/-- The identifier that a text starts with, and what comes behind it. -/
def word? (cs : List Char) : Option (String × List Char) :=
  let name := String.ofList (cs.takeWhile Name.isNameChar)
  if isIdentifier name then some (name, cs.dropWhile Name.isNameChar) else none

/-- A text without the visibility modifier at its start. -/
def withoutPub (cs : List Char) : List Char := (cs.dropPrefix? "pub ".toList).getD cs

def isDoc (line : List Char) : Bool := "///".toList.isPrefixOf line

def isMemberDoc (line : List Char) : Bool := "    ///".toList.isPrefixOf line

/-- The first line of a declaration. -/
def opening? (line : List Char) : Option Transcript := do
  let (name, rest) ← word? (← (withoutPub line).dropPrefix? "const ".toList)
  let kind ← [Kind.struct, .enum].find? fun kind => kind.opening.toList == rest
  return ⟨kind, name, [], []⟩

/-- A field of a record, or a case. -/
def member? (kind : Kind) (line : List Char) : Option (String × Option String) := do
  let (name, rest) ← word? (← line.dropPrefix? "    ".toList)
  match kind with
  | .struct =>
    let type ← (← rest.dropPrefix? ": ".toList).dropSuffix? ",".toList
    return (name, some (String.ofList type))
  | .enum => if rest == ",".toList then return (name, none) else none

/-- The first line of a block, with its name in quotation marks. -/
def block? (line : List Char) : Option String := do
  let cs ← (withoutPub (← line.dropPrefix? "    ".toList)).dropPrefix? "const @\"".toList
  let rest := cs.dropWhile (· != '"')
  if rest == "\" = struct \x7b".toList then return String.ofList (cs.takeWhile (· != '"'))
  else none

/-- The second line of a block. -/
def isAttributes (line : List Char) : Bool :=
  ((line.dropPrefix? "        ".toList).map withoutPub) == some "const attributes = .\x7b".toList

/-- An identifier, and the text that the literal in its entry stands for. -/
def renaming? (line : List Char) : Option (String × String) := do
  let (name, rest) ← word? (← line.dropPrefix? "            .".toList)
  let literal ← (← rest.dropPrefix? " = .\x7b .rename = ".toList).dropSuffix? ", \x7d,".toList
  return (name, String.ofList (← decode? literal))

/-! ## The reader -/

/-- Where in a declaration the reader is; it keeps what it has read of an open block. -/
inductive Position where
  | members
  /-- Behind the empty line in front of a block. -/
  | gap
  | block (name : String)
  | entries (name : String) (entries : List (String × String))
  | blockEnd (name : String) (entries : List (String × String))
  /-- Behind a block. -/
  | blocks
  | closed

inductive State where
  | start
  | within (r : Transcript) (position : Position)

def step : State → List Char → Option State
  | .start, line => if isDoc line then some .start else (opening? line).map (.within · .members)
  | .within r .members, line =>
    if line.isEmpty then some (.within r .gap)
    else if line == "\x7d;".toList then some (.within r .closed)
    else if isMemberDoc line then some (.within r .members)
    else (member? r.kind line).map fun m =>
      .within { r with members := r.members ++ [m] } .members
  | .within r .gap, line => (block? line).map fun name => .within r (.block name)
  | .within r (.block name), line =>
    if isAttributes line then some (.within r (.entries name [])) else none
  | .within r (.entries name entries), line =>
    if line == "        \x7d;".toList then some (.within r (.blockEnd name entries))
    else (renaming? line).map fun e => .within r (.entries name (entries ++ [e]))
  | .within r (.blockEnd name entries), line =>
    if line == "    \x7d;".toList then
      some (.within { r with blocks := r.blocks ++ [(name, entries)] } .blocks)
    else none
  | .within r .blocks, line =>
    if line.isEmpty then some (.within r .gap)
    else if line == "\x7d;".toList then some (.within r .closed)
    else none
  | .within _ .closed, _ => none

def run (s : State) (lines : List (List Char)) : Option State := lines.foldlM step s

/-- The declaration that lines are, from its description to its end. -/
def read (lines : List (List Char)) : Option Transcript :=
  (run .start lines).bind fun
    | .within r .closed => some r
    | _ => none

theorem run_cons (s : State) (line : List Char) (lines : List (List Char)) :
    run s (line :: lines) = (step s line).bind (run · lines) := rfl

theorem run_append (s : State) (lines more : List (List Char)) :
    run s (lines ++ more) = (run s lines).bind (run · more) := List.foldlM_append

/-- Lines that the reader passes over. -/
theorem run_of_step_eq {s : State} {lines : List (List Char)}
    (h : ∀ line ∈ lines, step s line = some s) : run s lines = some s := by
  induction lines with
  | nil => rfl
  | cons line lines ih =>
    rw [run_cons, h line (by simp), Option.bind_some]
    exact ih fun l hl => h l (List.mem_cons_of_mem _ hl)

/-! ## Words -/

theorem isLegal_of_isIdentifier {name : String} (h : isIdentifier name = true) :
    Name.IsLegal name.toList := by
  rw [isIdentifier, Bool.and_eq_true] at h
  cases hcs : name.toList with
  | nil => exact nofun
  | cons c cs =>
    simp only [hcs, hasIdentifierForm, Bool.and_eq_true, Bool.or_eq_true] at h
    rintro d (_ | ⟨_, hd⟩)
    · rcases h.1.1 with hc | hc
      · simp [Name.isNameChar, Name.isWordChar, hc]
      · simp [Name.isNameChar, hc]
    · exact List.all_eq_true.mp h.1.2 d hd

/-- A word ends where no letter, digit or underscore follows. -/
theorem word?_append {name : String} (h : isIdentifier name = true) {c : Char}
    (hc : Name.isNameChar c = false) (cs : List Char) :
    word? (name.toList ++ c :: cs) = some (name, c :: cs) := by
  have hlegal := isLegal_of_isIdentifier h
  simp only [word?, List.takeWhile_append_of_pos hlegal, List.dropWhile_append_of_pos hlegal]
  rw [List.takeWhile_cons_of_neg (by simp [hc]), List.dropWhile_cons_of_neg (by simp [hc]),
    List.append_nil, String.ofList_toList, if_pos h]

theorem dropPrefix?_append (p cs : List Char) : (p ++ cs).dropPrefix? p = some cs :=
  List.dropPrefix?_eq_some_iff.mpr ⟨p, rfl, by simp⟩

theorem dropSuffix?_append (cs s : List Char) : (cs ++ s).dropSuffix? s = some cs :=
  List.dropSuffix?_eq_some_iff.mpr ⟨s, rfl, by simp⟩

end Reader

end ZigDecl.Zig
