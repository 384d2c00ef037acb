/-! # A tree of files

The files that a run can see, and the directory that it runs in. A path is a list of parts that is
followed from there, or from the root if it is absolute; the part `..` leads to the directory
above. Every part but the last has to lead to a directory, and neither a part nor the path itself
may be too long. -/

namespace ZigDecl

/-- A path split into its parts. An absolute path starts at the root. -/
structure Path where
  /-- The slashes in front as they are printed: none, one, or exactly two. -/
  root : String
  parts : List String
  deriving DecidableEq, Repr

/-- Why a path leads to nothing that can be used. -/
inductive PathError where
  /-- Nothing is there, or something else is in the way. -/
  | missing
  | tooLong
  /-- The path holds the character that ends paths. -/
  | unwritable
  deriving DecidableEq, Repr

namespace Path

/-- What is printed for the slashes in front of a path: two of them stay, and more count as one. -/
def rootOf (text : List Char) : String :=
  match (text.takeWhile (· == '/')).length with
  | 0 => ""
  | 2 => "//"
  | _ => "/"

/-- The path that a text names: repeated slashes and the part `.` do not count. -/
def ofText (text : String) : Path :=
  ⟨rootOf text.toList, (text.splitOn "/").filter fun part => part != "" && part != "."⟩

def isAbsolute (p : Path) : Bool := p.root != ""

def toText (p : Path) : String :=
  let text := p.root ++ "/".intercalate p.parts
  if text == "" then "." else text

def fileName (p : Path) : String := p.parts.getLast?.getD ""

/-- The end of the last part from its last point on, unless that point is the first or the last
character. -/
def suffix (p : Path) : String :=
  let cs := p.fileName.toList
  let after := cs.reverse.takeWhile (· != '.')
  let before := cs.length - after.length
  if after.length < cs.length && 1 < before && 0 < after.length then
    String.ofList ('.' :: after.reverse)
  else ""

def join (p : Path) (name : String) : Path :=
  let q := ofText name
  if q.isAbsolute then q else { p with parts := p.parts ++ q.parts }

/-- The greatest number of bytes in one part of a path. -/
def maxPartBytes : Nat := 255

/-- The greatest number of bytes in a path. -/
def maxBytes : Nat := 4095

/-- What is wrong with the text of a path, whatever there may be in the tree. -/
def problem? (p : Path) : Option PathError :=
  if p.toText.toList.contains '\x00' then some .unwritable
  else if maxBytes < p.toText.utf8ByteSize then some .tooLong
  else none

end Path

/-- Files with their bytes, and directories, by their parts from the root on; `here` is the
directory that relative paths start from. -/
structure Directory where
  here : List String
  files : List (List String × ByteArray)
  dirs : List (List String)

namespace Directory

def empty : Directory := ⟨[], [], []⟩

/-- Whether there is a directory at these parts. -/
def hasDir (d : Directory) (parts : List String) : Bool :=
  parts.isPrefixOf d.here || d.dirs.any (parts.isPrefixOf ·) ||
    d.files.any fun (file, _) => parts.isPrefixOf file && parts.length < file.length

/-- Whether there is a file at these parts. -/
def hasFile (d : Directory) (parts : List String) : Bool := d.files.any (·.1 == parts)

def start (d : Directory) (p : Path) : List String := if p.isAbsolute then [] else d.here

/-- The parts that a path leads to after the directory at `place`. -/
def walk (d : Directory) (place : List String) : List String → Except PathError (List String)
  | [] => .ok place
  | part :: rest =>
    if !d.hasDir place then .error .missing
    else if part == ".." then walk d place.dropLast rest
    else if Path.maxPartBytes < part.utf8ByteSize then .error .tooLong
    else walk d (place ++ [part]) rest

/-- Where a path leads, whether or not something is there. -/
def locate (d : Directory) (p : Path) : Except PathError (List String) :=
  match p.problem? with
  | some e => .error e
  | none => d.walk (d.start p) p.parts

/-- The bytes of the file that a path leads to. -/
def read (d : Directory) (p : Path) : Except PathError ByteArray := do
  let parts ← d.locate p
  match d.files.find? (·.1 == parts) with
  | some (_, bytes) => return bytes
  | none => throw .missing

/-- The tree after a file is written, if the path leads to a file or into a directory. -/
def write (d : Directory) (p : Path) (text : String) : Except PathError Directory := do
  let parts ← d.locate p
  if d.hasDir parts then throw .missing
  else
    let bytes := text.toUTF8
    if d.hasFile parts then
      return { d with files := d.files.map fun (q, old) => (q, if q == parts then bytes else old) }
    else return { d with files := d.files ++ [(parts, bytes)] }

/-- The tree after every part of a path after the directory at `place` is made a directory. -/
def makeFrom (d : Directory) (place : List String) : List String → Except PathError Directory
  | [] => .ok d
  | part :: rest =>
    if part == ".." then makeFrom d place.dropLast rest
    else
      let next := place ++ [part]
      if Path.maxPartBytes < part.utf8ByteSize then .error .tooLong
      else if d.hasFile next then .error .missing
      else if d.hasDir next then makeFrom d next rest
      else makeFrom { d with dirs := d.dirs ++ [next] } next rest

/-- The tree after a path is made a directory together with everything on the way to it. -/
def makeDirs (d : Directory) (p : Path) : Except PathError Directory :=
  match p.problem? with
  | some e => .error e
  | none => d.makeFrom (d.start p) p.parts

end Directory

end ZigDecl
