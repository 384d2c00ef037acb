import ZigDecl.CommandLine.Run

/-! # The program

The outer layer: it reads the files that a command line names and standard input, runs the command
line on them, and carries out what the run wrote, printed and logged. It has no access to the web,
so every request finds no connection. -/

namespace ZigDecl.Main

open CommandLine

/-- The text of a place below the root. -/
def placeText (parts : List String) : String := "/" ++ "/".intercalate parts

def workingParts : IO (List String) := do
  let here ← IO.FS.realPath "."
  return (Path.ofText (toString here)).parts

/-- Whether there is a directory at a place. -/
def isDirectory (parts : List String) : IO Bool := do
  try
    let _ ← IO.FS.realPath (placeText parts ++ "/.")
    return true
  catch _ => return false

/-- The files at some places, as far as they can be read. -/
def readFiles : List (List String) → IO (List (List String × ByteArray))
  | [] => return []
  | parts :: rest => do
    let others ← readFiles rest
    try
      let bytes ← IO.FS.readBinFile (placeText parts)
      return (parts, bytes) :: others
    catch _ => return others

/-- The places that a path leads through from a working directory, the last one first, whatever
there may be on the way. -/
def placesOf (here : List String) (name : String) : List (List String) :=
  let p := Path.ofText name
  p.parts.foldl
    (fun places part =>
      let place := places.head?.getD []
      (if part == ".." then place.dropLast else place ++ [part]) :: places)
    [if p.isAbsolute then [] else here]

/-- The part of the file system that a run can look at. -/
def loadTree (a : Arguments) : IO Directory := do
  let here ← workingParts
  let files := a.file.toList ++ a.config.toList ++ a.output.toList
  let places := (files ++ a.outDir.toList).flatMap (placesOf here)
  let targets := files.map fun name => (placesOf here name).head?.getD []
  return ⟨here, ← readFiles targets, ← places.filterM isDirectory⟩

def storeTree (before after : Directory) : IO Unit := do
  for parts in after.dirs do
    if !before.dirs.contains parts then IO.FS.createDirAll (placeText parts)
  for (parts, bytes) in after.files do
    if !(before.files.any fun (p, old) => p == parts && old == bytes) then
      IO.FS.writeBinFile (placeText parts) bytes

def report (o : Outcome) : IO Unit := do
  for e in o.log do
    (← IO.getStderr).putStrLn (e.level.name ++ " " ++ e.text)
  (← IO.getStderr).putStr o.stderr
  (← IO.getStdout).putStr o.stdout

/-- Run a command line; the result is the exit code. -/
def runWords (words : List String) : IO UInt32 := do
  let (tree, stdin) ← match Arguments.ofWords words with
    | .error _ => pure (Directory.empty, "")
    | .ok a => do
      let stdin ← if a.stdin then (← IO.getStdin).readToEnd else pure ""
      pure (← loadTree a, stdin)
  match run ⟨tree, stdin, .noConnection⟩ words with
  | .ok o => do
    storeTree tree o.files
    report o
    return o.exitCode.toUInt32
  | .error _ => do
    (← IO.getStderr).putStrLn (programName ++ ": the input cannot be used")
    return 1

end ZigDecl.Main

def main (words : List String) : IO UInt32 := ZigDecl.Main.runWords words
