import ZigDecl.Text.Case

/-! # Loggers and their levels

All loggers of the library lie below one package logger, so one setup decides what all of them
show. A setup installs its handler once; later ones only change the level. -/

namespace ZigDecl.Log

def packageLogger : String := "zigtype"

def loggerName (name : String) : String :=
  if name == packageLogger || (packageLogger ++ ".").toList.isPrefixOf name.toList then name
  else packageLogger ++ "." ++ name

def levelNumbers : List (String × Int) := [("CRITICAL", 50), ("FATAL", 50), ("ERROR", 40),
  ("WARN", 30), ("WARNING", 30), ("INFO", 20), ("DEBUG", 10), ("NOTSET", 0)]

/-- The number of a level that is named in any case; a name of no level counts as a warning. -/
def levelNumber (name : String) : Int :=
  match levelNumbers.find? (·.1 == Text.upper name) with
  | some (_, number) => number
  | none => 30

/-- The level of the package logger, and the number of its handlers. -/
structure Setup where
  level : Int
  handlers : Nat
  deriving DecidableEq, Repr

def Setup.initial : Setup := ⟨0, 0⟩

/-- Set the level, and install the handler if there is none. -/
def Setup.setLevel (s : Setup) (level : Int) : Setup := ⟨level, max s.handlers 1⟩

end ZigDecl.Log
