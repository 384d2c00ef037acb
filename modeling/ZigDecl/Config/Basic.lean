import ZigDecl.Config.Error

/-! # Configurations

A configuration is kept as it was given: each field may hold any value until it is checked.
`Config.problems` lists what is wrong with the generic fields, and `IsValid` says the same of a
configuration without problems. -/

namespace ZigDecl

open TextLike (lit)

/-- How code is generated. -/
structure Config (τ : Type := String) where
  /-- Whether declarations carry the visibility modifier. -/
  isPublic : Value τ
  /-- Whether every declaration has a file of its own. -/
  splitFiles : Value τ
  /-- Replaces the header comment unless it is null. -/
  leadingComments : Value τ
  /-- Whether descriptions are written as comments. -/
  addComments : Value τ
  lineEnding : Value τ
  /-- The settings of the target language. -/
  custom : Value τ
  deriving Repr

namespace Config

variable {τ : Type} [DecidableEq τ] [TextLike τ]

def default : Config τ := ⟨.bool true, .bool false, .null, .bool true, .str (lit "\n"), .obj []⟩

/-- The names of the fields in their order. -/
def fieldNames : List τ :=
  ["public", "split_files", "leading_comments", "add_comments", "line_ending", "custom"].map lit

def fields (c : Config τ) : List (τ × Value τ) :=
  fieldNames.zip [c.isPublic, c.splitFiles, c.leadingComments, c.addComments, c.lineEnding, c.custom]

/-- The configuration with the given fields; the others have their defaults. -/
def ofFields (settings : List (τ × Value τ)) : Config τ where
  isPublic := (Value.lookup (lit "public") settings).getD default.isPublic
  splitFiles := (Value.lookup (lit "split_files") settings).getD default.splitFiles
  leadingComments := (Value.lookup (lit "leading_comments") settings).getD default.leadingComments
  addComments := (Value.lookup (lit "add_comments") settings).getD default.addComments
  lineEnding := (Value.lookup (lit "line_ending") settings).getD default.lineEnding
  custom := (Value.lookup (lit "custom") settings).getD default.custom

/-- The configuration with the given fields, all of which have to be known. -/
def ofFields? (settings : List (τ × Value τ)) : Except Fault (Config τ) :=
  if settings.all fun (key, _) => fieldNames.contains key then .ok (ofFields settings)
  else .error .wrongType

def isLineEnding : Value τ → Bool
  | .str s => s == lit "\n" || s == lit "\r\n"
  | _ => false

/-- Whether a value can replace the header comment: null, or a list of texts. -/
def areComments : Value τ → Bool
  | .null => true
  | .arr items => items.all fun
    | .str _ => true
    | _ => false
  | _ => false

/-- Whether a value is true or false itself. -/
def isFlag : Value τ → Bool
  | .bool _ => true
  | _ => false

def problems (c : Config τ) : List String :=
  (if isLineEnding c.lineEnding then [] else ["Invalid line_ending: " ++ c.lineEnding.shown]) ++
  (if areComments c.leadingComments then [] else ["leading_comments must be a list of strings"]) ++
  ([("public", c.isPublic), ("split_files", c.splitFiles), ("add_comments", c.addComments)].filterMap
    fun (name, value) => if isFlag value then none else some (name ++ " must be a boolean"))

def IsValid (c : Config τ) : Prop :=
  isLineEnding c.lineEnding = true ∧ areComments c.leadingComments = true ∧
    isFlag c.isPublic = true ∧ isFlag c.splitFiles = true ∧ isFlag c.addComments = true

theorem problems_eq_nil_iff (c : Config τ) : c.problems = [] ↔ c.IsValid := by
  unfold problems IsValid
  cases isLineEnding c.lineEnding <;> cases areComments c.leadingComments <;>
    cases h₁ : isFlag c.isPublic <;> cases h₂ : isFlag c.splitFiles <;>
    cases h₃ : isFlag c.addComments <;> simp [h₁, h₂, h₃]

end Config

end ZigDecl
