import ZigDecl.Failure
import ZigDecl.Value.Shown

/-! # The values that a template can see

A name that is bound to nothing, and an attribute that a value does not have, may be passed on but
not used: whoever asks for the value gets the reason why there is none. -/

namespace ZigDecl.Template

/-- A value, or the reason why there is none. -/
abbrev Slot := Except TemplateCause Value

/-- What each name stands for; of several bindings of a name the first counts. -/
abbrev Scope := List (String × Slot)

namespace Scope

/-- The scope in which the members of an object are bound. -/
def ofMembers (members : List (String × Value)) : Scope := members.map fun (k, v) => (k, .ok v)

def slot (s : Scope) (name : String) : Slot :=
  match s.find? (·.1 == name) with
  | some (_, slot) => slot
  | none => .error (.undefined (Text.quoted name ++ " is undefined"))

def text (s : Scope) (name : String) : Except TemplateCause String := Value.display <$> s.slot name

def bind (s : Scope) (name : String) (slot : Slot) : Scope := (name, slot) :: s

end Scope

/-- What a message calls a value that lacks an attribute. -/
def kindName : Value → String
  | .null => "None"
  | .bool _ => "bool object"
  | .int _ => "int object"
  | .float _ => "float object"
  | .str _ => "str object"
  | .arr _ => "list object"
  | .obj _ => "dict object"

/-- The attribute of a value: a member of an object. -/
def memberOf (v : Value) (name : String) : Slot :=
  match v.get? name with
  | some member => .ok member
  | none => .error
      (.undefined (Text.quoted (kindName v) ++ " has no attribute " ++ Text.quoted name))

def memberText (v : Value) (name : String) : Except TemplateCause String :=
  Value.display <$> memberOf v name

/-- The values that a loop goes through: the items of a list, the characters of a text, the keys of
an object. -/
def itemsOf : Value → Except TemplateCause (List Value)
  | .arr items => .ok items
  | .str s => .ok (s.toList.map fun c => .str c.toString)
  | .obj members => .ok (members.map fun (k, _) => .str k)
  | _ => .error (.fault .wrongType)

/-- Go through the values of a slot and join the texts made of them. -/
def forEach (slot : Slot) (body : Value → Except TemplateCause String) :
    Except TemplateCause String := do
  return String.join (← (← itemsOf (← slot)).mapM body)

end ZigDecl.Template
