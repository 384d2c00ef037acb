import ZigDecl.Registry.Error
import ZigDecl.Text.Case

/-! # Registered languages

A registry maps languages to factories and aliases to languages; names count in lower case. A
registration is kept unless it is to be replaced, and an alias may not be taken from another
language except by a replacement. -/

namespace ZigDecl

/-- A registered language with its factory and its aliases. -/
structure Registration (φ : Type) where
  language : String
  factory : φ
  aliases : List String
  deriving Repr, DecidableEq

/-- Registered languages, and the language that each alias stands for. -/
structure Registry (φ : Type) where
  registrations : List (Registration φ)
  aliases : List (String × String)
  deriving Repr, DecidableEq

namespace Registry

variable {φ : Type}

def empty : Registry φ := ⟨[], []⟩

/-- The registration of a language under its name in lower case. -/
def find? (r : Registry φ) (key : String) : Option (Registration φ) :=
  r.registrations.find? (·.language == key)

/-- Whether a language is registered under its name in lower case. -/
def has (r : Registry φ) (key : String) : Bool := (r.find? key).isSome

def aliasTarget? (r : Registry φ) (key : String) : Option String :=
  (r.aliases.find? (·.1 == key)).map (·.2)

/-- The aliases that count for a language: in lower case, and other than its name. -/
def aliasKeys (key : String) (aliases : List String) : List String :=
  (aliases.map Text.lower).filter (· != key)

/-- What stands against an alias for a language. -/
def conflict? (r : Registry φ) (key name : String) : Option RegistryError :=
  if r.has name then some (.aliasIsLanguage name)
  else
    match r.aliasTarget? name with
    | some target => if target == key then none else some (.aliasTaken name target)
    | none => none

def setAlias (key : String) (aliases : List (String × String)) (name : String) :
    List (String × String) :=
  if aliases.any (·.1 == name) then
    aliases.map fun (a, target) => (a, if a == name then key else target)
  else aliases ++ [(name, key)]

/-- Put a registration in the place of the one for the same language, or after the others. -/
def setRegistration (new : Registration φ) (present : List (Registration φ)) :
    List (Registration φ) :=
  if present.any (·.language == new.language) then
    present.map fun old => if old.language == new.language then new else old
  else present ++ [new]

/-- Register a language. Nothing happens if it is registered and not to be replaced. -/
def register (r : Registry φ) (language : String) (factory : φ) (aliases : List String)
    (replace : Bool) : Except RegistryError (Registry φ) :=
  let key := Text.lower language
  if r.has key && !replace then .ok r
  else
    let keys := aliasKeys key aliases
    match if replace then none else keys.findSome? (r.conflict? key) with
    | some e => .error e
    | none => .ok {
        registrations := setRegistration ⟨key, factory, keys⟩ r.registrations
        aliases := keys.foldl (setAlias key) r.aliases }

/-- Remove a language and the aliases that it was registered with. -/
def unregister (r : Registry φ) (language : String) : Registry φ :=
  let key := Text.lower language
  match r.find? key with
  | none => r
  | some old => {
      registrations := r.registrations.filter (·.language != key)
      aliases := r.aliases.filter fun (a, _) => !old.aliases.contains a }

/-- The registered languages in the order of their names. -/
def languages (r : Registry φ) : List String :=
  (r.registrations.map (·.language)).mergeSort fun a b => !(decide (b < a))

/-- The language that a name or alias stands for. -/
def resolve (r : Registry φ) (language : String) : Except RegistryError String :=
  let name := Text.lower language
  let key := (r.aliasTarget? name).getD name
  if r.has key then .ok key else .error (.unknownLanguage language r.languages)

/-- Whether a name is that of a language or an alias. -/
def isSupported (r : Registry φ) (language : String) : Bool :=
  let key := Text.lower language
  r.has key || (r.aliasTarget? key).isSome

/-- The aliases that a language was registered with, in order. -/
def aliasesOf (r : Registry φ) (language : String) : List String :=
  match r.find? (Text.lower language) with
  | some old => old.aliases.mergeSort fun a b => !(decide (b < a))
  | none => []

/-- The registration that a name or alias stands for. -/
def lookup (r : Registry φ) (language : String) : Except RegistryError (Registration φ) := do
  let key ← r.resolve language
  match r.find? key with
  | some registration => return registration
  | none => throw (.unknownLanguage language r.languages)

end Registry

end ZigDecl
