import ZigDecl.Graph.Order

/-! # Cycles that pass no declaration

Records, enumerations and declared unions are referred to by name. A type that leads back to itself
through arrays, maps and undeclared unions only would have to be written out for ever. The search
goes down from every start, keeps the types on its way in `active`, and never searches a finished
type again. -/

namespace ZigDecl

/-- What identifies a type as an object: the mark of an array or map, or the place in the store. -/
inductive Ty.Key where
  | mark (n : Nat)
  | id (n : Nat)
  deriving DecidableEq, Repr

/-- What identifies a type; primitive types need no identity. -/
def Ty.key? : Ty → Option Ty.Key
  | .primitive _ => none
  | .array mark _ => some (.mark mark)
  | .map mark _ => some (.mark mark)
  | .named id => some (.id id)

namespace TypeGraph

variable {τ : Type}

/-- The outcome of a search: a type found on a cycle, and the types that are finished. -/
structure Search where
  found : Option Ty
  finished : List Ty.Key
  deriving Repr

/-- Search the types one after the other until one is found; declared types are passed over. -/
def searchAll (g : TypeGraph τ) (search : Ty → List Ty.Key → Search) :
    List Ty → List Ty.Key → Search
  | [], finished => ⟨none, finished⟩
  | t :: ts, finished =>
    if g.needsDeclaration t then searchAll g search ts finished
    else
      match search t finished with
      | ⟨some t, finished⟩ => ⟨some t, finished⟩
      | ⟨none, finished⟩ => searchAll g search ts finished

/-- Search below a type whose key is `key`, unless the search is inside it or done with it. -/
def searchBelow (t : Ty) (key : Ty.Key) (active finished : List Ty.Key)
    (below : List Ty.Key → List Ty.Key → Search) : Search :=
  if active.contains key then ⟨some t, finished⟩
  else if finished.contains key then ⟨none, finished⟩
  else
    match below (key :: active) finished with
    | ⟨some t, finished⟩ => ⟨some t, finished⟩
    | ⟨none, finished⟩ => ⟨none, key :: finished⟩

/-- Search from a type, where `enter` searches from a named type. -/
def searchIn (g : TypeGraph τ) (enter : Nat → List Ty.Key → List Ty.Key → Search) :
    Ty → List Ty.Key → List Ty.Key → Search
  | .primitive _, _, finished => ⟨none, finished⟩
  | .array mark items, active, finished =>
    searchBelow (.array mark items) (.mark mark) active finished fun active finished =>
      if g.needsDeclaration items then ⟨none, finished⟩ else searchIn g enter items active finished
  | .map mark values, active, finished =>
    searchBelow (.map mark values) (.mark mark) active finished fun active finished =>
      if g.needsDeclaration values then ⟨none, finished⟩
      else searchIn g enter values active finished
  | .named id, active, finished => enter id active finished

/-- Search from a named type; at most `fuel` named types are entered one inside the other. -/
def searchFrom (g : TypeGraph τ) : Nat → Nat → List Ty.Key → List Ty.Key → Search
  | 0, _, _, finished => ⟨none, finished⟩
  | fuel + 1, id, active, finished =>
    searchBelow (.named id) (.id id) active finished fun active finished =>
      searchAll g (fun t finished => searchIn g (searchFrom g fuel) t active finished)
        (g.parts id) finished

/-- Search from each of the starts in turn until one is found. -/
def searchStarts (g : TypeGraph τ) : List Ty → List Ty.Key → Option Ty
  | [], _ => none
  | t :: ts, finished =>
    match g.searchIn (g.searchFrom (g.types.size + 2)) t [] finished with
    | ⟨some t, _⟩ => some t
    | ⟨none, finished⟩ => searchStarts g ts finished

/-- A type that leads back to itself without passing a declaration. The search starts from the
top-levels and then from every named type. -/
def inlineCycle? (g : TypeGraph τ) : Option Ty :=
  g.searchStarts (g.topLevels.map (·.2) ++ g.namedTypes.map Ty.named) []

end TypeGraph

end ZigDecl
