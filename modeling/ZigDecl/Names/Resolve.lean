import ZigDecl.Graph.Order
import ZigDecl.Graph.Shown
import ZigDecl.Log
import ZigDecl.Name.Namespace
import ZigDecl.Names.Proposal
import ZigDecl.Zig.Identifier

/-! # Giving every name

Types and aliases share one namespace, and every record, enumeration and union has one for its
members. Top-levels come first: the first one rooted in a declared type lends it its name, the
others become aliases. Names of arms are made last, from the names of the types they hold. -/

namespace ZigDecl.Names

open ZigDecl.Name

/-- The step of name giving: it may fail, and it logs the proposals that were taken. -/
abbrev Naming := Logged NameError

def fileExtension : String := ".zig"

/-- Give out a name for a proposal that may be any value. -/
def give (label : String) (case : NamingCase) (ns : Namespace) (proposal : Value) :
    Naming (String × Namespace) :=
  match proposal with
  | .str text => do
    let (a, ns) := ns.assign case text
    if a.name ≠ a.base then
      Logged.write .debug
        ("Renamed '" ++ a.base ++ "' to '" ++ a.name ++ "' in namespace " ++ label)
    return (a.name, ns)
  | _ => .fail (.fault .wrongType)

/-- Give out names for several proposals in order. -/
def giveAll (label : String) (case : NamingCase) : Namespace → List Value → Naming (List String)
  | _, [] => pure []
  | ns, p :: ps => do
    let (name, ns) ← give label case ns p
    return name :: (← giveAll label case ns ps)

/-- The lending top-levels with one more, if it is the first one with its declared root. -/
def lend (g : TypeGraph) (found : List (String × Nat)) : String × Ty → List (String × Nat)
  | (name, .named id) =>
    if g.isDeclared id && !found.any (·.2 == id) then found ++ [(name, id)] else found
  | _ => found

/-- The top-levels that lend their names: the first one for each declared root. -/
def rootTypesOf (g : TypeGraph) : List (String × Nat) := g.topLevels.foldl (lend g) []

/-- Name the top-levels, as types or as aliases. -/
def giveTops (ns : Namespace) (names : Names) :
    List (String × Ty) → Naming (Names × Namespace)
  | [] => pure (names, ns)
  | (top, _) :: rest => do
    let (name, ns) ← give "global" .pascal ns (.str top)
    match entryFor? top names.rootTypes with
    | some id => giveTops ns { names with types := names.types ++ [(id, name)] } rest
    | none => giveTops ns { names with aliases := names.aliases ++ [(top, name)] } rest

/-- Name the declarations that no top-level has named. -/
def giveTypes (g : TypeGraph) (ns : Namespace) (names : Names) : List Nat → Naming Names
  | [] => pure names
  | id :: rest =>
    match names.typeName? id with
    | some _ => giveTypes g ns names rest
    | none => do
      let (name, ns) ← give "global" .pascal ns (g.nameOf id)
      giveTypes g ns { names with types := names.types ++ [(id, name)] } rest

/-- What the namespace of a type's members is called in the log. -/
def memberLabel (names : Names) (id : Nat) (what : String) : Except NameError String :=
  match names.typeName? id with
  | some name => .ok (name ++ " " ++ what)
  | none => .error (.fault .missingKey)

/-- The external names of the members of a record or an enumeration. -/
def externalNames (g : TypeGraph) (id : Nat) : List Value :=
  match g.shape? id with
  | some (.record properties) => properties.map (·.name)
  | some (.enum cases) => cases.map Value.str
  | _ => []

def giveMembers (g : TypeGraph) (names : Names) (what : String) :
    List Nat → Naming (List (Nat × List String))
  | [] => pure []
  | id :: rest => do
    let label ← memberLabel names id what
    let given ← giveAll label .snake (.empty Zig.keywords) (externalNames g id)
    return (id, given) :: (← giveMembers g names what rest)

/-- The name given to a declared type, or the failure to find one. -/
def typeName (g : TypeGraph) (names : Names) (id : Nat) : Except NameError String :=
  match names.typeName? id with
  | some name => .ok name
  | none => .error (.unresolved (g.shownNamed id))

/-- Name the arms of each union; a proposal is made when its turn comes. -/
def giveArms (g : TypeGraph) (names : Names) (label : String) :
    Namespace → List Ty → Naming (List String)
  | _, [] => pure []
  | ns, t :: ts => do
    let proposal ← (g.memberProposal (typeName g names) t : Naming String)
    let (name, ns) ← give label .snake ns (.str proposal)
    return name :: (← giveArms g names label ns ts)

def giveUnions (g : TypeGraph) (names : Names) : List Nat → Naming (List (Nat × List String))
  | [] => pure []
  | id :: rest => do
    let label ← memberLabel names id "members"
    let given ← giveArms g names label (.empty Zig.keywords) (nonNulls (g.parts id))
    return (id, given) :: (← giveUnions g names rest)

/-- The file name with a number behind its stem. -/
def numberedFile (stem : String) (n : Nat) : String := stem ++ "_" ++ toString n ++ fileExtension

/-- The first of the names `stem_n.zig`, `stem_(n+1).zig`, … that is not taken; at most `fuel` are
tried. -/
def seekFile (taken : List String) (stem : String) : Nat → Nat → String
  | 0, n => numberedFile stem n
  | fuel + 1, n =>
    let file := numberedFile stem n
    if taken.contains file then seekFile taken stem fuel (n + 1) else file

/-- A file name for a declaration: its name in lower case, with a number if that is taken. -/
def fileNameFor (taken : List String) (name : String) : String :=
  let stem := Text.lower name
  if taken.contains (stem ++ fileExtension) then seekFile taken stem (taken.length + 1) 2
  else stem ++ fileExtension

/-- File names for declarations, one after the other. -/
def giveFiles (taken : List String) : List String → List (String × String)
  | [] => []
  | name :: rest =>
    let file := fileNameFor taken name
    (name, file) :: giveFiles (taken ++ [file]) rest

/-- All names for a rendering of a graph. -/
def resolve (g : TypeGraph) : Naming Names := do
  let start := { Names.empty with rootTypes := rootTypesOf g }
  let (names, ns) ← giveTops (.empty (Zig.keywords ++ Zig.preludeNames)) start g.topLevels
  let names ← giveTypes g ns names g.declarations
  let fields ← giveMembers g names "properties" g.records
  let cases ← giveMembers g names "cases" g.enums
  let names := { names with fields, cases }
  let arms ← giveUnions g names g.unions
  let files := giveFiles [] (names.declared g.declarations)
  Logged.write .debug
    ("Resolved " ++ toString names.types.length ++ " type names and " ++
      toString names.aliases.length ++ " aliases")
  return { names with arms, files }

end ZigDecl.Names
