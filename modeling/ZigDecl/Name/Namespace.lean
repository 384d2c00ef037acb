import ZigDecl.Name.Style

/-! # Names that stay apart

A namespace keeps the names given out in one scope. A proposal whose styled form is taken is styled
again with a number behind it, from two upwards, until the result is free. Different numbers give
different names, so one more candidate than there are reserved names is enough. -/

namespace ZigDecl.Name

/-- The names of one scope: words that may not be used, and names in use in the order in which
they were taken. -/
structure Namespace where
  forbidden : List String
  used : List String
  deriving Repr, DecidableEq

/-- A namespace in which no name is used yet. -/
def Namespace.empty (forbidden : List String) : Namespace := ⟨forbidden, []⟩

/-- Whether a name is neither forbidden nor used. -/
def Namespace.isAvailable (ns : Namespace) (name : String) : Bool :=
  !ns.forbidden.contains name && !ns.used.contains name

def Namespace.add (ns : Namespace) (name : String) : Namespace :=
  if ns.used.contains name then ns else { ns with used := ns.used ++ [name] }

/-- The name tried when `base` and the smaller numbers are taken. -/
def numbered (case : NamingCase) (base : String) (n : Nat) : String :=
  case.style (base ++ " " ++ toString n)

/-- The first free candidate among `candidate` and the numbered forms from `n` on, of which at most
`fuel` are tried. -/
def seek (case : NamingCase) (ns : Namespace) (base : String) : Nat → Nat → String → String
  | 0, _, candidate => candidate
  | fuel + 1, n, candidate =>
    if ns.isAvailable candidate then candidate
    else seek case ns base fuel (n + 1) (numbered case base n)

/-- A name as it was given out, and the styled proposal that it came from. -/
structure Assigned where
  base : String
  name : String
  deriving Repr, DecidableEq

/-- Give out a free name for a proposal. -/
def Namespace.assign (ns : Namespace) (case : NamingCase) (proposal : String) :
    Assigned × Namespace :=
  let base := case.style proposal
  let name := seek case ns base (ns.forbidden.length + ns.used.length + 1) 2 base
  (⟨base, name⟩, ns.add name)

/-- Give out names for several proposals, one after the other. -/
def Namespace.assignAll (ns : Namespace) (case : NamingCase) :
    List String → List Assigned × Namespace
  | [] => ([], ns)
  | p :: ps =>
    let (a, ns) := ns.assign case p
    let (as, ns) := ns.assignAll case ps
    (a :: as, ns)

end ZigDecl.Name
