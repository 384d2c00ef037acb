import ZigDecl.Graph.Document

/-! # What a document says, place by place

A place is where a definition is written: under a name, and then so many steps inside. Everything
here is read off the values in a document and knows nothing of a graph: what a place shows, what it
denotes once references are followed, and which of the members of a union say the same. -/

namespace ZigDecl

/-- A document by its parts: what is defined under names, and the top-levels. -/
structure Document where
  definitions : List (String × Value)
  tops : List (String × Value)

/-- The name that a definition is written under, among the types or among the top-levels. -/
inductive Origin where
  | type (name : String)
  | top (name : String)
  deriving DecidableEq, Repr

/-- A step from a type to one inside it. -/
inductive Step where
  | items | values
  | property (index : Nat)
  | member (index : Nat)
  deriving DecidableEq, Repr

/-- Where a definition is written; of the steps inside, the last one comes first. -/
structure Place where
  origin : Origin
  steps : List Step
  deriving DecidableEq, Repr

/-- The place that one step leads to. -/
def Place.inside (p : Place) (s : Step) : Place := ⟨p.origin, s :: p.steps⟩

/-- The place of what is defined under a name. -/
def Place.ofName (name : String) : Place := ⟨.type name, []⟩

/-- The place of what a top-level is defined as. -/
def Place.ofTop (name : String) : Place := ⟨.top name, []⟩

/-- What is said of a property besides its type. -/
structure PropertyLabel where
  name : Value
  isOptional : Bool
  description : Value

def Property.label (p : Property) : PropertyLabel := ⟨p.name, p.isOptional, p.description⟩

/-- What a type shows of itself, without the types inside it. -/
inductive Outline where
  | primitive (kind : Primitive)
  | array
  | map
  | record (description : Value) (properties : List PropertyLabel)
  | enum (description : Value) (cases : List String)
  | union (description : Value) (members : Nat)

/-! ## Definitions as values -/

namespace Value

/-- The name that a reference is to. -/
def reference? (v : Value) : Option String :=
  match v.get? "$ref" with
  | some (.str name) => some name
  | _ => none

/-- The word for the kind of type that an object defines; a reference defines none. -/
def kind? (v : Value) : Option String :=
  match v.get? "$ref", v.get? "kind" with
  | none, some (.str kind) => some kind
  | _, _ => none

/-- The primitive type that a word names, or an object by its kind. -/
def primitive? : Value → Option Primitive
  | .str word => Primitive.ofName? word
  | v => v.kind?.bind Primitive.ofName?

/-- Whether a value defines a type that has an identity: a record, an enumeration or a union. -/
def definesNamed (v : Value) : Bool :=
  v.kind? == some "class" || v.kind? == some "enum" || v.kind? == some "union"

/-- The entries of the list under a key, none if there is no list. -/
def entries (key : String) (v : Value) : List Value :=
  match v.get? key with
  | some (.arr items) => items
  | _ => []

/-- The definition under a key, which may be left out. -/
def definition (key : String) (v : Value) : Value := (v.get? key).getD (.str "any")

/-- The description that a value gives, null if it gives none. -/
def describedAs (v : Value) : Value := (v.get? "description").getD .null

/-- What an entry among the properties of a record says besides the type. -/
def label (v : Value) : PropertyLabel where
  name := (v.get? "name").getD .null
  isOptional := ((v.get? "optional").getD (.bool false)).isTruthy
  description := v.describedAs

/-- The definition that a step leads to. -/
def inside? (v : Value) : Step → Option Value
  | .items => if v.kind? = some "array" then some (v.definition "items") else none
  | .values => if v.kind? = some "map" then some (v.definition "values") else none
  | .property i =>
    if v.kind? = some "class" then (v.entries "properties")[i]?.map (definition "type") else none
  | .member i => if v.kind? = some "union" then (v.entries "members")[i]? else none

end Value

/-- The positions in a list whose entries do not stand earlier in it. -/
def firstPositions {α : Type} [BEq α] (xs : List α) : List Nat :=
  (List.range xs.length).filter fun i =>
    match xs[i]? with
    | some x => !(xs.take i).contains x
    | none => false

/-! ## Places of a document -/

/-- All that equality of types sees of a definition: arrays and maps by what is inside, and
everything that has an identity by the place where it is defined. -/
inductive Form where
  | primitive (kind : Primitive)
  | array (items : Form)
  | map (values : Form)
  | named (p : Place)
  deriving DecidableEq, Repr

namespace Document

variable (d : Document)

/-- What is written under a name. -/
def written : Origin → Option Value
  | .type name => Value.lookup name d.definitions
  | .top name => Value.lookup name d.tops

/-- What is written some steps inside what is written under a name. -/
def writtenInside (o : Origin) : List Step → Option Value
  | [] => d.written o
  | s :: steps => (writtenInside o steps).bind (·.inside? s)

/-- What is written in a place. -/
def at? (p : Place) : Option Value := d.writtenInside p.origin p.steps

/-- References are followed from a place to the definition that they come to. -/
inductive Denotes : Place → Place → Prop
  | self {p : Place} {v : Value} (hv : d.at? p = some v) (href : v.reference? = none) :
      Denotes p p
  | follow {p q : Place} {v : Value} {name : String} (hv : d.at? p = some v)
      (href : v.reference? = some name) (h : Denotes (.ofName name) q) : Denotes p q

/-- A definition has a form as a member of a union. -/
inductive HasForm : Place → Form → Prop
  | primitive {p q : Place} {v : Value} {k : Primitive} (h : d.Denotes p q)
      (hv : d.at? q = some v) (hk : v.primitive? = some k) : HasForm p (.primitive k)
  | array {p q : Place} {v : Value} {f : Form} (h : d.Denotes p q) (hv : d.at? q = some v)
      (hk : v.kind? = some "array") (hf : HasForm (q.inside .items) f) : HasForm p (.array f)
  | map {p q : Place} {v : Value} {f : Form} (h : d.Denotes p q) (hv : d.at? q = some v)
      (hk : v.kind? = some "map") (hf : HasForm (q.inside .values) f) : HasForm p (.map f)
  | named {p q : Place} {v : Value} (h : d.Denotes p q) (hv : d.at? q = some v)
      (hk : v.definesNamed = true) : HasForm p (.named q)

/-- The forms of the members that a union is written with, in order. -/
structure MemberForms (p : Place) (v : Value) (forms : List Form) : Prop where
  here : d.at? p = some v
  kind : v.kind? = some "union"
  length : forms.length = (v.entries "members").length
  form : ∀ i f, forms[i]? = some f → d.HasForm (p.inside (.member i)) f

/-- One step inside a definition. The members of a union count without repetitions. -/
inductive Inside : Place → Step → Place → Prop
  | items {p : Place} {v : Value} (hv : d.at? p = some v) (hk : v.kind? = some "array") :
      Inside p .items (p.inside .items)
  | values {p : Place} {v : Value} (hv : d.at? p = some v) (hk : v.kind? = some "map") :
      Inside p .values (p.inside .values)
  | property {p : Place} {v : Value} {i : Nat} (hv : d.at? p = some v)
      (hk : v.kind? = some "class") (hi : i < (v.entries "properties").length) :
      Inside p (.property i) (p.inside (.property i))
  | member {p : Place} {v : Value} {forms : List Form} {i k : Nat}
      (hf : d.MemberForms p v forms) (hk : (firstPositions forms)[i]? = some k) :
      Inside p (.member i) (p.inside (.member k))

/-- A path leads from one place to another, where references are followed before every step, but not
after the last one. -/
inductive Arrives : Place → List Step → Place → Prop
  | here (p : Place) : Arrives p [] p
  | step {p q r e : Place} {s : Step} {path : List Step} (h : d.Denotes p q)
      (hs : d.Inside q s r) (hr : Arrives r path e) : Arrives p (s :: path) e

/-- What a definition shows, references apart. -/
inductive Shows : Place → Outline → Prop
  | primitive {p : Place} {v : Value} {k : Primitive} (hv : d.at? p = some v)
      (hk : v.primitive? = some k) : Shows p (.primitive k)
  | array {p : Place} {v : Value} (hv : d.at? p = some v) (hk : v.kind? = some "array") :
      Shows p .array
  | map {p : Place} {v : Value} (hv : d.at? p = some v) (hk : v.kind? = some "map") :
      Shows p .map
  | record {p : Place} {v : Value} (hv : d.at? p = some v) (hk : v.kind? = some "class") :
      Shows p (.record v.describedAs ((v.entries "properties").map Value.label))
  | enum {p : Place} {v : Value} {cases : List String} (hv : d.at? p = some v)
      (hk : v.kind? = some "enum") (hcases : v.entries "cases" = cases.map .str) :
      Shows p (.enum v.describedAs cases)
  | union {p : Place} {v : Value} {forms : List Form} (hf : d.MemberForms p v forms) :
      Shows p (.union v.describedAs (firstPositions forms).length)

theorem at?_inside (p : Place) (s : Step) : d.at? (p.inside s) = (d.at? p).bind (·.inside? s) :=
  rfl

end Document

/-! ## The same steps in a graph -/

namespace TypeGraph

variable (g : TypeGraph)

/-- The type that a step leads to. -/
def inside? : Ty → Step → Option Ty
  | .array _ t, .items => some t
  | .map _ t, .values => some t
  | .named id, .property i =>
    match g.shape? id with
    | some (.record ps) => ps[i]?.map (·.type)
    | _ => none
  | .named id, .member i =>
    match g.shape? id with
    | some (.union ms) => ms[i]?
    | _ => none
  | _, _ => none

/-- The type that a path leads to. -/
def walk? (t : Ty) (path : List Step) : Option Ty := path.foldlM g.inside? t

/-- What a type shows; a reference that leads nowhere shows nothing. -/
def outline? : Ty → Option Outline
  | .primitive k => some (.primitive k)
  | .array _ _ => some .array
  | .map _ _ => some .map
  | .named id =>
    (g.shape? id).map fun
      | .record ps => .record (g.descriptionOf id) (ps.map (·.label))
      | .enum cases => .enum (g.descriptionOf id) cases
      | .union ms => .union (g.descriptionOf id) ms.length

end TypeGraph

end ZigDecl
