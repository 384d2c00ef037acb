import ZigDecl.Proofs.Document.Stops
import ZigDecl.Proofs.Steps
import ZigDecl.Proofs.Value.Members
import ZigDecl.Registry.Generate

/-! # Definitions are found by their names alone

Reading a document looks definitions up and never sees them in a row, so all that counts is what is
found under the names that reading comes to. Main statement: definitions in another order, and more
of them under names that no reference is read to, change neither the error nor the graph, nor what
is generated for it. -/

namespace ZigDecl

open Relation (ReflTransGen)

variable {definitions definitions' tops : List (String × Value)}

/-! ## Reading with other definitions -/

/-- The same is found under every name that the reading of a part comes to. -/
def Agrees (definitions definitions' : List (String × Value)) (c : Task × Linking) : Prop :=
  ∀ name l, ReflTransGen (Calls definitions) c (.follow name, l) →
    Value.lookup name definitions' = Value.lookup name definitions

theorem Agrees.calls {c c' : Task × Linking} (h : Agrees definitions definitions' c)
    (hc : Calls definitions c c') : Agrees definitions definitions' c' :=
  fun name l hpath => h name l (.head hc hpath)

/-- What is read to the end is read the same. -/
theorem Loads.congr {task : Task} {l l' : Linking} {r : Reading}
    (h : Loads definitions task l r l') (ha : Agrees definitions definitions' (task, l)) :
    Loads definitions' task l r l' := by
  induction h with
  | primitive place reference p l => exact .primitive place reference p l
  | reference _ ih => exact .reference (ih (ha.calls .reference))
  | array _ ih => exact .array (ih (ha.calls .array))
  | map _ ih => exact .map (ih (ha.calls .map))
  | record _ ih => exact .record (ih (ha.calls .record))
  | enum place reference name description cases l =>
    exact .enum place reference name description cases l
  | union _ ih => exact .union (ih (ha.calls .union))
  | noMembers place l => exact .noMembers place l
  | member h _ ih ihs => exact .member (ih (ha.calls .member)) (ihs (ha.calls (.members h)))
  | noProperties owner l => exact .noProperties owner l
  | property h _ ih ihs =>
    exact .property (ih (ha.calls .property)) (ihs (ha.calls (.properties h)))
  | found hfind => exact .found hfind
  | enter hfind hvalue hpending _ ih =>
    exact .enter hfind ((ha _ _ .refl).trans hvalue) hpending
      (ih (ha.calls (.enter hfind hvalue hpending)))

theorem Calls.congr {c c' : Task × Linking} (h : Calls definitions c c')
    (ha : Agrees definitions definitions' c) : Calls definitions' c c' := by
  cases h with
  | reference => exact .reference
  | array => exact .array
  | map => exact .map
  | record => exact .record
  | union => exact .union
  | member => exact .member
  | members h => exact .members (h.congr (ha.calls .member))
  | property => exact .property
  | properties h => exact .properties (h.congr (ha.calls .property))
  | enter hfind hvalue hpending =>
    exact .enter hfind ((ha _ _ .refl).trans hvalue) hpending

theorem Task.problem?_congr {c : Task × Linking} (ha : Agrees definitions definitions' c) :
    c.1.problem? definitions' c.2 = c.1.problem? definitions c.2 := by
  obtain ⟨task, l⟩ := c
  cases task with
  | follow name => rw [problem?, problem?, ha name l .refl]
  | properties owner ps =>
    rcases ps with _ | ⟨_ | _, _⟩ <;> rfl
  | _ => rfl

/-- Where reading stops, it stops the same. -/
theorem Stops.congr {c : Task × Linking} {e : GraphError} (h : Stops definitions c e)
    (ha : Agrees definitions definitions' c) : Stops definitions' c e := by
  obtain ⟨last, hpath, hproblem⟩ := h
  induction hpath using ReflTransGen.head_induction_on with
  | refl => exact .of_problem ((Task.problem?_congr ha).trans hproblem)
  | head hc _ ih => exact .of_calls (hc.congr ha) (ih (ha.calls hc))

namespace Link

variable {room room' : Nat} {l : Linking}

theorem run_type_congr {d : Definition} {place : String} {reference : Option String}
    (ha : Agrees definitions definitions' (.type place reference d, l))
    (hroom : l.unread definitions < room) (hroom' : l.unread definitions' < room') :
    (type (follow definitions' room') place reference d).run l =
      (type (follow definitions room) place reference d).run l := by
  rcases type_cases hroom with ⟨t, m, hrun, hload⟩ | ⟨e, hrun, hstops⟩ <;>
    rcases type_cases hroom' with ⟨t', m', hrun', hload'⟩ | ⟨e', hrun', hstops'⟩
  · obtain ⟨ht, rfl⟩ := (hload.congr ha).functional hload'
    cases ht
    rw [hrun, hrun']
  · exact ((hload.congr ha).not_stops hstops').elim
  · exact (hload'.not_stops (hstops.congr ha)).elim
  · rw [hrun, hrun', (hstops.congr ha).unique hstops']

/-- Top-levels are read the same, errors included, if the same is found under every name that their
reading comes to. -/
theorem run_topLevels_congr (tops : List (String × Value)) {l : Linking}
    (ha : ∀ name m, Visits definitions tops l (.follow name, m) →
      Value.lookup name definitions' = Value.lookup name definitions)
    (hroom : l.unread definitions < room) (hroom' : l.unread definitions' < room') :
    (topLevels (follow definitions' room') tops).run l =
      (topLevels (follow definitions room) tops).run l := by
  induction tops generalizing l with
  | nil => rfl
  | cons top tops ih =>
    obtain ⟨name, value⟩ := top
    have hagrees :
        Agrees definitions definitions' (.type name none (Definition.ofValue value), l) :=
      fun other m hpath => ha other m (.here hpath)
    have hsame := run_type_congr hagrees hroom hroom'
    rcases type_cases hroom with ⟨t, m, hrun, hload⟩ | ⟨e, hrun, _⟩
    · rw [run_topLevels_cons hrun, run_topLevels_cons (hsame.trans hrun)]
      cases hnew : m.graph.hasTopLevel name with
      | true => rfl
      | false =>
        have hless := Nat.lt_of_le_of_lt hload.unread_le hroom
        have hless' := Nat.lt_of_le_of_lt (hload.congr hagrees).unread_le hroom'
        exact ih (fun other m hvisits => ha other m (.next hload hnew hvisits)) hless hless'
    · rw [run_topLevels_cons_error hrun, run_topLevels_cons_error (hsame.trans hrun)]

end Link

/-! ## Sections of definitions -/

/-- Members whose keys are distinct are found in any order. -/
theorem Value.lookup_of_perm {ms ms' : List (String × Value)} (h : (ms.map (·.1)).Nodup)
    (hperm : ms.Perm ms') (key : String) : lookup key ms = lookup key ms' := by
  have h' : (ms'.map (·.1)).Nodup := (hperm.map _).nodup_iff.mp h
  cases hlookup : lookup key ms' with
  | none =>
    rw [lookup_eq_none_iff] at hlookup ⊢
    rwa [(hperm.map _).mem_iff]
  | some value => exact lookup_of_mem h (hperm.mem_iff.mpr (mem_of_lookup hlookup))

/-- The definitions of a document, none if the section is left out. -/
def Value.definitions? : Value → Option (List (String × Value))
  | .obj members =>
    match (lookup "types" members).getD (.obj []) with
    | .obj definitions => some definitions
    | _ => none
  | _ => none

/-- A document with other definitions. -/
def Value.withDefinitions (definitions : List (String × Value)) : Value → Value
  | .obj members => .obj (put "types" (.obj definitions) members)
  | document => document

/-- Reading a document comes to a reference to a name. -/
def ReadsReference (document : Value) (name : String) : Prop :=
  ∃ definitions tops l, TypeGraph.documentParts document = .ok (definitions, tops) ∧
    Visits definitions tops .start (.follow name, l)

/-! ## Names that are read -/

/-- A reference to a name is somewhere in a part of a document, or the part is that name. -/
def Task.Mentions (name : String) : Task → Prop
  | .type _ _ d => d.Mentions name
  | .members _ ds => ∃ d ∈ ds, d.Mentions name
  | .properties _ ps => ∃ n d o s, .valid n d o s ∈ ps ∧ d.Mentions name
  | .follow other => other = name

/-- What is mentioned further on is mentioned already, or by a definition that a name stands for. -/
theorem Calls.mentions {c c' : Task × Linking} {name : String} (h : Calls definitions c c')
    (hm : c'.1.Mentions name) :
    ∃ first, c.1.Mentions first ∧ ReflTransGen (Refers definitions) first name := by
  cases h with
  | reference => exact ⟨name, hm ▸ .reference, .refl⟩
  | array => exact ⟨name, .array hm, .refl⟩
  | map => exact ⟨name, .map hm, .refl⟩
  | record =>
    obtain ⟨n, d, o, s, hmem, hd⟩ := hm
    exact ⟨name, .record hmem hd, .refl⟩
  | union =>
    obtain ⟨d, hmem, hd⟩ := hm
    exact ⟨name, .union hmem hd, .refl⟩
  | member => exact ⟨name, ⟨_, List.mem_cons_self, hm⟩, .refl⟩
  | members =>
    obtain ⟨d, hmem, hd⟩ := hm
    exact ⟨name, ⟨d, List.mem_cons_of_mem _ hmem, hd⟩, .refl⟩
  | property => exact ⟨name, ⟨_, _, _, _, List.mem_cons_self, hm⟩, .refl⟩
  | properties =>
    obtain ⟨n, d, o, s, hmem, hd⟩ := hm
    exact ⟨name, ⟨n, d, o, s, List.mem_cons_of_mem _ hmem, hd⟩, .refl⟩
  | enter _ hvalue => exact ⟨_, rfl, .single ⟨_, hvalue, hm⟩⟩

theorem mentions_of_calls {c c' : Task × Linking} {name : String}
    (h : ReflTransGen (Calls definitions) c c') (hm : c'.1.Mentions name) :
    ∃ first, c.1.Mentions first ∧ ReflTransGen (Refers definitions) first name := by
  induction h using ReflTransGen.head_induction_on with
  | refl => exact ⟨name, hm, .refl⟩
  | head hc _ ih =>
    obtain ⟨second, hsecond, hrest⟩ := ih
    obtain ⟨first, hfirst, hpath⟩ := hc.mentions hsecond
    exact ⟨first, hfirst, hpath.trans hrest⟩

/-- A name that reading comes to is one that a top-level leads to by references. -/
theorem Visits.mentions {l m : Linking} {name : String}
    (h : Visits definitions tops l (.follow name, m)) :
    ∃ top ∈ tops, ∃ first, (Definition.ofValue top.2).Mentions first ∧
      ReflTransGen (Refers definitions) first name := by
  generalize hc : (Task.follow name, m) = c at h
  induction h with
  | here hpath =>
    subst hc
    exact ⟨_, List.mem_cons_self, mentions_of_calls hpath rfl⟩
  | next _ _ _ ih =>
    obtain ⟨top, htop, hfirst⟩ := ih hc
    exact ⟨top, List.mem_cons_of_mem _ htop, hfirst⟩

namespace TypeGraph

/-- A document with definitions is an object, and they are all that stands for its types. -/
theorem exists_members_of_definitions? {document : Value}
    (h : document.definitions? = some definitions) : ∃ members, document = .obj members ∧
      (Value.lookup "types" members).getD (.obj []) = .obj definitions := by
  cases document with
  | obj members =>
    refine ⟨members, rfl, ?_⟩
    rw [Value.definitions?] at h
    cases hsection : (Value.lookup "types" members).getD (.obj []) with
    | obj ds =>
      rw [hsection] at h
      cases h
      rfl
    | _ =>
      rw [hsection] at h
      cases h
  | _ => cases h

/-- An object with definitions has them and its top-levels for parts, if there are any. -/
theorem documentParts_obj {members : List (String × Value)}
    (h : (Value.lookup "types" members).getD (.obj []) = .obj definitions) :
    documentParts (.obj members) =
      match Value.lookup "top_levels" members with
      | some (.obj (t :: ts)) => .ok (definitions, t :: ts)
      | _ => .error .noTopLevels := by
  simp only [documentParts, TextLike.lit_string]
  generalize (Value.lookup "types" members).getD (.obj []) = types at h ⊢
  subst h
  rcases Value.lookup "top_levels" members with _ | _ | _ | _ | _ | _ | _ | _ | _ <;> rfl

theorem documentParts_withDefinitions {document : Value}
    (h : document.definitions? = some definitions) (definitions' : List (String × Value)) :
    documentParts (document.withDefinitions definitions') =
      (fun parts => (definitions', parts.2)) <$> documentParts document := by
  obtain ⟨members, rfl, hsection⟩ := exists_members_of_definitions? h
  have hput : (Value.lookup "types" (Value.put "types" (.obj definitions') members)).getD
      (.obj []) = .obj definitions' := by rw [Value.lookup_put_self]; rfl
  rw [Value.withDefinitions, documentParts_obj hput, documentParts_obj hsection,
    Value.lookup_put_ne (by decide)]
  split <;> rfl

theorem definitions_of_documentParts {document : Value} {parts : List (String × Value)}
    (h : document.definitions? = some definitions)
    (hparts : documentParts document = .ok (parts, tops)) : parts = definitions := by
  obtain ⟨members, rfl, hsection⟩ := exists_members_of_definitions? h
  rw [documentParts_obj hsection] at hparts
  split at hparts
  · cases hparts
    rfl
  · cases hparts

/-- A document is read the same with other definitions, if the same is found under every name that
reading comes to a reference to. -/
theorem ofDocument_withDefinitions {document : Value}
    (h : document.definitions? = some definitions)
    (ha : ∀ name, ReadsReference document name →
      Value.lookup name definitions' = Value.lookup name definitions) :
    ofDocument (document.withDefinitions definitions') = ofDocument document := by
  have hparts' := documentParts_withDefinitions h definitions'
  cases hparts : documentParts document with
  | error e =>
    rw [hparts] at hparts'
    rw [ofDocument, ofDocument, hparts, hparts']
    rfl
  | ok parts =>
    obtain ⟨ds, tops⟩ := parts
    obtain rfl := definitions_of_documentParts h hparts
    rw [hparts] at hparts'
    rw [ofDocument_eq hparts, ofDocument_eq hparts',
      Link.run_topLevels_congr tops (fun name m hvisits => ha name ⟨_, tops, m, hparts, hvisits⟩)
        (Linking.unread_start_lt ds) (Linking.unread_start_lt definitions')]

/-- Definitions in any order, and any others among them under names that no reference is read to,
leave the outcome of reading a document as it is, and that of every run on it. -/
theorem ofDocument_definitions {document : Value} {added : List (String × Value)}
    (h : document.definitions? = some definitions)
    (hkeys : (definitions'.map (·.1)).Nodup) (hperm : definitions'.Perm (definitions ++ added))
    (hunread : ∀ entry ∈ added, ¬ReadsReference document entry.1) :
    ofDocument (document.withDefinitions definitions') = ofDocument document ∧
      ∀ (r : Backends) (d : Directory) (language : String) (source : ConfigSource),
        r.generateFromDocument d (document.withDefinitions definitions') language source =
          r.generateFromDocument d document language source := by
  have hsame : ofDocument (document.withDefinitions definitions') = ofDocument document := by
    refine ofDocument_withDefinitions h fun name hreads => ?_
    have hnew : Value.lookup name added = none := by
      rw [Value.lookup_eq_none_iff]
      intro hmem
      obtain ⟨entry, hentry, rfl⟩ := List.mem_map.mp hmem
      exact hunread entry hentry hreads
    rw [Value.lookup_of_perm hkeys hperm, Value.lookup_append, hnew, Option.or_none]
  refine ⟨hsame, fun r d language source => ?_⟩
  rw [Backends.generateFromDocument, hsame, Backends.generateFromDocument]

/-- A record with a list of its own kind. -/
def nodeValue : Value := .obj [("kind", .str "class"), ("properties", .arr [
  .obj [("name", .str "rest"), ("type", .obj [("$ref", .str "List")])]])]

def listValue : Value := .obj [("kind", .str "array"), ("items", .obj [("$ref", .str "Node")])]

def nodeDocument : Value := .obj [
  ("types", .obj [("Node", nodeValue), ("List", listValue)]),
  ("top_levels", .obj [("Root", .obj [("$ref", .str "Node")])])]

/-- Definitions that can only be refused. -/
def brokenDefinitions : List (String × Value) :=
  [("Broken", .null), ("Stray", .obj [("$ref", .str "Missing")])]

def shuffledDefinitions : List (String × Value) :=
  [("Stray", .obj [("$ref", .str "Missing")]), ("Broken", .null), ("List", listValue),
    ("Node", nodeValue)]

/-- Reading the document comes to no name but those of its own definitions. -/
theorem mem_of_readsReference_nodeDocument {name : String}
    (h : ReadsReference nodeDocument name) : name ∈ ["Node", "List"] := by
  obtain ⟨definitions, tops, l, hparts, hvisits⟩ := h
  obtain ⟨rfl, rfl⟩ : definitions = [("Node", nodeValue), ("List", listValue)] ∧
      tops = [("Root", .obj [("$ref", .str "Node")])] := by
    cases hparts
    exact ⟨rfl, rfl⟩
  have hroot : Definition.ofValue (.obj [("$ref", .str "Node")]) = .reference (.str "Node") := by
    with_unfolding_all rfl
  have hnode : Definition.ofValue nodeValue = .record .null .null
      (some [.valid (.str "rest") (.reference (.str "List")) false .null]) := by
    with_unfolding_all rfl
  have hlist : Definition.ofValue listValue = .array (.reference (.str "Node")) := by
    with_unfolding_all rfl
  obtain ⟨top, htop, first, hfirst, hpath⟩ := hvisits.mentions
  obtain rfl := List.mem_singleton.mp htop
  rw [hroot] at hfirst
  cases hfirst
  clear hvisits
  induction hpath with
  | refl => simp
  | tail _ hrefers ih =>
    obtain ⟨v, hv, hm⟩ := hrefers
    rcases List.mem_pair.mp ih with rfl | rfl
    · obtain rfl : nodeValue = v := Option.some.inj hv
      rw [hnode] at hm
      cases hm with
      | record hmem hm =>
        cases List.mem_singleton.mp hmem
        cases hm
        simp
    · obtain rfl : listValue = v := Option.some.inj hv
      rw [hlist] at hm
      cases hm with
      | array hm =>
        cases hm
        simp

theorem ofDocument_definitions_shuffled : ∃ g,
    ofDocument nodeDocument = .ok g ∧
    nodeDocument.definitions? = some [("Node", nodeValue), ("List", listValue)] ∧
    (shuffledDefinitions.map (·.1)).Nodup ∧
    shuffledDefinitions.Perm ([("Node", nodeValue), ("List", listValue)] ++ brokenDefinitions) ∧
    (∀ entry ∈ brokenDefinitions, ¬ReadsReference nodeDocument entry.1) ∧
    ofDocument (nodeDocument.withDefinitions shuffledDefinitions) = .ok g ∧
    ∀ (r : Backends) (d : Directory) (language : String) (source : ConfigSource),
      r.generateFromDocument d (nodeDocument.withDefinitions shuffledDefinitions) language source =
        r.generateFromDocument d nodeDocument language source := by
  obtain ⟨g, hg⟩ : ∃ g, ofDocument nodeDocument = .ok g :=
    exists_of_isOk (by with_unfolding_all rfl)
  have hdefinitions :
      nodeDocument.definitions? = some [("Node", nodeValue), ("List", listValue)] := rfl
  have hkeys : (shuffledDefinitions.map (·.1)).Nodup := by decide
  have hperm : shuffledDefinitions.Perm
      ([("Node", nodeValue), ("List", listValue)] ++ brokenDefinitions) :=
    List.reverse_perm ([("Node", nodeValue), ("List", listValue)] ++ brokenDefinitions)
  have hunread : ∀ entry ∈ brokenDefinitions, ¬ReadsReference nodeDocument entry.1 := by
    intro entry hentry hreads
    have hmem := mem_of_readsReference_nodeDocument hreads
    rcases List.mem_pair.mp hentry with rfl | rfl <;> simp at hmem
  obtain ⟨hsame, hruns⟩ := ofDocument_definitions hdefinitions hkeys hperm hunread
  exact ⟨g, hg, hdefinitions, hkeys, hperm, hunread, hsame.trans hg, hruns⟩

end TypeGraph

end ZigDecl
