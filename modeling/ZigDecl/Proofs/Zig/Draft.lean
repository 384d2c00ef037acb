import ZigDecl.Proofs.Output.Lines
import ZigDecl.Proofs.Zig.Reader

/-! # Declarations that are read back

A `Draft` is all that goes into the text of a record or an enumeration, and it has its lines. Main
statements: tidying leaves out none of them, and reading them gives back the name, the members with
their types, and the entries of the blocks with the external names. -/

namespace ZigDecl.Zig

open Text Output Reader

/-- What a member is laid out with; only the fields of records have types. -/
structure MemberDraft where
  docs : List String
  name : String
  type : Option String

/-- What a declaration is laid out with. -/
structure Draft where
  docs : List String
  leader : String
  kind : Kind
  name : String
  members : List MemberDraft
  blocks : List (String × List (String × String))

/-! ## Lines -/

def docLine (line : String) : String := "/// " ++ line

def memberDocLine (line : String) : String := "    " ++ docLine line

def openingLine (leader : String) (kind : Kind) (name : String) : String :=
  leader ++ ("const " ++ (name ++ kind.opening))

/-- What follows the name of a member on its line. -/
def typeSuffix : Option String → String
  | some type => ": " ++ (type ++ ",")
  | none => ","

def memberLine (name : String) (type : Option String) : String :=
  "    " ++ (name ++ typeSuffix type)

def blockLine (leader name : String) : String :=
  "    " ++ (leader ++ ("const @\"" ++ (name ++ "\" = struct \x7b")))

def attributesLine (leader : String) : String :=
  "        " ++ (leader ++ "const attributes = .\x7b")

def entryLine (e : String × String) : String :=
  "            ." ++ (e.1 ++ (" = .\x7b .rename = " ++ (stringLiteral e.2 ++ ", \x7d,")))

def blockLines (leader : String) (block : String × List (String × String)) : List String :=
  ["", blockLine leader block.1] ++
    (attributesLine leader :: block.2.map entryLine ++ ["        \x7d;", "    \x7d;"])

def MemberDraft.lines (m : MemberDraft) : List String :=
  m.docs.map memberDocLine ++ [memberLine m.name m.type]

namespace Draft

def lines (f : Draft) : List String :=
  f.docs.map docLine ++ [openingLine f.leader f.kind f.name] ++
    f.members.flatMap MemberDraft.lines ++ f.blocks.flatMap (blockLines f.leader) ++ ["\x7d;"]

/-- What reading gives. -/
def transcript (f : Draft) : Transcript :=
  ⟨f.kind, f.name, f.members.map fun m => (m.name, m.type), f.blocks⟩

end Draft

/-! ## Reading a line -/

/-- A visibility modifier, or none. -/
def IsLeader (leader : String) : Prop := leader = "" ∨ leader = "pub "

theorem IsLeader.withoutPub {leader : String} (h : IsLeader leader) (cs : List Char) :
    withoutPub (leader.toList ++ ("const ".toList ++ cs)) = "const ".toList ++ cs := by
  rcases h with rfl | rfl
  · rfl
  · rw [Reader.withoutPub, dropPrefix?_append]
    rfl

theorem opening?_openingLine {leader name : String} (hl : IsLeader leader)
    (hn : isIdentifier name = true) (kind : Kind) :
    opening? (openingLine leader kind name).toList = some ⟨kind, name, [], []⟩ := by
  have hword : word? (name.toList ++ kind.opening.toList) = some (name, kind.opening.toList) := by
    cases kind <;> exact word?_append hn rfl _
  simp only [opening?, openingLine, String.toList_append, hl.withoutPub, dropPrefix?_append,
    Option.bind_eq_bind, Option.bind_some, hword]
  cases kind <;> rfl

/-- A member has a type just if it is a field. -/
inductive HasType : Kind → Option String → Prop
  | field (type : String) : HasType .struct (some type)
  | case : HasType .enum none

theorem member?_memberLine {kind : Kind} {name : String} {type : Option String}
    (hn : isIdentifier name = true) (ht : HasType kind type) :
    member? kind (memberLine name type).toList = some (name, type) := by
  have hword : word? (name.toList ++ (typeSuffix type).toList) =
      some (name, (typeSuffix type).toList) := by
    cases type with
    | none => exact word?_append hn rfl _
    | some type =>
      rw [typeSuffix, String.toList_append]
      exact word?_append hn rfl _
  simp only [member?, memberLine, String.toList_append, dropPrefix?_append, Option.bind_eq_bind,
    Option.bind_some, hword]
  cases ht with
  | field type =>
    simp only [typeSuffix, String.toList_append, dropPrefix?_append, dropSuffix?_append,
      Option.bind_some, String.ofList_toList]
    rfl
  | case => rfl

theorem block?_blockLine {leader name : String} (hl : IsLeader leader) (hn : '"' ∉ name.toList) :
    block? (blockLine leader name).toList = some name := by
  have hall : ∀ c ∈ name.toList, (c != '"') = true := fun c hc => by
    simpa using fun heq : c = '"' => hn (heq ▸ hc)
  have hconst : "const @\"".toList = "const ".toList ++ "@\"".toList := rfl
  have hdrop : ∀ cs, (withoutPub (leader.toList ++ ("const @\"".toList ++ cs))).dropPrefix?
      "const @\"".toList = some cs := fun cs => by
    rw [hconst, List.append_assoc, hl.withoutPub, ← List.append_assoc, dropPrefix?_append]
  simp only [block?, blockLine, String.toList_append, dropPrefix?_append, Option.bind_eq_bind,
    Option.bind_some, hdrop, List.dropWhile_append_of_pos hall, List.takeWhile_append_of_pos hall]
  show some (String.ofList (name.toList ++ [])) = some name
  rw [List.append_nil, String.ofList_toList]

theorem isAttributes_attributesLine {leader : String} (hl : IsLeader leader) :
    isAttributes (attributesLine leader).toList = true := by
  have hconst : "const attributes = .\x7b".toList =
      "const ".toList ++ "attributes = .\x7b".toList := rfl
  simp only [isAttributes, attributesLine, String.toList_append, dropPrefix?_append,
    Option.map_some, hconst, hl.withoutPub, beq_self_eq_true]

theorem renaming?_entryLine {e : String × String} (hn : isIdentifier e.1 = true) :
    renaming? (entryLine e).toList = some e := by
  have hword : ∀ cs, word? (e.1.toList ++ (" = .\x7b .rename = ".toList ++ cs)) =
      some (e.1, " = .\x7b .rename = ".toList ++ cs) := fun cs => word?_append hn rfl _
  simp only [renaming?, entryLine, String.toList_append, dropPrefix?_append, Option.bind_eq_bind,
    Option.bind_some, hword, dropSuffix?_append, stringLiteral, String.toList_ofList,
    decode?_literalChars, String.ofList_toList]
  rfl

/-! ## Tidy lines -/

/-- A line that is not blank and that tidying leaves as it is. -/
structure IsTidy (line : String) : Prop where
  eq : tidyLine line = line.toList
  ne_nil : line.toList ≠ []

theorem IsTidy.tidyLine_ne_nil {line : String} (h : IsTidy line) : tidyLine line ≠ [] := by
  rw [h.eq]
  exact h.ne_nil

theorem IsTidy.append {line : String} (h : IsTidy line) (start : String) :
    IsTidy (start ++ line) where
  eq := by
    rw [tidyLine, String.toList_append, trimEnd_append h.tidyLine_ne_nil, ← tidyLine, h.eq]
  ne_nil := by simp [h.ne_nil]

theorem isTidy_openingLine (leader : String) (kind : Kind) (name : String) :
    IsTidy (openingLine leader kind name) := by
  have h : IsTidy kind.opening := by cases kind <;> exact ⟨rfl, by decide⟩
  exact ((h.append name).append _).append leader

theorem isTidy_memberLine (name : String) (type : Option String) :
    IsTidy (memberLine name type) := by
  have h : IsTidy "," := ⟨rfl, by decide⟩
  cases type with
  | none => exact (h.append name).append _
  | some type => exact (((h.append type).append _).append name).append _

theorem isTidy_blockLine (leader name : String) : IsTidy (blockLine leader name) := by
  have h : IsTidy "\" = struct \x7b" := ⟨rfl, by decide⟩
  exact (((h.append name).append _).append leader).append _

theorem isTidy_attributesLine (leader : String) : IsTidy (attributesLine leader) := by
  have h : IsTidy "const attributes = .\x7b" := ⟨rfl, by decide⟩
  exact (h.append leader).append _

theorem isTidy_entryLine (e : String × String) : IsTidy (entryLine e) := by
  have h : IsTidy ", \x7d," := ⟨rfl, by decide⟩
  exact (((h.append _).append _).append e.1).append _

theorem isTidy_entriesEnd : IsTidy "        \x7d;" := ⟨rfl, by decide⟩

theorem isTidy_blockEnd : IsTidy "    \x7d;" := ⟨rfl, by decide⟩

theorem isTidy_end : IsTidy "\x7d;" := ⟨rfl, by decide⟩

/-- Without the blanks at its end, a line of a description is still one. -/
theorem exists_tidyLine_docLine (line : String) :
    ∃ rest, tidyLine (docLine line) = "///".toList ++ rest := by
  have hdoc : (docLine line).toList = "//".toList ++ ('/' :: ' ' :: line.toList) := by
    rw [docLine, String.toList_append]
    rfl
  have hslash := trimEnd_cons (c := '/') rfl (' ' :: line.toList)
  refine ⟨trimEnd (' ' :: line.toList), ?_⟩
  rw [tidyLine, hdoc, trimEnd_append (by simp [hslash]), hslash]
  rfl

theorem exists_tidyLine_memberDocLine (line : String) :
    ∃ rest, tidyLine (memberDocLine line) = "    ///".toList ++ rest := by
  obtain ⟨rest, hrest⟩ := exists_tidyLine_docLine line
  have hne : tidyLine (docLine line) ≠ [] := by simp [hrest]
  refine ⟨rest, ?_⟩
  rw [tidyLine, memberDocLine, String.toList_append, trimEnd_append hne, ← tidyLine, hrest]
  rfl

/-! ## Reading a declaration -/

/-- What can be laid out as a member and is then read back. -/
structure MemberDraft.IsLegal (kind : Kind) (m : MemberDraft) : Prop where
  docs : ∀ line ∈ m.docs, IsLine line
  name : isIdentifier m.name = true
  type : HasType kind m.type
  clean : ∀ type ∈ m.type, IsLine type

/-- What can be laid out as a block and is then read back. -/
structure IsLegalBlock (b : String × List (String × String)) : Prop where
  quote : '"' ∉ b.1.toList
  clean : IsLine b.1
  entries : ∀ e ∈ b.2, isIdentifier e.1 = true

/-- What can be laid out as a declaration and is then read back. -/
structure Draft.IsLegal (f : Draft) : Prop where
  docs : ∀ line ∈ f.docs, IsLine line
  leader : IsLeader f.leader
  name : isIdentifier f.name = true
  members : ∀ m ∈ f.members, m.IsLegal f.kind
  blocks : ∀ b ∈ f.blocks, IsLegalBlock b

theorem step_docLine (line : String) : step .start (tidyLine (docLine line)) = some .start := by
  obtain ⟨rest, hrest⟩ := exists_tidyLine_docLine line
  rw [hrest, step, isDoc, if_pos (List.isPrefixOf_iff_prefix.mpr ⟨rest, rfl⟩)]

theorem step_openingLine {leader name : String} (hl : IsLeader leader)
    (hn : isIdentifier name = true) (kind : Kind) :
    step .start (openingLine leader kind name).toList =
      some (.within ⟨kind, name, [], []⟩ .members) := by
  have hdoc : isDoc (openingLine leader kind name).toList = false := by
    simp only [openingLine, String.toList_append]
    rcases hl with rfl | rfl <;> rfl
  rw [step, hdoc, opening?_openingLine hl hn]
  rfl

theorem step_memberDocLine (r : Transcript) (line : String) :
    step (.within r .members) (tidyLine (memberDocLine line)) = some (.within r .members) := by
  obtain ⟨rest, hrest⟩ := exists_tidyLine_memberDocLine line
  rw [hrest, step, isMemberDoc, if_neg (by simp), if_neg (by simp),
    if_pos (List.isPrefixOf_iff_prefix.mpr ⟨rest, rfl⟩)]

/-- No identifier starts like a comment. -/
theorem isMemberDoc_memberLine {name : String} (hn : isIdentifier name = true)
    (type : Option String) : isMemberDoc (memberLine name type).toList = false := by
  have hlegal := isLegal_of_isIdentifier hn
  simp only [memberLine, String.toList_append]
  cases hcs : name.toList with
  | nil => simp [isIdentifier, hcs, hasIdentifierForm] at hn
  | cons c cs =>
    have hc : ('/' == c) = false := by
      refine beq_eq_false_iff_ne.mpr ?_
      rintro rfl
      have hname : Name.isNameChar '/' = true := hlegal '/' (by simp [hcs])
      cases hname
    show (('/' == c) && _) = false
    rw [hc, Bool.false_and]

theorem step_memberLine {r : Transcript} {name : String} {type : Option String}
    (hn : isIdentifier name = true) (ht : HasType r.kind type) :
    step (.within r .members) (memberLine name type).toList =
      some (.within { r with members := r.members ++ [(name, type)] } .members) := by
  have hspace : (memberLine name type).toList =
      ' ' :: ("   ".toList ++ (name.toList ++ (typeSuffix type).toList)) := by
    simp only [memberLine, String.toList_append]
    rfl
  have hend : ((memberLine name type).toList == "\x7d;".toList) = false := by rw [hspace]; rfl
  rw [step, if_neg (by simp [hspace]), if_neg (Bool.eq_false_iff.mp hend),
    if_neg (by simp [isMemberDoc_memberLine hn]), member?_memberLine hn ht]
  rfl

theorem run_member {r : Transcript} {m : MemberDraft} (hm : m.IsLegal r.kind) :
    run (.within r .members) (m.lines.map tidyLine) =
      some (.within { r with members := r.members ++ [(m.name, m.type)] } .members) := by
  have hdocs : run (.within r .members) ((m.docs.map memberDocLine).map tidyLine) =
      some (.within r .members) :=
    run_of_step_eq (List.forall_mem_map.mpr (List.forall_mem_map.mpr
      fun doc _ => step_memberDocLine r doc))
  rw [MemberDraft.lines, List.map_append, run_append, hdocs, Option.bind_some, List.map_singleton,
    run_cons, (isTidy_memberLine _ _).eq, step_memberLine hm.name hm.type]
  rfl

theorem run_members : ∀ {ms : List MemberDraft} {r : Transcript}, (∀ m ∈ ms, m.IsLegal r.kind) →
    run (.within r .members) ((ms.flatMap MemberDraft.lines).map tidyLine) =
      some (.within { r with members := r.members ++ ms.map fun m => (m.name, m.type) } .members)
  | [], r, _ => by
    rw [List.map_nil, List.append_nil]
    rfl
  | m :: ms, r, h => by
    have hrest := run_members (r := { r with members := r.members ++ [(m.name, m.type)] })
      fun m hm => h m (List.mem_cons_of_mem _ hm)
    rw [List.flatMap_cons, List.map_append, run_append, run_member (h m (by simp)),
      Option.bind_some, hrest, List.map_cons, List.append_assoc]
    rfl

/-- Where a block or the end of the declaration may come next. -/
def MayEnd (position : Position) : Prop := position = .members ∨ position = .blocks

theorem step_entryLine {r : Transcript} {name : String} {entries : List (String × String)}
    {e : String × String} (hn : isIdentifier e.1 = true) :
    step (.within r (.entries name entries)) (entryLine e).toList =
      some (.within r (.entries name (entries ++ [e]))) := by
  have hend : ((entryLine e).toList == "        \x7d;".toList) = false := by
    simp only [entryLine, String.toList_append]
    rfl
  rw [step, if_neg (Bool.eq_false_iff.mp hend), renaming?_entryLine hn]
  rfl

theorem run_entries {r : Transcript} {name : String} : ∀ {es entries : List (String × String)},
    (∀ e ∈ es, isIdentifier e.1 = true) →
    run (.within r (.entries name entries)) ((es.map entryLine).map tidyLine) =
      some (.within r (.entries name (entries ++ es)))
  | [], entries, _ => by
    rw [List.append_nil]
    rfl
  | e :: es, entries, h => by
    rw [List.map_cons, List.map_cons, run_cons, (isTidy_entryLine e).eq,
      step_entryLine (h e (by simp)), Option.bind_some,
      run_entries fun e he => h e (List.mem_cons_of_mem _ he), List.append_assoc]
    rfl

theorem run_block {r : Transcript} {position : Position} (hp : MayEnd position) {leader : String}
    (hl : IsLeader leader) {b : String × List (String × String)} (hb : IsLegalBlock b) :
    run (.within r position) ((blockLines leader b).map tidyLine) =
      some (.within { r with blocks := r.blocks ++ [b] } .blocks) := by
  have hgap : step (.within r position) (tidyLine "") = some (.within r .gap) := by
    rcases hp with rfl | rfl <;> rfl
  have hstart : step (.within r .gap) (blockLine leader b.1).toList =
      some (.within r (.block b.1)) := by
    rw [step, block?_blockLine hl hb.quote]
    rfl
  have hattributes : step (.within r (.block b.1)) (attributesLine leader).toList =
      some (.within r (.entries b.1 [])) := by
    rw [step, if_pos (isAttributes_attributesLine hl)]
  have hends : run (.within r (.entries b.1 b.2))
      (["        \x7d;", "    \x7d;"].map tidyLine) =
        some (.within { r with blocks := r.blocks ++ [b] } .blocks) := rfl
  simp only [blockLines, List.map_append, List.map_cons, List.cons_append, List.nil_append,
    run_cons, run_append, hgap, Option.bind_some, (isTidy_blockLine _ _).eq, hstart,
    (isTidy_attributesLine _).eq, hattributes, run_entries hb.entries]
  exact hends

theorem run_blocks {leader : String} (hl : IsLeader leader) :
    ∀ {bs : List (String × List (String × String))} {r : Transcript} {position : Position},
      MayEnd position → (∀ b ∈ bs, IsLegalBlock b) →
      ∃ after, MayEnd after ∧
        run (.within r position) ((bs.flatMap (blockLines leader)).map tidyLine) =
          some (.within { r with blocks := r.blocks ++ bs } after)
  | [], r, position, hp, _ => ⟨position, hp, by rw [List.append_nil]; rfl⟩
  | b :: bs, r, position, hp, h => by
    -- behind the first block, the reader is no longer among the members
    obtain ⟨after, hafter, hrun⟩ := run_blocks hl (r := { r with blocks := r.blocks ++ [b] })
      (.inr rfl) fun b hb => h b (List.mem_cons_of_mem _ hb)
    refine ⟨after, hafter, ?_⟩
    rw [List.flatMap_cons, List.map_append, run_append, run_block hp hl (h b (by simp)),
      Option.bind_some, hrun, List.append_assoc]
    rfl

namespace Draft

variable {f : Draft}

/-- The lines of a declaration, without the blanks at their ends, are read back. -/
theorem IsLegal.read_eq (hf : f.IsLegal) : read (f.lines.map tidyLine) = some f.transcript := by
  let opened : Transcript := ⟨f.kind, f.name, [], []⟩
  have hdocs : run .start ((f.docs.map docLine).map tidyLine) = some .start :=
    run_of_step_eq (List.forall_mem_map.mpr (List.forall_mem_map.mpr
      fun doc _ => step_docLine doc))
  have hopening : run .start ([openingLine f.leader f.kind f.name].map tidyLine) =
      some (.within opened .members) := by
    rw [List.map_singleton, run_cons, (isTidy_openingLine _ _ _).eq,
      step_openingLine hf.leader hf.name]
    rfl
  have hmembers :
      run (.within opened .members) ((f.members.flatMap MemberDraft.lines).map tidyLine) =
        some (.within { opened with members := f.members.map fun m => (m.name, m.type) }
          .members) :=
    run_members hf.members
  obtain ⟨position, hposition, hblocks⟩ := run_blocks hf.leader
    (r := { opened with members := f.members.map fun m => (m.name, m.type) }) (.inl rfl) hf.blocks
  have hend : run (.within f.transcript position) (["\x7d;"].map tidyLine) =
      some (.within f.transcript .closed) := by
    rcases hposition with rfl | rfl <;> rfl
  rw [Reader.read, Draft.lines]
  simp only [List.map_append, run_append, hdocs, hopening, hmembers, hblocks, Option.bind_some]
  show (run (.within f.transcript position) _).bind _ = _
  rw [hend]
  rfl

end Draft

/-! ## Tidying keeps every line -/

theorem tidyLine_docLine_ne_nil (line : String) : tidyLine (docLine line) ≠ [] := by
  obtain ⟨rest, hrest⟩ := exists_tidyLine_docLine line
  simp [hrest]

theorem tidyLine_memberDocLine_ne_nil (line : String) : tidyLine (memberDocLine line) ≠ [] := by
  obtain ⟨rest, hrest⟩ := exists_tidyLine_memberDocLine line
  simp [hrest]

theorem MemberDraft.kept (m : MemberDraft) : Kept m.lines :=
  (kept_of_forall (List.forall_mem_map.mpr fun doc _ => tidyLine_memberDocLine_ne_nil doc)).append
    (kept_line (isTidy_memberLine _ _).tidyLine_ne_nil)

theorem kept_blockLines (leader : String) (b : String × List (String × String)) :
    Kept (blockLines leader b) := by
  have hentries : Kept (b.2.map entryLine) :=
    kept_of_forall (List.forall_mem_map.mpr fun e _ => (isTidy_entryLine e).tidyLine_ne_nil)
  have hattributes := kept_line (isTidy_attributesLine leader).tidyLine_ne_nil
  have hends := (kept_line isTidy_entriesEnd.tidyLine_ne_nil).append
    (kept_line isTidy_blockEnd.tidyLine_ne_nil)
  exact (kept_gap (isTidy_blockLine _ _).tidyLine_ne_nil).append
    ((hattributes.append hentries).append hends)

/-- Between the first line of a declaration, which is not blank, and its last one, tidying leaves
out none. -/
theorem Draft.exists_kept (f : Draft) : ∃ first ls, f.lines = first :: ls ++ ["\x7d;"] ∧
    tidyLine first ≠ [] ∧ Kept ls := by
  let inner := f.members.flatMap MemberDraft.lines ++ f.blocks.flatMap (blockLines f.leader)
  have hinner : Kept inner :=
    (kept_flatMap fun m _ => m.kept).append (kept_flatMap fun b _ => kept_blockLines _ b)
  have hopening := (isTidy_openingLine f.leader f.kind f.name).tidyLine_ne_nil
  rw [Draft.lines]
  cases f.docs with
  | nil => exact ⟨_, inner, by simp [inner], hopening, hinner⟩
  | cons doc docs =>
    have hdocs : Kept (docs.map docLine) :=
      kept_of_forall (List.forall_mem_map.mpr fun line _ => tidyLine_docLine_ne_nil line)
    exact ⟨docLine doc, docs.map docLine ++ [openingLine f.leader f.kind f.name] ++ inner,
      by simp [inner], tidyLine_docLine_ne_nil doc,
      (hdocs.append (kept_line hopening)).append hinner⟩

end ZigDecl.Zig
