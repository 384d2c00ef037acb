import Mathlib.Data.List.Nodup
import ZigDecl.Proofs.Output.Parts
import ZigDecl.Proofs.Output.Session

/-! # What a session says about its sink

The events of a session tell which buffers were closed in which order and what was written to each.
Main statement: after any program, at most one buffer was open at any time, and the sink holds what
the events tell: it lists the closed buffers in order, each with what was written to it, or one
stream with all writes; an operation that is out of sequence changes nothing, and a block leaves
nothing open. -/

namespace ZigDecl.Output

/-! ## What events tell -/

/-- The label of the open buffer. -/
def openNow : List Event → Option String
  | [] => none
  | .opened label :: _ => some label
  | .closed :: _ => none
  | _ :: past => openNow past

/-- The labels of the buffers in the order in which they were opened. -/
def openings : List Event → List String
  | [] => []
  | .opened label :: past => openings past ++ [label]
  | _ :: past => openings past

/-- The labels of the buffers in the order in which they were closed. -/
def closings : List Event → List String
  | [] => []
  | .closed :: past => closings past ++ (openNow past).toList
  | _ :: past => closings past

/-- What was written while a buffer was the one that was opened last. -/
def writesTo (label : String) : List Event → List Write
  | [] => []
  | .wrote w :: past => writesTo label past ++ if lastOpened past = some label then [w] else []
  | _ :: past => writesTo label past

/-- All that was written. -/
def allWrites : List Event → List Write
  | [] => []
  | .wrote w :: past => allWrites past ++ [w]
  | _ :: past => allWrites past

/-- The file that holds some writes. -/
def fileOf (lineEnding : String) (name : Option String) (ws : List Write) : File :=
  ⟨name, (written ws).text lineEnding⟩

/-- The finished files as events tell: the closed buffers in order with what was written to each, or
one file without a name and with all writes. -/
def filesAfter (lineEnding : String) (isSplit : Bool) (past : List Event) : List File :=
  if isSplit then
    (closings past).map fun label => fileOf lineEnding (some label) (writesTo label past)
  else [fileOf lineEnding none (allWrites past)]

theorem lastOpened_eq (past : List Event) : lastOpened past = (openings past).getLast? := by
  induction past with
  | nil => rfl
  | cons e past ih =>
    cases e with
    | opened label => simp [lastOpened, openings]
    | _ => exact ih

theorem writesTo_eq_nil {label : String} {past : List Event} (h : label ∉ openings past) :
    writesTo label past = [] := by
  induction past with
  | nil => rfl
  | cons e past ih =>
    cases e with
    | opened other =>
      rw [openings, List.mem_append, not_or] at h
      exact ih h.1
    | wrote w =>
      have hlast : lastOpened past ≠ some label := fun hlast =>
        h (List.mem_of_getLast? (lastOpened_eq past ▸ hlast))
      rw [writesTo, if_neg hlast, ih h]
      rfl
    | _ => exact ih h

/-- What was opened later stands behind what was opened before. -/
theorem openings_of_suffix {before past : List Event} (h : before <:+ past) :
    openings before <+: openings past := by
  induction past with
  | nil =>
    obtain rfl := List.suffix_nil.mp h
    exact List.prefix_refl _
  | cons e past ih =>
    rcases List.suffix_cons_iff.mp h with rfl | hb
    · exact List.prefix_refl _
    · cases e with
      | opened label => exact (ih hb).trans (List.prefix_append _ _)
      | _ => exact ih hb

/-! ## Every operation keeps a sink in step with its events -/

/-- A sink holds what the events tell, of which none is out of sequence. -/
structure Tracked (lineEnding : String) (isSplit : Bool) (s : Session) : Prop where
  mode : s.sink.isSplit = isSplit
  current : s.sink.current = openNow s.past
  stream : isSplit = false → s.sink.stream = written (allWrites s.past)
  files : isSplit = true →
    s.sink.files = (openings s.past).map fun label => (label, written (writesTo label s.past))
  nodup : isSplit = true → (openings s.past).Nodup
  inOrder : ∀ before, before <:+ s.past →
    openings before = closings before ++ (openNow before).toList
  listings : ∀ files before, .listed files :: before <:+ s.past →
    openNow before = none ∧ files = filesAfter lineEnding isSplit before

theorem tracked_start (lineEnding : String) (isSplit : Bool) (extension : String) :
    Tracked lineEnding isSplit (.start isSplit extension) where
  mode := rfl
  current := rfl
  stream _ := rfl
  files _ := rfl
  nodup _ := List.nodup_nil
  inOrder before h := by
    rw [List.suffix_nil.mp h]
    rfl
  listings _ _ h := nomatch List.suffix_nil.mp h

theorem Sink.eq_of_open {s sink : Sink} {name : String} {fileName : Option String}
    (h : s.open name fileName = .ok sink) :
    s.current = none ∧ (s.isSplit = true → s.labelFor name fileName ∉ s.files.map (·.1)) ∧
      sink = { s with
        files := if s.isSplit then s.files ++ [(s.labelFor name fileName, .empty)] else s.files
        current := some (s.labelFor name fileName) } := by
  rw [Sink.open] at h
  rw [labelFor]
  cases hcurrent : s.current with
  | some label => rw [hcurrent] at h; cases h
  | none =>
    rw [hcurrent] at h
    refine ⟨rfl, ?_⟩
    cases hsplit : s.isSplit with
    | false =>
      rw [hsplit] at h
      cases h
      exact ⟨fun htrue => absurd htrue Bool.false_ne_true, by simp⟩
    | true =>
      simp only [hsplit, if_true] at h ⊢
      split at h
      · cases h
      · next hfree =>
        cases h
        refine ⟨fun _ hmem => hfree ?_, rfl⟩
        obtain ⟨e, he, heq⟩ := List.mem_map.mp hmem
        exact List.any_eq_true.mpr ⟨e, he, by simpa using heq⟩

theorem Sink.eq_of_close {s sink : Sink} (h : s.close = .ok sink) :
    ∃ label, s.current = some label ∧ sink = { s with current := none } := by
  rw [Sink.close] at h
  cases hcurrent : s.current with
  | none => rw [hcurrent] at h; cases h
  | some label => rw [hcurrent] at h; cases h; exact ⟨label, rfl, rfl⟩

@[simp] theorem Sink.isSplit_modify (s : Sink) (f : Buffer → Buffer) :
    (s.modify f).isSplit = s.isSplit := by
  rw [modify]
  split <;> rfl

@[simp] theorem Sink.current_modify (s : Sink) (f : Buffer → Buffer) :
    (s.modify f).current = s.current := by
  rw [modify]
  split <;> rfl

theorem Sink.files_modify {s : Sink} (h : s.isSplit = true) (f : Buffer → Buffer) :
    (s.modify f).files = modifyLast f s.files := by
  rw [modify, if_pos h]

theorem Sink.stream_modify {s : Sink} (h : s.isSplit = false) (f : Buffer → Buffer) :
    (s.modify f).stream = f s.stream := by
  rw [modify, h]
  rfl

section Steps

variable {lineEnding : String} {isSplit : Bool} {s : Session}

/-- The finished files are those that the events tell. -/
theorem Tracked.eq_filesAfter (h : Tracked lineEnding isSplit s) (hnone : openNow s.past = none) :
    s.sink.finished lineEnding = .ok (filesAfter lineEnding isSplit s.past) := by
  rw [Sink.finished, h.current, hnone, h.mode, filesAfter]
  cases isSplit with
  | false =>
    rw [h.stream rfl]
    rfl
  | true =>
    have hall := h.inOrder s.past (List.suffix_refl _)
    rw [hnone, Option.toList_none, List.append_nil] at hall
    rw [h.files rfl, hall, if_pos rfl, if_pos rfl, List.map_map]
    rfl

theorem Tracked.openNow_of_finished (h : Tracked lineEnding isSplit s) {files : List File}
    (hfinished : s.sink.finished lineEnding = .ok files) : openNow s.past = none := by
  rw [Sink.finished, h.current] at hfinished
  cases hopen : openNow s.past with
  | none => rfl
  | some label => rw [hopen] at hfinished; cases hfinished

/-- One more event keeps what holds at every time. -/
theorem Tracked.inOrder_cons (h : Tracked lineEnding isSplit s) {e : Event}
    (he : openings (e :: s.past) = closings (e :: s.past) ++ (openNow (e :: s.past)).toList) :
    ∀ before, before <:+ e :: s.past →
      openings before = closings before ++ (openNow before).toList := by
  intro before hb
  rcases List.suffix_cons_iff.mp hb with rfl | hb
  · exact he
  · exact h.inOrder before hb

theorem Tracked.listings_cons (h : Tracked lineEnding isSplit s) {e : Event}
    (he : ∀ files, e = .listed files →
      openNow s.past = none ∧ files = filesAfter lineEnding isSplit s.past) :
    ∀ files before, .listed files :: before <:+ e :: s.past →
      openNow before = none ∧ files = filesAfter lineEnding isSplit before := by
  intro files before hb
  rcases List.suffix_cons_iff.mp hb with heq | hb
  · obtain ⟨rfl, rfl⟩ := List.cons.inj heq
    exact he files rfl
  · exact h.listings files before hb

theorem Tracked.opened (h : Tracked lineEnding isSplit s) {name : String}
    {fileName : Option String} {sink : Sink} (hopen : s.sink.open name fileName = .ok sink) :
    Tracked lineEnding isSplit (s.opened name fileName sink) := by
  obtain ⟨hcurrent, hfree, rfl⟩ := Sink.eq_of_open hopen
  have hnew : isSplit = true → s.sink.labelFor name fileName ∉ openings s.past := fun hsplit => by
    have hkeys : s.sink.files.map (·.1) = openings s.past := by
      rw [h.files hsplit, List.map_map]
      exact List.map_id _
    exact hkeys ▸ hfree (h.mode.trans hsplit)
  refine ⟨h.mode, rfl, h.stream, fun hsplit => ?_, fun hsplit => ?_, h.inOrder_cons ?_,
    h.listings_cons nofun⟩
  · show (if s.sink.isSplit then _ else _) = (openings s.past ++ [_]).map _
    rw [if_pos (h.mode.trans hsplit), h.files hsplit, List.map_append, List.map_singleton]
    refine congrArg (_ ++ [·]) (Prod.ext rfl ?_)
    exact (congrArg written (writesTo_eq_nil (hnew hsplit))).symm
  · show (openings s.past ++ [_]).Nodup
    rw [← List.concat_eq_append]
    exact List.Nodup.concat (hnew hsplit) (h.nodup hsplit)
  · have hall := h.inOrder s.past (List.suffix_refl _)
    rw [← h.current, hcurrent, Option.toList_none, List.append_nil] at hall
    simp only [openings, closings, openNow, hall, Option.toList_some]

theorem Tracked.closed (h : Tracked lineEnding isSplit s) {sink : Sink}
    (hclose : s.sink.close = .ok sink) : Tracked lineEnding isSplit (s.closed sink) := by
  obtain ⟨label, hcurrent, rfl⟩ := Sink.eq_of_close hclose
  refine ⟨h.mode, rfl, h.stream, h.files, h.nodup, h.inOrder_cons ?_, h.listings_cons nofun⟩
  simp only [openings, closings, openNow, Option.toList_none, List.append_nil]
  exact h.inOrder s.past (List.suffix_refl _)

theorem Tracked.wrote (h : Tracked lineEnding isSplit s) {label : String}
    (hlast : lastOpened s.past = some label) (w : Write) :
    Tracked lineEnding isSplit (s.wrote w) := by
  refine ⟨(Sink.isSplit_modify ..).trans h.mode, (Sink.current_modify ..).trans h.current,
    fun hsplit => ?_, fun hsplit => ?_, h.nodup, h.inOrder_cons ?_, h.listings_cons nofun⟩
  · show (s.sink.modify (·.write w)).stream = written (allWrites s.past ++ [w])
    rw [Sink.stream_modify (h.mode.trans hsplit), h.stream hsplit, written_concat]
  · -- The buffer that was opened last is the last one, and the only one of its label.
    obtain ⟨before, hlabels⟩ := List.getLast?_eq_some_iff.mp (lastOpened_eq s.past ▸ hlast)
    have hothers : ∀ other ∈ before, label ≠ other := by
      rintro other hmem rfl
      exact (List.nodup_append.mp (hlabels ▸ h.nodup hsplit)).2.2 _ hmem _ (by simp) rfl
    show (s.sink.modify (·.write w)).files = (openings s.past).map fun other =>
      (other, written (writesTo other s.past ++ if lastOpened s.past = some other then [w] else []))
    rw [Sink.files_modify (h.mode.trans hsplit), h.files hsplit, hlabels, List.map_append,
      List.map_append, List.map_singleton, Sink.modifyLast_concat, hlast]
    congr 1
    · refine List.map_congr_left fun other hmem => ?_
      rw [if_neg (by simpa using hothers other hmem), List.append_nil]
    · rw [List.map_singleton, if_pos rfl, written_concat]
  · exact h.inOrder s.past (List.suffix_refl _)

theorem Tracked.listed (h : Tracked lineEnding isSplit s) {files : List File}
    (hfinished : s.sink.finished lineEnding = .ok files) :
    Tracked lineEnding isSplit (s.listed files) := by
  have hnone := h.openNow_of_finished hfinished
  refine ⟨h.mode, h.current, h.stream, h.files, h.nodup,
    h.inOrder_cons (h.inOrder s.past (List.suffix_refl _)), h.listings_cons fun others heq => ?_⟩
  obtain rfl := Event.listed.inj heq
  exact ⟨hnone, Except.ok.inj (hfinished.symm.trans (h.eq_filesAfter hnone))⟩

end Steps

theorem isKept_tracked (lineEnding : String) (isSplit : Bool) :
    IsKept lineEnding (Tracked lineEnding isSplit) where
  opened h hopen := h.opened hopen
  closed h hclose := h.closed hclose
  wrote h hlast w := h.wrote hlast w
  listed h hfinished := h.listed hfinished

/-! ## What holds after any program -/

/-- Whether an action is a single operation, rather than a body of actions. -/
def Action.isSingle : Action → Bool
  | .block .. | .attempt _ => false
  | _ => true

theorem exec_of_isSingle {lineEnding : String} {a : Action} (ha : a.isSingle = true)
    {s t : Session} {stop : Stop} (h : exec lineEnding a s = (t, some stop)) : t = s := by
  cases a with
  | «open» name fileName =>
    rw [exec] at h
    cases hopen : s.sink.open name fileName with
    | ok sink => rw [hopen] at h; cases h
    | error e => rw [hopen] at h; cases h; rfl
  | close =>
    rw [exec] at h
    cases hclose : s.sink.close with
    | ok sink => rw [hclose] at h; cases h
    | error e => rw [hclose] at h; cases h; rfl
  | finish =>
    rw [exec] at h
    cases hfinished : s.sink.finished lineEnding with
    | ok files => rw [hfinished] at h; cases h
    | error e => rw [hfinished] at h; cases h; rfl
  | write w => rw [exec] at h; cases h
  | raise => rw [exec] at h; cases h; rfl
  | block name fileName body => cases ha
  | attempt body => cases ha

/-- A block leaves what its body leaves, with no buffer open. -/
theorem Sink.sink_emitFile {ε : Type} (ofSink : SinkError → ε) {s opened : Sink} {name : String}
    {fileName : Option String} (h : s.open name fileName = .ok opened)
    (body : Sink → Outcome ε) :
    (s.emitFile ofSink name fileName body).sink = { (body opened).sink with current := none } := by
  rw [emitFile, h]
  simp only [close]
  cases hcurrent : (body opened).sink.current with
  | none => simp only [← hcurrent]
  | some label => rfl

/-- What a program has made of a new sink when it ends, be it by a failure. -/
def after (lineEnding : String) (isSplit : Bool) (extension : String) (program : List Action) :
    Session :=
  (execAll lineEnding program (.start isSplit extension)).1

/-- A sink was used in order. The latest events come first, so what happened up to some time is a
tail of all events. -/
structure Disciplined (lineEnding : String) (isSplit : Bool) (s : Session) : Prop where
  /-- At any time, what was opened is what was closed and at most one buffer more. -/
  oneOpen : ∀ before, before <:+ s.past →
    openings before = closings before ++ (openNow before).toList
  current : s.sink.current = openNow s.past
  /-- No two files have the same name. -/
  nodup : isSplit = true → ∀ before, before <:+ s.past → (closings before).Nodup
  /-- Whatever was listed are the closed files in order, with what was written to each, or one file
  with all writes. -/
  listed : ∀ files before, .listed files :: before <:+ s.past →
    files = filesAfter lineEnding isSplit before
  finished : s.sink.finished lineEnding =
    match openNow s.past with
    | some label => .error (.stillOpen label)
    | none => .ok (filesAfter lineEnding isSplit s.past)
  /-- An operation that fails changes nothing. -/
  unchanged : ∀ a t e, a.isSingle = true → exec lineEnding a s = (t, some (.sink e)) → t = s
  /-- A block that does not get its buffer changes nothing; any other leaves what its body leaves,
  with no buffer open, whatever the body is. -/
  released : ∀ (ε : Type) (ofSink : SinkError → ε) name fileName (body : Sink → Sink.Outcome ε),
    match s.sink.open name fileName with
    | .error e => s.sink.emitFile ofSink name fileName body = ⟨s.sink, some (ofSink e)⟩
    | .ok opened => (s.sink.emitFile ofSink name fileName body).sink =
        { (body opened).sink with current := none }

/-- A sink is used in order by every program, whatever it opens, closes, writes and fails at. -/
theorem disciplined_after (lineEnding : String) (isSplit : Bool) (extension : String)
    (program : List Action) :
    Disciplined lineEnding isSplit (after lineEnding isSplit extension program) := by
  have h := (isKept_tracked lineEnding isSplit).execAll lineEnding program
    (tracked_start lineEnding isSplit extension)
  rw [← after] at h
  generalize after lineEnding isSplit extension program = s at h ⊢
  refine ⟨h.inOrder, h.current, fun hsplit before hb => ?_,
    fun files before hb => (h.listings files before hb).2, ?_,
    fun a t e ha hrun => exec_of_isSingle ha hrun, fun ε ofSink name fileName body => ?_⟩
  · have hnodup := (h.nodup hsplit).sublist (openings_of_suffix hb).sublist
    rw [h.inOrder before hb] at hnodup
    exact (List.nodup_append.mp hnodup).1
  · cases hopen : openNow s.past with
    | some label => rw [Sink.finished, h.current, hopen]
    | none => exact h.eq_filesAfter hopen
  · cases hopen : s.sink.open name fileName with
    | error e => simp only [Sink.emitFile, hopen]
    | ok opened => exact Sink.sink_emitFile ofSink hopen body

/-- A program that opens a buffer twice, closes one inside its block, writes to it afterwards, fails
in the block of another, and opens a finished file again. -/
def carelessProgram : List Action := [
  .attempt [.block "A" none [.write (.line "one"), .attempt [.open "B" none], .close]],
  .write (.line "late"),
  .attempt [.block "B" (some "") [.write (.text "two\n"), .raise]],
  .attempt [.open "A" none],
  .finish]

theorem disciplined_careless :
    Disciplined "\n" true (after "\n" true ".zig" carelessProgram) ∧
    (after "\n" true ".zig" carelessProgram).sink.finished "\n" =
      .ok [⟨some "a.zig", "one\nlate\n"⟩, ⟨some "b.zig", "two\n"⟩] := by
  have h := disciplined_after "\n" true ".zig" carelessProgram
  refine ⟨h, ?_⟩
  have hclosed : openNow (after "\n" true ".zig" carelessProgram).past = none := by decide +kernel
  have hfiles : filesAfter "\n" true (after "\n" true ".zig" carelessProgram).past =
      [⟨some "a.zig", "one\nlate\n"⟩, ⟨some "b.zig", "two\n"⟩] := by decide +kernel
  rw [h.finished, hclosed, hfiles]

end ZigDecl.Output
