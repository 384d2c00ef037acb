import ZigDecl.Output.Sink

/-! # Sessions with a sink

A program opens and closes buffers, writes to the one that it opened last, asks for the finished
files, and may fail and go on. A session keeps what it did to the sink. Main statement: whatever
holds of a sink at first and is kept by every operation that succeeds holds of it after any
program. -/

namespace ZigDecl.Output

/-- What is done to a buffer. -/
inductive Write where
  | line (text : String)
  | text (text : String)
  /-- An empty line, unless there is one already. -/
  | gap
  deriving DecidableEq, Repr

def Buffer.write (b : Buffer) : Write → Buffer
  | .line content => b.emitLine content
  | .text content => b.emit content
  | .gap => b.ensureBlankLine

/-- A buffer with some writes and nothing else. -/
def written (ws : List Write) : Buffer := ws.foldl Buffer.write .empty

theorem written_concat (ws : List Write) (w : Write) : written (ws ++ [w]) = (written ws).write w :=
  List.foldl_append ..

/-- A step of a program that uses a sink. -/
inductive Action where
  | «open» (name : String) (fileName : Option String)
  | close
  /-- A write to the buffer that was opened last, if there is one. -/
  | write (w : Write)
  /-- The finished files are asked for. -/
  | finish
  /-- A body with a buffer of its own, which is closed however the body ends. -/
  | block (name : String) (fileName : Option String) (body : List Action)
  /-- A body whose failure is caught. -/
  | attempt (body : List Action)
  /-- A failure that has nothing to do with the sink. -/
  | raise

/-- Why a program stopped. -/
inductive Stop where
  | sink (e : SinkError)
  | raised
  deriving DecidableEq, Repr

/-- What was done to a sink. -/
inductive Event where
  | opened (label : String)
  | closed
  | wrote (w : Write)
  | listed (files : List File)
  deriving DecidableEq, Repr

/-- A sink, and what was done to it, the latest event first. -/
structure Session where
  sink : Sink
  past : List Event
  deriving DecidableEq, Repr

/-- What a buffer goes by: its file, or the name of its declaration in one stream. -/
def Sink.labelFor (s : Sink) (name : String) (fileName : Option String) : String :=
  if s.isSplit then s.fileFor name fileName else name

/-- The label of the buffer that was opened last. -/
def lastOpened : List Event → Option String
  | [] => none
  | .opened label :: _ => some label
  | _ :: past => lastOpened past

namespace Session

def start (isSplit : Bool) (extension : String) : Session := ⟨.new isSplit extension, []⟩

def opened (s : Session) (name : String) (fileName : Option String) (sink : Sink) : Session :=
  ⟨sink, .opened (s.sink.labelFor name fileName) :: s.past⟩

def closed (s : Session) (sink : Sink) : Session := ⟨sink, .closed :: s.past⟩

def wrote (s : Session) (w : Write) : Session := ⟨s.sink.modify (·.write w), .wrote w :: s.past⟩

def listed (s : Session) (files : List File) : Session := ⟨s.sink, .listed files :: s.past⟩

end Session

section Programs

variable (lineEnding : String)

mutual

/-- One step of a program, with the failure that it ends in, if any. -/
def exec : Action → Session → Session × Option Stop
  | .open name fileName, s =>
    match s.sink.open name fileName with
    | .ok sink => (s.opened name fileName sink, none)
    | .error e => (s, some (.sink e))
  | .close, s =>
    match s.sink.close with
    | .ok sink => (s.closed sink, none)
    | .error e => (s, some (.sink e))
  | .write w, s => (if (lastOpened s.past).isSome then s.wrote w else s, none)
  | .finish, s =>
    match s.sink.finished lineEnding with
    | .ok files => (s.listed files, none)
    | .error e => (s, some (.sink e))
  | .block name fileName body, s =>
    let inside := fun opened => execAll body (s.opened name fileName opened)
    let done := s.sink.emitFile Stop.sink name fileName fun opened =>
      ⟨(inside opened).1.sink, (inside opened).2⟩
    let past := match s.sink.open name fileName with
      | .ok opened =>
        if (inside opened).1.sink.isOpen then .closed :: (inside opened).1.past
        else (inside opened).1.past
      | .error _ => s.past
    (⟨done.sink, past⟩, done.failure)
  | .attempt body, s => ((execAll body s).1, none)
  | .raise, s => (s, some .raised)

/-- Steps one after the other up to the first failure. -/
def execAll : List Action → Session → Session × Option Stop
  | [], s => (s, none)
  | a :: rest, s =>
    match exec a s with
    | (t, none) => execAll rest t
    | (t, some stop) => (t, some stop)

end

variable {name : String} {fileName : Option String} {body : List Action} {s t : Session}

theorem exec_block_of_refused {e : SinkError} (h : s.sink.open name fileName = .error e) :
    exec lineEnding (.block name fileName body) s = (s, some (.sink e)) := by
  rw [exec, Sink.emitFile, h]

/-- A block closes what its body left open; if there is nothing to close, it fails for that. -/
theorem exec_block_of_opened {opened : Sink} (h : s.sink.open name fileName = .ok opened)
    {stop : Option Stop}
    (hbody : execAll lineEnding body (s.opened name fileName opened) = (t, stop)) :
    exec lineEnding (.block name fileName body) s =
      match t.sink.close with
      | .ok sink => (t.closed sink, stop)
      | .error e => (t, some (.sink e)) := by
  rw [exec, Sink.emitFile, h]
  simp only [hbody, Sink.isOpen, Sink.close]
  cases hcurrent : t.sink.current with
  | none => rfl
  | some label => rfl

/-! ## Runs -/

/-- A property of sessions that every operation keeps that is recorded. -/
structure IsKept (P : Session → Prop) : Prop where
  opened : ∀ {s : Session} {name : String} {fileName : Option String} {sink : Sink}, P s →
    s.sink.open name fileName = .ok sink → P (s.opened name fileName sink)
  closed : ∀ {s : Session} {sink : Sink}, P s → s.sink.close = .ok sink → P (s.closed sink)
  wrote : ∀ {s : Session} {label : String}, P s → lastOpened s.past = some label →
    ∀ w : Write, P (s.wrote w)
  listed : ∀ {s : Session} {files : List File}, P s → s.sink.finished lineEnding = .ok files →
    P (s.listed files)

mutual

theorem IsKept.exec {P : Session → Prop} (hP : IsKept lineEnding P) :
    ∀ (a : Action) {s : Session}, P s → P (exec lineEnding a s).1
  | .open name fileName, s, h => by
    rw [Output.exec]
    cases hopen : s.sink.open name fileName with
    | ok sink => exact hP.opened h hopen
    | error e => exact h
  | .close, s, h => by
    rw [Output.exec]
    cases hclose : s.sink.close with
    | ok sink => exact hP.closed h hclose
    | error e => exact h
  | .write w, s, h => by
    rw [Output.exec]
    cases hlast : lastOpened s.past with
    | some label => exact hP.wrote h hlast w
    | none => exact h
  | .finish, s, h => by
    rw [Output.exec]
    cases hfinished : s.sink.finished lineEnding with
    | ok files => exact hP.listed h hfinished
    | error e => exact h
  | .block name fileName body, s, h => by
    cases hopen : s.sink.open name fileName with
    | error e =>
      rw [exec_block_of_refused lineEnding hopen]
      exact h
    | ok opened =>
      have hbody := IsKept.execAll hP body (hP.opened h hopen)
      rw [exec_block_of_opened lineEnding hopen rfl]
      cases hclose :
          (Output.execAll lineEnding body (s.opened name fileName opened)).1.sink.close with
      | ok sink => exact hP.closed hbody hclose
      | error e => exact hbody
  | .attempt body, s, h => by
    rw [Output.exec]
    exact IsKept.execAll hP body h
  | .raise, s, h => by
    rw [Output.exec]
    exact h

/-- What every recorded operation keeps holds after any program. -/
theorem IsKept.execAll {P : Session → Prop} (hP : IsKept lineEnding P) :
    ∀ (program : List Action) {s : Session}, P s → P (execAll lineEnding program s).1
  | [], s, h => by
    rw [Output.execAll]
    exact h
  | a :: rest, s, h => by
    rw [Output.execAll]
    have ha := IsKept.exec hP a h
    cases hrun : Output.exec lineEnding a s with
    | mk t stop =>
      rw [hrun] at ha
      cases stop with
      | none => exact IsKept.execAll hP rest ha
      | some stop => exact ha

end

end Programs

end ZigDecl.Output
