import KeliAgent.Transport
import KeliAgent.Lib.Interleave

/-!
# Terminal sessions

A session (`run_terminal_session` in `terminal.rs`) has two threads. The main thread reads the
socket and types what the client sends into the PTY; the output thread sends what the shell prints.
They share the socket under a lock, and the main thread waits for the output thread before it
returns.

* `terminalSystem`: the two threads, one access to the socket or the PTY at a time.
* `MainStep`, `OutputStep`: what a turn of a thread can do; `TerminalSession.inv_run`.
* **`terminal_bytes_in_order`**: what is typed is what the client has sent, and in the end what
  stops the shell; what is sent is what the shell has printed, without gaps and in order.
* **`terminal_stuck_iff`**: a session hangs exactly if a read of the socket fails while the output
  thread waits for the lock.
* **`terminal_shutdown_iff`**: which sessions return and leave the shell running.
-/

namespace KeliAgent

open Interleave

/-! ## Commands -/

/-- The fields of a command in a text message. -/
structure RawTerminalClientCommand where
  commandType : Option String
  cols : Option UInt16
  rows : Option UInt16
  input : Option String

inductive TerminalClientCommand where
  | input (bytes : List UInt8)
  | resize (cols rows : UInt16)
  | ignore
  deriving DecidableEq, Repr

/-- A reader of commands; `none` is a text that does not have the form of one. -/
abbrev CommandReader := List UInt8 → Option RawTerminalClientCommand

def parseTerminalClientText (json : CommandReader) (bytes : List UInt8) : TerminalClientCommand :=
  match json bytes with
  | some command =>
    match command.commandType with
    | some "resize" =>
      match command.cols, command.rows with
      | some cols, some rows => if 0 < cols ∧ 0 < rows then .resize cols rows else .ignore
      | _, _ => .ignore
    | some "input" =>
      match command.input.filter (· ≠ "") with
      | some input => .input input.toUTF8.toList
      | none => .ignore
    | _ => .ignore
  | none => .input bytes

def terminalInputForPty (input : List UInt8) : List UInt8 :=
  input.map fun byte => if byte = 13 then 10 else byte

inductive TerminalMessage where
  | text (bytes : List UInt8)
  | binary (bytes : List UInt8)
  | close
  | other
  deriving DecidableEq, Repr

/-- What the session does with a message other than `close`. -/
def TerminalMessage.command (json : CommandReader) : TerminalMessage → TerminalClientCommand
  | .text bytes => parseTerminalClientText json bytes
  | .binary bytes => .input bytes
  | .close | .other => .ignore

/-- What is to be typed for a command. -/
def TerminalClientCommand.typed : TerminalClientCommand → List UInt8
  | .input bytes => terminalInputForPty bytes
  | .resize _ _ | .ignore => []

def TerminalMessage.typed (json : CommandReader) (message : TerminalMessage) : List UInt8 :=
  (message.command json).typed

/-! ## The two threads -/

inductive TerminalError where
  | protocol (error : ProtocolError)
  | transport (error : TransportError)
  | io (message : String)
  | unsupportedPlatform
  deriving DecidableEq, Repr

/-- The client closed the session, or a read of the socket failed. -/
inductive TerminalEnd where
  | closed
  | failed (message : String)
  deriving DecidableEq, Repr

def TerminalEnd.result : TerminalEnd → Except TerminalError Unit
  | .closed => .ok ()
  | .failed message => .error (.transport (.requestFailed message))

/-- Where the main thread is. -/
inductive MainPoint where
  | lock
  | read
  | handle (message : TerminalMessage)
  | shutdown (reason : TerminalEnd)
  | join (reason : TerminalEnd)
  | returned (result : Except TerminalError Unit)
  deriving DecidableEq

/-- Where the output thread is. -/
inductive OutputPoint where
  | read
  | lock (bytes : List UInt8)
  | send (bytes : List UInt8)
  | done
  deriving DecidableEq, Repr

inductive TerminalThread where
  | main | output
  deriving DecidableEq, Repr

/-- The threads, the thread that holds the lock, and the size of the PTY in columns and rows. -/
structure TerminalSession where
  main : MainPoint
  output : OutputPoint
  holder : Option TerminalThread
  size : UInt16 × UInt16
  deriving DecidableEq

/-- The result of `write_all`; one that fails has written some of its bytes. -/
abbrev WriteResult : Type := Except (ℕ × String) Unit

def WriteResult.written (bytes : List UInt8) : WriteResult → List UInt8
  | .ok () => bytes
  | .error (count, _) => bytes.take count

/-- What the socket and the PTY answer; the last three are the writes of `shutdown_terminal`. -/
structure TerminalAnswer where
  setReadTimeout : Except String Unit := .ok ()
  message : Except String (Option TerminalMessage) := .ok none
  write : WriteResult := .ok ()
  flush : Except String Unit := .ok ()
  resize : Except String Unit := .ok ()
  output : Except String (List UInt8) := .ok []
  send : Except String Unit := .ok ()
  interrupt : WriteResult := .ok ()
  endOfInput : WriteResult := .ok ()
  exit : WriteResult := .ok ()

inductive TerminalObservation where
  | received (message : TerminalMessage)
  | handled (typed : List UInt8)
  | printed (bytes : List UInt8)
  | sent (bytes : List UInt8)
  | stopped (typed : List UInt8)
  | shutDown
  deriving DecidableEq, Repr

namespace TerminalSession

def new : TerminalSession := ⟨.lock, .read, none, (80, 24)⟩

/-- The command with its result, and what it typed. -/
def handleCommand (s : TerminalSession) (answer : TerminalAnswer) :
    TerminalClientCommand → Except String Unit × TerminalSession × List UInt8
  | .input input =>
    let typed := WriteResult.written (terminalInputForPty input) answer.write
    match answer.write with
    | .ok () => (answer.flush, s, typed)
    | .error (_, message) => (.error message, s, typed)
  | .resize cols rows =>
    match answer.resize with
    | .ok () => (.ok (), { s with size := (cols, rows) }, [])
    | .error message => (.error message, s, [])
  | .ignore => (.ok (), s, [])

/-- What `shutdown_terminal` types, with the errors ignored: interrupt, end of input and `exit`. -/
def shutdownTerminal (answer : TerminalAnswer) : List UInt8 :=
  WriteResult.written [3] answer.interrupt ++ WriteResult.written [4] answer.endOfInput ++
    WriteResult.written "exit\n".toUTF8.toList answer.exit

/-- A turn of the main thread. The guard of the lock lives until the message is there; if the read
fails, it lives until the thread returns. -/
def mainTurn (json : CommandReader) (answer : TerminalAnswer) (s : TerminalSession) :
    Option (TerminalSession × List TerminalObservation) :=
  match s.main with
  | .lock => if s.holder = none then some ({ s with main := .read, holder := some .main }, [])
    else none
  | .read =>
    match answer.setReadTimeout with
    | .error message =>
      some ({ s with main := .returned (.error (.io message)), holder := none }, [])
    | .ok () =>
      match answer.message with
      | .ok (some message) =>
        some ({ s with main := .handle message, holder := none }, [.received message])
      | .ok none => some ({ s with main := .lock, holder := none }, [])
      | .error message => some ({ s with main := .shutdown (.failed message) }, [])
  | .handle message =>
    if message = .close then some ({ s with main := .shutdown .closed }, [])
    else
      match s.handleCommand answer (message.command json) with
      | (.ok (), s', typed) => some ({ s' with main := .lock }, [.handled typed])
      | (.error message, s', typed) =>
        some ({ s' with main := .returned (.error (.io message)) }, [.handled typed])
  -- `shutdown_terminal`, which then kills the shell and waits for it
  | .shutdown reason =>
    some ({ s with main := .join reason }, [.stopped (shutdownTerminal answer), .shutDown])
  | .join reason =>
    if s.output = .done then
      some ({ s with
        main := .returned reason.result
        holder := if s.holder = some .main then none else s.holder }, [])
    else none
  | .returned _ => none

/-- A turn of the output thread. -/
def outputTurn (answer : TerminalAnswer) (s : TerminalSession) :
    Option (TerminalSession × List TerminalObservation) :=
  match s.output with
  | .read =>
    match answer.output with
    | .ok [] | .error _ => some ({ s with output := .done }, [])
    | .ok bytes => some ({ s with output := .lock bytes }, [.printed bytes])
  | .lock bytes =>
    if s.holder = none then some ({ s with output := .send bytes, holder := some .output }, [])
    else none
  | .send bytes =>
    match answer.send with
    | .ok () => some ({ s with output := .read, holder := none }, [.sent bytes])
    | .error _ => some ({ s with output := .done, holder := none }, [])
  | .done => none

def turn (json : CommandReader) (answer : TerminalAnswer) (s : TerminalSession) :
    TerminalThread → Option (TerminalSession × List TerminalObservation)
  | .main => s.mainTurn json answer
  | .output => s.outputTurn answer

end TerminalSession

/-- The threads of a session; none is started later. -/
def terminalSystem (json : CommandReader) :
    System TerminalSession TerminalThread TerminalObservation TerminalAnswer Empty where
  start := Empty.elim
  step answer s thread :=
    (s.turn json answer thread).map fun after => ⟨after.1, [thread], after.2⟩

def terminalStart : Config TerminalSession TerminalThread TerminalObservation :=
  ⟨.new, [.main, .output], []⟩

/-! ## What a turn can do -/

section Steps

variable {json : CommandReader} {answer : TerminalAnswer} {s s' : TerminalSession}
  {new : List TerminalObservation}

/-- The sizes that the client can ask for. -/
def TerminalSession.Sized (s s' : TerminalSession) : Prop :=
  s'.size = s.size ∨ 0 < s'.size.1 ∧ 0 < s'.size.2

/-- The beginnings of what is typed to stop the shell, one after the other. -/
def IsStop (typed : List UInt8) : Prop :=
  ∃ interrupt endOfInput exit : List UInt8, interrupt <+: [3] ∧ endOfInput <+: [4] ∧
    exit <+: "exit\n".toUTF8.toList ∧ typed = interrupt ++ endOfInput ++ exit

inductive MainStep (json : CommandReader) (s : TerminalSession) :
    TerminalSession → List TerminalObservation → Prop
  | locks (hmain : s.main = .lock) (hfree : s.holder = none) :
    MainStep json s { s with main := .read, holder := some .main } []
  | gaveUp (hmain : s.main = .read) (text : String) :
    MainStep json s { s with main := .returned (.error (.io text)), holder := none } []
  | received (hmain : s.main = .read) (message : TerminalMessage) :
    MainStep json s { s with main := .handle message, holder := none } [.received message]
  | idle (hmain : s.main = .read) : MainStep json s { s with main := .lock, holder := none } []
  | readFailed (hmain : s.main = .read) (text : String) :
    MainStep json s { s with main := .shutdown (.failed text) } []
  | closed (hmain : s.main = .handle .close) :
    MainStep json s { s with main := .shutdown .closed } []
  | handled {message : TerminalMessage} (hmain : s.main = .handle message)
    (hopen : message ≠ .close) {size : UInt16 × UInt16} (hsize : s.Sized { s with size }) :
    MainStep json s { s with main := .lock, size } [.handled (message.typed json)]
  | failed {message : TerminalMessage} (hmain : s.main = .handle message)
    (hopen : message ≠ .close) {typed : List UInt8} (htyped : typed <+: message.typed json)
    (text : String) :
    MainStep json s { s with main := .returned (.error (.io text)) } [.handled typed]
  | shutDown {reason : TerminalEnd} (hmain : s.main = .shutdown reason) {typed : List UInt8}
    (hstop : IsStop typed) :
    MainStep json s { s with main := .join reason } [.stopped typed, .shutDown]
  | returned {reason : TerminalEnd} (hmain : s.main = .join reason) (hdone : s.output = .done) :
    MainStep json s { s with
      main := .returned reason.result
      holder := if s.holder = some .main then none else s.holder } []

inductive OutputStep (s : TerminalSession) : TerminalSession → List TerminalObservation → Prop
  | printed (houtput : s.output = .read) (bytes : List UInt8) :
    OutputStep s { s with output := .lock bytes } [.printed bytes]
  | ended (houtput : s.output = .read) : OutputStep s { s with output := .done } []
  | locks {bytes : List UInt8} (houtput : s.output = .lock bytes) (hfree : s.holder = none) :
    OutputStep s { s with output := .send bytes, holder := some .output } []
  | sent {bytes : List UInt8} (houtput : s.output = .send bytes) :
    OutputStep s { s with output := .read, holder := none } [.sent bytes]
  | failed {bytes : List UInt8} (houtput : s.output = .send bytes) :
    OutputStep s { s with output := .done, holder := none } []

theorem WriteResult.written_isPrefix (bytes : List UInt8) (result : WriteResult) :
    result.written bytes <+: bytes := by
  rcases result with ⟨count, text⟩ | ⟨⟩
  · exact List.take_prefix _ _
  · exact List.prefix_refl _

theorem isStop_shutdownTerminal : IsStop (TerminalSession.shutdownTerminal answer) :=
  ⟨_, _, _, answer.interrupt.written_isPrefix _, answer.endOfInput.written_isPrefix _,
    answer.exit.written_isPrefix _, rfl⟩

theorem size_parseTerminalClientText {bytes : List UInt8} {cols rows : UInt16}
    (h : parseTerminalClientText json bytes = .resize cols rows) : 0 < cols ∧ 0 < rows := by
  unfold parseTerminalClientText at h
  split at h
  · split at h
    · split at h
      · split_ifs at h with hpos
        cases h
        exact hpos
      · cases h
    · split at h <;> cases h
    · cases h
  · cases h

theorem TerminalMessage.size_command {message : TerminalMessage} {cols rows : UInt16}
    (h : message.command json = .resize cols rows) : 0 < cols ∧ 0 < rows := by
  cases message with
  | text bytes => exact size_parseTerminalClientText h
  | _ => cases h

theorem mainStep_handle {message : TerminalMessage} (hmain : s.main = .handle message)
    (hopen : message ≠ .close) (hturn : s.mainTurn json answer = some (s', new)) :
    MainStep json s s' new := by
  simp only [TerminalSession.mainTurn, hmain, if_neg hopen] at hturn
  cases hcommand : message.command json with
  | input input =>
    have htyped : message.typed json = terminalInputForPty input := by
      rw [TerminalMessage.typed, hcommand]
      rfl
    simp only [hcommand, TerminalSession.handleCommand] at hturn
    rcases hwrite : answer.write with ⟨count, text⟩ | ⟨⟩ <;>
      simp only [hwrite, WriteResult.written] at hturn
    · cases hturn
      exact .failed hmain hopen (htyped ▸ List.take_prefix _ _) text
    · rcases hflush : answer.flush with text | ⟨⟩ <;> simp only [hflush] at hturn <;> cases hturn
      · exact .failed hmain hopen (htyped ▸ List.prefix_refl _) text
      · rw [← htyped]
        exact .handled hmain hopen (.inl rfl)
  | resize cols rows =>
    have htyped : message.typed json = [] := by
      rw [TerminalMessage.typed, hcommand]
      rfl
    simp only [hcommand, TerminalSession.handleCommand] at hturn
    rcases hresize : answer.resize with text | ⟨⟩ <;> simp only [hresize] at hturn <;> cases hturn
    · exact .failed hmain hopen List.nil_prefix text
    · rw [← htyped]
      exact .handled hmain hopen (.inr (TerminalMessage.size_command hcommand))
  | ignore =>
    have htyped : message.typed json = [] := by
      rw [TerminalMessage.typed, hcommand]
      rfl
    simp only [hcommand, TerminalSession.handleCommand] at hturn
    cases hturn
    rw [← htyped]
    exact .handled hmain hopen (.inl rfl)

theorem mainStep_of_mainTurn (hturn : s.mainTurn json answer = some (s', new)) :
    MainStep json s s' new := by
  cases hmain : s.main with
  | handle message =>
    by_cases hclose : message = .close
    · subst hclose
      simp only [TerminalSession.mainTurn, hmain, if_pos] at hturn
      cases hturn
      exact .closed hmain
    · exact mainStep_handle hmain hclose hturn
  | lock =>
    simp only [TerminalSession.mainTurn, hmain] at hturn
    split_ifs at hturn with hfree
    cases hturn
    exact .locks hmain hfree
  | read =>
    simp only [TerminalSession.mainTurn, hmain] at hturn
    rcases hset : answer.setReadTimeout with text | ⟨⟩ <;> simp only [hset] at hturn
    · cases hturn
      exact .gaveUp hmain text
    · rcases hread : answer.message with text | ⟨_ | message⟩ <;> simp only [hread] at hturn <;>
        cases hturn
      · exact .readFailed hmain text
      · exact .idle hmain
      · exact .received hmain message
  | shutdown reason =>
    simp only [TerminalSession.mainTurn, hmain] at hturn
    cases hturn
    exact .shutDown hmain isStop_shutdownTerminal
  | join reason =>
    simp only [TerminalSession.mainTurn, hmain] at hturn
    by_cases hdone : s.output = .done
    · rw [if_pos hdone] at hturn
      cases hturn
      exact .returned hmain hdone
    · rw [if_neg hdone] at hturn
      cases hturn
  | returned result =>
    simp only [TerminalSession.mainTurn, hmain] at hturn
    cases hturn

theorem outputStep_of_outputTurn (hturn : s.outputTurn answer = some (s', new)) :
    OutputStep s s' new := by
  cases houtput : s.output with
  | read =>
    simp only [TerminalSession.outputTurn, houtput] at hturn
    split at hturn <;> cases hturn
    · exact .ended houtput
    · exact .ended houtput
    · exact .printed houtput _
  | lock bytes =>
    simp only [TerminalSession.outputTurn, houtput] at hturn
    split_ifs at hturn with hfree
    cases hturn
    exact .locks houtput hfree
  | send bytes =>
    simp only [TerminalSession.outputTurn, houtput] at hturn
    rcases hsend : answer.send with text | ⟨⟩ <;> simp only [hsend] at hturn <;> cases hturn
    · exact .failed houtput
    · exact .sent houtput
  | done =>
    simp only [TerminalSession.outputTurn, houtput] at hturn
    cases hturn

/-- **The invariant rule of a session.** -/
theorem TerminalSession.inv_run {P : TerminalSession → List TerminalObservation → Prop}
    (hnew : P .new [])
    (hmain : ∀ {s s' trace new}, P s trace → MainStep json s s' new → P s' (trace ++ new))
    (houtput : ∀ {s s' trace new}, P s trace → OutputStep s s' new → P s' (trace ++ new))
    {actions : List (Action TerminalAnswer Empty)}
    {c : Config TerminalSession TerminalThread TerminalObservation}
    (hrun : (terminalSystem json).run terminalStart actions = some c) :
    P c.shared c.trace ∧ c.tasks.Perm [.main, .output] := by
  let Inv (s : TerminalSession) (threads : List TerminalThread)
      (trace : List TerminalObservation) : Prop := P s trace ∧ threads.Perm [.main, .output]
  let Meets (_ : TerminalSession) (_ : TerminalThread) (_ : List TerminalThread)
      (_ : TerminalAnswer) : Prop := True
  have halong : (terminalSystem json).Along Meets terminalStart actions :=
    System.along_of_forall (fun _ _ _ _ => trivial) _ _
  have hstart : Inv terminalStart.shared terminalStart.tasks terminalStart.trace :=
    ⟨hnew, List.Perm.refl _⟩
  refine System.inv_run (fun hperm h => ⟨h.1, hperm.symm.trans h.2⟩) (fun op => op.elim) ?_ hstart
    halong hrun
  rintro s thread rest trace answer d ⟨hP, hthreads⟩ - hstep
  obtain ⟨⟨s', new⟩, hturn, rfl⟩ := Option.map_eq_some_iff.mp hstep
  refine ⟨?_, hthreads⟩
  cases thread with
  | main => exact hmain hP (mainStep_of_mainTurn hturn)
  | output => exact houtput hP (outputStep_of_outputTurn hturn)

end Steps

/-! ## The bytes -/

namespace TerminalObservation

/-- What the client asked to type with a message. -/
def asked (json : CommandReader) : TerminalObservation → List UInt8
  | received message => message.typed json
  | _ => []

/-- What was typed into the PTY. -/
def typedBytes : TerminalObservation → List UInt8
  | handled typed | stopped typed => typed
  | _ => []

/-- What was typed for a message. -/
def handledBytes : TerminalObservation → List UInt8
  | handled typed => typed
  | _ => []

/-- What was typed to stop the shell. -/
def stopBytes : TerminalObservation → List UInt8
  | stopped typed => typed
  | _ => []

def printedBytes : TerminalObservation → List UInt8
  | printed bytes => bytes
  | _ => []

def sentBytes : TerminalObservation → List UInt8
  | sent bytes => bytes
  | _ => []

end TerminalObservation

/-- What is still to be typed for the message at hand. -/
def MainPoint.pending (json : CommandReader) : MainPoint → List UInt8
  | .handle message => message.typed json
  | _ => []

/-- The thread returned because of the PTY or a socket option. -/
def MainPoint.brokeOff : MainPoint → Bool
  | .returned (.error (.io _)) => true
  | _ => false

/-- The shell was killed and waited for. -/
def MainPoint.reaped : MainPoint → Bool
  | .join _ => true
  | .returned (.error (.io _)) => false
  | .returned _ => true
  | _ => false

def OutputPoint.pending : OutputPoint → List UInt8
  | .lock bytes | .send bytes => bytes
  | .read | .done => []

section Runs

variable {json : CommandReader} {s s' : TerminalSession} {trace new : List TerminalObservation}

/-- The bytes on their way to the shell. -/
structure Typed (json : CommandReader) (main : MainPoint) (trace : List TerminalObservation) :
    Prop where
  all : main.brokeOff = false →
    trace.flatMap (·.handledBytes) ++ main.pending json = trace.flatMap (·.asked json)
  isPrefix : trace.flatMap (·.handledBytes) <+: trace.flatMap (·.asked json)

/-- The bytes that stop the shell come last. -/
structure Stopping (main : MainPoint) (trace : List TerminalObservation) : Prop where
  typed : trace.flatMap (·.typedBytes) =
    trace.flatMap (·.handledBytes) ++ trace.flatMap (·.stopBytes)
  before : main.reaped = false → trace.flatMap (·.stopBytes) = []
  after : main.reaped = true → IsStop (trace.flatMap (·.stopBytes))

/-- The bytes on their way to the client. -/
structure Sent (output : OutputPoint) (trace : List TerminalObservation) : Prop where
  all : output ≠ .done →
    trace.flatMap (·.sentBytes) ++ output.pending = trace.flatMap (·.printedBytes)
  isPrefix : trace.flatMap (·.sentBytes) <+: trace.flatMap (·.printedBytes)

theorem Typed.of_eq {main : MainPoint} (hpending : main.pending json = [])
    (h : trace.flatMap (·.handledBytes) = trace.flatMap (·.asked json)) : Typed json main trace :=
  ⟨fun _ => by rw [hpending, List.append_nil, h], h ▸ List.prefix_refl _⟩

theorem Typed.eq_asked {main : MainPoint} (h : Typed json main trace)
    (hbroke : main.brokeOff = false) (hpending : main.pending json = []) :
    trace.flatMap (·.handledBytes) = trace.flatMap (·.asked json) := by
  have hall := h.all hbroke
  rw [hpending, List.append_nil] at hall
  exact hall

theorem Typed.step (h : Typed json s.main trace) (hstep : MainStep json s s' new) :
    Typed json s'.main (trace ++ new) := by
  cases hstep with
  | locks hmain | idle hmain | readFailed hmain | closed hmain | returned hmain =>
    rw [List.append_nil]
    exact .of_eq rfl (h.eq_asked (by rw [hmain]; rfl) (by rw [hmain]; rfl))
  | shutDown hmain =>
    refine .of_eq rfl ?_
    rw [List.flatMap_append, List.flatMap_append,
      h.eq_asked (by rw [hmain]; rfl) (by rw [hmain]; rfl)]
    rfl
  | gaveUp hmain text =>
    rw [List.append_nil]
    exact ⟨nofun, h.isPrefix⟩
  | received hmain message =>
    have hall := h.eq_asked (by rw [hmain]; rfl) (by rw [hmain]; rfl)
    have htyped : (trace ++ [TerminalObservation.received message]).flatMap (·.handledBytes) =
        trace.flatMap (·.asked json) := by
      rw [List.flatMap_append, hall]
      exact List.append_nil _
    have hasked : (trace ++ [TerminalObservation.received message]).flatMap (·.asked json) =
        trace.flatMap (·.asked json) ++ message.typed json := by
      rw [List.flatMap_append, List.flatMap_singleton, TerminalObservation.asked]
    constructor <;> rw [htyped, hasked]
    · exact fun _ => rfl
    · exact List.prefix_append _ _
  | handled hmain hopen hsize =>
    have hall := h.all (by rw [hmain]; rfl)
    rw [hmain] at hall
    refine .of_eq rfl ?_
    rw [List.flatMap_append, List.flatMap_append, ← hall]
    simp [TerminalObservation.handledBytes, TerminalObservation.asked, MainPoint.pending]
  | failed hmain hopen htyped text =>
    have hall := h.all (by rw [hmain]; rfl)
    rw [hmain] at hall
    refine ⟨nofun, ?_⟩
    rw [List.flatMap_append, List.flatMap_append, ← hall]
    simpa [TerminalObservation.handledBytes, TerminalObservation.asked, MainPoint.pending]
      using htyped

theorem Stopping.of_quiet {main main' : MainPoint} (h : Stopping main trace)
    (hstop : new.flatMap (·.stopBytes) = [])
    (htyped : new.flatMap (·.typedBytes) = new.flatMap (·.handledBytes))
    (hlate : new.flatMap (·.handledBytes) = [] ∨ main.reaped = false)
    (hreaped : main'.reaped = main.reaped) : Stopping main' (trace ++ new) where
  typed := by
    rw [List.flatMap_append, List.flatMap_append, List.flatMap_append, hstop, htyped, h.typed]
    rcases hlate with hnone | hbefore
    · simp only [hnone, List.append_nil]
    · simp only [h.before hbefore, List.append_nil]
  before := by
    rw [List.flatMap_append, hstop, List.append_nil, hreaped]
    exact h.before
  after := by
    rw [List.flatMap_append, hstop, List.append_nil, hreaped]
    exact h.after

theorem Stopping.step (h : Stopping s.main trace) (hstep : MainStep json s s' new) :
    Stopping s'.main (trace ++ new) := by
  cases hstep with
  | locks hmain | gaveUp hmain | received hmain | idle hmain | readFailed hmain | closed hmain =>
    rw [hmain] at h
    exact h.of_quiet rfl rfl (.inl rfl) rfl
  | handled hmain | failed hmain =>
    rw [hmain] at h
    exact h.of_quiet rfl rfl (.inr rfl) rfl
  | @returned reason hmain =>
    rw [hmain] at h
    cases reason <;> exact h.of_quiet rfl rfl (.inl rfl) rfl
  | @shutDown reason hmain typed hstop =>
    rw [hmain] at h
    have hnone := h.before rfl
    have hnew : (trace ++ [TerminalObservation.stopped typed, .shutDown]).flatMap
        (·.stopBytes) = typed := by
      rw [List.flatMap_append, hnone]
      exact List.append_nil _
    refine ⟨?_, nofun, fun _ => hnew.symm ▸ hstop⟩
    rw [hnew, List.flatMap_append, List.flatMap_append, h.typed, hnone]
    simp [TerminalObservation.typedBytes, TerminalObservation.handledBytes]

theorem Sent.step (h : Sent s.output trace) (hstep : OutputStep s s' new) :
    Sent s'.output (trace ++ new) := by
  cases hstep with
  | printed houtput bytes =>
    have hall := h.all (by rw [houtput]; exact nofun)
    rw [houtput, OutputPoint.pending, List.append_nil] at hall
    have hsent : (trace ++ [TerminalObservation.printed bytes]).flatMap (·.sentBytes) =
        trace.flatMap (·.printedBytes) := by
      rw [List.flatMap_append, hall]
      exact List.append_nil _
    have hprinted : (trace ++ [TerminalObservation.printed bytes]).flatMap (·.printedBytes) =
        trace.flatMap (·.printedBytes) ++ bytes := by
      rw [List.flatMap_append, List.flatMap_singleton, TerminalObservation.printedBytes]
    constructor <;> rw [hsent, hprinted]
    · exact fun _ => rfl
    · exact List.prefix_append _ _
  | ended houtput | failed houtput =>
    rw [List.append_nil]
    exact ⟨fun hne => absurd rfl hne, h.isPrefix⟩
  | locks houtput hfree =>
    have hall := h.all (by rw [houtput]; exact nofun)
    rw [houtput] at hall
    rw [List.append_nil]
    exact ⟨fun _ => hall, h.isPrefix⟩
  | @sent bytes houtput =>
    have hall := h.all (by rw [houtput]; exact nofun)
    rw [houtput] at hall
    have hsent : (trace ++ [TerminalObservation.sent bytes]).flatMap (·.sentBytes) =
        (trace ++ [TerminalObservation.sent bytes]).flatMap (·.printedBytes) := by
      rw [List.flatMap_append, List.flatMap_append, ← hall]
      simp [TerminalObservation.sentBytes, TerminalObservation.printedBytes, OutputPoint.pending]
    exact ⟨fun _ => (List.append_nil _).trans hsent, hsent ▸ List.prefix_refl _⟩

/-- The other thread leaves the bytes alone. -/
theorem MainStep.sent (h : Sent s.output trace) (hstep : MainStep json s s' new) :
    Sent s'.output (trace ++ new) := by
  have hquiet : s'.output = s.output ∧ new.flatMap (·.sentBytes) = [] ∧
      new.flatMap (·.printedBytes) = [] := by
    cases hstep <;> exact ⟨rfl, rfl, rfl⟩
  obtain ⟨houtput, hsent, hprinted⟩ := hquiet
  constructor <;>
    rw [List.flatMap_append, List.flatMap_append, hsent, hprinted, List.append_nil, List.append_nil]
  · rw [houtput]
    exact h.all
  · exact h.isPrefix

theorem OutputStep.typed (h : Typed json s.main trace) (hstep : OutputStep s s' new) :
    Typed json s'.main (trace ++ new) := by
  have hquiet : s'.main = s.main ∧ new.flatMap (·.handledBytes) = [] ∧
      new.flatMap (·.asked json) = [] := by
    cases hstep <;> exact ⟨rfl, rfl, rfl⟩
  obtain ⟨hmain, htyped, hasked⟩ := hquiet
  constructor <;>
    rw [List.flatMap_append, List.flatMap_append, htyped, hasked, List.append_nil, List.append_nil]
  · rw [hmain]
    exact h.all
  · exact h.isPrefix

theorem OutputStep.stopping (h : Stopping s.main trace) (hstep : OutputStep s s' new) :
    Stopping s'.main (trace ++ new) := by
  cases hstep <;> exact h.of_quiet rfl rfl (.inl rfl) rfl

/-- **The bytes of a session.** In every run what was typed into the PTY is the beginning of what
the client asked to type, and once the shell was stopped, the bytes that stop it; and what was sent
to the client is the beginning of what the shell printed. Nothing is missing but the message at
hand, unless a thread has given up. -/
theorem terminal_bytes_in_order {actions : List (Action TerminalAnswer Empty)}
    {c : Config TerminalSession TerminalThread TerminalObservation}
    (hrun : (terminalSystem json).run terminalStart actions = some c) :
    c.trace.flatMap (·.typedBytes) =
      c.trace.flatMap (·.handledBytes) ++ c.trace.flatMap (·.stopBytes) ∧
    (c.shared.main.reaped = false → c.trace.flatMap (·.stopBytes) = []) ∧
    (c.shared.main.reaped = true → IsStop (c.trace.flatMap (·.stopBytes))) ∧
    c.trace.flatMap (·.handledBytes) <+: c.trace.flatMap (·.asked json) ∧
    c.trace.flatMap (·.sentBytes) <+: c.trace.flatMap (·.printedBytes) ∧
    (c.shared.main.brokeOff = false → c.trace.flatMap (·.handledBytes) ++
      c.shared.main.pending json = c.trace.flatMap (·.asked json)) ∧
    (c.shared.output ≠ .done → c.trace.flatMap (·.sentBytes) ++ c.shared.output.pending =
      c.trace.flatMap (·.printedBytes)) := by
  obtain ⟨⟨htyped, hstop, hsent⟩, -⟩ := TerminalSession.inv_run
    (P := fun s trace => Typed json s.main trace ∧ Stopping s.main trace ∧ Sent s.output trace)
    ⟨.of_eq rfl rfl, ⟨rfl, fun _ => rfl, nofun⟩, ⟨fun _ => rfl, List.nil_prefix⟩⟩
    (fun h hstep => ⟨h.1.step hstep, h.2.1.step hstep, hstep.sent h.2.2⟩)
    (fun h hstep => ⟨hstep.typed h.1, hstep.stopping h.2.1, h.2.2.step hstep⟩) hrun
  exact ⟨hstop.typed, hstop.before, hstop.after, htyped.isPrefix, hsent.isPrefix, htyped.all,
    hsent.all⟩

/-! ## The lock -/

/-- The main thread has a guard of the lock. -/
def MainPoint.holds : MainPoint → Bool
  | .read | .shutdown (.failed _) | .join (.failed _) => true
  | _ => false

def OutputPoint.holds : OutputPoint → Bool
  | .send _ => true
  | _ => false

structure TerminalSession.Locked (s : TerminalSession) : Prop where
  main : s.holder = some .main ↔ s.main.holds = true
  output : s.holder = some .output ↔ s.output.holds = true

theorem TerminalSession.Locked.main_step (h : s.Locked) (hstep : MainStep json s s' new) :
    s'.Locked := by
  obtain ⟨hmain, houtput⟩ := h
  cases hstep with
  | locks hpoint hfree =>
    rw [hfree] at houtput
    exact ⟨iff_of_true rfl rfl, (iff_of_false nofun nofun).trans houtput⟩
  | gaveUp hpoint text | received hpoint message | idle hpoint =>
    rw [hmain.mpr (by rw [hpoint]; rfl)] at houtput
    exact ⟨iff_of_false nofun nofun, (iff_of_false nofun nofun).trans houtput⟩
  | readFailed hpoint text =>
    rw [hpoint] at hmain
    exact ⟨hmain, houtput⟩
  | closed hpoint | handled hpoint | failed hpoint =>
    rw [hpoint] at hmain
    exact ⟨hmain, houtput⟩
  | @shutDown reason hpoint =>
    rw [hpoint] at hmain
    cases reason <;> exact ⟨hmain, houtput⟩
  | @returned reason hpoint hdone =>
    -- the guard is dropped with the return
    have hfree (thread : TerminalThread) :
        (if s.holder = some .main then none else s.holder) ≠ some thread := by
      split_ifs with hheld
      · exact nofun
      · intro hthread
        cases thread with
        | main => exact hheld hthread
        | output =>
          rw [houtput, hdone] at hthread
          cases hthread
    refine ⟨iff_of_false (hfree _) nofun, iff_of_false (hfree _) ?_⟩
    rw [hdone]
    exact nofun

theorem TerminalSession.Locked.output_step (h : s.Locked) (hstep : OutputStep s s' new) :
    s'.Locked := by
  obtain ⟨hmain, houtput⟩ := h
  cases hstep with
  | printed hpoint | ended hpoint =>
    rw [hpoint] at houtput
    exact ⟨hmain, houtput⟩
  | locks hpoint hfree =>
    rw [hfree] at hmain
    exact ⟨(iff_of_false nofun nofun).trans hmain, iff_of_true rfl rfl⟩
  | sent hpoint | failed hpoint =>
    rw [houtput.mpr (by rw [hpoint]; rfl)] at hmain
    exact ⟨(iff_of_false nofun nofun).trans hmain, iff_of_false nofun nofun⟩

/-- A lock that none of the two holds is free. -/
theorem TerminalSession.Locked.free (h : s.Locked) (hmain : s.main.holds = false)
    (houtput : s.output.holds = false) : s.holder = none := by
  cases hholder : s.holder with
  | none => rfl
  | some thread =>
    cases thread with
    | main =>
      rw [h.main.mp hholder] at hmain
      cases hmain
    | output =>
      rw [h.output.mp hholder] at houtput
      cases houtput

/-- The main thread waits for the lock or for the other thread, or it has returned. -/
theorem TerminalSession.mainTurn_eq_none_iff :
    (∀ answer, s.mainTurn json answer = none) ↔
      s.main = .lock ∧ s.holder ≠ none ∨ (∃ reason, s.main = .join reason) ∧ s.output ≠ .done ∨
        ∃ result, s.main = .returned result := by
  constructor
  · intro h
    replace h := h {}
    cases hmain : s.main with
    | lock =>
      simp only [TerminalSession.mainTurn, hmain] at h
      split_ifs at h with hfree
      exact .inl ⟨rfl, hfree⟩
    | read =>
      simp only [TerminalSession.mainTurn, hmain] at h
      cases h
    | handle message =>
      simp only [TerminalSession.mainTurn, hmain] at h
      split_ifs at h
      cases hcommand : message.command json <;>
        simp only [hcommand, TerminalSession.handleCommand] at h <;> cases h
    | shutdown reason =>
      simp only [TerminalSession.mainTurn, hmain] at h
      cases h
    | join reason =>
      simp only [TerminalSession.mainTurn, hmain] at h
      by_cases hdone : s.output = .done
      · rw [if_pos hdone] at h
        cases h
      · exact .inr (.inl ⟨⟨reason, rfl⟩, hdone⟩)
    | returned result => exact .inr (.inr ⟨result, rfl⟩)
  · rintro (⟨hmain, hheld⟩ | ⟨⟨reason, hmain⟩, hdone⟩ | ⟨result, hmain⟩) answer <;>
      simp only [TerminalSession.mainTurn, hmain]
    · exact if_neg hheld
    · exact if_neg hdone

theorem TerminalSession.outputTurn_eq_none_iff :
    (∀ answer, s.outputTurn answer = none) ↔
      (∃ bytes, s.output = .lock bytes) ∧ s.holder ≠ none ∨ s.output = .done := by
  constructor
  · intro h
    replace h := h {}
    cases houtput : s.output with
    | read | send =>
      simp only [TerminalSession.outputTurn, houtput] at h
      cases h
    | lock bytes =>
      simp only [TerminalSession.outputTurn, houtput] at h
      split_ifs at h with hfree
      exact .inl ⟨⟨bytes, rfl⟩, hfree⟩
    | done => exact .inr rfl
  · rintro (⟨⟨bytes, houtput⟩, hheld⟩ | houtput) answer <;>
      simp only [TerminalSession.outputTurn, houtput]
    exact if_neg hheld

/-- The main thread has returned, and the output thread too. -/
def TerminalSession.Over (s : TerminalSession) : Prop :=
  (∃ result, s.main = .returned result) ∧ s.output = .done

/-- The main thread waits for the output thread, which waits for the lock of the main thread. -/
def TerminalSession.Deadlocked (s : TerminalSession) : Prop :=
  (∃ text, s.main = .join (.failed text)) ∧ ∃ bytes, s.output = .lock bytes

theorem TerminalSession.Locked.blocked_iff (h : s.Locked) :
    (∀ thread answer, s.turn json answer thread = none) ↔ s.Over ∨ s.Deadlocked := by
  have hthreads : (∀ thread answer, s.turn json answer thread = none) ↔
      (∀ answer, s.mainTurn json answer = none) ∧ ∀ answer, s.outputTurn answer = none :=
    ⟨fun hall => ⟨hall .main, hall .output⟩, fun ⟨hmain, houtput⟩ thread => by
      cases thread
      · exact hmain
      · exact houtput⟩
  rw [hthreads, mainTurn_eq_none_iff, outputTurn_eq_none_iff]
  constructor
  · rintro ⟨⟨hmain, hheld⟩ | ⟨⟨reason, hmain⟩, hdone⟩ | ⟨result, hmain⟩,
      ⟨⟨bytes, houtput⟩, hheld'⟩ | houtput⟩
    · exact absurd (h.free (by rw [hmain]; rfl) (by rw [houtput]; rfl)) hheld
    · exact absurd (h.free (by rw [hmain]; rfl) (by rw [houtput]; rfl)) hheld
    · cases reason with
      | closed => exact absurd (h.free (by rw [hmain]; rfl) (by rw [houtput]; rfl)) hheld'
      | failed text => exact .inr ⟨⟨text, hmain⟩, bytes, houtput⟩
    · exact absurd houtput hdone
    · exact absurd (h.free (by rw [hmain]; rfl) (by rw [houtput]; rfl)) hheld'
    · exact .inl ⟨⟨result, hmain⟩, houtput⟩
  · rintro (⟨hreturned, hdone⟩ | ⟨⟨text, hmain⟩, bytes, houtput⟩)
    · exact ⟨.inr (.inr hreturned), .inr hdone⟩
    · have hheld : s.holder = some .main := h.main.mpr (by rw [hmain]; rfl)
      refine ⟨.inr (.inl ⟨⟨_, hmain⟩, by rw [houtput]; exact nofun⟩), .inl ⟨⟨bytes, houtput⟩, ?_⟩⟩
      rw [hheld]
      exact nofun

/-- **When a session hangs.** In every run no thread can take another turn, whatever the socket and
the PTY answer, exactly if the session is over, or a read of the socket failed and the output thread
waits for the lock that the main thread holds until it returns. -/
theorem terminal_stuck_iff {actions : List (Action TerminalAnswer Empty)}
    {c : Config TerminalSession TerminalThread TerminalObservation}
    (hrun : (terminalSystem json).run terminalStart actions = some c) :
    (terminalSystem json).Stuck c ↔ c.shared.Over ∨ c.shared.Deadlocked := by
  obtain ⟨hlocked, hthreads⟩ := TerminalSession.inv_run
    (P := fun s _ => s.Locked)
    ⟨iff_of_false nofun nofun, iff_of_false nofun nofun⟩
    (fun h hstep => h.main_step hstep) (fun h hstep => h.output_step hstep) hrun
  rw [System.stuck_iff, ← hlocked.blocked_iff]
  have hmem (thread : TerminalThread) : thread ∈ c.tasks := by
    rw [hthreads.mem_iff]
    cases thread <;> decide
  constructor
  · intro h thread answer
    exact Option.map_eq_none_iff.mp (h thread (hmem thread) answer)
  · intro h thread _ answer
    exact Option.map_eq_none_iff.mpr (h thread answer)

/-! ## The end of a session -/

/-- The client has closed the session. -/
def MainPoint.closing : MainPoint → Bool
  | .handle .close | .shutdown .closed | .join .closed | .returned (.ok _) => true
  | _ => false

structure Ending (main : MainPoint) (trace : List TerminalObservation) : Prop where
  shutDowns : trace.count .shutDown = main.reaped.toNat
  closed : .received .close ∈ trace ↔ main.closing = true

theorem Ending.of_quiet {main main' : MainPoint} (h : Ending main trace)
    (hshut : .shutDown ∉ new) (hclose : .received .close ∉ new)
    (hreaped : main'.reaped = main.reaped) (hclosing : main'.closing = main.closing) :
    Ending main' (trace ++ new) where
  shutDowns := by rw [List.count_append, h.shutDowns, List.count_eq_zero_of_not_mem hshut, hreaped,
    Nat.add_zero]
  closed := by rw [List.mem_append, or_iff_left hclose, h.closed, hclosing]

theorem closing_handle {message : TerminalMessage} (hopen : message ≠ .close) :
    MainPoint.closing (.handle message) = false := by
  cases message with
  | close => exact absurd rfl hopen
  | _ => rfl

theorem Ending.step (h : Ending s.main trace) (hstep : MainStep json s s' new) :
    Ending s'.main (trace ++ new) := by
  cases hstep with
  | locks hmain | gaveUp hmain | idle hmain | readFailed hmain | closed hmain =>
    rw [hmain] at h
    exact h.of_quiet nofun nofun rfl rfl
  | handled hmain hopen | failed hmain hopen =>
    rw [hmain] at h
    exact h.of_quiet (by simp) (by simp) rfl (closing_handle hopen).symm
  | @returned reason hmain =>
    rw [hmain] at h
    cases reason <;> exact h.of_quiet nofun nofun rfl rfl
  | received hmain message =>
    rw [hmain] at h
    refine ⟨?_, ?_⟩
    · rw [List.count_append, h.shutDowns]
      rfl
    · rw [List.mem_append, h.closed]
      cases message <;> simp [MainPoint.closing]
  | @shutDown reason hmain =>
    rw [hmain] at h
    refine ⟨?_, ?_⟩
    · rw [List.count_append, h.shutDowns]
      rfl
    · rw [List.mem_append, h.closed]
      cases reason <;> simp [MainPoint.closing]

theorem OutputStep.ending (h : Ending s.main trace) (hstep : OutputStep s s' new) :
    Ending s'.main (trace ++ new) := by
  cases hstep <;> exact h.of_quiet (by simp) (by simp) rfl rfl

/-- **How a session returns.** It returns without an error exactly if the client has closed it. The
shell was killed and waited for, once, unless the error is one of the PTY or of a socket option. -/
theorem terminal_shutdown_iff {actions : List (Action TerminalAnswer Empty)}
    {c : Config TerminalSession TerminalThread TerminalObservation}
    (hrun : (terminalSystem json).run terminalStart actions = some c)
    {result : Except TerminalError Unit} (hreturned : c.shared.main = .returned result) :
    (result = .ok () ↔ .received .close ∈ c.trace) ∧
    ((∃ text, result = .error (.io text)) ∧ c.trace.count .shutDown = 0 ∨
      (∀ text, result ≠ .error (.io text)) ∧ c.trace.count .shutDown = 1) := by
  obtain ⟨⟨hshut, hclosed⟩, -⟩ := TerminalSession.inv_run
    (P := fun s trace => Ending s.main trace) ⟨rfl, iff_of_false nofun nofun⟩
    (fun h hstep => h.step hstep) (fun h hstep => hstep.ending h) hrun
  rw [hreturned] at hshut hclosed
  rw [hclosed, hshut]
  rcases result with (_ | _ | text | _) | ⟨⟩
  all_goals simp [MainPoint.closing, MainPoint.reaped]

/-- The PTY never has an empty size. -/
theorem terminal_size_pos {actions : List (Action TerminalAnswer Empty)}
    {c : Config TerminalSession TerminalThread TerminalObservation}
    (hrun : (terminalSystem json).run terminalStart actions = some c) :
    0 < c.shared.size.1 ∧ 0 < c.shared.size.2 := by
  refine (TerminalSession.inv_run (P := fun s _ => 0 < s.size.1 ∧ 0 < s.size.2) (by decide)
    (fun {s s' trace new} h hstep => ?_) (fun {s s' trace new} h hstep => ?_) hrun).1
  · cases hstep with
    | handled hmain hopen hsize =>
      rcases hsize with hsame | hpos
      · exact hsame ▸ h
      · exact hpos
    | _ => exact h
  · cases hstep <;> exact h

end Runs

/-- The client types a line, the shell prints one byte, and the client closes the session; the end
of input does not reach the PTY. -/
def typedLine : List (Action TerminalAnswer Empty) :=
  [.turn 0 {}, .turn 0 { message := .ok (some (.binary [108, 13])) },
    .turn 1 { output := .ok [36] }, .turn 1 {}, .turn 1 {}, .turn 0 {}, .turn 1 {},
    .turn 0 { message := .ok (some .close) }, .turn 0 {},
    .turn 0 { endOfInput := .error (0, "full") }]

theorem terminal_bytes_in_order_line : ∃ c,
    (terminalSystem fun _ => none).run terminalStart typedLine = some c ∧
    c.trace.flatMap (·.typedBytes) = [108, 10, 3, 101, 120, 105, 116, 10] ∧
    c.trace.flatMap (·.handledBytes) = [108, 10] ∧
    c.trace.flatMap (·.typedBytes) =
      c.trace.flatMap (·.handledBytes) ++ c.trace.flatMap (·.stopBytes) ∧
    c.trace.flatMap (·.handledBytes) <+: c.trace.flatMap (·.asked fun _ => none) := by
  obtain ⟨htyped, -, -, hhandled, -⟩ := @terminal_bytes_in_order (fun _ => none) typedLine _ rfl
  exact ⟨_, rfl, by decide +kernel, by decide +kernel, htyped, hhandled⟩

/-- The shell prints while the main thread reads, and the read fails. -/
def failedRead : List (Action TerminalAnswer Empty) :=
  [.turn 0 {}, .turn 1 { output := .ok [36] }, .turn 1 { message := .error "reset" }, .turn 0 {}]

theorem terminal_stuck_iff_failed_read : ∃ c,
    (terminalSystem fun _ => none).run terminalStart failedRead = some c ∧
    (terminalSystem fun _ => none).Stuck c :=
  ⟨_, rfl, (@terminal_stuck_iff _ failedRead _ rfl).mpr (.inr ⟨⟨_, rfl⟩, _, rfl⟩)⟩

/-- The client types, and the PTY is gone. -/
def failedWrite : List (Action TerminalAnswer Empty) :=
  [.turn 0 {}, .turn 0 { message := .ok (some (.binary [108, 13])) },
    .turn 0 { write := .error (1, "broken pipe") }]

theorem terminal_shutdown_iff_failed_write : ∃ c,
    (terminalSystem fun _ => none).run terminalStart failedWrite = some c ∧
    c.shared.main = .returned (.error (.io "broken pipe")) ∧ c.trace.count .shutDown = 0 := by
  refine ⟨_, rfl, rfl, ?_⟩
  rcases (@terminal_shutdown_iff (fun _ => none) failedWrite _ rfl _ rfl).2 with
    ⟨-, hnone⟩ | ⟨hne, -⟩
  · exact hnone
  · exact absurd rfl (hne "broken pipe")

end KeliAgent
