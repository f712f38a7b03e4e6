import AsyncCppRpc.Connection.State

namespace AsyncCppRpc.Connection

open Wire Transport

/-- The atomic steps of a connection: its public operations, and the steps of the reader,
the writer and each request handler between their suspension points and shared accesses. -/
inductive Act where
  | start (t : Nat)
  | stop
  | stopCancel
  | stopDrain
  | stopEnd
  | doCall (name : UInt32) (payload : Bytes)
  | doCallRegister (c : Nat)
  | doCallSend (c : Nat)
  | doVoidCall (name : UInt32) (payload : Bytes)
  | writerTest
  | writerSend
  | writerFail (hr : UInt32)
  | writerExit
  | readerTest
  | readMessage (m : Message)
  | readFail (hr : UInt32)
  | readThrow
  | readerRelease
  | readerDone
  | dispatched (h : Nat) (r : DispatchResult)
  | handlerCheck (h : Nat)
  | handlerReply (h : Nat)
  | handlerFinish (h : Nat)
  | onError
  | onErrorClear
  deriving DecidableEq, Repr

def ReaderPc.over : ReaderPc → Bool
  | .idle | .done => true
  | _ => false

def WriterPc.over : WriterPc → Bool
  | .idle | .done => true
  | _ => false

namespace Conn

/-- `start(transport)`: the transport must not be held yet (`assert(!transport)`). The reader
and the writer start on the current scope unless elided, and `running` is set. -/
def start (s : Conn) (cfg : Config) (t : Nat) : Option Conn :=
  if s.transport.isNone then
    some { s with
      transport := some t
      reader := if cfg.readerNotRequired then .done else .loop s.scope
      writer := if cfg.writerNotRequired then .done else .loop s.scope
      outstanding := 1
      finished := 0
      running := true }
  else none

/-- `stop()` takes `stop_lock`, which it holds throughout: a second `stop` waits for the first.
On a running connection it reports `E_ABORT`; otherwise it does nothing. -/
def stop (s : Conn) : Option Conn :=
  if s.stopPc ≠ .idle then none
  else if s.running then
    some { s with hook := errorOnBackground s.hook eAbort .stop, stopPc := .cancelling }
  else some s

def stopCancel (s : Conn) : Option Conn :=
  if s.stopPc = .cancelling then some { s with cancelled := true, stopPc := .waiting } else none

/-- Once both tasks have completed, `stop()` drains the table under `completions_lock`. -/
def stopDrain (s : Conn) : Option Conn :=
  if s.stopPc = .waiting && s.reader.over && s.writer.over then
    some { s with calls := s.calls.drain, stopPc := .resetting }
  else none

/-- The rest of `stop()`, after `completions_lock` is released: `transport.reset()`,
`cancel = {}` and `running = false`. -/
def stopEnd (s : Conn) : Option Conn :=
  if s.stopPc = .resetting then
    some { s with
      transport := none
      scope := s.scope + 1
      cancelled := false
      running := false
      stopPc := .idle
      reader := .idle
      writer := .idle }
  else none

/-- `do_call` entered through a client stub draws its call id. Its `assert(transport)` is
compiled out of release builds, so nothing checks that a transport is held. -/
def doCall (s : Conn) (cfg : Config) (name : UInt32) (payload : Bytes) : Option Conn :=
  if cfg.client.isSome then some { s with calls := s.calls.issue name payload } else none

def doCallRegister (s : Conn) (c : Nat) : Option Conn :=
  match s.calls.callers[c]? with
  | some k => if k.pc = .issued then some { s with calls := s.calls.register c k.callId } else none
  | none => none

def doCallSend (s : Conn) (c : Nat) : Option Conn :=
  match s.calls.callers[c]? with
  | some k =>
    if k.pc = .registered then
      some { s with
        writeQueue := s.writeQueue ++ [⟨.make k.callId .request k.name, k.payload⟩]
        calls := s.calls.markSent c k }
    else none
  | none => none

/-- `do_void_call` throws `operation_cancelled` on a cancelled scope, and otherwise draws a call
id and pushes its `VoidRequest`; its `assert(transport)` is compiled out too. -/
def doVoidCall (s : Conn) (cfg : Config) (name : UInt32) (payload : Bytes) : Option Conn :=
  if cfg.client.isSome then
    if s.cancelled then some s
    else some { s with
      calls := s.calls.nextId
      writeQueue := s.writeQueue ++ [⟨.make s.calls.lastCallId .voidRequest name, payload⟩] }
  else none

def writerTest (s : Conn) : Option Conn :=
  match s.writer with
  | .loop tok => some { s with writer := if s.tokenCancelled tok then .done else .waiting tok }
  | _ => none

def writerSend (s : Conn) : Option Conn :=
  match s.writer, s.writeQueue, s.transport with
  | .waiting tok, m :: q, some t =>
    some { s with writeQueue := q, written := s.written ++ [(t, m)], writer := .loop tok }
  | _, _, _ => none

def writerFail (s : Conn) (hr : UInt32) : Option Conn :=
  match s.writer, s.writeQueue with
  | .waiting _, _ :: q =>
    some { s with
      writeQueue := q
      cancelled := true
      hook := errorOnBackground s.hook hr .send
      writer := .done }
  | _, _ => none

def writerExit (s : Conn) : Option Conn :=
  match s.writer with
  | .waiting tok => if s.tokenCancelled tok then some { s with writer := .done } else none
  | _ => none

def readerTest (s : Conn) : Option Conn :=
  match s.reader with
  | .loop tok => some { s with reader := if s.tokenCancelled tok then .exit else .reading tok }
  | _ => none

/-- `transport->read()` returns `m`: a reply completes its slot, a request goes to
`execute_request`. -/
def readMessage (s : Conn) (cfg : Config) (m : Message) : Option Conn :=
  match s.reader with
  | .reading tok =>
    let s := { s with reader := .loop tok }
    some (if m.type = .response || m.type = .responseError then { s with calls := s.calls.complete m }
      else executeRequest cfg s m)
  | _ => none

def readFail (s : Conn) (hr : UInt32) : Option Conn :=
  match s.reader with
  | .reading _ =>
    some { s with cancelled := true, hook := errorOnBackground s.hook hr .receive, reader := .exit }
  | _ => none

/-- `transport->read()` throws another exception: the loop catches only `hresult_error`, so it
leaves `reader()` at once. -/
def readThrow (s : Conn) : Option Conn :=
  match s.reader with
  | .reading _ => some { s with reader := .done }
  | _ => none

def readerRelease (s : Conn) : Option Conn :=
  match s.reader with
  | .exit => some { s.release with reader := .wait }
  | _ => none

def readerDone (s : Conn) : Option Conn :=
  match s.reader with
  | .wait => if 0 < s.finished then some { s with reader := .done } else none
  | _ => none

def dispatched (s : Conn) (cfg : Config) (h : Nat) (r : DispatchResult) : Option Conn :=
  match s.handlers[h]? with
  | some ⟨hdr, .dispatching⟩ =>
    if cfg.dispatchAllows hdr.id r then
      some { s with
        writeQueue := s.writeQueue ++ r.replies hdr
        handlers := s.handlers.set h ⟨hdr, .check r.hr⟩ }
    else none
  | _ => none

def handlerCheck (s : Conn) (h : Nat) : Option Conn :=
  match s.handlers[h]? with
  | some ⟨hdr, .check hr⟩ =>
    some { s with handlers := s.handlers.set h ⟨hdr, if s.cancelled then .finish else .reply hr⟩ }
  | _ => none

def handlerReply (s : Conn) (h : Nat) : Option Conn :=
  match s.handlers[h]? with
  | some ⟨hdr, .reply hr⟩ =>
    some { s with
      writeQueue := s.writeQueue ++ [responseErrorTo hdr hr]
      handlers := s.handlers.set h ⟨hdr, .finish⟩ }
  | _ => none

def handlerFinish (s : Conn) (h : Nat) : Option Conn :=
  match s.handlers[h]? with
  | some ⟨hdr, .finish⟩ => some { s.release with handlers := s.handlers.set h ⟨hdr, .done⟩ }
  | _ => none

end Conn

/-- One step of a connection. `none`: the step cannot be taken in this state. -/
def step (cfg : Config) (s : Conn) : Act → Option Conn
  | .start t => s.start cfg t
  | .stop => s.stop
  | .stopCancel => s.stopCancel
  | .stopDrain => s.stopDrain
  | .stopEnd => s.stopEnd
  | .doCall name payload => s.doCall cfg name payload
  | .doCallRegister c => s.doCallRegister c
  | .doCallSend c => s.doCallSend c
  | .doVoidCall name payload => s.doVoidCall cfg name payload
  | .writerTest => s.writerTest
  | .writerSend => s.writerSend
  | .writerFail hr => s.writerFail hr
  | .writerExit => s.writerExit
  | .readerTest => s.readerTest
  | .readMessage m => s.readMessage cfg m
  | .readFail hr => s.readFail hr
  | .readThrow => s.readThrow
  | .readerRelease => s.readerRelease
  | .readerDone => s.readerDone
  | .dispatched h r => s.dispatched cfg h r
  | .handlerCheck h => s.handlerCheck h
  | .handlerReply h => s.handlerReply h
  | .handlerFinish h => s.handlerFinish h
  | .onError => some { s with hook := onError s.hook }
  | .onErrorClear => some { s with hook := onErrorClear s.hook }

/-- The states a connection reaches from construction, through any interleaving of steps. -/
inductive Reachable (cfg : Config) : Conn → Prop where
  | init : Reachable cfg .init
  | step {s s' : Conn} (a : Act) : Reachable cfg s → step cfg s a = some s' → Reachable cfg s'

def run (cfg : Config) : Conn → List Act → Option Conn
  | s, [] => some s
  | s, a :: as => (step cfg s a).bind (run cfg · as)

theorem Reachable.run {cfg : Config} {s s' : Conn} (hs : Reachable cfg s) :
    ∀ {as : List Act}, run cfg s as = some s' → Reachable cfg s'
  | [], h => by simp only [AsyncCppRpc.Connection.run, Option.some.injEq] at h; exact h ▸ hs
  | a :: as, h => by
    simp only [AsyncCppRpc.Connection.run] at h
    cases ha : AsyncCppRpc.Connection.step cfg s a with
    | none => simp [ha] at h
    | some s₁ => exact (Reachable.step a hs ha).run (by simpa [ha] using h)

theorem Reachable.exists_of_run {α : Type} {cfg : Config} {as : List Act} {f : Conn → α} {a : α}
    (h : (AsyncCppRpc.Connection.run cfg .init as).map f = some a) :
    ∃ s, Reachable cfg s ∧ f s = a := by
  cases hr : AsyncCppRpc.Connection.run cfg .init as with
  | none => simp [hr] at h
  | some s => exact ⟨s, Reachable.init.run hr, by simpa [hr] using h⟩

theorem run_append (cfg : Config) (s : Conn) (as bs : List Act) :
    run cfg s (as ++ bs) = (run cfg s as).bind (run cfg · bs) := by
  induction as generalizing s with
  | nil => simp [run]
  | cons a as ih =>
    simp only [List.cons_append, run]
    cases step cfg s a <;> simp [ih]

section Inversion

-- What each action's step does, guard and all: the invariants read steps through these lemmas.

variable {cfg : Config} {s s' : Conn}

theorem step_start {t : Nat} (h : step cfg s (.start t) = some s') :
    s.transport = none ∧ s' = { s with
      transport := some t
      reader := if cfg.readerNotRequired then .done else .loop s.scope
      writer := if cfg.writerNotRequired then .done else .loop s.scope
      outstanding := 1
      finished := 0
      running := true } := by
  simp only [step, Conn.start] at h
  by_cases ht : s.transport.isNone
  · rw [if_pos ht] at h
    exact ⟨Option.isNone_iff_eq_none.mp ht, (Option.some.inj h).symm⟩
  · rw [if_neg ht] at h
    cases h

theorem step_stop (h : step cfg s .stop = some s') :
    s.stopPc = .idle ∧ (s.running = true ∧
      s' = { s with hook := errorOnBackground s.hook eAbort .stop, stopPc := .cancelling } ∨
      s.running = false ∧ s' = s) := by
  simp only [step, Conn.stop] at h
  split_ifs at h with hp hr <;> cases h
  · exact ⟨not_not.mp hp, .inl ⟨hr, rfl⟩⟩
  · exact ⟨not_not.mp hp, .inr ⟨by simpa using hr, rfl⟩⟩

theorem step_stopCancel (h : step cfg s .stopCancel = some s') :
    s.stopPc = .cancelling ∧ s' = { s with cancelled := true, stopPc := .waiting } := by
  simp only [step, Conn.stopCancel] at h
  split_ifs at h with hp
  exact ⟨hp, (Option.some.inj h).symm⟩

theorem step_stopDrain (h : step cfg s .stopDrain = some s') :
    s.stopPc = .waiting ∧ s.reader.over = true ∧ s.writer.over = true ∧
      s' = { s with calls := s.calls.drain, stopPc := .resetting } := by
  simp only [step, Conn.stopDrain] at h
  split_ifs at h with hg
  simp only [Bool.and_eq_true, decide_eq_true_eq] at hg
  exact ⟨hg.1.1, hg.1.2, hg.2, (Option.some.inj h).symm⟩

theorem step_stopEnd (h : step cfg s .stopEnd = some s') :
    s.stopPc = .resetting ∧ s' = { s with
      transport := none
      scope := s.scope + 1
      cancelled := false
      running := false
      stopPc := .idle
      reader := .idle
      writer := .idle } := by
  simp only [step, Conn.stopEnd] at h
  split_ifs at h with hp
  exact ⟨hp, (Option.some.inj h).symm⟩

theorem step_doCall {n : UInt32} {p : Bytes} (h : step cfg s (.doCall n p) = some s') :
    cfg.client.isSome = true ∧ s' = { s with calls := s.calls.issue n p } := by
  simp only [step, Conn.doCall] at h
  split_ifs at h with hc
  exact ⟨hc, (Option.some.inj h).symm⟩

theorem step_doCallRegister {c : Nat} (h : step cfg s (.doCallRegister c) = some s') :
    ∃ k, s.calls.callers[c]? = some k ∧ k.pc = .issued ∧
      s' = { s with calls := s.calls.register c k.callId } := by
  simp only [step, Conn.doCallRegister] at h
  split at h <;> [skip; cases h]
  split_ifs at h with hpc
  exact ⟨_, ‹_›, hpc, (Option.some.inj h).symm⟩

theorem step_doCallSend {c : Nat} (h : step cfg s (.doCallSend c) = some s') :
    ∃ k, s.calls.callers[c]? = some k ∧ k.pc = .registered ∧ s' = { s with
      writeQueue := s.writeQueue ++ [⟨.make k.callId .request k.name, k.payload⟩]
      calls := s.calls.markSent c k } := by
  simp only [step, Conn.doCallSend] at h
  split at h <;> [skip; cases h]
  split_ifs at h with hpc
  exact ⟨_, ‹_›, hpc, (Option.some.inj h).symm⟩

theorem step_doVoidCall {n : UInt32} {p : Bytes} (h : step cfg s (.doVoidCall n p) = some s') :
    cfg.client.isSome = true ∧ (s.cancelled = true ∧ s' = s ∨ s.cancelled = false ∧ s' = { s with
      calls := s.calls.nextId
      writeQueue := s.writeQueue ++ [⟨.make s.calls.lastCallId .voidRequest n, p⟩] }) := by
  simp only [step, Conn.doVoidCall] at h
  split_ifs at h with hc hx <;> cases h
  · exact ⟨hc, .inl ⟨hx, rfl⟩⟩
  · exact ⟨hc, .inr ⟨by simpa using hx, rfl⟩⟩

theorem step_writerTest (h : step cfg s .writerTest = some s') :
    ∃ tok, s.writer = .loop tok ∧
      s' = { s with writer := if s.tokenCancelled tok then .done else .waiting tok } := by
  simp only [step, Conn.writerTest] at h
  split at h <;> [skip; cases h]
  exact ⟨_, ‹_›, (Option.some.inj h).symm⟩

theorem step_writerSend (h : step cfg s .writerSend = some s') :
    ∃ tok m q t, s.writer = .waiting tok ∧ s.writeQueue = m :: q ∧ s.transport = some t ∧
      s' = { s with writeQueue := q, written := s.written ++ [(t, m)], writer := .loop tok } := by
  simp only [step, Conn.writerSend] at h
  split at h <;> [skip; cases h]
  exact ⟨_, _, _, _, ‹_›, ‹_›, ‹_›, (Option.some.inj h).symm⟩

theorem step_writerFail {hr : UInt32} (h : step cfg s (.writerFail hr) = some s') :
    ∃ tok m q, s.writer = .waiting tok ∧ s.writeQueue = m :: q ∧ s' = { s with
      writeQueue := q
      cancelled := true
      hook := errorOnBackground s.hook hr .send
      writer := .done } := by
  simp only [step, Conn.writerFail] at h
  split at h <;> [skip; cases h]
  exact ⟨_, _, _, ‹_›, ‹_›, (Option.some.inj h).symm⟩

theorem step_writerExit (h : step cfg s .writerExit = some s') :
    ∃ tok, s.writer = .waiting tok ∧ s.tokenCancelled tok = true ∧ s' = { s with writer := .done } := by
  simp only [step, Conn.writerExit] at h
  split at h <;> [skip; cases h]
  split_ifs at h with hc
  exact ⟨_, ‹_›, hc, (Option.some.inj h).symm⟩

theorem step_readerTest (h : step cfg s .readerTest = some s') :
    ∃ tok, s.reader = .loop tok ∧
      s' = { s with reader := if s.tokenCancelled tok then .exit else .reading tok } := by
  simp only [step, Conn.readerTest] at h
  split at h <;> [skip; cases h]
  exact ⟨_, ‹_›, (Option.some.inj h).symm⟩

theorem step_readMessage {m : Message} (h : step cfg s (.readMessage m) = some s') :
    ∃ tok, s.reader = .reading tok ∧
      ((m.type = .response ∨ m.type = .responseError) ∧
          s' = { s with reader := .loop tok, calls := s.calls.complete m } ∨
        (m.type = .request ∨ m.type = .voidRequest) ∧
          s' = executeRequest cfg { s with reader := .loop tok } m) := by
  simp only [step, Conn.readMessage] at h
  split at h <;> [skip; cases h]
  refine ⟨_, ‹_›, ?_⟩
  cases ht : m.type <;> simp only [ht, reduceCtorEq] at h <;> simp [← Option.some.inj h]

theorem step_readFail {hr : UInt32} (h : step cfg s (.readFail hr) = some s') :
    ∃ tok, s.reader = .reading tok ∧ s' = { s with
      cancelled := true
      hook := errorOnBackground s.hook hr .receive
      reader := .exit } := by
  simp only [step, Conn.readFail] at h
  split at h <;> [skip; cases h]
  exact ⟨_, ‹_›, (Option.some.inj h).symm⟩

theorem step_readThrow (h : step cfg s .readThrow = some s') :
    ∃ tok, s.reader = .reading tok ∧ s' = { s with reader := .done } := by
  simp only [step, Conn.readThrow] at h
  split at h <;> [skip; cases h]
  exact ⟨_, ‹_›, (Option.some.inj h).symm⟩

theorem step_readerRelease (h : step cfg s .readerRelease = some s') :
    s.reader = .exit ∧ s' = { s.release with reader := .wait } := by
  simp only [step, Conn.readerRelease] at h
  split at h <;> [skip; cases h]
  exact ⟨‹_›, (Option.some.inj h).symm⟩

theorem step_readerDone (h : step cfg s .readerDone = some s') :
    s.reader = .wait ∧ 0 < s.finished ∧ s' = { s with reader := .done } := by
  simp only [step, Conn.readerDone] at h
  split at h <;> [skip; cases h]
  split_ifs at h with hf
  exact ⟨‹_›, hf, (Option.some.inj h).symm⟩

theorem step_dispatched {i : Nat} {r : DispatchResult} (h : step cfg s (.dispatched i r) = some s') :
    ∃ hdr, s.handlers[i]? = some ⟨hdr, .dispatching⟩ ∧ cfg.dispatchAllows hdr.id r = true ∧
      s' = { s with
        writeQueue := s.writeQueue ++ r.replies hdr
        handlers := s.handlers.set i ⟨hdr, .check r.hr⟩ } := by
  simp only [step, Conn.dispatched] at h
  split at h <;> [skip; cases h]
  split_ifs at h with ha
  exact ⟨_, ‹_›, ha, (Option.some.inj h).symm⟩

theorem step_handlerCheck {i : Nat} (h : step cfg s (.handlerCheck i) = some s') :
    ∃ hdr hr, s.handlers[i]? = some ⟨hdr, .check hr⟩ ∧
      s' = { s with handlers := s.handlers.set i ⟨hdr, if s.cancelled then .finish else .reply hr⟩ } := by
  simp only [step, Conn.handlerCheck] at h
  split at h <;> [skip; cases h]
  exact ⟨_, _, ‹_›, (Option.some.inj h).symm⟩

theorem step_handlerReply {i : Nat} (h : step cfg s (.handlerReply i) = some s') :
    ∃ hdr hr, s.handlers[i]? = some ⟨hdr, .reply hr⟩ ∧ s' = { s with
      writeQueue := s.writeQueue ++ [responseErrorTo hdr hr]
      handlers := s.handlers.set i ⟨hdr, .finish⟩ } := by
  simp only [step, Conn.handlerReply] at h
  split at h <;> [skip; cases h]
  exact ⟨_, _, ‹_›, (Option.some.inj h).symm⟩

theorem step_handlerFinish {i : Nat} (h : step cfg s (.handlerFinish i) = some s') :
    ∃ hdr, s.handlers[i]? = some ⟨hdr, .finish⟩ ∧
      s' = { s.release with handlers := s.handlers.set i ⟨hdr, .done⟩ } := by
  simp only [step, Conn.handlerFinish] at h
  split at h <;> [skip; cases h]
  exact ⟨_, ‹_›, (Option.some.inj h).symm⟩

theorem step_onError (h : step cfg s .onError = some s') : s' = { s with hook := onError s.hook } :=
  (Option.some.inj h).symm

theorem step_onErrorClear (h : step cfg s .onErrorClear = some s') :
    s' = { s with hook := onErrorClear s.hook } :=
  (Option.some.inj h).symm

theorem map_header_set {l : List Handler} {i : Nat} {x y : Handler} (hi : l[i]? = some x)
    (hy : y.header = x.header) : (l.set i y).map Handler.header = l.map Handler.header := by
  refine List.ext_getElem? fun j => ?_
  simp only [List.getElem?_map, List.getElem?_set]
  by_cases hij : i = j
  · subst hij
    simp [hi, hy, (List.getElem?_eq_some_iff.mp hi).1]
  · simp [hij]

/-- The steps that only move a task, a handler or `stop` along, or touch the error hook. -/
def Act.control : Act → Bool
  | .start _ | .stop | .stopCancel | .stopEnd | .writerTest | .writerExit | .readerTest
  | .readFail _ | .readThrow | .readerRelease | .readerDone | .handlerCheck _ | .handlerFinish _
  | .onError | .onErrorClear => true
  | _ => false

/-- A control step leaves the call table, the queue, what was written and the handlers'
requests as they were. -/
theorem step_control_frame {a : Act} (h : step cfg s a = some s') (ha : a.control = true) :
    s'.calls = s.calls ∧ s'.writeQueue = s.writeQueue ∧ s'.written = s.written ∧
      s'.handlers.map Handler.header = s.handlers.map Handler.header := by
  cases a <;> simp only [Act.control, Bool.false_eq_true] at ha
  case start => obtain ⟨-, rfl⟩ := step_start h; exact ⟨rfl, rfl, rfl, rfl⟩
  case stop => obtain ⟨-, ⟨-, rfl⟩ | ⟨-, rfl⟩⟩ := step_stop h <;> exact ⟨rfl, rfl, rfl, rfl⟩
  case stopCancel => obtain ⟨-, rfl⟩ := step_stopCancel h; exact ⟨rfl, rfl, rfl, rfl⟩
  case stopEnd => obtain ⟨-, rfl⟩ := step_stopEnd h; exact ⟨rfl, rfl, rfl, rfl⟩
  case writerTest => obtain ⟨_, -, rfl⟩ := step_writerTest h; exact ⟨rfl, rfl, rfl, rfl⟩
  case writerExit => obtain ⟨_, -, -, rfl⟩ := step_writerExit h; exact ⟨rfl, rfl, rfl, rfl⟩
  case readerTest => obtain ⟨_, -, rfl⟩ := step_readerTest h; exact ⟨rfl, rfl, rfl, rfl⟩
  case readFail => obtain ⟨_, -, rfl⟩ := step_readFail h; exact ⟨rfl, rfl, rfl, rfl⟩
  case readThrow => obtain ⟨_, -, rfl⟩ := step_readThrow h; exact ⟨rfl, rfl, rfl, rfl⟩
  case readerRelease => obtain ⟨-, rfl⟩ := step_readerRelease h; exact ⟨rfl, rfl, rfl, rfl⟩
  case readerDone => obtain ⟨-, -, rfl⟩ := step_readerDone h; exact ⟨rfl, rfl, rfl, rfl⟩
  case handlerCheck =>
    obtain ⟨_, _, hh, rfl⟩ := step_handlerCheck h
    exact ⟨rfl, rfl, rfl, map_header_set hh rfl⟩
  case handlerFinish =>
    obtain ⟨_, hh, rfl⟩ := step_handlerFinish h
    exact ⟨rfl, rfl, rfl, map_header_set hh rfl⟩
  case onError => obtain rfl := step_onError h; exact ⟨rfl, rfl, rfl, rfl⟩
  case onErrorClear => obtain rfl := step_onErrorClear h; exact ⟨rfl, rfl, rfl, rfl⟩

end Inversion

end AsyncCppRpc.Connection
