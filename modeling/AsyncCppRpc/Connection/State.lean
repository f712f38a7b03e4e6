import AsyncCppRpc.Connection.ErrorHook
import AsyncCppRpc.Connection.Calls
import AsyncCppRpc.Marshal.MethodMap

namespace AsyncCppRpc.Connection

open Wire Transport Marshal MethodId

structure MethodDecl where
  name : List UInt8
  isVoid : Bool
  deriving DecidableEq, Repr

/-- The marshallers of a `connection<Transport, Traits...>`: a client interface, a server interface,
or both. `elision` is whether the compile-time elision of `reader()` and `writer()` applies. -/
structure Config where
  client : Option (List MethodDecl)
  server : Option (List MethodDecl)
  elision : Bool
  deriving DecidableEq, Repr

def calculatorMethods : List MethodDecl :=
  [⟨asciiName "simple_sum", false⟩, ⟨asciiName "array_sum", false⟩,
    ⟨asciiName "string_concatenate", false⟩, ⟨asciiName "universal_add", false⟩,
    ⟨asciiName "send_telemetry_event", true⟩]

def calculatorClient : Config := ⟨some calculatorMethods, none, true⟩

def calculatorServer : Config := ⟨none, some calculatorMethods, true⟩

def Config.hasServer (cfg : Config) : Bool := cfg.server.isSome

def Config.firstOnlyVoid (cfg : Config) : Bool :=
  match cfg.client, cfg.server with
  | some ms, none | none, some ms => ms.all (·.isVoid)
  | _, _ => false

def Config.readerNotRequired (cfg : Config) : Bool :=
  cfg.elision && !cfg.hasServer && cfg.firstOnlyVoid

def Config.writerNotRequired (cfg : Config) : Bool :=
  cfg.elision && cfg.client.isNone && cfg.firstOnlyVoid

inductive DispatchResult where
  | ok (payload : Bytes)
  | hresult (hr : UInt32)
  | other
  deriving DecidableEq, Repr

/-- The outcomes `marshal_server::dispatch` can have for a method id: an id missing from the
server's table always throws `E_NOTIMPL`; a method in it may return or throw anything, as its
arguments' decoding and its implementation decide. -/
def Config.dispatchAllows (cfg : Config) (id : UInt32) (r : DispatchResult) : Bool :=
  match cfg.server with
  | none => false
  | some ms =>
    match findMethod (buildMethodMap (ms.map (·.name))) id with
    | none => r == .hresult eNotImpl
    | some _ => true

/-- Where `reader()` is: at the test of its loop, awaiting `transport->read()`, out of the
loop before releasing its own count, or in `finished.get_future().wait()`. The loop holds the
token of the scope it started in. -/
inductive ReaderPc where
  | idle
  | loop (token : Nat)
  | reading (token : Nat)
  | exit
  | wait
  | done
  deriving DecidableEq, Repr

inductive WriterPc where
  | idle
  | loop (token : Nat)
  | waiting (token : Nat)
  | done
  deriving DecidableEq, Repr

/-- Where an `execute_request` of a `Request` is once it has counted itself in
`outstanding_requests`: awaiting `dispatch`, about to test `cancel.is_cancelled()` with `hr`,
about to push the `ResponseError` with `hr`, or about to release its count. -/
inductive HandlerPc where
  | dispatching
  | check (hr : UInt32)
  | reply (hr : UInt32)
  | finish
  | done
  deriving DecidableEq, Repr

/-- Where `stop()` is, once it holds `stop_lock` on a running connection: about to cancel the
scope (after reporting `E_ABORT`), waiting for the tasks, or past its drain and the release of
`completions_lock`, about to reset the transport and the scope. -/
inductive StopPc where
  | idle
  | cancelling
  | waiting
  | resetting
  deriving DecidableEq, Repr

structure Handler where
  header : MessageHeader
  pc : HandlerPc
  deriving DecidableEq, Repr

/-- The state of a connection. `scope` numbers the `cancellation_source` that `cancel` holds,
`cancelled` is whether it is cancelled, and `written` records every `transport.write` with the
transport it went to. -/
structure Conn where
  running : Bool
  stopPc : StopPc
  transport : Option Nat
  scope : Nat
  cancelled : Bool
  writeQueue : List Message
  written : List (Nat × Message)
  reader : ReaderPc
  writer : WriterPc
  outstanding : Int
  finished : Nat
  handlers : List Handler
  calls : Calls
  hook : ErrorHook
  deriving DecidableEq, Repr

def Conn.init : Conn :=
  ⟨false, .idle, none, 0, false, [], [], .idle, .idle, 0, 0, [], .init, .init⟩

/-- A token of scope `token` is cancelled: its source was, or has been replaced (`stop`
cancels a source before it replaces it). -/
def Conn.tokenCancelled (s : Conn) (token : Nat) : Bool :=
  token < s.scope || s.cancelled

def responseTo (h : MessageHeader) (payload : Bytes) : Message :=
  ⟨⟨h.callId, .response, h.id⟩, payload⟩

def responseErrorTo (h : MessageHeader) (hr : UInt32) : Message :=
  ⟨⟨h.callId, .responseError, h.id⟩, hresultPayload hr⟩

/-- `hr` once `co_await dispatch(...)` resumes: `S_OK` after a result, the code of an
`hresult_error`, or `E_FAIL` for any other exception. -/
def DispatchResult.hr : DispatchResult → UInt32
  | .ok _ => sOk
  | .hresult e => e
  | .other => eFail

def DispatchResult.replies (h : MessageHeader) : DispatchResult → List Message
  | .ok p => [responseTo h p]
  | _ => []

def Conn.release (s : Conn) : Conn :=
  { s with
    outstanding := s.outstanding - 1
    finished := if s.outstanding = 1 then s.finished + 1 else s.finished }

/-- `execute_request` up to its first suspension, as the reader calls it. A void request is
dispatched synchronously and never answered; a request counts itself and awaits `dispatch`.
Without a server the request is answered with `E_INVALIDARG` unless the scope is cancelled. -/
def executeRequest (cfg : Config) (s : Conn) (m : Message) : Conn :=
  if cfg.hasServer then
    if m.type = .voidRequest then s
    else { s with
      outstanding := s.outstanding + 1
      handlers := s.handlers ++ [⟨m.toMessageHeader, .dispatching⟩] }
  else if !s.cancelled && m.type != .voidRequest then
    { s with writeQueue := s.writeQueue ++ [responseErrorTo m.toMessageHeader eInvalidArg] }
  else s

section executeRequest

variable (cfg : Config) (s : Conn) (m : Message)

theorem executeRequest_frame :
    ∃ q o hs, executeRequest cfg s m = { s with writeQueue := q, outstanding := o, handlers := hs } := by
  unfold executeRequest
  split_ifs <;> exact ⟨_, _, _, rfl⟩

@[simp] theorem executeRequest_running : (executeRequest cfg s m).running = s.running := by
  obtain ⟨_, _, _, he⟩ := executeRequest_frame cfg s m; rw [he]

@[simp] theorem executeRequest_transport : (executeRequest cfg s m).transport = s.transport := by
  obtain ⟨_, _, _, he⟩ := executeRequest_frame cfg s m; rw [he]

@[simp] theorem executeRequest_reader : (executeRequest cfg s m).reader = s.reader := by
  obtain ⟨_, _, _, he⟩ := executeRequest_frame cfg s m; rw [he]

@[simp] theorem executeRequest_writer : (executeRequest cfg s m).writer = s.writer := by
  obtain ⟨_, _, _, he⟩ := executeRequest_frame cfg s m; rw [he]

@[simp] theorem executeRequest_written : (executeRequest cfg s m).written = s.written := by
  obtain ⟨_, _, _, he⟩ := executeRequest_frame cfg s m; rw [he]

@[simp] theorem executeRequest_calls : (executeRequest cfg s m).calls = s.calls := by
  obtain ⟨_, _, _, he⟩ := executeRequest_frame cfg s m; rw [he]

@[simp] theorem executeRequest_cancelled : (executeRequest cfg s m).cancelled = s.cancelled := by
  obtain ⟨_, _, _, he⟩ := executeRequest_frame cfg s m; rw [he]

@[simp] theorem executeRequest_stopPc : (executeRequest cfg s m).stopPc = s.stopPc := by
  obtain ⟨_, _, _, he⟩ := executeRequest_frame cfg s m; rw [he]

@[simp] theorem executeRequest_hook : (executeRequest cfg s m).hook = s.hook := by
  obtain ⟨_, _, _, he⟩ := executeRequest_frame cfg s m; rw [he]

end executeRequest

end AsyncCppRpc.Connection
