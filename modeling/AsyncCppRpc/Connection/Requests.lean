import AsyncCppRpc.Connection.Invariant

namespace AsyncCppRpc.Connection

open Wire Transport Marshal MethodId

/-- After a successful dispatch the handler pushes the `Response`, then finds the scope not
cancelled and pushes a `ResponseError` carrying `S_OK`: every successful `Request` is answered
twice. -/
theorem successful_dispatch_replies_twice (cfg : Config) (s : Conn) (h : Nat)
    (hdr : MessageHeader) (p : Bytes) (hh : s.handlers[h]? = some ⟨hdr, .dispatching⟩)
    (hc : s.cancelled = false) (ha : cfg.dispatchAllows hdr.id (.ok p) = true) :
    (run cfg s [.dispatched h (.ok p), .handlerCheck h, .handlerReply h]).map (·.writeQueue) =
      some (s.writeQueue ++ [responseTo hdr p, responseErrorTo hdr sOk]) := by
  have hlt : h < s.handlers.length := (List.getElem?_eq_some_iff.mp hh).1
  simp [run, step, Conn.dispatched, Conn.handlerCheck, Conn.handlerReply, DispatchResult.replies,
    DispatchResult.hr, hh, ha, hc, hlt]

theorem simple_sum_replied_twice :
    ∃ s, run calculatorServer .init [.start 0, .readerTest, .readMessage
        ⟨.make 7 .request (getMethodId (asciiName "simple_sum")), [17, 0, 0, 0, 42, 0, 0, 0]⟩] =
        some s ∧
      s.handlers[0]? = some ⟨.make 7 .request (getMethodId (asciiName "simple_sum")), .dispatching⟩ ∧
      s.cancelled = false ∧
      calculatorServer.dispatchAllows (getMethodId (asciiName "simple_sum")) (.ok [59, 0, 0, 0]) ∧
      (run calculatorServer s [.dispatched 0 (.ok [59, 0, 0, 0]), .handlerCheck 0,
          .handlerReply 0]).map (·.writeQueue) =
        some (s.writeQueue ++ [responseTo (.make 7 .request (getMethodId (asciiName "simple_sum")))
          [59, 0, 0, 0], responseErrorTo (.make 7 .request (getMethodId (asciiName "simple_sum"))) sOk]) :=
  ⟨_, rfl, rfl, rfl, rfl, successful_dispatch_replies_twice _ _ 0 _ _ rfl rfl rfl⟩

/-- A `stop` under way, or one that a running connection can begin, reaches its wait with the
scope cancelled, changing nothing else but the error hook. -/
theorem stop_reaches_wait (cfg : Config) (s : Conn) (hr : s.running = true)
    (hc : s.stopPc = .waiting → s.cancelled = true) (hd : s.stopPc ≠ .resetting) :
    ∃ as e, run cfg s as = some { s with hook := e, cancelled := true, stopPc := .waiting } := by
  cases hp : s.stopPc with
  | idle =>
    exact ⟨[.stop, .stopCancel], errorOnBackground s.hook eAbort .stop,
      by simp [run, step, Conn.stop, Conn.stopCancel, hp, hr]⟩
  | cancelling => exact ⟨[.stopCancel], s.hook, by simp [run, step, Conn.stopCancel, hp]⟩
  | waiting =>
    refine ⟨[], s.hook, ?_⟩
    have hs := hc hp
    cases s
    simp_all [run]
  | resetting => exact absurd hp hd

theorem writer_leaves (cfg : Config) (s : Conn) (hc : s.cancelled = true) :
    ∃ as w, w.over = true ∧ run cfg s as = some { s with writer := w } := by
  cases hw : s.writer with
  | idle => exact ⟨[], .idle, rfl, by cases s; simp_all [run]⟩
  | done => exact ⟨[], .done, rfl, by cases s; simp_all [run]⟩
  | loop tok =>
    exact ⟨[.writerTest], .done, rfl, by simp [run, step, Conn.writerTest, hw, Conn.tokenCancelled, hc]⟩
  | waiting tok =>
    exact ⟨[.writerExit], .done, rfl, by simp [run, step, Conn.writerExit, hw, Conn.tokenCancelled, hc]⟩

/-- A read that throws anything but `hresult_error` ends `reader()` without releasing its count, and
`stop` then finds both tasks completed while every handler it spawned is where it was. -/
theorem stop_wait_ends_before_handlers (cfg : Config) (s : Conn) (tok : Nat)
    (hs : Reachable cfg s) (hr : s.reader = .reading tok) :
    ∃ as s', run cfg s (.readThrow :: as) = some s' ∧ s'.stopPc = .waiting ∧
      s'.reader.over = true ∧ s'.writer.over = true ∧ s'.handlers = s.handlers ∧
      s'.outstanding = s.outstanding ∧ s'.finished = s.finished := by
  have hw := hs.wf
  obtain ⟨hrun, hd⟩ := hw.reader_live (by simp [hr, ReaderPc.over])
  obtain ⟨as₁, e, h₁⟩ := stop_reaches_wait cfg { s with reader := .done } hrun hw.stop_cancelled hd
  obtain ⟨as₂, w, hwo, h₂⟩ := writer_leaves cfg
    { s with reader := .done, hook := e, cancelled := true, stopPc := .waiting } rfl
  refine ⟨as₁ ++ as₂, { s with
    reader := .done
    hook := e
    cancelled := true
    stopPc := .waiting
    writer := w }, ?_, rfl, rfl, hwo, rfl, rfl, rfl⟩
  simp only [run, step, Conn.readThrow, hr, Option.some_bind, run_append, h₁, h₂]

theorem simple_sum_handler_outlives_reader :
    ∃ s, run calculatorServer .init [.start 0, .readerTest, .readMessage
        ⟨.make 7 .request (getMethodId (asciiName "simple_sum")), [17, 0, 0, 0, 42, 0, 0, 0]⟩,
        .readerTest] = some s ∧
      s.reader = .reading 0 ∧
      s.handlers = [⟨.make 7 .request (getMethodId (asciiName "simple_sum")), .dispatching⟩] ∧
      ∃ as s', run calculatorServer s (.readThrow :: as) = some s' ∧ s'.stopPc = .waiting ∧
        s'.reader.over = true ∧ s'.writer.over = true ∧ s'.handlers = s.handlers ∧
        s'.outstanding = s.outstanding ∧ s'.finished = s.finished :=
  ⟨_, rfl, rfl, rfl, stop_wait_ends_before_handlers _ _ 0 (@Reachable.run _ _ _ .init
    [.start 0, .readerTest, .readMessage ⟨.make 7 .request (getMethodId (asciiName "simple_sum")),
      [17, 0, 0, 0, 42, 0, 0, 0]⟩, .readerTest] rfl) rfl⟩

/-- The handler tests `cancel.is_cancelled()` and pushes its `ResponseError` in two steps, and
`stop` can report and cancel in between: the reply is pushed after the scope was cancelled. -/
theorem handler_replies_after_cancel (cfg : Config) (s : Conn) (h : Nat) (hdr : MessageHeader)
    (hr : UInt32) (hh : s.handlers[h]? = some ⟨hdr, .check hr⟩) (hc : s.cancelled = false)
    (hrun : s.running = true) (hp : s.stopPc = .idle) :
    ∃ s', run cfg s [.handlerCheck h, .stop, .stopCancel] = some s' ∧ s'.cancelled = true ∧
      (step cfg s' (.handlerReply h)).map (·.writeQueue) =
        some (s.writeQueue ++ [responseErrorTo hdr hr]) := by
  have hlt : h < s.handlers.length := (List.getElem?_eq_some_iff.mp hh).1
  refine ⟨{ s with
    handlers := s.handlers.set h ⟨hdr, .reply hr⟩
    hook := errorOnBackground s.hook eAbort .stop
    cancelled := true
    stopPc := .waiting }, ?_, rfl, ?_⟩
  · simp [run, step, Conn.handlerCheck, Conn.stop, Conn.stopCancel, hh, hc, hrun, hp]
  · simp [step, Conn.handlerReply, hlt]

theorem unknown_method_replied_after_cancel :
    ∃ s, run calculatorServer .init [.start 0, .readerTest,
        .readMessage ⟨.make 3 .request (getMethodId (asciiName "divide")), []⟩,
        .dispatched 0 (.hresult eNotImpl)] = some s ∧
      s.handlers[0]? = some ⟨.make 3 .request (getMethodId (asciiName "divide")), .check eNotImpl⟩ ∧
      s.cancelled = false ∧ s.running = true ∧ s.stopPc = .idle ∧
      ∃ s', run calculatorServer s [.handlerCheck 0, .stop, .stopCancel] = some s' ∧
        s'.cancelled = true ∧
        (step calculatorServer s' (.handlerReply 0)).map (·.writeQueue) =
          some (s.writeQueue ++ [responseErrorTo (.make 3 .request (getMethodId (asciiName "divide")))
            eNotImpl]) :=
  ⟨_, rfl, rfl, rfl, rfl, rfl, handler_replies_after_cancel _ _ 0 _ _ rfl rfl rfl rfl⟩

theorem run_unknown_request (ms : List MethodDecl) (e : Bool) (m : Message)
    (hm : m.type = .request) (hid : findMethod (buildMethodMap (ms.map (·.name))) m.id = none) :
    run ⟨none, some ms, e⟩ .init [.start 0, .readerTest, .readMessage m,
        .dispatched 0 (.hresult eNotImpl), .handlerCheck 0, .handlerReply 0] =
      some { Conn.init with
        running := true
        transport := some 0
        reader := .loop 0
        writer := if Config.writerNotRequired ⟨none, some ms, e⟩ then .done else .loop 0
        outstanding := 2
        handlers := [⟨m.toMessageHeader, .finish⟩]
        writeQueue := [responseErrorTo m.toMessageHeader eNotImpl] } := by
  simp only [run, step, Conn.start, Conn.init, Option.isNone_none, ↓reduceIte,
    Config.readerNotRequired, Config.hasServer, Option.isSome_some, Bool.not_true, Bool.and_false,
    Bool.false_and, Bool.false_eq_true, Conn.readerTest, Conn.tokenCancelled, Bool.or_eq_true,
    decide_eq_true_eq, Conn.readMessage, hm, reduceCtorEq, decide_False, Bool.or_self,
    executeRequest, Conn.dispatched, Config.dispatchAllows, beq_self_eq_true, Conn.handlerCheck,
    Conn.handlerReply, Option.bind_some, Option.some_bind, lt_self_iff_false, or_self,
    Int.reduceAdd, List.nil_append, List.length_singleton, Nat.lt_add_one,
    List.getElem?_eq_getElem, List.getElem_cons_zero, hid, List.set_cons_zero,
    DispatchResult.replies, DispatchResult.hr]

/-- A server-only connection with only void methods elides its writer, yet a `Request` for a method
it lacks gets its `E_NOTIMPL` pushed to the write queue, where it stays; without the elision it is
written. -/
theorem elided_writer_drops_reply (ms : List MethodDecl) (hv : ms.all (·.isVoid) = true)
    (m : Message) (hm : m.type = .request)
    (hid : findMethod (buildMethodMap (ms.map (·.name))) m.id = none) :
    (∀ s, Reachable ⟨none, some ms, true⟩ s → s.written = []) ∧
      (∃ s, Reachable ⟨none, some ms, true⟩ s ∧
        s.writeQueue = [responseErrorTo m.toMessageHeader eNotImpl]) ∧
      (∃ s, Reachable ⟨none, some ms, false⟩ s ∧
        s.written = [(0, responseErrorTo m.toMessageHeader eNotImpl)]) := by
  have hw : Config.writerNotRequired ⟨none, some ms, true⟩ = true := by
    simp [Config.writerNotRequired, Config.firstOnlyVoid, hv]
  refine ⟨fun s hs => (hs.wf.writer_elided hw).2, ⟨_, Reachable.init.run
    (run_unknown_request ms true m hm hid), rfl⟩, ?_⟩
  refine @Reachable.exists_of_run _ _ ([.start 0, .readerTest, .readMessage m,
    .dispatched 0 (.hresult eNotImpl), .handlerCheck 0, .handlerReply 0] ++
      [.writerTest, .writerSend]) (·.written) _ ?_
  rw [run_append, run_unknown_request ms false m hm hid]
  simp only [Conn.init, Config.writerNotRequired, Option.isNone_none, Bool.and_true,
    Bool.false_and, Bool.false_eq_true, ↓reduceIte, run, step, Conn.writerTest,
    Conn.tokenCancelled, Bool.or_eq_true, decide_eq_true_eq, Conn.writerSend, Option.bind_some,
    Option.some_bind, lt_self_iff_false, or_self, List.nil_append, Option.map_some']

theorem telemetry_server_drops_reply :
    [(⟨asciiName "send_telemetry_event", true⟩ : MethodDecl)].all (·.isVoid) = true ∧
      (⟨.make 7 .request (getMethodId (asciiName "simple_sum")), []⟩ : Message).type = .request ∧
      findMethod (buildMethodMap [asciiName "send_telemetry_event"])
        (getMethodId (asciiName "simple_sum")) = none ∧
      (∀ s, Reachable ⟨none, some [⟨asciiName "send_telemetry_event", true⟩], true⟩ s →
        s.written = []) ∧
      (∃ s, Reachable ⟨none, some [⟨asciiName "send_telemetry_event", true⟩], true⟩ s ∧
        s.writeQueue = [responseErrorTo (.make 7 .request (getMethodId (asciiName "simple_sum")))
          eNotImpl]) ∧
      (∃ s, Reachable ⟨none, some [⟨asciiName "send_telemetry_event", true⟩], false⟩ s ∧
        s.written = [(0, responseErrorTo (.make 7 .request (getMethodId (asciiName "simple_sum")))
          eNotImpl)]) :=
  ⟨rfl, rfl, by decide, elided_writer_drops_reply [⟨asciiName "send_telemetry_event", true⟩] rfl
    ⟨.make 7 .request (getMethodId (asciiName "simple_sum")), []⟩ rfl (by decide)⟩

end AsyncCppRpc.Connection
