import AsyncCppRpc.Connection.Invariant

namespace AsyncCppRpc.Connection

open Wire Transport MethodId

theorem Calls.register_completions_ne_nil (t : Calls) (c : Nat) (callId : UInt32) :
    (t.register c callId).completions ≠ [] := by
  simp only [Calls.register]
  split_ifs with hf
  · simp
  · intro h
    simp [h] at hf

theorem run_doCall (cfg : Config) (hc : cfg.client.isSome = true) (s : Conn) (name : UInt32)
    (payload : Bytes) :
    run cfg s [.doCall name payload, .doCallRegister s.calls.callers.length,
        .doCallSend s.calls.callers.length] = some { s with
      writeQueue := s.writeQueue ++ [⟨.make s.calls.lastCallId .request name, payload⟩]
      calls := ((s.calls.issue name payload).register s.calls.callers.length
        s.calls.lastCallId).markSent s.calls.callers.length
        ⟨name, payload, s.calls.lastCallId, .registered,
          (s.calls.completions.lookup s.calls.lastCallId).isNone⟩ } := by
  simp [run, step, Conn.doCall, Conn.doCallRegister, Conn.doCallSend, hc, Calls.issue,
    Calls.register, List.getElem?_modify]

/-- `stop` ends with `cancel = {}`, so a connection it stopped is not cancelled: a stub call made
after it pushes its request, and a `do_call` that drew its id before `stop`'s drain emplaces its
slot after it, so `stop` returns with a slot in the table. -/
theorem stub_after_stop_not_cancelled (cfg : Config) (hc : cfg.client.isSome = true) (s : Conn)
    (hs : Reachable cfg s) (name : UInt32) (payload : Bytes) :
    (s.running = false →
      step cfg s (.doVoidCall name payload) = some { s with
        calls := s.calls.nextId
        writeQueue := s.writeQueue ++ [⟨.make s.calls.lastCallId .voidRequest name, payload⟩] } ∧
      ∃ s', run cfg s [.doCall name payload, .doCallRegister s.calls.callers.length,
          .doCallSend s.calls.callers.length] = some s' ∧ s'.running = false ∧
        s'.calls.completions ≠ [] ∧
        s'.writeQueue = s.writeQueue ++ [⟨.make s.calls.lastCallId .request name, payload⟩]) ∧
    (s.stopPc = .resetting → ∀ c k, s.calls.callers[c]? = some k → k.pc = .issued →
      ∃ s', run cfg s [.doCallRegister c, .stopEnd] = some s' ∧ s'.running = false ∧
        s'.calls.completions ≠ []) := by
  refine ⟨fun hr => ⟨?_, ?_⟩, fun hp c k hk hpc => ?_⟩
  · -- the scope of a connection that is not running is not cancelled
    simp [step, Conn.doVoidCall, hc, hs.wf.idle_uncancelled hr]
  · exact ⟨_, run_doCall cfg hc s name payload, hr, Calls.register_completions_ne_nil _ _ _, rfl⟩
  · refine ⟨{ s with
      calls := s.calls.register c k.callId
      transport := none
      scope := s.scope + 1
      cancelled := false
      running := false
      stopPc := .idle
      reader := .idle
      writer := .idle }, ?_, rfl, Calls.register_completions_ne_nil _ _ _⟩
    simp [run, step, Conn.doCallRegister, Conn.stopEnd, hk, hpc, hp]

theorem simple_sum_call_outlives_stop :
    ∃ s, run calculatorClient .init [.start 0, .doCall (getMethodId (asciiName "simple_sum"))
        [17, 0, 0, 0, 42, 0, 0, 0], .stop, .stopCancel, .readerTest, .readerRelease, .readerDone,
        .writerTest, .stopDrain] = some s ∧ s.stopPc = .resetting ∧
      s.calls.callers[0]? = some ⟨getMethodId (asciiName "simple_sum"), [17, 0, 0, 0, 42, 0, 0, 0],
        0, .issued, false⟩ ∧
      ∃ s', run calculatorClient s [.doCallRegister 0, .stopEnd] = some s' ∧ s'.running = false ∧
        s'.calls.completions ≠ [] ∧
        step calculatorClient s' (.doVoidCall (getMethodId (asciiName "send_telemetry_event")) []) =
          some { s' with
            calls := s'.calls.nextId
            writeQueue := s'.writeQueue ++ [⟨.make s'.calls.lastCallId .voidRequest
              (getMethodId (asciiName "send_telemetry_event")), []⟩] } := by
  have key : ∀ s, run calculatorClient .init [.start 0, .doCall (getMethodId (asciiName "simple_sum"))
        [17, 0, 0, 0, 42, 0, 0, 0], .stop, .stopCancel, .readerTest, .readerRelease, .readerDone,
        .writerTest, .stopDrain] = some s → s.stopPc = .resetting →
      s.calls.callers[0]? = some ⟨getMethodId (asciiName "simple_sum"), [17, 0, 0, 0, 42, 0, 0, 0],
        0, .issued, false⟩ →
      ∃ s', run calculatorClient s [.doCallRegister 0, .stopEnd] = some s' ∧ s'.running = false ∧
        s'.calls.completions ≠ [] ∧
        step calculatorClient s' (.doVoidCall (getMethodId (asciiName "send_telemetry_event")) []) =
          some { s' with
            calls := s'.calls.nextId
            writeQueue := s'.writeQueue ++ [⟨.make s'.calls.lastCallId .voidRequest
              (getMethodId (asciiName "send_telemetry_event")), []⟩] } := fun s hr hp hk => by
    have hs := Reachable.init.run hr
    obtain ⟨s', h', hr', hne⟩ :=
      (stub_after_stop_not_cancelled calculatorClient rfl s hs 0 []).2 hp 0 _ hk rfl
    exact ⟨s', h', hr', hne, ((stub_after_stop_not_cancelled calculatorClient rfl s' (hs.run h')
      (getMethodId (asciiName "send_telemetry_event")) []).1 hr').1⟩
  exact ⟨_, rfl, rfl, rfl, key _ rfl rfl rfl⟩

/-- A send failure kept while no handler is installed is replaced by `stop`'s `E_ABORT`, and the
handler installed next never sees it. -/
theorem later_report_replaces_kept_error :
    (run calculatorClient .init [.start 0, .doVoidCall (getMethodId (asciiName "send_telemetry_event"))
      [], .writerTest, .writerFail eFail, .stop, .onError]).map
      (fun s => (s.hook.reported, s.hook.invoked)) =
      some ([⟨eFail, .send⟩, ⟨eAbort, .stop⟩], [(0, ⟨eAbort, .stop⟩)]) :=
  rfl

end AsyncCppRpc.Connection
