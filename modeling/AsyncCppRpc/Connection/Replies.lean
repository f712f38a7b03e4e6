import AsyncCppRpc.Connection.Invariant

namespace AsyncCppRpc.Connection

open Wire Transport MethodId

def voidCallRound (v : UInt32) (p : Bytes) : List Act :=
  [.doVoidCall v p, .writerTest, .writerSend]

def voidCalls (v : UInt32) (p : Bytes) : Nat → List Act
  | 0 => []
  | n + 1 => voidCallRound v p ++ voidCalls v p n

theorem nextId_iterate_lastCallId (t : Calls) (n : Nat) :
    (Calls.nextId^[n] t).lastCallId.toNat = (t.lastCallId.toNat + n) % 2 ^ 32 := by
  induction n with
  | zero => exact (Nat.mod_eq_of_lt (uint32_toNat_lt _)).symm
  | succ n ih =>
    rw [Function.iterate_succ_apply', Calls.nextId, uint32_toNat_add, ih]
    show ((t.lastCallId.toNat + n) % 2 ^ 32 + 1) % 2 ^ 32 = _
    omega

theorem nextId_iterate_eq (t : Calls) (n : Nat) :
    Calls.nextId^[n] t = { t with lastCallId := (Calls.nextId^[n] t).lastCallId } := by
  induction n with
  | zero => rfl
  | succ n ih => rw [Function.iterate_succ_apply', ih]; rfl

section Rounds

variable (cfg : Config) (hc : cfg.client.isSome = true) (v : UInt32) (p : Bytes) (t tok : Nat)

include hc in
theorem run_voidCallRound (s : Conn) (ht : s.transport = some t) (hn : s.cancelled = false)
    (hw : s.writer = .loop tok) (hs : s.scope ≤ tok) (hq : s.writeQueue = []) :
    run cfg s (voidCallRound v p) = some { s with
      calls := s.calls.nextId
      written := s.written ++ [(t, ⟨.make s.calls.lastCallId .voidRequest v, p⟩)] } := by
  simp only [voidCallRound, run, step, Conn.doVoidCall, hc, ht, Option.isSome_some,
    Bool.and_self, ↓reduceIte, hn, Bool.false_eq_true, hq, List.nil_append, hw, Conn.writerTest,
    Conn.tokenCancelled, Bool.or_eq_true, decide_eq_true_eq, Conn.writerSend, Option.bind_some,
    Option.some_bind, Nat.not_lt.mpr hs, or_self]

include hc in
theorem run_voidCalls (n : Nat) : ∀ s : Conn, s.transport = some t → s.cancelled = false →
    s.writer = .loop tok → s.scope ≤ tok → s.writeQueue = [] →
    ∃ w, run cfg s (voidCalls v p n) = some { s with
      calls := Calls.nextId^[n] s.calls
      written := s.written ++ w } := by
  induction n with
  | zero => exact fun s _ _ _ _ _ => ⟨[], by simp [voidCalls, run]⟩
  | succ n ih =>
    intro s ht hn hw hs hq
    obtain ⟨w, hw'⟩ := ih { s with
      calls := s.calls.nextId
      written := s.written ++ [(t, ⟨.make s.calls.lastCallId .voidRequest v, p⟩)] } ht hn hw hs hq
    refine ⟨(t, ⟨.make s.calls.lastCallId .voidRequest v, p⟩) :: w, ?_⟩
    rw [voidCalls, run_append, run_voidCallRound cfg hc v p t tok s ht hn hw hs hq,
      Option.some_bind, hw']
    simp [Function.iterate_succ_apply]

end Rounds

theorem nextId_iterate_callIdBound :
    Calls.nextId^[callIdBound] Calls.init = { Calls.init with lastCallId := UInt32.ofNat callIdBound } := by
  have h : (Calls.nextId^[callIdBound] Calls.init).lastCallId = UInt32.ofNat callIdBound :=
    (uint32_eq_iff _ _).mpr (by rw [nextId_iterate_lastCallId]; rfl)
  rw [nextId_iterate_eq, h]

/-- Call ids wrap at 2^30 on the wire but not in the table: after 2^30 calls, a call entered under
id 2^30 sends its `Request` with id 0, and the reply to it never completes it. -/
theorem reply_after_wrap_not_matched (cfg : Config) (hc : cfg.client.isSome = true)
    (hr : cfg.readerNotRequired = false) (v name : UInt32) (p payload reply : Bytes) :
    ∃ s, Reachable cfg s ∧ s.calls.completions = [(UInt32.ofNat callIdBound, 0)] ∧
      (0, ⟨.make (UInt32.ofNat callIdBound) .request name, payload⟩) ∈ s.written ∧
      (MessageHeader.make (UInt32.ofNat callIdBound) .request name).callId =
        (MessageHeader.make 0 .response name).callId ∧
      ∃ s', step cfg s (.readMessage ⟨.make 0 .response name, reply⟩) = some s' ∧
        s'.calls.completions = [(UInt32.ofNat callIdBound, 0)] ∧ s'.calls.settled = [] := by
  have hw : cfg.writerNotRequired = false := by
    simp [Config.writerNotRequired, Option.isSome_iff_ne_none.mp hc]
  obtain ⟨w, hrun⟩ := run_voidCalls cfg hc v p 0 0 callIdBound
    ⟨true, .idle, some 0, 0, false, [], [], .loop 0, .loop 0, 1, 0, [], .init, .init⟩
    rfl rfl rfl le_rfl rfl
  have hstart : step cfg .init (.start 0) =
      some ⟨true, .idle, some 0, 0, false, [], [], .loop 0, .loop 0, 1, 0, [], .init, .init⟩ := by
    simp [step, Conn.start, Conn.init, hr, hw]
  have hall : run cfg .init (.start 0 :: voidCalls v p callIdBound ++ [.doCall name payload,
      .doCallRegister 0, .doCallSend 0, .writerTest, .writerSend, .readerTest]) =
      some ⟨true, .idle, some 0, 0, false, [],
        w ++ [(0, ⟨.make (UInt32.ofNat callIdBound) .request name, payload⟩)], .reading 0, .loop 0, 1,
        0, [], ⟨UInt32.ofNat callIdBound + 1, [(UInt32.ofNat callIdBound, 0)],
          [⟨name, payload, UInt32.ofNat callIdBound, .sent, true⟩], []⟩, .init⟩ := by
    rw [List.cons_append, run, hstart, Option.some_bind, run_append, hrun, Option.some_bind]
    dsimp only
    rw [nextId_iterate_callIdBound]
    simp only [run, step, Conn.doCall, hc, Option.isSome_some, Bool.and_self, ↓reduceIte,
      List.nil_append, Calls.issue, Calls.init, Conn.doCallRegister, Calls.register,
      Option.isNone_iff_eq_none, List.lookup_eq_none_iff, bne_iff_ne, ne_eq, Prod.forall,
      Conn.doCallSend, Calls.markSent, Conn.writerTest, Conn.tokenCancelled, Bool.or_eq_true,
      decide_eq_true_eq, Conn.writerSend, Conn.readerTest, Option.bind_some, Option.some_bind,
      List.length_singleton, Nat.lt_add_one, List.getElem?_eq_getElem, List.getElem_cons_zero,
      List.lookup_nil, Option.isNone_none, List.modify_zero_cons, List.set_cons_zero,
      lt_self_iff_false, Bool.false_eq_true, or_self]
  exact ⟨_, Reachable.init.run hall, rfl, by simp, rfl, _, rfl, rfl, rfl⟩

theorem simple_sum_after_wrap_not_answered :
    calculatorClient.client.isSome = true ∧ calculatorClient.readerNotRequired = false ∧
      ∃ s, Reachable calculatorClient s ∧ s.calls.completions = [(UInt32.ofNat callIdBound, 0)] ∧
        (0, ⟨.make (UInt32.ofNat callIdBound) .request (getMethodId (asciiName "simple_sum")),
          [17, 0, 0, 0, 42, 0, 0, 0]⟩) ∈ s.written ∧
        (MessageHeader.make (UInt32.ofNat callIdBound) .request
          (getMethodId (asciiName "simple_sum"))).callId =
          (MessageHeader.make 0 .response (getMethodId (asciiName "simple_sum"))).callId ∧
        ∃ s', step calculatorClient s (.readMessage ⟨.make 0 .response
          (getMethodId (asciiName "simple_sum")), [59, 0, 0, 0]⟩) = some s' ∧
          s'.calls.completions = [(UInt32.ofNat callIdBound, 0)] ∧ s'.calls.settled = [] :=
  ⟨rfl, rfl, reply_after_wrap_not_matched calculatorClient rfl rfl
    (getMethodId (asciiName "send_telemetry_event")) (getMethodId (asciiName "simple_sum")) []
    [17, 0, 0, 0, 42, 0, 0, 0] [59, 0, 0, 0]⟩

end AsyncCppRpc.Connection
