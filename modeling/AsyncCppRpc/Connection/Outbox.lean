import AsyncCppRpc.Connection.Invariant

namespace AsyncCppRpc.Connection

open Wire Transport MethodId

/-- Every message pushed to `write_queue` so far: those the writer has handed to the transport,
in order, then those still queued. -/
def Conn.outbox (s : Conn) : List Message := s.written.map Prod.snd ++ s.writeQueue

theorem executeRequest_writeQueue (cfg : Config) (s : Conn) (m : Message) :
    ∃ ms, (executeRequest cfg s m).writeQueue = s.writeQueue ++ ms := by
  unfold executeRequest
  split_ifs <;> first | exact ⟨[], (List.append_nil _).symm⟩ | exact ⟨_, rfl⟩

/-- What one step does to `write_queue` and to what the transport has received: it pushes at the
back of the queue, hands the front message to the transport, or drops it when `transport->write`
fails. -/
theorem step_queue {cfg : Config} {s s' : Conn} {a : Act} (h : step cfg s a = some s') :
    (s'.written = s.written ∧ ∃ ms, s'.writeQueue = s.writeQueue ++ ms) ∨
      (∃ t m, s.writeQueue = m :: s'.writeQueue ∧ s'.written = s.written ++ [(t, m)]) ∨
      (∃ hr m, a = .writerFail hr ∧ s.writeQueue = m :: s'.writeQueue ∧ s'.written = s.written) := by
  have keep : s'.written = s.written → s'.writeQueue = s.writeQueue →
      s'.written = s.written ∧ ∃ ms, s'.writeQueue = s.writeQueue ++ ms :=
    fun hw hq => ⟨hw, [], by rw [hq, List.append_nil]⟩
  cases a
  case writerSend =>
    obtain ⟨tok, m, q, t, -, hq, -, rfl⟩ := step_writerSend h
    exact .inr (.inl ⟨t, m, hq, rfl⟩)
  case writerFail hr =>
    obtain ⟨tok, m, q, -, hq, rfl⟩ := step_writerFail h
    exact .inr (.inr ⟨hr, m, rfl, hq, rfl⟩)
  case doCallSend =>
    obtain ⟨k, -, -, rfl⟩ := step_doCallSend h
    exact .inl ⟨rfl, _, rfl⟩
  case doVoidCall =>
    obtain ⟨-, ⟨-, rfl⟩ | ⟨-, rfl⟩⟩ := step_doVoidCall h
    exacts [.inl (keep rfl rfl), .inl ⟨rfl, _, rfl⟩]
  case readMessage m =>
    obtain ⟨tok, -, ⟨-, rfl⟩ | ⟨-, rfl⟩⟩ := step_readMessage h
    exacts [.inl (keep rfl rfl), .inl ⟨executeRequest_written _ _ _, executeRequest_writeQueue _ _ _⟩]
  case dispatched =>
    obtain ⟨_, -, -, rfl⟩ := step_dispatched h
    exact .inl ⟨rfl, _, rfl⟩
  case handlerReply =>
    obtain ⟨_, _, -, rfl⟩ := step_handlerReply h
    exact .inl ⟨rfl, _, rfl⟩
  case stopDrain => obtain ⟨-, -, -, rfl⟩ := step_stopDrain h; exact .inl (keep rfl rfl)
  case doCall => obtain ⟨-, rfl⟩ := step_doCall h; exact .inl (keep rfl rfl)
  case doCallRegister => obtain ⟨_, -, -, rfl⟩ := step_doCallRegister h; exact .inl (keep rfl rfl)
  case start | stop | stopCancel | stopEnd | writerTest | writerExit | readerTest | readFail |
    readThrow | readerRelease | readerDone | handlerCheck | handlerFinish | onError | onErrorClear =>
    obtain ⟨-, hq, hw, -⟩ := step_control_frame h rfl
    exact .inl (keep hw hq)

theorem step_outbox {cfg : Config} {s s' : Conn} {a : Act} (h : step cfg s a = some s') :
    s.written <+: s'.written ∧ ((∀ hr, a ≠ .writerFail hr) → s.outbox <+: s'.outbox) := by
  rcases step_queue h with ⟨hw, ms, hq⟩ | ⟨t, m, hq, hw⟩ | ⟨hr, m, rfl, hq, hw⟩
  · refine ⟨hw ▸ List.prefix_refl _, fun _ => ⟨ms, ?_⟩⟩
    simp [Conn.outbox, hw, hq]
  · refine ⟨hw ▸ List.prefix_append _ _, fun _ => ?_⟩
    simp [Conn.outbox, hw, hq]
  · exact ⟨hw ▸ List.prefix_refl _, fun hne => absurd rfl (hne hr)⟩

theorem run_outbox {cfg : Config} :
    ∀ {s s' : Conn} (as : List Act), run cfg s as = some s' →
      s.written <+: s'.written ∧ ((∀ hr, .writerFail hr ∉ as) → s.outbox <+: s'.outbox)
  | s, s', [], h => by
    cases h
    exact ⟨List.prefix_refl _, fun _ => List.prefix_refl _⟩
  | s, s', a :: as, h => by
    simp only [run, Option.bind_eq_some] at h
    obtain ⟨s₁, h₁, h₂⟩ := h
    obtain ⟨hw, ho⟩ := step_outbox h₁
    obtain ⟨hw', ho'⟩ := run_outbox as h₂
    refine ⟨hw.trans hw', fun hne => (ho fun hr e => hne hr (e ▸ List.mem_cons_self _ _)).trans
      (ho' fun hr hm => hne hr (List.mem_cons_of_mem _ hm))⟩

def writerRounds : Nat → List Act
  | 0 => []
  | n + 1 => .writerTest :: .writerSend :: writerRounds n

theorem run_writerRounds (cfg : Config) (t tok : Nat) : ∀ (q : List Message) (s : Conn),
    s.writer = .loop tok → s.tokenCancelled tok = false → s.transport = some t →
    s.writeQueue = q →
    run cfg s (writerRounds q.length) =
      some { s with writeQueue := [], written := s.written ++ q.map (t, ·) }
  | [], s, _, _, _, hq => by
    cases s
    simp_all [writerRounds, run]
  | m :: q, s, hw, hc, ht, hq => by
    have h₁ : step cfg s .writerTest = some { s with writer := .waiting tok } := by
      simp [step, Conn.writerTest, hw, hc]
    have h₂ : step cfg { s with writer := .waiting tok } .writerSend =
        some { s with writeQueue := q, written := s.written ++ [(t, m)], writer := .loop tok } := by
      simp [step, Conn.writerSend, hq, ht]
    rw [List.length_cons, writerRounds, run, h₁, Option.some_bind, run, h₂, Option.some_bind,
      run_writerRounds cfg t tok q
        { s with writeQueue := q, written := s.written ++ [(t, m)], writer := .loop tok } rfl hc ht rfl]
    cases s
    simp_all

/-- Under any interleaving, `write_queue` is a FIFO between the pushes and the transport, and in a
run without a failed write each pushed message is received at most once, in the order of the pushes.
A writer on a scope that is not cancelled hands every queued message to the transport, in order, in
its own steps. -/
theorem writer_sends_queue_in_order (cfg : Config) :
    (∀ s a s', step cfg s a = some s' →
      (s'.written = s.written ∧ ∃ ms, s'.writeQueue = s.writeQueue ++ ms) ∨
        (∃ t m, s.writeQueue = m :: s'.writeQueue ∧ s'.written = s.written ++ [(t, m)]) ∨
        (∃ hr m, a = .writerFail hr ∧ s.writeQueue = m :: s'.writeQueue ∧ s'.written = s.written)) ∧
    (∀ s as s', run cfg s as = some s' →
      s.written <+: s'.written ∧ ((∀ hr, .writerFail hr ∉ as) →
        s.written.map Prod.snd ++ s.writeQueue <+: s'.written.map Prod.snd ++ s'.writeQueue)) ∧
    ∀ s tok, Reachable cfg s → (s.writer = .loop tok ∨ s.writer = .waiting tok) →
      s.tokenCancelled tok = false →
      ∃ t as w, s.transport = some t ∧ (∀ a ∈ as, a = .writerTest ∨ a = .writerSend) ∧
        run cfg s as =
          some { s with writeQueue := [], written := s.written ++ s.writeQueue.map (t, ·), writer := w } := by
  refine ⟨fun _ _ _ h => step_queue h, fun _ as _ h => run_outbox as h, fun s tok hs hw hc => ?_⟩
  -- a running writer holds the connection running, so a transport is held
  have hrun : s.running = true := hs.wf.writer_running (by rcases hw with hw | hw <;> simp [hw])
  obtain ⟨t, ht⟩ := Option.isSome_iff_exists.mp (hs.wf.running_transport ▸ hrun)
  have hall : ∀ n, ∀ a ∈ writerRounds n, a = .writerTest ∨ a = .writerSend := fun n => by
    induction n with
    | zero => simp [writerRounds]
    | succ n ih => simpa [writerRounds] using ih
  rcases hw with hw | hw
  · refine ⟨t, writerRounds s.writeQueue.length, .loop tok, ht, hall _, ?_⟩
    rw [run_writerRounds cfg t tok _ s hw hc ht rfl, ← hw]
  · cases hq : s.writeQueue with
    | nil =>
      refine ⟨t, [], .waiting tok, ht, by simp, ?_⟩
      cases s
      simp_all [run]
    | cons m q =>
      have h₁ : step cfg s .writerSend =
          some { s with writeQueue := q, written := s.written ++ [(t, m)], writer := .loop tok } := by
        simp [step, Conn.writerSend, hw, hq, ht]
      refine ⟨t, .writerSend :: writerRounds q.length, .loop tok, ht,
        fun a ha => (List.mem_cons.mp ha).elim .inr (hall _ a), ?_⟩
      rw [run, h₁, Option.some_bind, run_writerRounds cfg t tok q
        { s with writeQueue := q, written := s.written ++ [(t, m)], writer := .loop tok } rfl hc ht rfl]
      simp

theorem telemetry_events_sent_in_order :
    ∃ s, run calculatorClient .init [.start 0,
        .doVoidCall (getMethodId (asciiName "send_telemetry_event")) [1],
        .doVoidCall (getMethodId (asciiName "send_telemetry_event")) [2]] = some s ∧
      s.writeQueue = [⟨.make 0 .voidRequest (getMethodId (asciiName "send_telemetry_event")), [1]⟩,
        ⟨.make 1 .voidRequest (getMethodId (asciiName "send_telemetry_event")), [2]⟩] ∧
      s.writer = .loop 0 ∧ s.tokenCancelled 0 = false ∧
      ∃ t as w, s.transport = some t ∧ (∀ a ∈ as, a = .writerTest ∨ a = .writerSend) ∧
        run calculatorClient s as =
          some { s with writeQueue := [], written := s.written ++ s.writeQueue.map (t, ·), writer := w } := by
  have key : ∀ s, run calculatorClient .init [.start 0,
      .doVoidCall (getMethodId (asciiName "send_telemetry_event")) [1],
      .doVoidCall (getMethodId (asciiName "send_telemetry_event")) [2]] = some s →
      s.writer = .loop 0 → s.tokenCancelled 0 = false →
      ∃ t as w, s.transport = some t ∧ (∀ a ∈ as, a = .writerTest ∨ a = .writerSend) ∧
        run calculatorClient s as =
          some { s with writeQueue := [], written := s.written ++ s.writeQueue.map (t, ·), writer := w } :=
    fun s hr hw hc => (writer_sends_queue_in_order calculatorClient).2.2 s 0 (Reachable.init.run hr)
      (.inl hw) hc
  exact ⟨_, rfl, rfl, rfl, rfl, key _ rfl rfl rfl⟩

end AsyncCppRpc.Connection
