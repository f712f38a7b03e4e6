import AsyncCppRpc.Connection.Invariant

namespace AsyncCppRpc.Connection

open Wire Transport MethodId

def Handler.live (h : Handler) : Bool := h.pc != .done

def Conn.inFlight (s : Conn) : Nat := s.handlers.countP Handler.live

/-- What `outstanding_requests` and `finished` say about the handlers, by where the reader is: its
own count plus one per handler in flight while it loops, the handlers in flight in its final wait,
and none once it is over. -/
def Counted (s : Conn) : Prop :=
  s.finished ≤ 1 ∧
    match s.reader with
    | .idle | .done => s.inFlight = 0
    | .wait => s.outstanding = s.inFlight ∧ (0 < s.finished ↔ s.inFlight = 0)
    | .loop _ | .reading _ | .exit => s.outstanding = s.inFlight + 1 ∧ s.finished = 0

theorem counted_init : Counted .init := ⟨Nat.zero_le _, rfl⟩

theorem Counted.congr {s s' : Conn} (hc : Counted s) (hr : s'.reader = s.reader)
    (hi : s'.inFlight = s.inFlight) (ho : s'.outstanding = s.outstanding)
    (hf : s'.finished = s.finished) : Counted s' := by
  unfold Counted at *
  rw [hr, hi, ho, hf]
  exact hc

theorem inFlight_zero {s : Conn} (h : s.inFlight = 0) : ∀ hd ∈ s.handlers, hd.pc = .done :=
  fun hd hm => by simpa [Handler.live] using List.countP_eq_zero.mp h hd hm

theorem countP_set_live {l : List Handler} {i : Nat} {x y : Handler} (hi : l[i]? = some x)
    (hx : x.live = true) (hy : y.live = true) : (l.set i y).countP Handler.live = l.countP Handler.live := by
  obtain ⟨hlt, rfl⟩ := List.getElem?_eq_some_iff.mp hi
  have hpos : 0 < l.countP Handler.live := List.countP_pos_iff.mpr ⟨_, List.getElem_mem hlt, hx⟩
  rw [List.countP_set _ _ _ _ hlt, if_pos hx, if_pos hy]
  omega

theorem countP_set_done {l : List Handler} {i : Nat} {x y : Handler} (hi : l[i]? = some x)
    (hx : x.live = true) (hy : y.live = false) :
    (l.set i y).countP Handler.live + 1 = l.countP Handler.live := by
  obtain ⟨hlt, rfl⟩ := List.getElem?_eq_some_iff.mp hi
  have hpos : 0 < l.countP Handler.live := List.countP_pos_iff.mpr ⟨_, List.getElem_mem hlt, hx⟩
  rw [List.countP_set _ _ _ _ hlt, if_pos hx, if_neg (by simp [hy])]
  omega

section Steps

variable {cfg : Config} {s s' : Conn}

theorem Counted.inFlight_of_over (hc : Counted s) (ho : s.reader.over = true) : s.inFlight = 0 := by
  cases hr : s.reader <;> simp_all [Counted, ReaderPc.over]

theorem Counted.start {t : Nat} (hw : Wf cfg s) (hc : Counted s)
    (h : step cfg s (.start t) = some s') : Counted s' := by
  obtain ⟨ht, rfl⟩ := step_start h
  have hr : s.reader = .idle := by
    by_contra hne
    simpa [hw.running_transport, ht] using hw.reader_running hne
  have h0 : s.inFlight = 0 := hc.inFlight_of_over (by simp [hr, ReaderPc.over])
  unfold Conn.inFlight at h0
  by_cases hn : cfg.readerNotRequired <;> simp [Counted, Conn.inFlight, hn, h0]

theorem Counted.stopEnd (hw : Wf cfg s) (hc : Counted s) (h : step cfg s .stopEnd = some s') :
    Counted s' := by
  obtain ⟨hp, rfl⟩ := step_stopEnd h
  exact ⟨hc.1, hc.inFlight_of_over (hw.reset_over hp).1⟩

theorem Counted.readerTest (hc : Counted s) (h : step cfg s .readerTest = some s') : Counted s' := by
  obtain ⟨tok, hr, rfl⟩ := step_readerTest h
  simp only [Counted, hr] at hc
  split_ifs <;> simpa [Counted, Conn.inFlight] using hc

theorem Counted.readFail {hr : UInt32} (hc : Counted s) (h : step cfg s (.readFail hr) = some s') :
    Counted s' := by
  obtain ⟨tok, hrd, rfl⟩ := step_readFail h
  simp only [Counted, hrd] at hc
  simpa [Counted, Conn.inFlight] using hc

theorem executeRequest_counts (cfg : Config) (s : Conn) (m : Message) :
    ((executeRequest cfg s m).inFlight : Int) - s.inFlight =
      (executeRequest cfg s m).outstanding - s.outstanding ∧
    (executeRequest cfg s m).finished = s.finished := by
  unfold executeRequest
  split_ifs <;> refine ⟨?_, rfl⟩ <;>
    simp only [Conn.inFlight, List.countP_append, List.countP_cons, List.countP_nil, Handler.live,
      show (HandlerPc.dispatching != .done) = true from rfl, if_true] <;> omega

theorem Counted.readMessage {m : Message} (hc : Counted s)
    (h : step cfg s (.readMessage m) = some s') : Counted s' := by
  obtain ⟨tok, hr, ⟨-, rfl⟩ | ⟨-, rfl⟩⟩ := step_readMessage h <;> simp only [Counted, hr] at hc
  · simpa [Counted, Conn.inFlight] using hc
  · obtain ⟨he, hf⟩ := executeRequest_counts cfg { s with reader := .loop tok } m
    simp only [Counted, executeRequest_reader, hf] at he ⊢
    simp only [Conn.inFlight] at hc he ⊢
    omega

theorem Counted.readerRelease (hc : Counted s) (h : step cfg s .readerRelease = some s') :
    Counted s' := by
  obtain ⟨hr, rfl⟩ := step_readerRelease h
  simp only [Counted, hr] at hc
  obtain ⟨-, ho, hf⟩ := hc
  by_cases h1 : s.outstanding = 1 <;>
    simp only [Counted, Conn.release, Conn.inFlight, h1, hf, if_true, if_false] at ho ⊢ <;> omega

theorem Counted.readerDone (hc : Counted s) (h : step cfg s .readerDone = some s') : Counted s' := by
  obtain ⟨hr, hf, rfl⟩ := step_readerDone h
  simp only [Counted, hr] at hc
  exact ⟨hc.1, hc.2.2.1 hf⟩

theorem Counted.dispatched {i : Nat} {r : DispatchResult} (hc : Counted s)
    (h : step cfg s (.dispatched i r) = some s') : Counted s' := by
  obtain ⟨hdr, hh, -, rfl⟩ := step_dispatched h
  exact hc.congr rfl (countP_set_live hh rfl rfl) rfl rfl

theorem Counted.handlerCheck {i : Nat} (hc : Counted s) (h : step cfg s (.handlerCheck i) = some s') :
    Counted s' := by
  obtain ⟨hdr, hr, hh, rfl⟩ := step_handlerCheck h
  exact hc.congr rfl (countP_set_live hh rfl (by split_ifs <;> rfl)) rfl rfl

theorem Counted.handlerReply {i : Nat} (hc : Counted s) (h : step cfg s (.handlerReply i) = some s') :
    Counted s' := by
  obtain ⟨hdr, hr, hh, rfl⟩ := step_handlerReply h
  exact hc.congr rfl (countP_set_live hh rfl rfl) rfl rfl

theorem Counted.handlerFinish {i : Nat} (hc : Counted s) (h : step cfg s (.handlerFinish i) = some s') :
    Counted s' := by
  obtain ⟨hdr, hh, rfl⟩ := step_handlerFinish h
  have hi := @countP_set_done _ _ _ ⟨hdr, .done⟩ hh rfl rfl
  obtain ⟨hf1, hc2⟩ := hc
  cases hr : s.reader <;> simp only [Counted, hr, Conn.release, Conn.inFlight] at hc2 ⊢
  all_goals split_ifs <;> omega

/-- Every step but a read that throws something other than `hresult_error` keeps the count. -/
theorem Counted.step {a : Act} (hw : Wf cfg s) (hc : Counted s) (ha : a ≠ .readThrow)
    (h : step cfg s a = some s') : Counted s' := by
  cases a
  case start => exact hc.start hw h
  case stopEnd => exact hc.stopEnd hw h
  case readerTest => exact hc.readerTest h
  case readMessage => exact hc.readMessage h
  case readFail => exact hc.readFail h
  case readThrow => exact absurd rfl ha
  case readerRelease => exact hc.readerRelease h
  case readerDone => exact hc.readerDone h
  case dispatched => exact hc.dispatched h
  case handlerCheck => exact hc.handlerCheck h
  case handlerReply => exact hc.handlerReply h
  case handlerFinish => exact hc.handlerFinish h
  -- the other steps touch neither the reader, the handlers nor the two counts
  case stop => obtain ⟨-, ⟨-, rfl⟩ | ⟨-, rfl⟩⟩ := step_stop h <;> exact hc
  case stopCancel => obtain ⟨-, rfl⟩ := step_stopCancel h; exact hc
  case stopDrain => obtain ⟨-, -, -, rfl⟩ := step_stopDrain h; exact hc
  case doCall => obtain ⟨-, rfl⟩ := step_doCall h; exact hc
  case doCallRegister => obtain ⟨_, -, -, rfl⟩ := step_doCallRegister h; exact hc
  case doCallSend => obtain ⟨_, -, -, rfl⟩ := step_doCallSend h; exact hc
  case doVoidCall => obtain ⟨-, ⟨-, rfl⟩ | ⟨-, rfl⟩⟩ := step_doVoidCall h <;> exact hc
  case writerTest => obtain ⟨_, -, rfl⟩ := step_writerTest h; exact hc
  case writerSend => obtain ⟨_, _, _, _, -, -, -, rfl⟩ := step_writerSend h; exact hc
  case writerFail => obtain ⟨_, _, _, -, -, rfl⟩ := step_writerFail h; exact hc
  case writerExit => obtain ⟨_, -, -, rfl⟩ := step_writerExit h; exact hc
  case onError => obtain rfl := step_onError h; exact hc
  case onErrorClear => obtain rfl := step_onErrorClear h; exact hc

theorem run_counted : ∀ (as : List Act) {s s' : Conn}, Reachable cfg s → Counted s →
    .readThrow ∉ as → run cfg s as = some s' → Counted s'
  | [], _, _, _, hc, _, h => by cases h; exact hc
  | a :: as, s, s', hs, hc, hno, h => by
    simp only [run, Option.bind_eq_some] at h
    obtain ⟨s₁, h₁, h₂⟩ := h
    exact run_counted as (hs.step a h₁) (hc.step hs.wf (fun e => hno (e ▸ List.mem_cons_self _ _)) h₁)
      (fun hm => hno (List.mem_cons_of_mem _ hm)) h₂

end Steps

/-- Along every run in which no `transport->read()` throws anything but `hresult_error`, the
reader's final wait returns exactly when every handler it spawned has released its count, and
`finished` is set at most once. -/
theorem reader_waits_for_handlers (cfg : Config) (as : List Act) (s : Conn)
    (h : run cfg .init as = some s) (hno : Act.readThrow ∉ as) :
    (s.reader.over = true → ∀ hd ∈ s.handlers, hd.pc = .done) ∧
      (s.reader = .wait → ((step cfg s .readerDone).isSome ↔ ∀ hd ∈ s.handlers, hd.pc = .done)) ∧
      (∀ s', step cfg s .stopEnd = some s' → ∀ hd ∈ s.handlers, hd.pc = .done) ∧
      s.finished ≤ 1 := by
  have hc := run_counted as Reachable.init counted_init hno h
  refine ⟨fun ho => inFlight_zero (hc.inFlight_of_over ho), fun hw => ?_, fun s' hs' => ?_, hc.1⟩
  · have hc2 := hc.2
    simp only [hw] at hc2
    have hdone : (∀ hd ∈ s.handlers, hd.pc = .done) ↔ s.inFlight = 0 :=
      ⟨fun ha => List.countP_eq_zero.mpr fun hd hm => by simp [Handler.live, ha hd hm],
        inFlight_zero⟩
    rw [hdone, ← hc2.2]
    simp only [step, Conn.readerDone, hw]
    split_ifs with hf <;> simp [hf]
  · -- `stop` returns past its drain, which found the reader over
    obtain ⟨hp, -⟩ := step_stopEnd hs'
    exact inFlight_zero (hc.inFlight_of_over ((Reachable.init.run h).wf.reset_over hp).1)

theorem simple_sum_reader_waits_for_handler :
    ∃ s, run calculatorServer .init [.start 0, .readerTest, .readMessage
        ⟨.make 7 .request (getMethodId (asciiName "simple_sum")), [17, 0, 0, 0, 42, 0, 0, 0]⟩,
        .readerTest, .readFail eFail, .readerRelease] = some s ∧
      s.reader = .wait ∧
      s.handlers = [⟨.make 7 .request (getMethodId (asciiName "simple_sum")), .dispatching⟩] ∧
      ((step calculatorServer s .readerDone).isSome ↔ ∀ hd ∈ s.handlers, hd.pc = .done) :=
  ⟨_, rfl, rfl, rfl, (reader_waits_for_handlers calculatorServer [.start 0, .readerTest,
    .readMessage ⟨.make 7 .request (getMethodId (asciiName "simple_sum")), [17, 0, 0, 0, 42, 0, 0, 0]⟩,
    .readerTest, .readFail eFail, .readerRelease] _ rfl (by decide)).2.1 rfl⟩

end AsyncCppRpc.Connection
