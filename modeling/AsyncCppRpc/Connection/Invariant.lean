import AsyncCppRpc.Connection.Step

namespace AsyncCppRpc.Connection

open Wire Transport

/-- What every reachable state keeps: `running` is set exactly while a transport is held and
whenever a task or a `stop` is under way, a `stop` past its drain finds both tasks over, the call
table keeps `Calls.Inv`, and the error hook is where some sequence of operations leaves it. -/
structure Wf (cfg : Config) (s : Conn) : Prop where
  running_transport : s.running = s.transport.isSome
  reader_running : s.reader ≠ .idle → s.running = true
  writer_running : s.writer ≠ .idle → s.running = true
  stop_running : s.stopPc ≠ .idle → s.running = true
  stop_cancelled : s.stopPc = .waiting → s.cancelled = true
  reset_over : s.stopPc = .resetting → s.reader.over = true ∧ s.writer.over = true
  idle_uncancelled : s.running = false → s.cancelled = false
  writer_elided : cfg.writerNotRequired = true → s.writer.over = true ∧ s.written = []
  calls : s.calls.Inv
  hook : ∃ ops, s.hook = runHook ops

theorem wf_init (cfg : Config) : Wf cfg .init :=
  ⟨rfl, fun h => absurd rfl h, fun h => absurd rfl h, fun h => absurd rfl h, nofun, nofun,
    fun _ => rfl, fun _ => ⟨rfl, rfl⟩, Calls.inv_init, ⟨[], rfl⟩⟩

section Steps

variable {cfg : Config} {s s' : Conn}

theorem Wf.hook_snoc (hw : Wf cfg s) (op : HookOp) : ∃ ops, op.apply s.hook = runHook ops := by
  obtain ⟨ops, h⟩ := hw.hook
  exact ⟨ops ++ [op], by rw [runHook_snoc, ← h]⟩

theorem Wf.reader_live (hw : Wf cfg s) (hr : s.reader.over = false) :
    s.running = true ∧ s.stopPc ≠ .resetting :=
  ⟨hw.reader_running fun h => by simp [h, ReaderPc.over] at hr,
    fun hp => by simp [(hw.reset_over hp).1] at hr⟩

theorem Wf.writer_live (hw : Wf cfg s) (hr : s.writer.over = false) :
    s.running = true ∧ s.stopPc ≠ .resetting ∧ cfg.writerNotRequired = false :=
  ⟨hw.writer_running fun h => by simp [h, WriterPc.over] at hr,
    fun hp => by simp [(hw.reset_over hp).2] at hr,
    by simpa [hr] using mt (fun h => (hw.writer_elided h).1)⟩

/-- A step of the writer moves only the writer, the queue and what it has written. -/
theorem Wf.writer_move (hw : Wf cfg s) (hwr : s.writer.over = false) (q : List Message)
    (ws : List (Nat × Message)) (w : WriterPc) :
    Wf cfg { s with writeQueue := q, written := ws, writer := w } := by
  obtain ⟨hr, hp, hn⟩ := hw.writer_live hwr
  exact { hw with
    writer_running := fun _ => hr
    reset_over := fun h => absurd h hp
    writer_elided := fun h => absurd (hn.symm.trans h) nofun }

theorem Wf.reader_move (hw : Wf cfg s) (hrd : s.reader.over = false) (r : ReaderPc) (o : Int)
    (f : Nat) (q : List Message) (hs : List Handler) :
    Wf cfg { s with reader := r, outstanding := o, finished := f, writeQueue := q, handlers := hs } := by
  obtain ⟨hr, hp⟩ := hw.reader_live hrd
  exact { hw with reader_running := fun _ => hr, reset_over := fun h => absurd h hp }

/-- One step of any kind keeps `Wf`, each action read through its inversion lemma. -/
theorem Wf.step {a : Act} (hw : Wf cfg s) (h : step cfg s a = some s') : Wf cfg s' := by
  cases a
  case start t =>
    obtain ⟨ht, rfl⟩ := step_start h
    have hidle : s.stopPc = .idle := by
      by_contra hp
      simpa [hw.running_transport, ht] using hw.stop_running hp
    exact { hw with
      running_transport := rfl
      reader_running := fun _ => rfl
      writer_running := fun _ => rfl
      stop_running := fun _ => rfl
      reset_over := fun hp => absurd (hidle ▸ hp) nofun
      idle_uncancelled := nofun
      writer_elided := fun hn => ⟨by simp [hn, WriterPc.over], (hw.writer_elided hn).2⟩ }
  case stop =>
    obtain ⟨hp, ⟨hr, rfl⟩ | ⟨-, rfl⟩⟩ := step_stop h
    · exact { hw with
        stop_running := fun _ => hr
        stop_cancelled := nofun
        reset_over := nofun
        hook := hw.hook_snoc (.report eAbort .stop) }
    · exact hw
  case stopCancel =>
    obtain ⟨hp, rfl⟩ := step_stopCancel h
    have hr := hw.stop_running (by rw [hp]; nofun)
    exact { hw with
      stop_running := fun _ => hr
      stop_cancelled := fun _ => rfl
      reset_over := nofun
      idle_uncancelled := fun h => absurd (hr.symm.trans h) nofun }
  case stopDrain =>
    obtain ⟨hp, hr, hwr, rfl⟩ := step_stopDrain h
    exact { hw with
      stop_running := fun _ => hw.stop_running (by rw [hp]; nofun)
      stop_cancelled := nofun
      reset_over := fun _ => ⟨hr, hwr⟩
      calls := hw.calls.drain }
  case stopEnd =>
    obtain ⟨hp, rfl⟩ := step_stopEnd h
    exact { hw with
      running_transport := rfl
      reader_running := fun h => absurd rfl h
      writer_running := fun h => absurd rfl h
      stop_running := fun h => absurd rfl h
      stop_cancelled := nofun
      reset_over := nofun
      idle_uncancelled := fun _ => rfl
      writer_elided := fun hn => ⟨rfl, (hw.writer_elided hn).2⟩ }
  case doCall =>
    obtain ⟨-, rfl⟩ := step_doCall h
    exact { hw with calls := hw.calls.issue _ _ }
  case doCallRegister =>
    obtain ⟨k, hk, hpc, rfl⟩ := step_doCallRegister h
    exact { hw with calls := hw.calls.register hk hpc }
  case doCallSend =>
    obtain ⟨k, hk, -, rfl⟩ := step_doCallSend h
    exact { hw with calls := hw.calls.markSent hk }
  case doVoidCall =>
    obtain ⟨-, ⟨-, rfl⟩ | ⟨-, rfl⟩⟩ := step_doVoidCall h
    · exact hw
    · exact { hw with calls := hw.calls.nextId }
  case writerTest =>
    obtain ⟨tok, hwr, rfl⟩ := step_writerTest h
    exact hw.writer_move (by simp [hwr, WriterPc.over]) _ _ _
  case writerSend =>
    obtain ⟨tok, m, q, t, hwr, -, -, rfl⟩ := step_writerSend h
    exact hw.writer_move (by simp [hwr, WriterPc.over]) _ _ _
  case writerFail hr' =>
    obtain ⟨tok, m, q, hwr, -, rfl⟩ := step_writerFail h
    obtain ⟨hr, hp, hn⟩ := hw.writer_live (by simp [hwr, WriterPc.over])
    exact { hw with
      writer_running := fun _ => hr
      stop_cancelled := fun _ => rfl
      reset_over := fun h => absurd h hp
      idle_uncancelled := fun h => absurd (hr.symm.trans h) nofun
      writer_elided := fun h => absurd (hn.symm.trans h) nofun
      hook := hw.hook_snoc (.report hr' .send) }
  case writerExit =>
    obtain ⟨tok, hwr, -, rfl⟩ := step_writerExit h
    exact hw.writer_move (by simp [hwr, WriterPc.over]) _ _ _
  case readerTest =>
    obtain ⟨tok, hrd, rfl⟩ := step_readerTest h
    exact hw.reader_move (by simp [hrd, ReaderPc.over]) _ _ _ _ _
  case readMessage m =>
    obtain ⟨tok, hrd, ⟨-, rfl⟩ | ⟨-, rfl⟩⟩ := step_readMessage h
    · obtain ⟨hr, hp⟩ := hw.reader_live (by simp [hrd, ReaderPc.over])
      exact { hw with
        reader_running := fun _ => hr
        reset_over := fun h => absurd h hp
        calls := hw.calls.complete m }
    · obtain ⟨q, o, hs, he⟩ := executeRequest_frame cfg { s with reader := .loop tok } m
      rw [he]
      exact hw.reader_move (by simp [hrd, ReaderPc.over]) _ _ _ _ _
  case readFail hr' =>
    obtain ⟨tok, hrd, rfl⟩ := step_readFail h
    obtain ⟨hr, hp⟩ := hw.reader_live (by simp [hrd, ReaderPc.over])
    exact { hw with
      reader_running := fun _ => hr
      stop_cancelled := fun _ => rfl
      reset_over := fun h => absurd h hp
      idle_uncancelled := fun h => absurd (hr.symm.trans h) nofun
      hook := hw.hook_snoc (.report hr' .receive) }
  case readThrow =>
    obtain ⟨tok, hrd, rfl⟩ := step_readThrow h
    exact hw.reader_move (by simp [hrd, ReaderPc.over]) _ _ _ _ _
  case readerRelease =>
    obtain ⟨hrd, rfl⟩ := step_readerRelease h
    exact hw.reader_move (by simp [hrd, ReaderPc.over]) _ _ _ _ _
  case readerDone =>
    obtain ⟨hrd, -, rfl⟩ := step_readerDone h
    exact hw.reader_move (by simp [hrd, ReaderPc.over]) _ _ _ _ _
  case dispatched =>
    obtain ⟨-, -, -, rfl⟩ := step_dispatched h
    exact { hw with }
  case handlerCheck =>
    obtain ⟨-, -, -, rfl⟩ := step_handlerCheck h
    exact { hw with }
  case handlerReply =>
    obtain ⟨-, -, -, rfl⟩ := step_handlerReply h
    exact { hw with }
  case handlerFinish =>
    obtain ⟨-, -, rfl⟩ := step_handlerFinish h
    exact { hw with }
  case onError =>
    obtain rfl := step_onError h
    exact { hw with hook := hw.hook_snoc .install }
  case onErrorClear =>
    obtain rfl := step_onErrorClear h
    exact { hw with hook := hw.hook_snoc .remove }

end Steps

theorem Reachable.wf {cfg : Config} {s : Conn} (h : Reachable cfg s) : Wf cfg s := by
  induction h with
  | init => exact wf_init cfg
  | step _ _ hs ih => exact ih.step hs

theorem Reachable.hookInv {cfg : Config} {s : Conn} (h : Reachable cfg s) : HookInv s.hook := by
  obtain ⟨ops, hops⟩ := h.wf.hook
  exact hops ▸ hookInv_runHook ops hookInv_init

end AsyncCppRpc.Connection
