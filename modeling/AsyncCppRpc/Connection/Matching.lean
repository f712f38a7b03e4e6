import AsyncCppRpc.Connection.Invariant

namespace AsyncCppRpc.Connection

open Wire Transport MethodId

/-- What one step does to `last_call_id`, `completions` and the callers: nothing, or one of the
table's operations under the guard its step checks. -/
theorem step_calls {cfg : Config} {s s' : Conn} {a : Act} (h : step cfg s a = some s') :
    s'.calls = s.calls ∨ (∃ n p, s'.calls = s.calls.issue n p) ∨
      (∃ c k, s.calls.callers[c]? = some k ∧ k.pc = .issued ∧
        s'.calls = s.calls.register c k.callId) ∨
      (∃ c k, s.calls.callers[c]? = some k ∧ s'.calls = s.calls.markSent c k) ∨
      s'.calls = s.calls.nextId ∨ (∃ m, s'.calls = s.calls.complete m) ∨
      s'.calls = s.calls.drain := by
  cases a
  case stopDrain =>
    obtain ⟨-, -, -, rfl⟩ := step_stopDrain h
    exact .inr (.inr (.inr (.inr (.inr (.inr rfl)))))
  case doCall =>
    obtain ⟨-, rfl⟩ := step_doCall h
    exact .inr (.inl ⟨_, _, rfl⟩)
  case doCallRegister =>
    obtain ⟨k, hk, hpc, rfl⟩ := step_doCallRegister h
    exact .inr (.inr (.inl ⟨_, k, hk, hpc, rfl⟩))
  case doCallSend =>
    obtain ⟨k, hk, -, rfl⟩ := step_doCallSend h
    exact .inr (.inr (.inr (.inl ⟨_, k, hk, rfl⟩)))
  case doVoidCall =>
    obtain ⟨-, ⟨-, rfl⟩ | ⟨-, rfl⟩⟩ := step_doVoidCall h
    exacts [.inl rfl, .inr (.inr (.inr (.inr (.inl rfl))))]
  case readMessage m =>
    obtain ⟨tok, -, ⟨-, rfl⟩ | ⟨-, rfl⟩⟩ := step_readMessage h
    exacts [.inr (.inr (.inr (.inr (.inr (.inl ⟨m, rfl⟩))))), .inl (executeRequest_calls _ _ _)]
  case writerSend => obtain ⟨_, _, _, _, -, -, -, rfl⟩ := step_writerSend h; exact .inl rfl
  case writerFail => obtain ⟨_, _, _, -, -, rfl⟩ := step_writerFail h; exact .inl rfl
  case dispatched => obtain ⟨_, -, -, rfl⟩ := step_dispatched h; exact .inl rfl
  case handlerReply => obtain ⟨_, _, -, rfl⟩ := step_handlerReply h; exact .inl rfl
  case start | stop | stopCancel | stopEnd | writerTest | writerExit | readerTest | readFail |
    readThrow | readerRelease | readerDone | handlerCheck | handlerFinish | onError | onErrorClear =>
    exact .inl (step_control_frame h rfl).1

def Caller.request (k : Caller) : Message := ⟨.make k.callId .request k.name, k.payload⟩

def CallersKept (l l' : List Caller) : Prop :=
  ∀ (c : Nat) (k : Caller), l[c]? = some k →
    ∃ k', l'[c]? = some k' ∧ k'.request = k.request ∧ k'.callId = k.callId

theorem CallersKept.refl (l : List Caller) : CallersKept l l :=
  fun _ k hk => ⟨k, hk, rfl, rfl⟩

theorem CallersKept.mem {l l' : List Caller} (h : CallersKept l l') {k : Caller} (hk : k ∈ l) :
    ∃ k' ∈ l', k'.request = k.request := by
  obtain ⟨c, hc⟩ := List.mem_iff_getElem?.mp hk
  obtain ⟨k', hk', hr, -⟩ := h c k hc
  exact ⟨k', List.mem_iff_getElem?.mpr ⟨c, hk'⟩, hr⟩

theorem callersKept_append (l ms : List Caller) : CallersKept l (l ++ ms) :=
  fun c k hk => ⟨k, by rw [List.getElem?_append_left (List.getElem?_eq_some_iff.mp hk).1]; exact hk,
    rfl, rfl⟩

theorem callersKept_modify (l : List Caller) (i : Nat) (f : Caller → Caller)
    (hf : ∀ k, (f k).request = k.request ∧ (f k).callId = k.callId) :
    CallersKept l (l.modify f i) := fun c k hk => by
  rw [List.getElem?_modify, hk]
  by_cases hi : i = c
  · exact ⟨f k, by simp [hi], hf k⟩
  · exact ⟨k, by simp [hi], rfl, rfl⟩

theorem Calls.issue_kept (t : Calls) (name : UInt32) (payload : Bytes) :
    CallersKept t.callers (t.issue name payload).callers :=
  callersKept_append _ _

theorem Calls.register_kept (t : Calls) (c : Nat) (callId : UInt32) :
    CallersKept t.callers (t.register c callId).callers :=
  callersKept_modify _ _ _ fun _ => ⟨rfl, rfl⟩

theorem Calls.markSent_kept {t : Calls} {c : Nat} {k : Caller} (hk : t.callers[c]? = some k) :
    CallersKept t.callers (t.markSent c k).callers := fun j k₀ hj => by
  simp only [Calls.markSent, List.getElem?_set]
  by_cases hc : c = j
  · subst hc
    obtain rfl : k = k₀ := Option.some.inj (hk.symm.trans hj)
    exact ⟨{ k with pc := .sent }, by simp [(List.getElem?_eq_some_iff.mp hk).1], rfl, rfl⟩
  · exact ⟨k₀, by simp [hc, hj], rfl, rfl⟩

namespace Calls

/-- `completions` is a map: a call id is the key of at most one slot, and each slot sits under
the call id its caller drew. -/
structure Keyed (t : Calls) : Prop where
  nodup : (t.completions.map Prod.fst).Nodup
  callId : ∀ e ∈ t.completions, ∃ k, t.callers[e.2]? = some k ∧ k.callId = e.1

theorem keyed_init : Calls.init.Keyed :=
  ⟨List.nodup_nil, fun _ h => absurd h (List.not_mem_nil _)⟩

theorem Keyed.of_kept {t t' : Calls} (h : t.Keyed) (hk : CallersKept t.callers t'.callers)
    (hc : t'.completions = t.completions) : t'.Keyed := by
  refine ⟨hc ▸ h.nodup, fun e he => ?_⟩
  obtain ⟨k, hk₁, hid⟩ := h.callId e (hc ▸ he)
  obtain ⟨k', hk', -, hid'⟩ := hk _ k hk₁
  exact ⟨k', hk', hid'.trans hid⟩

theorem Keyed.issue {t : Calls} (h : t.Keyed) (name : UInt32) (payload : Bytes) :
    (t.issue name payload).Keyed :=
  h.of_kept (t.issue_kept name payload) rfl

theorem Keyed.register {t : Calls} (h : t.Keyed) {c : Nat} {k : Caller}
    (hk : t.callers[c]? = some k) : (t.register c k.callId).Keyed := by
  have hold : ∀ e ∈ t.completions, ∃ k', (t.register c k.callId).callers[e.2]? = some k' ∧
      k'.callId = e.1 := fun e he => by
    obtain ⟨k₁, hk₁, hid⟩ := h.callId e he
    obtain ⟨k', hk', -, hid'⟩ := t.register_kept c k.callId _ k₁ hk₁
    exact ⟨k', hk', hid'.trans hid⟩
  by_cases hf : (t.completions.lookup k.callId).isNone
  · have hfresh : k.callId ∉ t.completions.map Prod.fst := fun hm => by
      obtain ⟨e, he, hek⟩ := List.mem_map.mp hm
      have := List.lookup_eq_none_iff.mp (Option.isNone_iff_eq_none.mp hf) e he
      simp [hek] at this
    refine ⟨?_, fun e he => ?_⟩
    · simpa [Calls.register, hf, List.nodup_append] using
        ⟨h.nodup, fun x hx => hfresh (List.mem_map.mpr ⟨_, hx, rfl⟩)⟩
    · simp only [Calls.register, hf, if_true, List.mem_append, List.mem_singleton] at he
      rcases he with he | rfl
      · exact hold e he
      · obtain ⟨k', hk', -, hid⟩ := t.register_kept c k.callId _ k hk
        exact ⟨k', hk', hid⟩
  · exact ⟨by simpa [Calls.register, hf] using h.nodup,
      fun e he => hold e (by simpa [Calls.register, hf] using he)⟩

theorem Keyed.markSent {t : Calls} (h : t.Keyed) {c : Nat} {k : Caller}
    (hk : t.callers[c]? = some k) : (t.markSent c k).Keyed :=
  h.of_kept (markSent_kept hk) rfl

theorem Keyed.complete {t : Calls} (h : t.Keyed) (m : Message) : (t.complete m).Keyed := by
  unfold Calls.complete
  split
  · exact ⟨((List.filter_sublist _).map Prod.fst).nodup h.nodup,
      fun e he => h.callId e (List.mem_of_mem_filter he)⟩
  · exact h

theorem keyed_drain (t : Calls) : t.drain.Keyed :=
  ⟨List.nodup_nil, fun _ he => absurd he (List.not_mem_nil _)⟩

end Calls

theorem Reachable.keyed {cfg : Config} {s : Conn} (h : Reachable cfg s) : s.calls.Keyed := by
  induction h with
  | init => exact Calls.keyed_init
  | step _ _ hs ih =>
    rcases step_calls hs with he | ⟨n, p, he⟩ | ⟨c, k, hk, -, he⟩ | ⟨c, k, hk, he⟩ | he |
      ⟨m, he⟩ | he <;> rw [he]
    exacts [ih, ih.issue n p, ih.register hk, ih.markSent hk, ⟨ih.nodup, ih.callId⟩,
      ih.complete m, Calls.keyed_drain _]

theorem lookup_of_mem {l : List (UInt32 × Nat)} (hn : (l.map Prod.fst).Nodup) {a : UInt32}
    {b : Nat} (hm : (a, b) ∈ l) : l.lookup a = some b := by
  induction l with
  | nil => cases hm
  | cons e l ih =>
    obtain ⟨k, v⟩ := e
    simp only [List.map_cons, List.nodup_cons] at hn
    rcases List.mem_cons.mp hm with he | hm
    · cases he
      simp [List.lookup_cons]
    · have hka : a ≠ k := fun he => hn.1 (he ▸ List.mem_map.mpr ⟨_, hm, rfl⟩)
      simp [List.lookup_cons, beq_eq_false_iff_ne.mpr hka, ih hn.2 hm]

theorem readMessage_reply {cfg : Config} {s s' : Conn} {m : Message}
    (hm : m.type = .response ∨ m.type = .responseError)
    (h : step cfg s (.readMessage m) = some s') : s'.calls = s.calls.complete m := by
  obtain ⟨tok, -, ⟨-, rfl⟩ | ⟨hr, -⟩⟩ := step_readMessage h
  · rfl
  · rcases hm with hm | hm <;> simp [hm] at hr

/-- In every reachable state, a reply the reader reads completes exactly the pending call whose
32-bit id equals the reply's 30-bit `call_id`, and every other pending call stays pending; a reply
that carries no pending call's id changes no caller. -/
theorem reply_completes_its_call (cfg : Config) (s s' : Conn) (hs : Reachable cfg s)
    (m : Message) (hm : m.type = .response ∨ m.type = .responseError)
    (h : step cfg s (.readMessage m) = some s') :
    (∀ c k, s.calls.callers[c]? = some k → (k.callId, c) ∈ s.calls.completions →
      m.callId.val = k.callId.toNat →
      s'.calls.settled = s.calls.settled ++ [(c, replyOutcome m)] ∧ c ∉ s'.calls.pending ∧
        ∀ e ∈ s.calls.completions, e.2 ≠ c → e ∈ s'.calls.completions) ∧
    ((∀ e ∈ s.calls.completions, e.1.toNat ≠ m.callId.val) → s'.calls = s.calls) := by
  have hkd := hs.keyed
  have hlt : m.callId.val < 2 ^ 32 := Nat.lt_trans m.callId.isLt (by decide)
  rw [readMessage_reply hm h]
  refine ⟨fun c k hc he hid => ?_, fun hno => ?_⟩
  · have hkey : UInt32.ofNat m.callId.val = k.callId := by rw [hid]; exact uint32_ofNat_toNat _
    have hl : s.calls.completions.lookup k.callId = some c := lookup_of_mem hkd.nodup he
    simp only [Calls.complete, hl, hkey, Calls.pending, List.mem_map, List.mem_filter,
      bne_iff_ne, ne_eq]
    refine ⟨trivial, ?_, fun e he' hne => ⟨he', fun hek => hne ?_⟩⟩
    · -- every slot of caller `c` sits under the id `c` drew
      rintro ⟨e, ⟨he', hne⟩, rfl⟩
      obtain ⟨k', hk', hid'⟩ := hkd.callId e he'
      rw [hc, Option.some.injEq] at hk'
      exact hne (hid' ▸ hk' ▸ rfl)
    · -- the table holds one slot per key
      exact congrArg Prod.snd (List.inj_on_of_nodup_map hkd.nodup he' he hek)
  · have hl : s.calls.completions.lookup (UInt32.ofNat m.callId.val) = none :=
      List.lookup_eq_none_iff.mpr fun e he => by
        simp only [bne_iff_ne, ne_eq]
        exact fun he1 => hno e he (by rw [← he1]; exact UInt32.toNat_ofNat_of_lt hlt)
    simp [Calls.complete, hl]

theorem simple_sum_reply_completes_call :
    ∃ s s', run calculatorClient .init [.start 0, .doCall (getMethodId (asciiName "simple_sum"))
        [17, 0, 0, 0, 42, 0, 0, 0], .doCallRegister 0, .doCallSend 0, .writerTest, .writerSend,
        .readerTest] = some s ∧
      step calculatorClient s (.readMessage ⟨.make 0 .response (getMethodId (asciiName "simple_sum")),
        [59, 0, 0, 0]⟩) = some s' ∧
      s.calls.callers[0]? = some ⟨getMethodId (asciiName "simple_sum"), [17, 0, 0, 0, 42, 0, 0, 0], 0,
        .sent, true⟩ ∧
      (0, 0) ∈ s.calls.completions ∧
      s'.calls.settled = s.calls.settled ++ [(0, .value [59, 0, 0, 0])] ∧ 0 ∉ s'.calls.pending := by
  have key : ∀ s s', run calculatorClient .init [.start 0, .doCall
        (getMethodId (asciiName "simple_sum")) [17, 0, 0, 0, 42, 0, 0, 0], .doCallRegister 0,
        .doCallSend 0, .writerTest, .writerSend, .readerTest] = some s →
      step calculatorClient s (.readMessage ⟨.make 0 .response
        (getMethodId (asciiName "simple_sum")), [59, 0, 0, 0]⟩) = some s' →
      s.calls.callers[0]? = some ⟨getMethodId (asciiName "simple_sum"),
        [17, 0, 0, 0, 42, 0, 0, 0], 0, .sent, true⟩ → (0, 0) ∈ s.calls.completions →
      s'.calls.settled = s.calls.settled ++ [(0, .value [59, 0, 0, 0])] ∧ 0 ∉ s'.calls.pending :=
    fun s s' hr hst hc hm =>
      have h := (reply_completes_its_call calculatorClient s s' (Reachable.init.run hr) _ (.inl rfl)
        hst).1 0 _ hc hm rfl
      ⟨h.1, h.2.1⟩
  exact ⟨_, _, rfl, rfl, rfl, by decide, key _ _ rfl rfl rfl (by decide)⟩

end AsyncCppRpc.Connection
