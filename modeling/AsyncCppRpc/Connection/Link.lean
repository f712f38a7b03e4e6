import AsyncCppRpc.Connection.Matching
import AsyncCppRpc.Connection.Outbox

namespace AsyncCppRpc.Connection

open Wire Transport MethodId

def Act.received : Act → List Message
  | .readMessage m => [m]
  | _ => []

/-- A pushed message traced to its source: a `Request` is one of its callers' requests, and a reply
answers a `Request` its reader received, under the same call id and method id, with a result
`dispatch` may return. -/
def Sourced (cfg : Config) (rx : List Message) (callers : List Caller) (m : Message) : Prop :=
  (m.type = .request → ∃ k ∈ callers, m = k.request) ∧
    (m.type = .response ∨ m.type = .responseError →
      ∃ r ∈ rx, r.type = .request ∧ r.callId = m.callId ∧ r.id = m.id) ∧
    (m.type = .response → cfg.dispatchAllows m.id (.ok m.payload) = true)

def Answers (rx : List Message) (hdr : MessageHeader) : Prop :=
  ∃ r ∈ rx, r.type = .request ∧ r.toMessageHeader = hdr

def Settles (rx : List Message) (callers : List Caller) (e : Nat × Outcome) : Prop :=
  ∃ m ∈ rx, (m.type = .response ∨ m.type = .responseError) ∧ e.2 = replyOutcome m ∧
    ∃ k, callers[e.1]? = some k ∧ k.callId = UInt32.ofNat m.callId.val

theorem Sourced.mono {cfg : Config} {rx rx' : List Message} {l l' : List Caller} {m : Message}
    (h : Sourced cfg rx l m) (hrx : rx ⊆ rx') (hl : CallersKept l l') : Sourced cfg rx' l' m := by
  refine ⟨fun ht => ?_, fun ht => ?_, h.2.2⟩
  · obtain ⟨k, hk, rfl⟩ := h.1 ht
    obtain ⟨k', hk', hr⟩ := hl.mem hk
    exact ⟨k', hk', hr.symm⟩
  · obtain ⟨r, hr, hrest⟩ := h.2.1 ht
    exact ⟨r, hrx hr, hrest⟩

theorem Settles.mono {rx rx' : List Message} {l l' : List Caller} {e : Nat × Outcome}
    (h : Settles rx l e) (hrx : rx ⊆ rx') (hl : CallersKept l l') : Settles rx' l' e := by
  obtain ⟨m, hm, ht, he, k, hk, hid⟩ := h
  obtain ⟨k', hk', -, hid'⟩ := hl _ k hk
  exact ⟨m, hrx hm, ht, he, k', hk', hid'.trans hid⟩

@[simp] theorem Caller.request_type (k : Caller) : k.request.type = .request := rfl

@[simp] theorem Calls.complete_callers (t : Calls) (m : Message) :
    (t.complete m).callers = t.callers := by
  unfold Calls.complete; split <;> rfl

theorem Calls.mem_complete_settled {t : Calls} {m : Message} {e : Nat × Outcome}
    (he : e ∈ (t.complete m).settled) :
    e ∈ t.settled ∨ t.completions.lookup (UInt32.ofNat m.callId.val) = some e.1 ∧
      e.2 = replyOutcome m := by
  unfold Calls.complete at he
  split at he
  · rename_i c hc
    rcases List.mem_append.mp he with he | he
    · exact .inl he
    · obtain rfl := List.mem_singleton.mp he
      exact .inr ⟨hc, rfl⟩
  · exact .inl he

theorem mem_outbox_push (s : Conn) {s' : Conn} {m : Message} (hm : m ∈ s'.outbox) {ms : List Message}
    (hw : s'.written = s.written) (hq : s'.writeQueue = s.writeQueue ++ ms) :
    m ∈ s.outbox ∨ m ∈ ms := by
  simpa only [Conn.outbox, hw, hq, ← List.append_assoc, List.mem_append] using hm

theorem sourced_request {cfg : Config} {rx : List Message} {l : List Caller} {k : Caller}
    (hk : k ∈ l) : Sourced cfg rx l k.request :=
  ⟨fun _ => ⟨k, hk, rfl⟩, fun h => by simp at h, fun h => by simp at h⟩

theorem sourced_voidRequest {cfg : Config} {rx : List Message} {l : List Caller} {m : Message}
    (ht : m.type = .voidRequest) : Sourced cfg rx l m :=
  ⟨fun h => by simp [ht] at h, fun h => by simp [ht] at h, fun h => by simp [ht] at h⟩

theorem sourced_responseTo {cfg : Config} {rx : List Message} {l : List Caller}
    {hdr : MessageHeader} {p : Bytes} (hans : Answers rx hdr)
    (hal : cfg.dispatchAllows hdr.id (.ok p) = true) : Sourced cfg rx l (responseTo hdr p) := by
  obtain ⟨r, hr, ht, he⟩ := hans
  exact ⟨fun h => by simp [responseTo] at h,
    fun _ => ⟨r, hr, ht, congrArg (·.callId) he, congrArg (·.id) he⟩, fun _ => hal⟩

theorem sourced_responseErrorTo {cfg : Config} {rx : List Message} {l : List Caller}
    {hdr : MessageHeader} {hr : UInt32} (hans : Answers rx hdr) :
    Sourced cfg rx l (responseErrorTo hdr hr) := by
  obtain ⟨r, hr, ht, he⟩ := hans
  exact ⟨fun h => by simp [responseErrorTo] at h,
    fun _ => ⟨r, hr, ht, congrArg (·.callId) he, congrArg (·.id) he⟩,
    fun h => by simp [responseErrorTo] at h⟩

/-- What every message, handler and completion of a connection owes to the messages `rx` its reader
has received. -/
structure Attributed (cfg : Config) (rx : List Message) (s : Conn) : Prop where
  outbox : ∀ m ∈ s.outbox, Sourced cfg rx s.calls.callers m
  handlers : ∀ hdr ∈ s.handlers.map Handler.header, Answers rx hdr
  settled : ∀ e ∈ s.calls.settled, e.2 ≠ .cancelled → Settles rx s.calls.callers e

theorem attributed_init (cfg : Config) : Attributed cfg [] .init :=
  ⟨fun _ h => absurd h (List.not_mem_nil _), fun _ h => absurd h (List.not_mem_nil _),
    fun _ h => absurd h (List.not_mem_nil _)⟩

section Steps

variable {cfg : Config} {rx rx' : List Message} {s s' : Conn}

theorem Attributed.of_step (ha : Attributed cfg rx s) (hrx : rx ⊆ rx')
    (hk : CallersKept s.calls.callers s'.calls.callers)
    (ho : ∀ m ∈ s'.outbox, m ∈ s.outbox ∨ Sourced cfg rx' s.calls.callers m)
    (hh : ∀ hdr ∈ s'.handlers.map Handler.header, hdr ∈ s.handlers.map Handler.header ∨ Answers rx' hdr)
    (hs : ∀ e ∈ s'.calls.settled, e ∈ s.calls.settled ∨ e.2 = .cancelled ∨
      Settles rx' s.calls.callers e) :
    Attributed cfg rx' s' := by
  refine ⟨fun m hm => ?_, fun hdr hm => ?_, fun e he hc => ?_⟩
  · rcases ho m hm with hm | hm
    · exact (ha.outbox m hm).mono hrx hk
    · exact hm.mono (List.Subset.refl _) hk
  · rcases hh hdr hm with hm | hm
    · obtain ⟨r, hr, hrest⟩ := ha.handlers hdr hm
      exact ⟨r, hrx hr, hrest⟩
    · exact hm
  · rcases hs e he with he | he | he
    · exact (ha.settled e he hc).mono hrx hk
    · exact absurd he hc
    · exact he.mono (List.Subset.refl _) hk

theorem Attributed.frame (ha : Attributed cfg rx s) (hrx : rx ⊆ rx') (ho : s'.outbox = s.outbox)
    (hh : s'.handlers.map Handler.header = s.handlers.map Handler.header) (hc : s'.calls = s.calls) :
    Attributed cfg rx' s' :=
  ha.of_step hrx (hc ▸ CallersKept.refl _) (fun _ hm => .inl (ho ▸ hm))
    (fun _ hm => .inl (hh ▸ hm)) (fun _ he => .inl (hc ▸ he))

theorem Attributed.doCall {n : UInt32} {p : Bytes} (ha : Attributed cfg rx s)
    (h : step cfg s (.doCall n p) = some s') : Attributed cfg rx s' := by
  obtain ⟨-, rfl⟩ := step_doCall h
  exact ha.of_step (List.Subset.refl _) (s.calls.issue_kept _ _) (fun _ hm => .inl hm)
    (fun _ hm => .inl hm) (fun _ he => .inl he)

theorem Attributed.doCallRegister {c : Nat} (ha : Attributed cfg rx s)
    (h : step cfg s (.doCallRegister c) = some s') : Attributed cfg rx s' := by
  obtain ⟨k, -, -, rfl⟩ := step_doCallRegister h
  exact ha.of_step (List.Subset.refl _) (s.calls.register_kept _ _) (fun _ hm => .inl hm)
    (fun _ hm => .inl hm) (fun _ he => .inl he)

theorem Attributed.doCallSend {c : Nat} (ha : Attributed cfg rx s)
    (h : step cfg s (.doCallSend c) = some s') : Attributed cfg rx s' := by
  obtain ⟨k, hk, -, rfl⟩ := step_doCallSend h
  refine ha.of_step (List.Subset.refl _) (Calls.markSent_kept hk) (fun m hm => ?_)
    (fun _ hm => .inl hm) (fun _ he => .inl he)
  rcases mem_outbox_push s hm rfl rfl with hm | hm
  · exact .inl hm
  · obtain rfl := List.mem_singleton.mp hm
    exact .inr (sourced_request (List.mem_iff_getElem?.mpr ⟨c, hk⟩))

theorem Attributed.doVoidCall {n : UInt32} {p : Bytes} (ha : Attributed cfg rx s)
    (h : step cfg s (.doVoidCall n p) = some s') : Attributed cfg rx s' := by
  obtain ⟨-, ⟨-, rfl⟩ | ⟨-, rfl⟩⟩ := step_doVoidCall h
  · exact ha
  · refine ha.of_step (List.Subset.refl _) (CallersKept.refl _) (fun m hm => ?_)
      (fun _ hm => .inl hm) (fun _ he => .inl he)
    rcases mem_outbox_push s hm rfl rfl with hm | hm
    · exact .inl hm
    · obtain rfl := List.mem_singleton.mp hm
      exact .inr (sourced_voidRequest rfl)

theorem Attributed.writerFail {hr : UInt32} (ha : Attributed cfg rx s)
    (h : step cfg s (.writerFail hr) = some s') : Attributed cfg rx s' := by
  obtain ⟨_, _, q, -, hq, rfl⟩ := step_writerFail h
  refine ha.of_step (List.Subset.refl _) (CallersKept.refl _) (fun m hm => .inl ?_)
    (fun _ hm => .inl hm) (fun _ he => .inl he)
  simp only [Conn.outbox, hq, List.mem_append, List.mem_cons] at hm ⊢
  tauto

theorem Attributed.stopDrain (ha : Attributed cfg rx s) (h : step cfg s .stopDrain = some s') :
    Attributed cfg rx s' := by
  obtain ⟨-, -, -, rfl⟩ := step_stopDrain h
  refine ha.of_step (List.Subset.refl _) (CallersKept.refl _) (fun _ hm => .inl hm)
    (fun _ hm => .inl hm) (fun e he => ?_)
  rcases List.mem_append.mp he with he | he
  · exact .inl he
  · obtain ⟨e', -, rfl⟩ := List.mem_map.mp he
    exact .inr (.inl rfl)

theorem Attributed.executeRequest {m : Message} (ha : Attributed cfg rx s) (hm : m ∈ rx)
    (hreq : m.type ≠ .voidRequest → m.type = .request) :
    Attributed cfg rx (executeRequest cfg s m) := by
  have hans : m.type ≠ .voidRequest → Answers rx m.toMessageHeader :=
    fun hv => ⟨m, hm, hreq hv, rfl⟩
  unfold AsyncCppRpc.Connection.executeRequest
  split_ifs with hs hv hv'
  · exact ha
  · refine ha.of_step (List.Subset.refl _) (CallersKept.refl _) (fun _ hm => .inl hm)
      (fun hdr hm => ?_) (fun _ he => .inl he)
    simp only [List.map_append, List.map_singleton, List.mem_append, List.mem_singleton] at hm
    rcases hm with hm | rfl
    · exact .inl hm
    · exact .inr (hans hv)
  · simp only [Bool.and_eq_true, Bool.not_eq_true', bne_iff_ne] at hv'
    refine ha.of_step (List.Subset.refl _) (CallersKept.refl _) (fun _ hm => ?_)
      (fun _ hm => .inl hm) (fun _ he => .inl he)
    rcases mem_outbox_push s hm rfl rfl with hm | hm
    · exact .inl hm
    · obtain rfl := List.mem_singleton.mp hm
      exact .inr (sourced_responseErrorTo (hans hv'.2))
  · exact ha

theorem Attributed.readMessage {m : Message} (hkd : s.calls.Keyed) (ha : Attributed cfg rx s)
    (h : step cfg s (.readMessage m) = some s') : Attributed cfg (rx ++ [m]) s' := by
  have hrx : rx ⊆ rx ++ [m] := List.subset_append_left _ _
  have hmem : m ∈ rx ++ [m] := List.mem_append_right _ (List.mem_singleton_self _)
  obtain ⟨tok, -, ⟨hr, rfl⟩ | ⟨hr, rfl⟩⟩ := step_readMessage h
  · refine ha.of_step hrx (by simp only [Calls.complete_callers]; exact CallersKept.refl _)
      (fun _ hm => .inl hm) (fun _ hm => .inl hm) (fun e he => ?_)
    rcases Calls.mem_complete_settled he with he | ⟨hc, he⟩
    · exact .inl he
    · obtain ⟨k, hk, hid⟩ := hkd.callId _ (Calls.mem_of_lookup_eq_some hc)
      exact .inr (.inr ⟨m, hmem, hr, he, k, hk, hid⟩)
  · refine Attributed.executeRequest ?_ hmem (fun hv => hr.resolve_right hv)
    exact ha.frame hrx rfl rfl rfl

theorem Attributed.dispatched {i : Nat} {r : DispatchResult} (ha : Attributed cfg rx s)
    (h : step cfg s (.dispatched i r) = some s') : Attributed cfg rx s' := by
  obtain ⟨hdr, hh, hal, rfl⟩ := step_dispatched h
  have hans : Answers rx hdr :=
    ha.handlers hdr (List.mem_map.mpr ⟨_, List.mem_iff_getElem?.mpr ⟨i, hh⟩, rfl⟩)
  have hhd : (s.handlers.set i ⟨hdr, .check r.hr⟩).map Handler.header =
      s.handlers.map Handler.header := map_header_set hh rfl
  refine ha.of_step (List.Subset.refl _) (CallersKept.refl _) (fun m hm => ?_)
    (fun _ hm => .inl (hhd ▸ hm)) (fun _ he => .inl he)
  rcases mem_outbox_push s hm rfl rfl with hm | hm
  · exact .inl hm
  · rcases r with p | e | _ <;> simp only [DispatchResult.replies, List.mem_singleton] at hm
    · exact .inr (hm ▸ sourced_responseTo hans hal)
    all_goals exact absurd hm (List.not_mem_nil _)

theorem Attributed.handlerReply {i : Nat} (ha : Attributed cfg rx s)
    (h : step cfg s (.handlerReply i) = some s') : Attributed cfg rx s' := by
  obtain ⟨hdr, hr, hh, rfl⟩ := step_handlerReply h
  have hans : Answers rx hdr :=
    ha.handlers hdr (List.mem_map.mpr ⟨_, List.mem_iff_getElem?.mpr ⟨i, hh⟩, rfl⟩)
  have hhd : (s.handlers.set i ⟨hdr, .finish⟩).map Handler.header =
      s.handlers.map Handler.header := map_header_set hh rfl
  refine ha.of_step (List.Subset.refl _) (CallersKept.refl _) (fun m hm => ?_)
    (fun _ hm => .inl (hhd ▸ hm)) (fun _ he => .inl he)
  rcases mem_outbox_push s hm rfl rfl with hm | hm
  · exact .inl hm
  · obtain rfl := List.mem_singleton.mp hm
    exact .inr (sourced_responseErrorTo hans)

/-- Every step keeps the attribution, the messages its reader receives joining `rx`. -/
theorem Attributed.step {a : Act} (hkd : s.calls.Keyed) (ha : Attributed cfg rx s)
    (h : step cfg s a = some s') : Attributed cfg (rx ++ a.received) s' := by
  cases a
  case readMessage m => exact ha.readMessage hkd h
  all_goals show Attributed cfg (rx ++ []) s'; rw [List.append_nil]
  case stopDrain => exact ha.stopDrain h
  case doCall => exact ha.doCall h
  case doCallRegister => exact ha.doCallRegister h
  case doCallSend => exact ha.doCallSend h
  case doVoidCall => exact ha.doVoidCall h
  case writerFail => exact ha.writerFail h
  case dispatched => exact ha.dispatched h
  case handlerReply => exact ha.handlerReply h
  case writerSend =>
    obtain ⟨_, _, _, _, -, hq, -, rfl⟩ := step_writerSend h
    exact ha.frame (List.Subset.refl _) (by simp [Conn.outbox, hq]) rfl rfl
  case start | stop | stopCancel | stopEnd | writerTest | writerExit | readerTest | readFail |
    readThrow | readerRelease | readerDone | handlerCheck | handlerFinish | onError | onErrorClear =>
    obtain ⟨hc, hq, hw, hh⟩ := step_control_frame h rfl
    exact ha.frame (List.Subset.refl _) (by rw [Conn.outbox, Conn.outbox, hq, hw]) hh hc

end Steps

def Conn.sent (s : Conn) : List Message := s.written.map Prod.snd

def Act.delivers (x : Act) (sent : List Message) (n : Nat) : Bool :=
  match x with
  | .readMessage m => sent[n]? == some m
  | _ => true

/-- Two connections joined by one transport pair: what one side's writer hands to its transport
reaches the other side's reader in order, each message once. `readA` and `readB` count the messages
each side's reader has received. -/
structure Link where
  a : Conn
  b : Conn
  readA : Nat
  readB : Nat
  deriving DecidableEq, Repr

def Link.init : Link := ⟨.init, .init, 0, 0⟩

def Link.rxA (l : Link) : List Message := l.b.sent.take l.readA

def Link.rxB (l : Link) : List Message := l.a.sent.take l.readB

inductive LinkAct where
  | a (x : Act)
  | b (x : Act)
  deriving DecidableEq, Repr

/-- One side takes a step of its connection, its reader receiving the next message the other side
sent. -/
def Link.step (cfgA cfgB : Config) (l : Link) : LinkAct → Option Link
  | .a x =>
    if x.delivers l.b.sent l.readA then
      (Connection.step cfgA l.a x).map fun a' =>
        { l with a := a', readA := l.readA + x.received.length }
    else none
  | .b x =>
    if x.delivers l.a.sent l.readB then
      (Connection.step cfgB l.b x).map fun b' =>
        { l with b := b', readB := l.readB + x.received.length }
    else none

inductive Link.Reachable (cfgA cfgB : Config) : Link → Prop where
  | init : Link.Reachable cfgA cfgB .init
  | step {l l' : Link} (x : LinkAct) : Link.Reachable cfgA cfgB l →
      l.step cfgA cfgB x = some l' → Link.Reachable cfgA cfgB l'

def Link.run (cfgA cfgB : Config) : Link → List LinkAct → Option Link
  | l, [] => some l
  | l, x :: xs => (l.step cfgA cfgB x).bind (Link.run cfgA cfgB · xs)

theorem Link.Reachable.run {cfgA cfgB : Config} {l l' : Link} (hl : l.Reachable cfgA cfgB) :
    ∀ {xs : List LinkAct}, l.run cfgA cfgB xs = some l' → l'.Reachable cfgA cfgB
  | [], h => by cases h; exact hl
  | x :: xs, h => by
    simp only [Link.run, Option.bind_eq_some] at h
    obtain ⟨l₁, h₁, h₂⟩ := h
    exact (hl.step x h₁).run h₂

structure Link.Inv (cfgA cfgB : Config) (l : Link) : Prop where
  reachA : Connection.Reachable cfgA l.a
  reachB : Connection.Reachable cfgB l.b
  readA : l.readA ≤ l.b.sent.length
  readB : l.readB ≤ l.a.sent.length
  a : Attributed cfgA l.rxA l.a
  b : Attributed cfgB l.rxB l.b

theorem link_inv_init (cfgA cfgB : Config) : Link.init.Inv cfgA cfgB :=
  ⟨.init, .init, Nat.le_refl _, Nat.le_refl _, attributed_init _, attributed_init _⟩

theorem take_delivers {x : Act} {sent : List Message} {n : Nat} (hx : x.delivers sent n = true) :
    n + x.received.length ≤ sent.length ∨ sent.length < n →
      sent.take (n + x.received.length) = sent.take n ++ x.received := by
  intro _
  cases x
  case readMessage m =>
    simp only [Act.delivers, beq_iff_eq] at hx
    simp [Act.received, List.take_succ, hx]
  all_goals simp [Act.received]

theorem side_step {cfg : Config} {self peer self' : Conn} {nSelf nPeer : Nat} {x : Act}
    (hr : Reachable cfg self) (hread : nSelf ≤ peer.sent.length) (hpeer : nPeer ≤ self.sent.length)
    (ha : Attributed cfg (peer.sent.take nSelf) self) (hx : x.delivers peer.sent nSelf = true)
    (h : step cfg self x = some self') :
    Reachable cfg self' ∧ nSelf + x.received.length ≤ peer.sent.length ∧
      nPeer ≤ self'.sent.length ∧ self'.sent.take nPeer = self.sent.take nPeer ∧
      Attributed cfg (peer.sent.take (nSelf + x.received.length)) self' := by
  have hlen : nSelf + x.received.length ≤ peer.sent.length := by
    cases x
    case readMessage m =>
      simp only [Act.delivers, beq_iff_eq] at hx
      exact (List.getElem?_eq_some_iff.mp hx).1
    all_goals simpa [Act.received] using hread
  obtain ⟨t, ht⟩ := (step_outbox h).1
  have hsent : self'.sent = self.sent ++ t.map Prod.snd := by simp [Conn.sent, ← ht]
  refine ⟨hr.step x h, hlen, ?_, ?_, ?_⟩
  · rw [hsent, List.length_append]; omega
  · rw [hsent, List.take_append_of_le_length hpeer]
  · rw [take_delivers hx (.inl hlen)]
    exact ha.step hr.keyed h

theorem Link.Inv.step {cfgA cfgB : Config} {l l' : Link} {x : LinkAct} (hi : l.Inv cfgA cfgB)
    (h : l.step cfgA cfgB x = some l') : l'.Inv cfgA cfgB := by
  cases x with
  | a x =>
    simp only [Link.step] at h
    split_ifs at h with hx
    obtain ⟨a', ha', rfl⟩ := Option.map_eq_some'.mp h
    obtain ⟨hr, hlen, hpeer, htake, ha⟩ := side_step hi.reachA hi.readA hi.readB hi.a hx ha'
    exact ⟨hr, hi.reachB, hlen, hpeer, ha, by simpa only [Link.rxB, htake] using hi.b⟩
  | b x =>
    simp only [Link.step] at h
    split_ifs at h with hx
    obtain ⟨b', hb', rfl⟩ := Option.map_eq_some'.mp h
    obtain ⟨hr, hlen, hpeer, htake, hb⟩ := side_step hi.reachB hi.readB hi.readA hi.b hx hb'
    exact ⟨hi.reachA, hr, hpeer, hlen, by simpa only [Link.rxA, htake] using hi.a, hb⟩

theorem Link.Reachable.inv {cfgA cfgB : Config} {l : Link} (h : l.Reachable cfgA cfgB) :
    l.Inv cfgA cfgB := by
  induction h with
  | init => exact link_inv_init cfgA cfgB
  | step _ _ hs ih => exact ih.step hs

theorem replyOutcome_value {m : Message} {p : Bytes} (h : Outcome.value p = replyOutcome m) :
    m.type = .response ∨ m.type = .request ∨ m.type = .voidRequest := by
  unfold replyOutcome at h
  split_ifs at h
  cases ht : m.type <;> simp_all

/-- Across any interleaving of two linked connections whose calls on `a` do not share the 30 bits of
call id, a call that `a` completes with a reply got the reply `b` sent to the request `do_call`
pushed for it, with a result `b`'s `dispatch` may return. -/
theorem reply_answers_own_request (cfgA cfgB : Config) (l : Link) (hl : l.Reachable cfgA cfgB)
    (hids : ∀ k₁ ∈ l.a.calls.callers, ∀ k₂ ∈ l.a.calls.callers,
      k₁.callId.toNat % callIdBound = k₂.callId.toNat % callIdBound → k₁ = k₂)
    (c : Nat) (out : Outcome) (he : (c, out) ∈ l.a.calls.settled) (hout : out ≠ .cancelled) :
    ∃ k m, l.a.calls.callers[c]? = some k ∧ k.request ∈ l.rxB ∧ m ∈ l.rxA ∧
      out = replyOutcome m ∧ m.callId = k.request.callId ∧ m.id = k.name ∧
      ∀ p, out = .value p → cfgB.dispatchAllows k.name (.ok p) = true := by
  have hi := hl.inv
  obtain ⟨m, hm, hmt, hout, k, hk, hid⟩ := hi.a.settled (c, out) he hout
  -- the reply is one `b` pushed, so it answers a request `b` received from `a`
  have hmb : m ∈ l.b.outbox := List.mem_append_left _ (List.mem_of_mem_take hm)
  obtain ⟨r, hr, hrt, hrc, hri⟩ := (hi.b.outbox m hmb).2.1 hmt
  have hra : r ∈ l.a.outbox := List.mem_append_left _ (List.mem_of_mem_take hr)
  obtain ⟨k', hk', rfl⟩ := (hi.a.outbox r hra).1 hrt
  -- that request is the call's own, as the two share the 30 bits of call id
  have hlt : m.callId.val < 2 ^ 32 := Nat.lt_trans m.callId.isLt (by decide)
  have hkid : k.callId.toNat = m.callId.val := by rw [hid]; exact UInt32.toNat_ofNat_of_lt hlt
  have hkk : k' = k := hids k' hk' k (List.mem_iff_getElem?.mpr ⟨c, hk⟩) (by
    have h30 : k'.callId.toNat % callIdBound = m.callId.val := congrArg Fin.val hrc
    rw [h30, hkid, Nat.mod_eq_of_lt (hkid ▸ m.callId.isLt)])
  subst hkk
  refine ⟨k', m, hk, hr, hm, hout, hrc.symm, hri.symm, fun p hp => ?_⟩
  have hresp : m.type = .response := by
    rcases replyOutcome_value (hp.symm.trans hout) with h | h | h <;>
      [exact h; (rw [h] at hmt; simp at hmt); (rw [h] at hmt; simp at hmt)]
  have hp' : p = m.payload := by
    simp only [replyOutcome, hresp, reduceCtorEq, if_false] at hout
    exact Outcome.value.inj (hp.symm.trans hout)
  have hal := (hi.b.outbox m hmb).2.2 hresp
  rw [← hri, ← hp'] at hal
  exact hal

theorem simple_sum_answered_over_link :
    ∃ l, Link.run calculatorClient calculatorServer .init [.a (.start 0),
        .a (.doCall (getMethodId (asciiName "simple_sum")) [17, 0, 0, 0, 42, 0, 0, 0]),
        .a (.doCallRegister 0), .a (.doCallSend 0), .a .writerTest, .a .writerSend, .b (.start 0),
        .b .readerTest, .b (.readMessage ⟨.make 0 .request (getMethodId (asciiName "simple_sum")),
          [17, 0, 0, 0, 42, 0, 0, 0]⟩), .b (.dispatched 0 (.ok [59, 0, 0, 0])), .b .writerTest,
        .b .writerSend, .a .readerTest,
        .a (.readMessage ⟨.make 0 .response (getMethodId (asciiName "simple_sum")), [59, 0, 0, 0]⟩)] = some l ∧
      ∃ k m, l.a.calls.callers[0]? = some k ∧ k.request ∈ l.rxB ∧ m ∈ l.rxA ∧
        Outcome.value [59, 0, 0, 0] = replyOutcome m ∧ m.callId = k.request.callId ∧ m.id = k.name ∧
        ∀ p, Outcome.value [59, 0, 0, 0] = .value p →
          calculatorServer.dispatchAllows k.name (.ok p) = true := by
  have key : ∀ l, Link.run calculatorClient calculatorServer .init [.a (.start 0),
        .a (.doCall (getMethodId (asciiName "simple_sum")) [17, 0, 0, 0, 42, 0, 0, 0]),
        .a (.doCallRegister 0), .a (.doCallSend 0), .a .writerTest, .a .writerSend, .b (.start 0),
        .b .readerTest, .b (.readMessage ⟨.make 0 .request (getMethodId (asciiName "simple_sum")),
          [17, 0, 0, 0, 42, 0, 0, 0]⟩), .b (.dispatched 0 (.ok [59, 0, 0, 0])), .b .writerTest,
        .b .writerSend, .a .readerTest,
        .a (.readMessage ⟨.make 0 .response (getMethodId (asciiName "simple_sum")), [59, 0, 0, 0]⟩)] = some l →
      (0, Outcome.value [59, 0, 0, 0]) ∈ l.a.calls.settled →
      (∀ k₁ ∈ l.a.calls.callers, ∀ k₂ ∈ l.a.calls.callers,
        k₁.callId.toNat % callIdBound = k₂.callId.toNat % callIdBound → k₁ = k₂) →
      ∃ k m, l.a.calls.callers[0]? = some k ∧ k.request ∈ l.rxB ∧ m ∈ l.rxA ∧
        Outcome.value [59, 0, 0, 0] = replyOutcome m ∧ m.callId = k.request.callId ∧ m.id = k.name ∧
        ∀ p, Outcome.value [59, 0, 0, 0] = .value p →
          calculatorServer.dispatchAllows k.name (.ok p) = true :=
    fun l hr he hids =>
      reply_answers_own_request _ _ l (Link.Reachable.init.run hr) hids 0 _ he (by decide)
  exact ⟨_, rfl, key _ rfl (by decide) (by decide)⟩

end AsyncCppRpc.Connection
