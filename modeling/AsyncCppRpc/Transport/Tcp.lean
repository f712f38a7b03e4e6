import AsyncCppRpc.Transport.Header

namespace AsyncCppRpc.Transport.Tcp

open Wire

/-- `tcp_transport::write(message)`: two `send`s, the header with `payload_size`, then the
payload. `ITcpSocket::send` takes a `winrt::array_view`, whose size is a `uint32_t`, so only the
first `size mod 2^32` bytes of the payload go out. -/
def write (m : Message) : List Bytes :=
  [headerBytes m.toMessageHeader m.payload.length, m.payload.take (m.payload.length % 2 ^ 32)]

def wire (m : Message) : Bytes :=
  (write m).flatten

def readNext (buf c : Bytes) : Option Bytes :=
  if c.isEmpty then none else some (buf ++ c)

/-- `while (receive_buffer.size() < size) co_await read_next();` over the chunks the socket will
return; `none` when the peer sends nothing more, where the loop waits for ever or `read_next`
throws. -/
def readUntil (size : Nat) : Bytes → List Bytes → Option (Bytes × List Bytes)
  | buf, [] => if size ≤ buf.length then some (buf, []) else none
  | buf, c :: cs =>
    if size ≤ buf.length then some (buf, c :: cs)
    else (readNext buf c).bind fun buf => readUntil size buf cs

/-- `tcp_transport::read()`: the message, the buffer after it is erased, and the chunks left. -/
def read (buf : Bytes) (cs : List Bytes) : Option (Message × Bytes × List Bytes) := do
  let (buf, cs) ← readUntil headerSize buf cs
  let fullSize := headerSize + (parseHeader buf).2
  let (buf, cs) ← readUntil fullSize buf cs
  let (h, size) := parseHeader buf
  pure (⟨h, (buf.drop headerSize).take size⟩, buf.drop fullSize, cs)

def reads : Nat → Bytes → List Bytes → Option (List Message × Bytes × List Bytes)
  | 0, buf, cs => some ([], buf, cs)
  | n + 1, buf, cs => do
    let (m, buf, cs) ← read buf cs
    let (ms, buf, cs) ← reads n buf cs
    pure (m :: ms, buf, cs)

theorem wire_eq (m : Message) : wire m =
    headerBytes m.toMessageHeader m.payload.length ++ m.payload.take (m.payload.length % 2 ^ 32) := by
  simp [wire, write]

theorem wire_of_lt {m : Message} (hm : m.payload.length < 2 ^ 32) :
    wire m = headerBytes m.toMessageHeader m.payload.length ++ m.payload := by
  rw [wire_eq, Nat.mod_eq_of_lt hm, List.take_length]

theorem readUntil_spec {size : Nat} {buf : Bytes} {cs : List Bytes} (hne : ∀ c ∈ cs, c ≠ [])
    (hs : size ≤ (buf ++ cs.flatten).length) :
    ∃ j, readUntil size buf cs = some (buf ++ (cs.take j).flatten, cs.drop j) ∧
      size ≤ (buf ++ (cs.take j).flatten).length := by
  induction cs generalizing buf with
  | nil => exact ⟨0, by simp_all [readUntil]⟩
  | cons c cs ih =>
    by_cases hb : size ≤ buf.length
    · exact ⟨0, by simp [readUntil, hb]⟩
    · have hc : c ≠ [] := hne c (List.mem_cons_self c cs)
      obtain ⟨j, hj, hl⟩ := @ih (buf ++ c) (fun c' h => hne c' (List.mem_cons_of_mem c h))
        (by simpa using hs)
      refine ⟨j + 1, ?_, by simpa using hl⟩
      simp [readUntil, readNext, hb, hc, hj]

theorem split_of_append_eq {a x p y : Bytes} (h : a ++ x = p ++ y) (hl : p.length ≤ a.length) :
    ∃ e, a = p ++ e ∧ y = e ++ x := by
  rcases List.append_eq_append_iff.mp h with ⟨a', rfl, rfl⟩ | ⟨c', rfl, rfl⟩
  · simp only [List.length_append] at hl
    obtain rfl : a' = [] := List.eq_nil_of_length_eq_zero (by omega)
    exact ⟨[], by simp, by simp⟩
  · exact ⟨c', rfl, rfl⟩

theorem read_spec {m : Message} (hm : m.payload.length < 2 ^ 32) {buf tail : Bytes}
    {cs : List Bytes} (hne : ∀ c ∈ cs, c ≠ []) (h : buf ++ cs.flatten = wire m ++ tail) :
    ∃ j rest, read buf cs = some (m, rest, cs.drop j) ∧
      buf ++ (cs.take j).flatten = wire m ++ rest := by
  have hw := wire_of_lt hm
  have hlen : (wire m).length = headerSize + m.payload.length := by simp [hw]
  -- the first loop brings the whole header
  obtain ⟨j₁, h₁, hl₁⟩ := @readUntil_spec headerSize _ _ hne
    (by rw [h]; simp [hlen]; omega)
  have hs₁ : (buf ++ (cs.take j₁).flatten) ++ (cs.drop j₁).flatten = wire m ++ tail := by
    rw [List.append_assoc, ← List.flatten_append, List.take_append_drop, h]
  obtain ⟨e₁, he₁, -⟩ := @split_of_append_eq _ _
    (headerBytes m.toMessageHeader m.payload.length) (m.payload ++ tail)
    (by rw [hs₁, hw, List.append_assoc]) (by simpa using hl₁)
  have hp₁ : parseHeader (buf ++ (cs.take j₁).flatten) =
      (m.toMessageHeader, m.payload.length) := by
    rw [he₁, parseHeader_headerBytes _ hm]
  -- the second loop brings the whole message
  have hne₁ : ∀ c ∈ cs.drop j₁, c ≠ [] := fun c hc => hne c (List.mem_of_mem_drop hc)
  obtain ⟨j₂, h₂, hl₂⟩ := @readUntil_spec (headerSize + m.payload.length) _ _ hne₁
    (by rw [hs₁]; simp [hlen])
  have hs₂ : buf ++ (cs.take (j₁ + j₂)).flatten ++ ((cs.drop j₁).drop j₂).flatten =
      wire m ++ tail := by
    rw [List.take_add, List.flatten_append, ← List.append_assoc,
      List.append_assoc _ _ (List.flatten _), ← List.flatten_append, List.take_append_drop, hs₁]
  obtain ⟨rest, hr, -⟩ := split_of_append_eq hs₂ (by simpa [List.take_add, hlen] using hl₂)
  refine ⟨j₁ + j₂, rest, ?_, hr⟩
  have hb₂ : buf ++ (cs.take j₁).flatten ++ ((cs.drop j₁).take j₂).flatten =
      wire m ++ rest := by
    rw [← hr, List.take_add, List.flatten_append, List.append_assoc]
  -- the buffer now starts with the message
  have hpw : parseHeader (wire m ++ rest) = (m.toMessageHeader, m.payload.length) := by
    rw [hw, List.append_assoc, parseHeader_headerBytes _ hm]
  have hdw : (wire m ++ rest).drop headerSize = m.payload ++ rest := by
    rw [hw, List.append_assoc, List.drop_left' (headerBytes_length _ _)]
  simp only [read, h₁, hp₁, h₂, hb₂, hpw, hdw, List.drop_left' hlen, List.take_left,
    Option.bind_eq_bind, Option.some_bind, List.drop_drop, Nat.add_comm j₂ j₁]
  rfl

theorem reads_spec {ms : List Message} (hms : ∀ m ∈ ms, m.payload.length < 2 ^ 32) {k : Nat}
    (hk : k ≤ ms.length) {buf tail : Bytes} {cs : List Bytes} (hne : ∀ c ∈ cs, c ≠ [])
    (h : buf ++ cs.flatten = (ms.map wire).flatten ++ tail) :
    ∃ j rest, reads k buf cs = some (ms.take k, rest, cs.drop j) ∧
      buf ++ (cs.take j).flatten = ((ms.take k).map wire).flatten ++ rest := by
  induction k generalizing ms buf cs with
  | zero => exact ⟨0, buf, by simp [reads]⟩
  | succ k ih =>
    obtain ⟨m, ms, rfl⟩ := List.exists_cons_of_length_pos (show 0 < ms.length by omega)
    obtain ⟨j₁, rest₁, h₁, hb₁⟩ := @read_spec m (hms m (List.mem_cons_self m ms)) _
      ((ms.map wire).flatten ++ tail) _ hne (by simpa using h)
    -- what the first read leaves is the rest of the messages
    have hleft : rest₁ ++ (cs.drop j₁).flatten = (ms.map wire).flatten ++ tail := by
      have hc := congrArg (· ++ (cs.drop j₁).flatten) hb₁
      simp only [List.append_assoc, ← List.flatten_append, List.take_append_drop, h,
        List.map_cons, List.flatten_cons] at hc
      exact (List.append_cancel_left hc).symm
    obtain ⟨j₂, rest₂, h₂, hb₂⟩ := ih (fun m hm => hms m (List.mem_cons_of_mem _ hm))
      (by simpa using hk) (fun c hc => hne c (List.mem_of_mem_drop hc)) hleft
    refine ⟨j₁ + j₂, rest₂, ?_, ?_⟩
    · simp [reads, h₁, h₂, List.drop_drop, Nat.add_comm]
    · rw [List.take_add, List.flatten_append, ← List.append_assoc, hb₁, List.append_assoc,
        hb₂]
      simp

/-- However the stream of written messages is cut into received chunks, successive `read`s return
the messages in order, and after each one `receive_buffer` holds exactly what was received of the
messages not yet returned. -/
theorem tcp_reads_return_written (ms : List Message) (hms : ∀ m ∈ ms, m.payload.length < 2 ^ 32)
    (cs : List Bytes) (hne : ∀ c ∈ cs, c ≠ []) (hcs : cs.flatten = (ms.map wire).flatten)
    (k : Nat) (hk : k ≤ ms.length) :
    ∃ j buf, reads k [] cs = some (ms.take k, buf, cs.drop j) ∧
      (cs.take j).flatten = ((ms.take k).map wire).flatten ++ buf ∧
      buf ++ (cs.drop j).flatten = ((ms.drop k).map wire).flatten := by
  obtain ⟨j, buf, h, hb⟩ := @reads_spec ms hms k hk [] [] cs hne (by simpa using hcs)
  refine ⟨j, buf, h, by simpa using hb, ?_⟩
  have hc := congrArg (· ++ (cs.drop j).flatten) hb
  simp only [List.nil_append, ← List.flatten_append, List.take_append_drop, hcs,
    List.append_assoc] at hc
  have hsplit : (ms.map wire).flatten =
      ((ms.take k).map wire).flatten ++ ((ms.drop k).map wire).flatten := by
    rw [← List.flatten_append, ← List.map_append, List.take_append_drop]
  rw [hsplit] at hc
  exact (List.append_cancel_left hc).symm

theorem request_and_reply_across_receives :
    ∃ j buf, reads 2 []
        [[7, 0, 0, 0, 42], [0, 0, 0, 3, 0, 0, 0, 1, 2, 3, 7, 0, 0, 128, 42, 0, 0, 0, 4],
          [0, 0, 0, 59, 0, 0, 0]] =
      some ([⟨.make 7 .request 42, [1, 2, 3]⟩, ⟨.make 7 .response 42, [59, 0, 0, 0]⟩], buf,
        [[7, 0, 0, 0, 42], [0, 0, 0, 3, 0, 0, 0, 1, 2, 3, 7, 0, 0, 128, 42, 0, 0, 0, 4],
          [0, 0, 0, 59, 0, 0, 0]].drop j) ∧ buf = [] := by
  obtain ⟨j, buf, h, -, hb⟩ := tcp_reads_return_written
    [⟨.make 7 .request 42, [1, 2, 3]⟩, ⟨.make 7 .response 42, [59, 0, 0, 0]⟩] (by decide)
    [[7, 0, 0, 0, 42], [0, 0, 0, 3, 0, 0, 0, 1, 2, 3, 7, 0, 0, 128, 42, 0, 0, 0, 4],
      [0, 0, 0, 59, 0, 0, 0]] (by decide) (by decide) 2 (by decide)
  exact ⟨j, buf, h, (by simpa using hb : buf = [] ∧ _).1⟩

/-- The message a peer reads for `m`: its header and the payload bytes that `write` sends. -/
def delivered (m : Message) : Message :=
  ⟨m.toMessageHeader, m.payload.take (m.payload.length % 2 ^ 32)⟩

theorem wire_delivered (m : Message) : wire (delivered m) = wire m := by
  have hle : m.payload.length % 2 ^ 32 ≤ m.payload.length := Nat.mod_le _ _
  have hlt : m.payload.length % 2 ^ 32 < 2 ^ 32 := Nat.mod_lt _ (by decide)
  simp only [wire_eq, delivered, List.length_take, Nat.min_eq_left hle, Nat.mod_eq_of_lt hlt,
    List.take_take, min_self, headerBytes_mod]

theorem delivered_payload_lt (m : Message) : (delivered m).payload.length < 2 ^ 32 := by
  simpa [delivered] using Nat.lt_of_le_of_lt (Nat.min_le_left _ _) (Nat.mod_lt _ (by decide))

/-- Whatever the size of the payloads, successive `read`s return each written message with the first
`size mod 2^32` bytes of its payload: `payload_size` and the `array_view` that `send` takes are both
cut to 32 bits, so the stream stays framed. -/
theorem tcp_reads_return_payload_mod_2_32 (ms : List Message) (cs : List Bytes)
    (hne : ∀ c ∈ cs, c ≠ []) (hcs : cs.flatten = (ms.map wire).flatten) (k : Nat)
    (hk : k ≤ ms.length) :
    ∃ j buf, reads k [] cs = some ((ms.take k).map delivered, buf, cs.drop j) ∧
      buf ++ (cs.drop j).flatten = ((ms.drop k).map wire).flatten := by
  have hw : (ms.map delivered).map wire = ms.map wire := by
    simp only [List.map_map, Function.comp_def, wire_delivered]
  obtain ⟨j, buf, h, hb⟩ := @reads_spec (ms.map delivered)
    (fun m hm => by obtain ⟨m, -, rfl⟩ := List.mem_map.mp hm; exact delivered_payload_lt m) k
    (by simpa using hk) [] [] cs hne (by simpa [hw] using hcs)
  refine ⟨j, buf, by simpa [List.map_take] using h, ?_⟩
  have hc := congrArg (· ++ (cs.drop j).flatten) hb
  simp only [List.nil_append, ← List.flatten_append, List.take_append_drop, hcs,
    List.append_assoc, List.map_take, hw] at hc
  have hsplit : (ms.map wire).flatten =
      ((ms.map wire).take k).flatten ++ ((ms.map wire).drop k).flatten := by
    rw [← List.flatten_append, List.take_append_drop]
  rw [hsplit] at hc
  rw [List.map_drop]
  exact (List.append_cancel_left hc).symm

theorem split_request_read_whole :
    ∃ j buf, reads 1 [] [[7, 0, 0, 0, 42], [0, 0, 0, 3, 0, 0, 0, 1, 2, 3]] =
        some ([⟨.make 7 .request 42, [1, 2, 3]⟩], buf,
          [[7, 0, 0, 0, 42], [0, 0, 0, 3, 0, 0, 0, 1, 2, 3]].drop j) ∧
      buf ++ ([[7, 0, 0, 0, 42], [0, 0, 0, 3, 0, 0, 0, 1, 2, 3]].drop j).flatten = [] :=
  tcp_reads_return_payload_mod_2_32 [⟨.make 7 .request 42, [1, 2, 3]⟩]
    [[7, 0, 0, 0, 42], [0, 0, 0, 3, 0, 0, 0, 1, 2, 3]] (by decide) (by decide) 1 (by decide)

end AsyncCppRpc.Transport.Tcp
