import AsyncCppRpc.Transport.Header

namespace AsyncCppRpc.Transport.Pipe

open Wire

def maxSupportedRead : Nat := 65536

/-- The loop of `write(message_t)`: the `(offset, length)` that each `WriteFile` is handed,
`std::min(size, MaxSupportedRead)` bytes at a time from the front. -/
def writeSpans : Nat → Nat → Nat → List (Nat × Nat)
  | 0, _, _ => []
  | fuel + 1, off, size =>
    if size = 0 then []
    else (off, min size maxSupportedRead) ::
      writeSpans fuel (off + min size maxSupportedRead) (size - min size maxSupportedRead)

def write (m : Message) : List Bytes :=
  headerBytes m.toMessageHeader m.payload.length ::
    (writeSpans m.payload.length 0 m.payload.length).map fun sp => (m.payload.drop sp.1).take sp.2

/-- The loop of `read()`: each `ReadFile` asks for `std::min(MaxSupportedRead, size)` bytes and
completes with `grant off toread` of them; `none` when the loop has not finished within `fuel`
turns. -/
def readLoop (grant : Nat → Nat → Nat) :
    Nat → Nat → Nat → Bytes → Option (List (Nat × Nat) × Bytes × Bytes)
  | 0, _, size, pipe => if size = 0 then some ([], [], pipe) else none
  | fuel + 1, off, size, pipe =>
    if size = 0 then some ([], [], pipe)
    else
      let toread := min maxSupportedRead size
      let readBytes := grant off toread
      (readLoop grant fuel (off + readBytes) (size - readBytes) (pipe.drop readBytes)).map
        fun r => ((off, toread) :: r.1, pipe.take readBytes ++ r.2.1, r.2.2)

/-- `pipe_transport::read()`: a header `ReadFile` short of the whole header throws `E_INVALIDARG`,
then `payload_size` bytes come in the loop. -/
def read (headerRead : Nat) (grant : Nat → Nat → Nat) (pipe : Bytes) :
    Option (Message × List (Nat × Nat) × Bytes) :=
  if headerRead ≠ headerSize then none
  else
    let (h, size) := parseHeader (pipe.take headerSize)
    (readLoop grant size 0 size (pipe.drop headerSize)).map fun r => (⟨h, r.2.1⟩, r.1, r.2.2)

theorem writeSpans_spec (data : Bytes) :
    ∀ fuel off size, size ≤ fuel →
      ((writeSpans fuel off size).map fun sp => (data.drop sp.1).take sp.2).flatten =
        (data.drop off).take size ∧
      ∀ sp ∈ writeSpans fuel off size, sp.2 ≤ maxSupportedRead ∧ off ≤ sp.1 ∧
        sp.1 + sp.2 ≤ off + size
  | 0, off, size, h => by
    obtain rfl : size = 0 := by omega
    simp [writeSpans]
  | fuel + 1, off, size, h => by
    by_cases hs : size = 0
    · simp [writeSpans, hs]
    · have hpos : 0 < min size maxSupportedRead := Nat.lt_min.mpr ⟨by omega, by decide⟩
      have hle := Nat.min_le_left size maxSupportedRead
      obtain ⟨ih, ihs⟩ := writeSpans_spec data fuel (off + min size maxSupportedRead)
        (size - min size maxSupportedRead) (by omega)
      simp only [writeSpans, hs, if_false, List.map_cons, List.flatten_cons, ih,
        List.mem_cons, forall_eq_or_imp]
      refine ⟨?_, ⟨Nat.min_le_right _ _, le_refl _, by omega⟩, fun sp hsp => ?_⟩
      · rw [← List.drop_drop, ← List.take_add, Nat.add_sub_cancel' (Nat.min_le_left _ _)]
      · obtain ⟨h1, h2, h3⟩ := ihs sp hsp
        exact ⟨h1, by omega, by omega⟩

section
variable (grant : Nat → Nat → Nat) (hg : ∀ off n, 1 ≤ n → 1 ≤ grant off n ∧ grant off n ≤ n)
include hg

theorem readLoop_spec :
    ∀ fuel off size pipe, size ≤ fuel → size ≤ pipe.length →
      ∃ reqs, readLoop grant fuel off size pipe = some (reqs, pipe.take size, pipe.drop size) ∧
        ∀ r ∈ reqs, r.2 ≤ maxSupportedRead ∧ off ≤ r.1 ∧ r.1 + r.2 ≤ off + size
  | 0, off, size, pipe, h, _ => by
    obtain rfl : size = 0 := by omega
    exact ⟨[], by simp [readLoop], by simp⟩
  | fuel + 1, off, size, pipe, h, hp => by
    by_cases hs : size = 0
    · subst hs
      exact ⟨[], by simp [readLoop], by simp⟩
    · have hm : 1 ≤ min maxSupportedRead size := Nat.le_min.mpr ⟨by decide, by omega⟩
      have hle := Nat.min_le_right maxSupportedRead size
      obtain ⟨hk1, hk2⟩ := hg off (min maxSupportedRead size) hm
      obtain ⟨reqs, h', hr⟩ := readLoop_spec fuel (off + grant off (min maxSupportedRead size))
        (size - grant off (min maxSupportedRead size))
        (pipe.drop (grant off (min maxSupportedRead size))) (by omega) (by simp; omega)
      refine ⟨(off, min maxSupportedRead size) :: reqs, ?_, ?_⟩
      · simp only [readLoop, hs, if_false, h', Option.map_some', List.drop_drop,
          ← List.take_add,
          Nat.add_sub_cancel' (show grant off (min maxSupportedRead size) ≤ size by omega)]
      · simp only [List.mem_cons, forall_eq_or_imp]
        refine ⟨⟨Nat.min_le_left _ _, le_refl _, by omega⟩, fun r hrm => ?_⟩
        obtain ⟨h1, h2, h3⟩ := hr r hrm
        exact ⟨h1, by omega, by omega⟩

/-- Whatever lengths the payload's `ReadFile`s complete with, `read` returns the message that
`write` sent and leaves the pipe as it found it past the message, every `WriteFile` and `ReadFile`
staying within `MaxSupportedRead` bytes and inside the payload. -/
theorem pipe_read_returns_written (m : Message) (hm : m.payload.length < 2 ^ 32) (rest : Bytes) :
    (write m).flatten = headerBytes m.toMessageHeader m.payload.length ++ m.payload ∧
      (∀ buf ∈ write m, buf.length ≤ maxSupportedRead) ∧
      (∀ sp ∈ writeSpans m.payload.length 0 m.payload.length, sp.1 + sp.2 ≤ m.payload.length) ∧
      ∃ reqs, read headerSize grant ((write m).flatten ++ rest) = some (m, reqs, rest) ∧
        ∀ r ∈ reqs, r.2 ≤ maxSupportedRead ∧ r.1 + r.2 ≤ m.payload.length := by
  obtain ⟨hw, hsp⟩ := writeSpans_spec m.payload m.payload.length 0 m.payload.length le_rfl
  have hflat : (write m).flatten = headerBytes m.toMessageHeader m.payload.length ++ m.payload := by
    simp only [write, List.flatten_cons, hw, List.drop_zero, List.take_length]
  obtain ⟨reqs, hl, hr⟩ := readLoop_spec grant hg m.payload.length 0 m.payload.length
    (m.payload ++ rest) le_rfl (by simp)
  refine ⟨hflat, ?_, fun sp h => by simpa using (hsp sp h).2.2, reqs, ?_,
    fun r h => ⟨(hr r h).1, by simpa using (hr r h).2.2⟩⟩
  · simp only [write, List.mem_cons, List.mem_map]
    rintro buf (rfl | ⟨sp, h, rfl⟩)
    · simp [headerSize, maxSupportedRead]
    · exact Nat.le_trans (List.length_take_le _ _) (hsp sp h).1
  · have hhd : ((write m).flatten ++ rest).take headerSize =
        headerBytes m.toMessageHeader m.payload.length := by
      rw [hflat, List.append_assoc, List.take_left' (headerBytes_length _ _)]
    have htl : ((write m).flatten ++ rest).drop headerSize = m.payload ++ rest := by
      rw [hflat, List.append_assoc, List.drop_left' (headerBytes_length _ _)]
    have hph : parseHeader (headerBytes m.toMessageHeader m.payload.length) =
        (m.toMessageHeader, m.payload.length) := by
      simpa using parseHeader_headerBytes m.toMessageHeader hm []
    simp [read, hhd, htl, hph, hl]

end

theorem byte_at_a_time_pipe_read :
    ∃ reqs, read headerSize (fun _ _ => 1) (write ⟨.make 7 .request 42, [1, 2, 3]⟩).flatten =
        some (⟨.make 7 .request 42, [1, 2, 3]⟩, reqs, []) ∧
      ∀ r ∈ reqs, r.2 ≤ maxSupportedRead ∧ r.1 + r.2 ≤ 3 := by
  obtain ⟨-, -, -, reqs, h, hr⟩ := pipe_read_returns_written (fun _ _ => 1)
    (fun _ _ h => ⟨le_rfl, h⟩) ⟨.make 7 .request 42, [1, 2, 3]⟩ (by decide) []
  exact ⟨reqs, by simpa using h, hr⟩

def errorFileNotFound : UInt32 := 2

def errorSemTimeout : UInt32 := 121

def errorTimeout : UInt32 := 1460

/-- One turn of the loop `while (retries--)` of `create_client`, the system's answers being
parameters (`none`: success): the transport returned, the Win32 error thrown, or `none` when the
loop goes round again. -/
def attempt (createFile waitPipe setMode : Nat → Option UInt32) (i : Nat) :
    Option (Except UInt32 Nat) :=
  match createFile i with
  | none =>
    match setMode i with
    | none => some (.ok i)
    | some e => some (.error e)
  | some err =>
    if err = errorFileNotFound then
      match waitPipe i with
      | some error => if error ≠ errorSemTimeout then some (.error error) else none
      | none => none
    else some (.error err)

def createClient (createFile waitPipe setMode : Nat → Option UInt32) : Nat → Nat → Except UInt32 Nat
  | 0, _ => .error errorTimeout
  | retries + 1, i =>
    (attempt createFile waitPipe setMode i).getD (createClient createFile waitPipe setMode retries (i + 1))

section CreateClient

variable (createFile waitPipe setMode : Nat → Option UInt32)

theorem attempt_eq_none_iff (i : Nat) :
    attempt createFile waitPipe setMode i = none ↔ createFile i = some errorFileNotFound ∧
      (waitPipe i = none ∨ waitPipe i = some errorSemTimeout) := by
  unfold attempt
  split
  · split <;> simp_all
  · rename_i err hc
    split_ifs with he
    · split
      · rename_i e hw
        split_ifs with hs <;> simp_all
      · simp_all
    · simp_all

theorem createClient_from (retries : Nat) : ∀ i, ∃ j ≤ retries,
    (∀ k < j, attempt createFile waitPipe setMode (i + k) = none) ∧
    (j = retries ∧ createClient createFile waitPipe setMode retries i = .error errorTimeout ∨
      j < retries ∧ attempt createFile waitPipe setMode (i + j) =
        some (createClient createFile waitPipe setMode retries i)) := by
  induction retries with
  | zero => exact fun i => ⟨0, le_rfl, fun k hk => absurd hk (Nat.not_lt_zero k), .inl ⟨rfl, rfl⟩⟩
  | succ retries ih =>
    intro i
    cases ha : attempt createFile waitPipe setMode i with
    | some r =>
      -- attempt `i` ends the loop
      refine ⟨0, Nat.zero_le _, fun k hk => absurd hk (Nat.not_lt_zero k), .inr ⟨Nat.succ_pos _, ?_⟩⟩
      simp [createClient, ha]
    | none =>
      -- attempt `i` goes round, and the loop goes on from `i + 1`
      obtain ⟨j, hj, hk, hend⟩ := ih (i + 1)
      have hc : createClient createFile waitPipe setMode (retries + 1) i =
          createClient createFile waitPipe setMode retries (i + 1) := by simp [createClient, ha]
      refine ⟨j + 1, by omega, fun k hk' => ?_, ?_⟩
      · cases k with
        | zero => exact ha
        | succ k => simpa [Nat.add_assoc, Nat.add_comm 1] using hk k (by omega)
      · rw [hc, show i + (j + 1) = i + 1 + j by omega]
        rcases hend with ⟨rfl, h⟩ | ⟨hlt, h⟩
        · exact .inl ⟨rfl, h⟩
        · exact .inr ⟨by omega, h⟩

/-- Whatever the system answers, `create_client` goes round again only after `CreateFileW` found no
pipe of the name and `WaitNamedPipeW` returned or timed out, and ends at the first attempt that does
not; it throws `ERROR_TIMEOUT` only once all `retries` attempts went round. -/
theorem pipe_client_ends_at_first_decisive_attempt (retries : Nat) : ∃ j ≤ retries,
    (∀ k < j, createFile k = some errorFileNotFound ∧
      (waitPipe k = none ∨ waitPipe k = some errorSemTimeout)) ∧
    (j = retries ∧ createClient createFile waitPipe setMode retries 0 = .error errorTimeout ∨
      j < retries ∧ attempt createFile waitPipe setMode j =
        some (createClient createFile waitPipe setMode retries 0)) := by
  obtain ⟨j, hj, hk, hend⟩ := createClient_from createFile waitPipe setMode retries 0
  simp only [Nat.zero_add] at hk hend
  exact ⟨j, hj, fun k hlt => (attempt_eq_none_iff _ _ _ k).mp (hk k hlt), hend⟩

/-- All pipe instances busy (`ERROR_PIPE_BUSY`, 231): three retries allowed, none used. -/
example : createClient (fun _ => some 231) (fun _ => none) (fun _ => none) 3 0 = .error 231 := rfl

end CreateClient

end AsyncCppRpc.Transport.Pipe
