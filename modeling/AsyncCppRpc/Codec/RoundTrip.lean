import AsyncCppRpc.Codec.Writer
import AsyncCppRpc.Codec.Reader

namespace AsyncCppRpc.Codec

open Wire

theorem readBytes_append (xs rest : Bytes) :
    (readBytes xs.length).run (xs ++ rest) = some (xs, rest) := by
  simp [readBytes, StateT.run]

theorem readBytes_short {n : Nat} {bs : Bytes} (h : bs.length < n) :
    (readBytes n).run bs = none := by
  simp [readBytes, StateT.run, Nat.not_le.mpr h]

theorem readU32_writeU32 {n : Nat} (hn : n < 2 ^ 32) (rest : Bytes) :
    readU32.run (writeU32 n ++ rest) = some (n, rest) := by
  have h := readBytes_append (writeU32 n) rest
  simp only [writeU32, leBytes_length] at h
  simp only [readU32, StateT.run_map, writeU32, h, Option.map_eq_map, Option.map_some',
    leValue_leBytes, Nat.mod_eq_of_lt (show n < 256 ^ 4 by simpa using hn)]

variable {σ : Type} (L : Layout) (hooks : Nat → Hook σ) (st : σ)

theorem readBulk_zero (t : Ty) : readBulk L t 0 = pure [] := by
  funext bs
  simp [readBulk, readBytes, chunks, Functor.map, StateT.map, pure, StateT.pure]

theorem readBulk_succ (t : Ty) (n : Nat) :
    readBulk L t (n + 1) =
      readImage L t >>= fun v => readBulk L t n >>= fun vs => pure (v :: vs) := by
  funext bs
  have hlen : (n + 1) * L.sizeOf t = L.sizeOf t + n * L.sizeOf t := by rw [Nat.succ_mul]; omega
  simp only [readBulk, readImage, readBytes, hlen, Functor.map, StateT.map, bind, StateT.bind,
    pure, StateT.pure]
  by_cases h1 : L.sizeOf t + n * L.sizeOf t ≤ bs.length
  · have h2 : L.sizeOf t ≤ bs.length := by omega
    have h3 : n * L.sizeOf t ≤ bs.length - L.sizeOf t := by omega
    simp [h1, h2, h3, chunks, List.take_take, List.drop_take, List.drop_drop, Nat.add_comm]
  · by_cases h2 : L.sizeOf t ≤ bs.length
    · have h3 : ¬ n * L.sizeOf t ≤ bs.length - L.sizeOf t := by omega
      simp [h1, h2, h3]
    · simp [h1, h2]

/-- A node-based container of trivially copyable elements does not survive the codec, whose bulk
branches assume contiguous storage: reading into a `std::set` does not compile, and reading a list
of two or more elements copies past its first node. -/
theorem node_range_of_trivial_not_decoded (t : Ty) (ht : t.trivial = true) (vs : List Val)
    (hlen : vs.length < 2 ^ 32) (rest : Bytes) :
    decode L hooks st (.set t) (write L hooks st (.set t) (.seq vs) ++ rest) = none ∧
      (2 ≤ vs.length →
        decode L hooks st (.list t) (write L hooks st (.list t) (.seq vs) ++ rest) = none) := by
  refine ⟨by simp [decode, Codec.read, ht]; rfl, fun h2 => ?_⟩
  simp only [decode, write, Val.elems, writeRange, ht, if_true, List.append_assoc, Codec.read,
    StateT.run_bind, readU32_writeU32 hlen, Option.bind_eq_bind, Option.some_bind,
    show ¬vs.length ≤ 1 by omega, if_false]
  rfl

theorem list_of_int_not_decoded :
    (Ty.scalar 4).trivial = true ∧ [Val.bytes [1, 0, 0, 0], .bytes [2, 0, 0, 0]].length < 2 ^ 32 ∧
      decode .x64 Hook.none () (.set (.scalar 4))
          (write .x64 Hook.none () (.set (.scalar 4)) (.seq [.bytes [1, 0, 0, 0], .bytes [2, 0, 0, 0]])) =
        none ∧
      decode .x64 Hook.none () (.list (.scalar 4))
          (write .x64 Hook.none () (.list (.scalar 4)) (.seq [.bytes [1, 0, 0, 0], .bytes [2, 0, 0, 0]])) =
        none := by
  obtain ⟨hs, hl⟩ := node_range_of_trivial_not_decoded .x64 Hook.none () (.scalar 4) rfl
    [.bytes [1, 0, 0, 0], .bytes [2, 0, 0, 0]] (by decide) []
  exact ⟨rfl, by decide, by simpa using hs, by simpa using hl (by decide)⟩

end AsyncCppRpc.Codec
