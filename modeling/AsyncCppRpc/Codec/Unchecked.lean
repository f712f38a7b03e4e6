import AsyncCppRpc.Codec.RoundTrip

namespace AsyncCppRpc.Codec

open Wire

theorem readU16_leBytes {i : Nat} (hi : i < 2 ^ 16) (rest : Bytes) :
    readU16.run (leBytes 2 i ++ rest) = some (i, rest) := by
  have h := readBytes_append (leBytes 2 i) rest
  simp only [leBytes_length] at h
  simp only [readU16, StateT.run_map, h, Option.map_eq_map, Option.map_some', leValue_leBytes,
    Nat.mod_eq_of_lt (show i < 256 ^ 2 by simpa using hi)]

theorem readBytes_past {n : Nat} (bs after : Bytes) (h : bs.length ≤ n)
    (h' : n ≤ bs.length + after.length) :
    (readBytes n).run (bs ++ after) =
      some (bs ++ after.take (n - bs.length), after.drop (n - bs.length)) := by
  simp [readBytes, StateT.run, h', List.take_append_eq_append_take,
    List.drop_append_eq_append_drop, List.take_of_length_le h, List.drop_eq_nil_of_le h]

variable {σ : Type} (L : Layout) (hooks : Nat → Hook σ) (st : σ)

theorem readBulk_past {t : Ty} {k : Nat} (bs after : Bytes) (h : bs.length ≤ k * L.sizeOf t)
    (h' : k * L.sizeOf t ≤ bs.length + after.length) :
    (readBulk L t k).run (bs ++ after) =
      some ((chunks (L.sizeOf t) k (bs ++ after.take (k * L.sizeOf t - bs.length))).map
        (L.fromImage t), after.drop (k * L.sizeOf t - bs.length)) := by
  simp only [readBulk, StateT.run_map, readBytes_past bs after h h', Option.map_eq_map,
    Option.map_some']

end AsyncCppRpc.Codec
