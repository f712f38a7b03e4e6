import AsyncCppRpc.Wire

namespace AsyncCppRpc.MethodId

/-- `static_cast<uint32_t>(static_cast<char>(c))`. `char` is signed under MSVC, so a byte
from `0x80` up is sign-extended before it is mixed into the hash. -/
def charToUInt32 (c : UInt8) : UInt32 :=
  if c < 128 then c.toUInt32 else c.toUInt32 + 0xFFFFFF00

/-- `fnv::fnv_hash` over the characters of a `char` string: XOR each character in, then
multiply by the FNV prime, modulo `2^32`. -/
def fnvHash (text : List UInt8) : UInt32 :=
  text.foldl (fun val c => (val ^^^ charToUInt32 c) * 16777619) 2166136261

def getMethodId (name : List UInt8) : UInt32 :=
  fnvHash name

def asciiName (s : String) : List UInt8 :=
  s.toList.map fun c => c.toNat.toUInt8

/-- FNV-1a as the spec words it: from the basis `0x811C9DC5`, each byte, taken as an unsigned
octet, is XORed in, then the state is multiplied by the prime `0x01000193` modulo `2^32`. -/
def fnv1a (text : List UInt8) : UInt32 :=
  text.foldl (fun val c => (val ^^^ c.toUInt32) * 16777619) 2166136261

theorem charToUInt32_eq_iff (c : UInt8) : charToUInt32 c = c.toUInt32 ↔ c < 128 := by
  unfold charToUInt32
  split_ifs with h
  · exact iff_of_true rfl h
  · refine iff_of_false (fun e => ?_) h
    have hc : c.toNat < 256 := c.toBitVec.isLt
    have he := congrArg UInt32.toNat e
    rw [Wire.uint32_toNat_add] at he
    exact absurd he (by show (c.toNat + 4294967040) % 2 ^ 32 ≠ c.toNat; omega)

theorem xor_left_cancel {h a b : UInt32} (e : h ^^^ a = h ^^^ b) : a = b := by
  apply UInt32.eq_of_toBitVec_eq
  have e' : h.toBitVec ^^^ a.toBitVec = h.toBitVec ^^^ b.toBitVec := congrArg UInt32.toBitVec e
  calc a.toBitVec = h.toBitVec ^^^ (h.toBitVec ^^^ a.toBitVec) := by
        rw [← BitVec.xor_assoc, BitVec.xor_self, BitVec.zero_xor]
    _ = h.toBitVec ^^^ (h.toBitVec ^^^ b.toBitVec) := by rw [e']
    _ = b.toBitVec := by rw [← BitVec.xor_assoc, BitVec.xor_self, BitVec.zero_xor]

theorem mul_fnvPrime_cancel {a b : UInt32} (e : a * 16777619 = b * 16777619) : a = b := by
  apply UInt32.eq_of_toBitVec_eq
  have e' : a.toBitVec * 16777619#32 = b.toBitVec * 16777619#32 := congrArg UInt32.toBitVec e
  have hinv : 16777619#32 * 899433627#32 = 1#32 := by decide
  calc a.toBitVec = a.toBitVec * 16777619#32 * 899433627#32 := by
        rw [BitVec.mul_assoc, hinv, BitVec.mul_one]
    _ = b.toBitVec * 16777619#32 * 899433627#32 := by rw [e']
    _ = b.toBitVec := by rw [BitVec.mul_assoc, hinv, BitVec.mul_one]

theorem fnvHash_nil : fnvHash [] = fnv1a [] := by
  simp [fnvHash, fnv1a]

theorem fnvHash_snoc (p : List UInt8) (c : UInt8) :
    fnvHash (p ++ [c]) = (fnvHash p ^^^ charToUInt32 c) * 16777619 := by
  simp [fnvHash, List.foldl_append]

theorem fnv1a_snoc (p : List UInt8) (c : UInt8) :
    fnv1a (p ++ [c]) = (fnv1a p ^^^ c.toUInt32) * 16777619 := by
  simp [fnv1a, List.foldl_append]

theorem fnvHash_snoc_eq_iff {p : List UInt8} (h : fnvHash p = fnv1a p) (c : UInt8) :
    fnvHash (p ++ [c]) = fnv1a (p ++ [c]) ↔ c < 128 := by
  rw [fnvHash_snoc, fnv1a_snoc, h, ← charToUInt32_eq_iff]
  exact ⟨fun e => xor_left_cancel (mul_fnvPrime_cancel e), fun e => by rw [e]⟩

theorem fnvHash_eq_fnv1a_of_ascii (s : List UInt8) (hs : ∀ c ∈ s, c < 128) :
    fnvHash s = fnv1a s := by
  induction s using List.reverseRecOn with
  | nil => exact fnvHash_nil
  | append_singleton p c ih =>
    have hp := ih fun c' h => hs c' (List.mem_append_left _ h)
    exact (fnvHash_snoc_eq_iff hp c).mpr
      (hs c (List.mem_append_right _ (List.mem_singleton_self c)))

/-- `fnv_hash` is FNV-1a on every ASCII name, but `char` is signed under MSVC: from a state where
the two hashes agree, a byte from `0x80` up, sign-extended before it is XORed in, makes them
differ. -/
theorem fnvHash_agrees_only_on_ascii :
    (∀ name, (∀ c ∈ name, c < 128) → getMethodId name = fnv1a name) ∧
      ∀ p c, fnvHash p = fnv1a p → (fnvHash (p ++ [c]) = fnv1a (p ++ [c]) ↔ c < 128) :=
  ⟨fnvHash_eq_fnv1a_of_ascii, fun _ c h => fnvHash_snoc_eq_iff h c⟩

theorem high_byte_hash_differs :
    fnvHash [0x80] = 0x04F3B29F ∧ fnv1a [0x80] = 0x850B939F ∧ fnvHash [0x80] ≠ fnv1a [0x80] :=
  ⟨by decide, by decide, fun e => absurd ((fnvHash_agrees_only_on_ascii.2 [] 0x80 fnvHash_nil).mp e)
    (by decide)⟩

end AsyncCppRpc.MethodId
