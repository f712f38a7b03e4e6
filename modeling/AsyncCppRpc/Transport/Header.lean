import AsyncCppRpc.Transport

namespace AsyncCppRpc.Transport

open Wire

def CallType.toBits : CallType → Nat
  | .request => 0
  | .voidRequest => 1
  | .response => 2
  | .responseError => 3

def CallType.ofBits : Nat → CallType
  | 0 => .request
  | 1 => .voidRequest
  | 2 => .response
  | _ => .responseError

@[simp] theorem CallType.ofBits_toBits (t : CallType) : CallType.ofBits t.toBits = t := by
  cases t <;> rfl

theorem CallType.toBits_lt (t : CallType) : t.toBits < 4 := by
  cases t <;> decide

def headerSize : Nat := 12

/-- The object representation of a transport header on x64: the call id in the low 30 bits of the
first word and the type in its top two, then the method id and `payload_size` cast to 32 bits, all
little-endian. -/
def headerBytes (h : MessageHeader) (payloadSize : Nat) : Bytes :=
  leBytes 4 (h.callId.val + callIdBound * h.type.toBits) ++ leBytes 4 h.id.toNat ++
    leBytes 4 payloadSize

/-- The header and `payload_size` that the first 12 bytes of a buffer stand for, as the
transports take them through a `reinterpret_cast`. -/
def parseHeader (bs : Bytes) : MessageHeader × Nat :=
  let w := leValue (bs.take 4)
  (⟨⟨w % callIdBound, Nat.mod_lt _ (by decide)⟩, .ofBits (w / callIdBound),
      UInt32.ofNat (leValue ((bs.drop 4).take 4))⟩,
    leValue ((bs.drop 8).take 4))

@[simp] theorem headerBytes_length (h : MessageHeader) (n : Nat) :
    (headerBytes h n).length = headerSize := by
  simp [headerBytes, headerSize]

theorem headerBytes_mod (h : MessageHeader) (n : Nat) :
    headerBytes h (n % 2 ^ 32) = headerBytes h n := by
  simp only [headerBytes, show (2 : Nat) ^ 32 = 256 ^ 4 from rfl, leBytes_mod]

theorem parseHeader_take (bs : Bytes) : parseHeader (bs.take headerSize) = parseHeader bs := by
  simp [parseHeader, headerSize, List.take_take, List.drop_take]

theorem parseHeader_headerBytes (h : MessageHeader) {n : Nat} (hn : n < 2 ^ 32) (rest : Bytes) :
    parseHeader (headerBytes h n ++ rest) = (h, n) := by
  have hc := h.callId.isLt
  have ht := h.type.toBits_lt
  have hi := uint32_toNat_lt h.id
  have hw : h.callId.val + callIdBound * h.type.toBits < 256 ^ 4 := by
    simp only [callIdBound] at hc ⊢; omega
  have h8 : ∀ l : Bytes, l.drop 8 = (l.drop 4).drop 4 := fun l => (List.drop_drop 4 4 l).symm
  simp only [parseHeader, headerBytes, List.append_assoc, h8,
    List.take_left' (leBytes_length 4 _), List.drop_left' (leBytes_length 4 _),
    leValue_leBytes, Nat.mod_eq_of_lt hw, Nat.mod_eq_of_lt (show n < 256 ^ 4 by simpa using hn),
    Nat.mod_eq_of_lt (show h.id.toNat < 256 ^ 4 by simpa using hi)]
  have h1 : (h.callId.val + callIdBound * h.type.toBits) % callIdBound = h.callId.val := by
    rw [Nat.add_mul_mod_self_left, Nat.mod_eq_of_lt hc]
  have h2 : (h.callId.val + callIdBound * h.type.toBits) / callIdBound = h.type.toBits := by
    rw [Nat.add_mul_div_left _ _ (by decide), Nat.div_eq_of_lt hc, Nat.zero_add]
  simp only [h1, h2, CallType.ofBits_toBits, uint32_ofNat_toNat]

end AsyncCppRpc.Transport
