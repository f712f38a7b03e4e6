import AsyncCppRpc.Transport.Header
import AsyncCppRpc.MethodId

namespace AsyncCppRpc.Transport.CopyData

open Wire MethodId

/-- `CALL_ID`: `fnv::fnv_hash("AsyncCppRpc-CopyData-Transport")`, the `dwData` that marks the
transport's `WM_COPYDATA` messages. -/
def callId : UInt32 :=
  fnvHash (asciiName "AsyncCppRpc-CopyData-Transport")

theorem callId_eq_fnv1a : callId = fnv1a (asciiName "AsyncCppRpc-CopyData-Transport") :=
  fnvHash_eq_fnv1a_of_ascii _ (by decide)

structure CopyDataStruct where
  dwData : Nat
  cbData : UInt32
  lpData : Bytes
  deriving DecidableEq, Repr

/-- `copydata_transport::write(message)`: the send buffer holds the header with `payload_size`
and then the payload, and `cbData` is its size cast to `DWORD`. -/
def write (m : Message) : CopyDataStruct :=
  let sendBuffer := headerBytes m.toMessageHeader m.payload.length ++ m.payload
  ⟨callId.toNat, UInt32.ofNat sendBuffer.length, sendBuffer⟩

def readData (cs : CopyDataStruct) (off len : Nat) : Option Bytes :=
  if off + len ≤ cs.cbData.toNat then some ((cs.lpData.drop off).take len) else none

/-- `copydata_transport::on_copydata(caller, cs)`: the message it pushes, if any, and `none` for a
read past the first `cbData` bytes. The sum `payload_size + sizeof(header)` is computed in a
`size_t` of `sizeBits` bits. -/
def onCopydata (sizeBits : Nat) (cs : CopyDataStruct) : Option (Option Message) :=
  if cs.dwData = callId.toNat then
    if headerSize ≤ cs.cbData.toNat then do
      let header ← readData cs 0 headerSize
      let (h, size) := parseHeader header
      if (size + headerSize) % 2 ^ sizeBits = cs.cbData.toNat then do
        let payload ← readData cs headerSize size
        pure (some ⟨h, payload⟩)
      else pure none
    else pure none
  else pure none

theorem parseHeader_size_lt (bs : Bytes) : (parseHeader bs).2 < 2 ^ 32 :=
  calc (parseHeader bs).2 < 256 ^ ((bs.drop 8).take 4).length := leValue_lt _
    _ ≤ 256 ^ 4 := Nat.pow_le_pow_right (by decide) (List.length_take_le _ _)
    _ = 2 ^ 32 := rfl

theorem size_add_header {size cb W : Nat} (hW : 2 ^ 32 ≤ W) (hs : size < 2 ^ 32)
    (hcb : headerSize ≤ cb) (h : (size + headerSize) % W = cb) : size + headerSize = cb := by
  unfold headerSize at *
  by_cases hlt : size + 12 < W
  · rwa [Nat.mod_eq_of_lt hlt] at h
  · have hw : (size + 12) % W = size + 12 - W := by
      rw [Nat.mod_eq_sub_mod (by omega), Nat.mod_eq_of_lt (by omega)]
    omega

theorem onCopydata_eq {sizeBits : Nat} (hw : 32 ≤ sizeBits) (cs : CopyDataStruct) :
    onCopydata sizeBits cs =
      some (if cs.dwData = callId.toNat ∧
          cs.cbData.toNat = headerSize + (parseHeader cs.lpData).2 then
        some ⟨(parseHeader cs.lpData).1,
          (cs.lpData.drop headerSize).take (parseHeader cs.lpData).2⟩
        else none) := by
  have hW : 2 ^ 32 ≤ 2 ^ sizeBits := Nat.pow_le_pow_right (by decide) hw
  have hs := parseHeader_size_lt cs.lpData
  have hcb := uint32_toNat_lt cs.cbData
  by_cases hd : cs.dwData = callId.toNat
  · by_cases hc : headerSize ≤ cs.cbData.toNat
    · have hh : readData cs 0 headerSize = some (cs.lpData.take headerSize) := by
        simp [readData, hc]
      by_cases hm : ((parseHeader cs.lpData).2 + headerSize) % 2 ^ sizeBits = cs.cbData.toNat
      · have he := size_add_header hW hs hc hm
        have hp : readData cs headerSize (parseHeader cs.lpData).2 =
            some ((cs.lpData.drop headerSize).take (parseHeader cs.lpData).2) := by
          simp [readData, show headerSize + (parseHeader cs.lpData).2 ≤ cs.cbData.toNat by omega]
        have he' : cs.cbData.toNat = headerSize + (parseHeader cs.lpData).2 := by omega
        simp [onCopydata, hd, hc, hh, parseHeader_take, hm, hp, he']
      · have hne : cs.cbData.toNat ≠ headerSize + (parseHeader cs.lpData).2 := fun he => hm (by
          rw [Nat.add_comm, ← he, Nat.mod_eq_of_lt (Nat.lt_of_lt_of_le hcb hW)])
        simp [onCopydata, hd, hc, hh, parseHeader_take, hm, hne]
    · have hne : cs.cbData.toNat ≠ headerSize + (parseHeader cs.lpData).2 := by omega
      simp [onCopydata, hd, hc, hne]
  · simp [onCopydata, hd]

/-- `on_copydata` reads only the first `cbData` bytes and pushes a message only when `dwData` is
`CALL_ID` and `cbData` is the header's size plus its `payload_size`; what `write` builds for a
payload under `2^32 - 12` bytes makes it push exactly that message. -/
theorem copydata_delivers_exactly (sizeBits : Nat) (hw : 32 ≤ sizeBits) :
    (∀ m : Message, m.payload.length < 2 ^ 32 - headerSize →
      onCopydata sizeBits (write m) = some (some m)) ∧
      ∀ cs, ∃ r, onCopydata sizeBits cs = some r ∧
        ∀ m, r = some m → cs.dwData = callId.toNat ∧
          cs.cbData.toNat = headerSize + (parseHeader cs.lpData).2 ∧
          m = ⟨(parseHeader cs.lpData).1,
            (cs.lpData.drop headerSize).take (parseHeader cs.lpData).2⟩ := by
  refine ⟨fun m hm => ?_, fun cs => ⟨_, onCopydata_eq hw cs, fun m hr => ?_⟩⟩
  · have hlen : (headerBytes m.toMessageHeader m.payload.length ++ m.payload).length =
        headerSize + m.payload.length := by simp
    have hcb : (write m).cbData.toNat = headerSize + m.payload.length := by
      show (UInt32.ofNat
        (headerBytes m.toMessageHeader m.payload.length ++ m.payload).length).toNat = _
      rw [hlen]
      exact UInt32.toNat_ofNat_of_lt (by unfold headerSize at hm ⊢; show _ < 4294967296; omega)
    have hph : parseHeader (write m).lpData = (m.toMessageHeader, m.payload.length) :=
      parseHeader_headerBytes _ (by unfold headerSize at hm; omega) _
    rw [onCopydata_eq hw, if_pos ⟨rfl, by rw [hcb, hph]⟩, hph]
    simp [write, List.drop_left' (headerBytes_length _ _)]
  · split_ifs at hr with h
    exact ⟨h.1, h.2, (Option.some.inj hr).symm⟩

theorem copydata_round_trip_and_wrapped_size :
    onCopydata 64 (write ⟨.make 7 .request 42, [1, 2, 3]⟩) =
        some (some ⟨.make 7 .request 42, [1, 2, 3]⟩) ∧
      onCopydata 32 ⟨callId.toNat, 12, headerBytes (.make 7 .request 42) (2 ^ 32 - 1)⟩ =
        some none := by
  refine ⟨(copydata_delivers_exactly 64 (by decide)).1 _ (by decide), ?_⟩
  obtain ⟨r, hr, honly⟩ := (copydata_delivers_exactly 32 le_rfl).2
    ⟨callId.toNat, 12, headerBytes (.make 7 .request 42) (2 ^ 32 - 1)⟩
  cases r with
  | none => exact hr
  | some m => exact absurd (honly m rfl).2.1 (by decide)

end AsyncCppRpc.Transport.CopyData
