import AsyncCppRpc.Wire

namespace AsyncCppRpc.Transport

open Wire

/-- `call_type`, the two-bit tag of a message. -/
inductive CallType where
  | request
  | voidRequest
  | response
  | responseError
  deriving DecidableEq, Repr

def callIdBound : Nat := 2 ^ 30

/-- `message_header`. The call id is a 30-bit bit-field, so it holds fewer values than the
32-bit counter it is taken from. -/
structure MessageHeader where
  callId : Fin callIdBound
  type : CallType
  id : UInt32
  deriving DecidableEq, Repr

def MessageHeader.make (callId : UInt32) (type : CallType) (id : UInt32) : MessageHeader :=
  ⟨⟨callId.toNat % callIdBound, Nat.mod_lt _ (by decide)⟩, type, id⟩

structure Message extends MessageHeader where
  payload : Bytes
  deriving DecidableEq, Repr

def hresultPayload (hr : UInt32) : Bytes := leBytes 4 hr.toNat

@[simp] theorem make_callId (callId : UInt32) (type : CallType) (id : UInt32) :
    (MessageHeader.make callId type id).callId.val = callId.toNat % callIdBound := rfl

@[simp] theorem make_type (callId : UInt32) (type : CallType) (id : UInt32) :
    (MessageHeader.make callId type id).type = type := rfl

@[simp] theorem make_id (callId : UInt32) (type : CallType) (id : UInt32) :
    (MessageHeader.make callId type id).id = id := rfl

@[simp] theorem hresultPayload_length (hr : UInt32) : (hresultPayload hr).length = 4 := by
  simp [hresultPayload]

end AsyncCppRpc.Transport
