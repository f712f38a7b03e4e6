import AsyncCppRpc.Wire

namespace AsyncCppRpc.Codec

open Wire

/-- The C++ types the codec dispatches on, as syntax, since `Writer::write` and `Reader::read` pick
their branch at compile time. `list` stands for the node-based sequences, `set` for the associative
containers and `custom` for a type with hooks. -/
inductive Ty where
  | scalar (size : Nat)
  | string (charSize : Nat)
  | stringView (charSize : Nat)
  | span (elem : Ty) (readOnly : Bool)
  | vector (elem : Ty)
  | array (n : Nat) (elem : Ty)
  | list (elem : Ty)
  | set (elem : Ty)
  | optional (t : Ty)
  | expected (t e : Ty)
  | pair (a b : Ty)
  | tuple (ts : List Ty)
  | variant (ts : List Ty)
  | described (ts : List Ty)
  | reflected (ts : List Ty)
  | custom (hook : Nat) (trivial : Bool)
  deriving Inhabited, Repr

inductive Val where
  | bytes (bs : Bytes)
  | seq (vs : List Val)
  | opt (v : Option Val)
  | value (v : Val)
  | unexpected (e : Val)
  | pair (a b : Val)
  | alt (index : Nat) (v : Val)
  deriving Inhabited, Repr

def Val.elems : Val → List Val
  | .seq vs => vs
  | _ => []

def Val.raw : Val → Bytes
  | .bytes bs => bs
  | _ => []

/-- `std::is_trivially_copyable_v<T>`, as MSVC's standard library gives it: `optional` and
`variant` of trivially copyable types are trivially copyable, `pair` and `tuple` are not. -/
def Ty.trivial : Ty → Bool
  | .scalar _ | .stringView _ | .span _ _ => true
  | .string _ | .vector _ | .list _ | .set _ | .pair _ _ | .tuple _ | .reflected _ => false
  | .array _ t | .optional t => t.trivial
  | .expected t e => t.trivial && e.trivial
  | .variant ts | .described ts => allTrivial ts
  | .custom _ tc => tc
termination_by structural t => t
where
  allTrivial : List Ty → Bool
    | [] => true
    | t :: ts => t.trivial && allTrivial ts
  termination_by structural ts => ts

/-- What the compiler fixes for trivially copyable types: the size of each, the bytes of each value
and the value those bytes stand for. `nodeBytes` is what `Writer::add` copies from the first element
of a node-based container, `sizeof(T) * n` bytes of whatever lies in memory there. -/
structure Layout where
  sizeOf : Ty → Nat
  image : Ty → Val → Bytes
  fromImage : Ty → Bytes → Val
  nodeBytes : Ty → List Val → Bytes

def Layout.x64 : Layout where
  sizeOf
    | .scalar n => n
    | _ => 16
  image _ v := v.raw
  fromImage _ bs := .bytes bs
  nodeBytes t
    | [] => []
    | v :: vs => v.raw ++ List.replicate ((match t with | .scalar n => n | _ => 16) * vs.length) 0

structure Hook (σ : Type) where
  write : σ → Val → Bytes
  read : σ → Bytes → Option (Val × Bytes)

def Hook.none : Nat → Hook Unit := fun _ => ⟨fun _ _ => [], fun _ _ => Option.none⟩

/-- The `uint32_t` that prefixes a string or a range: the size cast to 32 bits. -/
def writeU32 (n : Nat) : Bytes := leBytes 4 n

def writeBool (b : Bool) : Bytes := [if b then 1 else 0]

end AsyncCppRpc.Codec
