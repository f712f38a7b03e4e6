import AsyncCppRpc.Codec.Types

namespace AsyncCppRpc.Codec

open Wire

/-- A `Reader` step: the memory from the cursor on goes in, the span's bytes and whatever lies after
them, and the value read and what is left come out. `none` is a read past the memory given, a copy
into memory that is not the target's, or a read that does not compile. -/
abbrev Reading := StateT Bytes Option

/-- `Reader::read(std::byte *, size_t)`: copy `size` bytes from the cursor. The C++ code never
compares the cursor with the end of the span. -/
def readBytes (size : Nat) : Reading Bytes := fun bs =>
  if size ≤ bs.length then some (bs.take size, bs.drop size) else none

def readU32 : Reading Nat := leValue <$> readBytes 4

def readU16 : Reading Nat := leValue <$> readBytes 2

def readBool : Reading Bool := (fun bs => bs != [0]) <$> readBytes 1

def chunks (size : Nat) : Nat → Bytes → List Bytes
  | 0, _ => []
  | n + 1, bs => bs.take size :: chunks size n (bs.drop size)

def readTimes (r : Reading Val) : Nat → Reading (List Val)
  | 0 => pure []
  | n + 1 => do
    let v ← r
    let vs ← readTimes r n
    pure (v :: vs)

variable {σ : Type} (L : Layout) (hooks : Nat → Hook σ) (st : σ)

/-- `Reader::read(begin, end, std::true_type)` after `resize(n)`: `sizeof(T) * n` bytes copied
over the elements, each element the value its bytes stand for. -/
def readBulk (t : Ty) (n : Nat) : Reading (List Val) :=
  (fun bs => (chunks (L.sizeOf t) n bs).map (L.fromImage t)) <$> readBytes (n * L.sizeOf t)

def readImage (t : Ty) : Reading Val :=
  L.fromImage t <$> readBytes (L.sizeOf t)

/-- `Reader::read` into a default-constructed value of every type, a range of trivially copyable
elements taking the bulk copy of `read_range`. That copy does not compile into a view, a `const`
span or a `set`, and into a list of two or more elements it writes past the first node. -/
def read : Ty → Reading Val
  | .custom k _ => fun bs => (hooks k).read st bs
  | .described ts => .seq <$> readFields ts
  | .scalar n => .bytes <$> readBytes n
  | .string c => do
    let n ← readU32
    .seq <$> readBulk L (.scalar c) n
  | .stringView _ => failure
  | .span t readOnly => if t.trivial && !readOnly then do
      let _ ← readU32
      pure (.seq [])
    else failure
  | .vector t => do
    let n ← readU32
    .seq <$> if t.trivial then readBulk L t n else readTimes (read t) n
  | .array k t => if t.trivial then do
      let _ ← readU32
      .seq <$> readBulk L t k
    else failure
  | .list t => do
    let n ← readU32
    if t.trivial then (if n ≤ 1 then .seq <$> readBulk L t n else failure)
    else .seq <$> readTimes (read t) n
  | .set t => if t.trivial then failure else do
    let n ← readU32
    .seq <$> readTimes (read t) n
  | .optional t => do
    if ← readBool then (fun v => .opt (some v)) <$> read t else pure (.opt none)
  | .expected t e => do
    if ← readBool then .value <$> read t else .unexpected <$> read e
  | .pair a b => do
    let x ← read a
    let y ← read b
    pure (.pair x y)
  | .tuple ts => .seq <$> readFields ts
  | .variant ts => do
    let i ← readU16
    .alt i <$> readAlt ts i
  | .reflected ts => .seq <$> readFields ts
termination_by structural t => t
where
  readFields : List Ty → Reading (List Val)
    | [] => pure []
    | t :: ts => do
      let v ← read t
      let vs ← readFields ts
      pure (v :: vs)
  termination_by structural ts => ts
  /-- `mp_with_index<sizeof...(Ts)>(index, ...)`: an index past the alternatives is undefined. -/
  readAlt : List Ty → Nat → Reading Val
    | t :: _, 0 => read t
    | _ :: ts, i + 1 => readAlt ts i
    | [], _ => failure
  termination_by structural ts => ts

/-- `Reader{data, state} >> result` as `marshal_client::unmarshal` and `dispatch` use it: the
value read into a default-constructed `T`, and what is left of the memory from `data` on. -/
def decode (t : Ty) (data : Bytes) : Option (Val × Bytes) :=
  (read L hooks st t).run data

end AsyncCppRpc.Codec
