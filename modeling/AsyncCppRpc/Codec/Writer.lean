import AsyncCppRpc.Codec.Types

namespace AsyncCppRpc.Codec

open Wire

variable {σ : Type} (L : Layout) (hooks : Nat → Hook σ) (st : σ)

/-- `Writer::write(begin, end, std::true_type)`: the elements copied from memory. A contiguous
range gives the images of its elements side by side; for a node-based container the copy
starts at the first element and runs on through whatever memory follows it. -/
def writeBulk (t : Ty) (contiguous : Bool) (vs : List Val) : Bytes :=
  if vs.isEmpty then [] else if contiguous then (vs.map (L.image t)).flatten else L.nodeBytes t vs

def writeRange (t : Ty) (elem : Val → Bytes) (contiguous : Bool) (vs : List Val) : Bytes :=
  writeU32 vs.length ++ if t.trivial then writeBulk L t contiguous vs else (vs.map elem).flatten

/-- `Writer::write` for every type: the generic dispatch (hook, description, range, trivially
copyable bytes, cista reflection) and the overloads for strings, `optional`, `expected`, `pair`,
`tuple` and `variant`. -/
def write : Ty → Val → Bytes
  | .custom k _, v => (hooks k).write st v
  | .described ts, v => writeFields ts v.elems
  | .scalar _, v => v.raw
  | .string c, v => writeU32 v.elems.length ++ writeBulk L (.scalar c) true v.elems
  | .stringView c, v => writeU32 v.elems.length ++ writeBulk L (.scalar c) true v.elems
  | .span t _, v => writeRange L t (write t) true v.elems
  | .vector t, v => writeRange L t (write t) true v.elems
  | .array _ t, v => writeRange L t (write t) true v.elems
  | .list t, v => writeRange L t (write t) false v.elems
  | .set t, v => writeRange L t (write t) false v.elems
  | .optional t, v => match v with
    | .opt (some x) => writeBool true ++ write t x
    | _ => writeBool false
  | .expected t e, v => match v with
    | .value x => writeBool true ++ write t x
    | .unexpected x => writeBool false ++ write e x
    | _ => []
  | .pair a b, v => match v with
    | .pair x y => write a x ++ write b y
    | _ => []
  | .tuple ts, v => writeFields ts v.elems
  | .variant ts, v => match v with
    | .alt i x => leBytes 2 i ++ writeAlt ts i x
    | _ => []
  | .reflected ts, v => writeFields ts v.elems
termination_by structural t => t
where
  writeFields : List Ty → List Val → Bytes
    | t :: ts, v :: vs => write t v ++ writeFields ts vs
    | _, _ => []
  termination_by structural ts => ts
  writeAlt : List Ty → Nat → Val → Bytes
    | t :: _, 0, v => write t v
    | _ :: ts, i + 1, v => writeAlt ts i v
    | [], _, _ => []
  termination_by structural ts => ts

/-- `create_writer_with_state(state, args...)`: the arguments written one after another. -/
def createWriterWithState (args : List (Ty × Val)) : Bytes :=
  (args.map fun a => write L hooks st a.1 a.2).flatten

end AsyncCppRpc.Codec
