import AsyncCppRpc.Codec.Writer
import AsyncCppRpc.Codec.Reader
import AsyncCppRpc.Codec.RoundTrip

namespace AsyncCppRpc.Marshal

open Wire Codec

/-- `get_storage_type<T>()`: the type a server stores an argument of type `T` in. A span is
meant to become an owning vector and a string view a string; only the top level is looked at. -/
def getStorageType : Ty → Ty
  | .span t readOnly => .vector (.span t readOnly)
  | .stringView c => .string c
  | t => t

def storedArgsT (args : List Ty) : Ty :=
  .tuple (args.map getStorageType)

def ownsData : Ty → Bool
  | .stringView _ | .span _ _ => false
  | .scalar _ | .string _ | .custom _ _ => true
  | .vector t | .array _ t | .list t | .set t | .optional t => ownsData t
  | .expected t e | .pair t e => ownsData t && ownsData e
  | .tuple ts | .variant ts | .described ts | .reflected ts => allOwnData ts
termination_by structural t => t
where
  allOwnData : List Ty → Bool
    | [] => true
    | t :: ts => ownsData t && allOwnData ts
  termination_by structural ts => ts

variable {σ : Type} (L : Layout) (hooks : Nat → Hook σ) (st : σ)

theorem span_argument_decode_overruns (t : Ty) (ro : Bool) (ht : t.trivial = true) (v : Val)
    (hlen : (L.image t v).length < L.sizeOf (.span t ro)) :
    decode L hooks st (storedArgsT [.span t ro])
      (createWriterWithState L hooks st [(.span t ro, .seq [v])]) = none := by
  have hb : (L.image t v).length < 1 * L.sizeOf (.span t ro) := by simpa using hlen
  simp only [decode, createWriterWithState, storedArgsT, getStorageType, List.map, write,
    Val.elems, writeRange, ht, if_true, writeBulk, List.isEmpty_cons, Bool.false_eq_true, if_false,
    List.flatten_cons, List.flatten_nil, List.append_nil, Codec.read, Codec.read.readFields, Ty.trivial,
    StateT.run_bind, StateT.run_map, List.length_singleton, readU32_writeU32 (by decide : 1 < 2 ^ 32),
    Option.bind_eq_bind, Option.some_bind, readBulk, readBytes_short hb, Option.map_eq_map,
    Option.map_none', Option.none_bind]

/-- The stored tuple keeps views: a span argument is stored as a vector of spans, whose bulk read
runs past the payload the stub built from a one-element span, and a view nested in an argument is
stored as it is. -/
theorem storage_keeps_views (t : Ty) (ro : Bool) (c : Nat) (ht : t.trivial = true) (v : Val)
    (hlen : (L.image t v).length < L.sizeOf (.span t ro)) :
    getStorageType (.span t ro) = .vector (.span t ro) ∧
      decode L hooks st (storedArgsT [.span t ro])
        (createWriterWithState L hooks st [(.span t ro, .seq [v])]) = none ∧
      ownsData (storedArgsT [.vector (.stringView c)]) = false :=
  ⟨rfl, span_argument_decode_overruns L hooks st t ro ht v hlen, rfl⟩

theorem span_of_int_argument_fails :
    (Ty.scalar 4).trivial = true ∧
      (Layout.x64.image (.scalar 4) (.bytes [7, 0, 0, 0])).length <
        Layout.x64.sizeOf (.span (.scalar 4) true) ∧
      getStorageType (.span (.scalar 4) true) = .vector (.span (.scalar 4) true) ∧
      decode .x64 Hook.none () (storedArgsT [.span (.scalar 4) true])
        (createWriterWithState .x64 Hook.none ()
          [(.span (.scalar 4) true, .seq [.bytes [7, 0, 0, 0]])]) =
          none ∧
      ownsData (storedArgsT [.vector (.stringView 1)]) = false :=
  ⟨rfl, by decide, storage_keeps_views .x64 Hook.none () (.scalar 4) true 1 rfl
    (.bytes [7, 0, 0, 0]) (by decide)⟩

end AsyncCppRpc.Marshal
