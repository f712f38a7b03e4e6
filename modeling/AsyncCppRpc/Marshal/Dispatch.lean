import AsyncCppRpc.Codec.Codable
import AsyncCppRpc.Marshal.Storage
import AsyncCppRpc.Connection.State

namespace AsyncCppRpc.Marshal

open Wire Codec MethodId Connection

inductive Returns where
  | void
  | futureVoid
  | future (r : Ty)

def Returns.isVoid : Returns → Bool
  | .void => true
  | _ => false

/-- A described member `method<R(Args...)>`: its name, argument types and return type. -/
structure MethodSig where
  name : List UInt8
  args : List Ty
  returns : Returns

def MethodSig.decl (m : MethodSig) : MethodDecl := ⟨m.name, m.returns.isVoid⟩

inductive ImplResult where
  | value (v : Val)
  | hresult (hr : UInt32)
  | other

def ImplResult.complete (enc : Val → Bytes) : ImplResult → DispatchResult
  | .value v => .ok (enc v)
  | .hresult hr => .hresult hr
  | .other => .other

inductive VoidDispatch where
  | notImplemented
  | skipped
  | invoked (ordinal : Nat) (args : List Val)

variable {σ : Type} (L : Layout) (hooks : Nat → Hook σ) (st : σ)

/-- The lambda that `dispatch` runs through `mp_with_index` for ordinal `o`: the method's
`stored_args_t` read from the data and `impl o args` awaited, a `void` method not being called and
getting an empty reply. -/
def dispatchMethod (iface : List MethodSig) (impl : Nat → List Val → ImplResult) (o : Nat)
    (data : Bytes) : Option DispatchResult :=
  match iface[o]? with
  | none => none
  | some m => (decode L hooks st (storedArgsT m.args) data).map fun r =>
    match m.returns with
    | .void => .ok []
    | .futureVoid => (impl o r.1.elems).complete fun _ => []
    | .future res => (impl o r.1.elems).complete (write L hooks st res)

/-- `marshal_server::dispatch(name, data)`: the method that `lower_bound` and the name check
find, or `E_NOTIMPL`. -/
def dispatch (iface : List MethodSig) (impl : Nat → List Val → ImplResult) (name : UInt32)
    (data : Bytes) : Option DispatchResult :=
  match findMethod (buildMethodMap (iface.map (·.name))) name with
  | none => some (.hresult eNotImpl)
  | some o => dispatchMethod L hooks st iface impl o data

def voidDispatchMethod (iface : List MethodSig) (o : Nat) (data : Bytes) : Option VoidDispatch :=
  match iface[o]? with
  | none => none
  | some m => match m.returns with
    | .void => (decode L hooks st (storedArgsT m.args) data).map fun r => .invoked o r.1.elems
    | _ => some .skipped

def voidDispatch (iface : List MethodSig) (name : UInt32) (data : Bytes) : Option VoidDispatch :=
  match findMethod (buildMethodMap (iface.map (·.name))) name with
  | none => some .notImplemented
  | some o => voidDispatchMethod L hooks st iface o data

def unmarshal (r : Ty) (data : Bytes) : Option Val :=
  (decode L hooks st r data).map (·.1)

theorem write_getStorageType {a : Ty} (ha : ∀ t ro, a ≠ .span t ro) (v : Val) :
    write L hooks st (getStorageType a) v = write L hooks st a v := by
  cases a <;> first | rfl | exact absurd rfl (ha _ _)

theorem createWriterWithState_zip (args : List Ty) (ha : ∀ a ∈ args, ∀ t ro, a ≠ .span t ro) :
    ∀ vs : List Val, args.length = vs.length →
      createWriterWithState L hooks st (args.zip vs) =
        write.writeFields L hooks st (args.map getStorageType) vs := by
  induction args with
  | nil => rintro (_ | _) h <;> simp_all [createWriterWithState, write.writeFields]
  | cons a args ih =>
    rintro (_ | ⟨v, vs⟩) h
    · simp at h
    · have ih' := ih (fun b hb => ha b (List.mem_cons_of_mem a hb)) vs (by simpa using h)
      simp only [createWriterWithState] at ih' ⊢
      rw [List.zip_cons_cons, List.map_cons, List.flatten_cons, ih', List.map_cons,
        write.writeFields, write_getStorageType L hooks st (ha a (List.mem_cons_self a args))]

theorem codableFields_length {dom : Nat → Val → Prop} :
    ∀ ts xs, Codable.codableFields L dom ts xs → ts.length = xs.length
  | [], [], _ => rfl
  | _ :: ts, _ :: xs, h => congrArg (· + 1) (codableFields_length ts xs h.2)
  | [], _ :: _, h => h.elim
  | _ :: _, [], h => h.elim

theorem decode_storedArgsT {dom : Nat → Val → Prop} (hdom : HooksRoundTrip hooks st dom)
    (args : List Ty) (ha : ∀ a ∈ args, ∀ t ro, a ≠ .span t ro) (vs : List Val)
    (hc : Codable L dom (storedArgsT args) (.seq vs)) :
    decode L hooks st (storedArgsT args) (createWriterWithState L hooks st (args.zip vs)) =
      some (.seq vs, []) := by
  have hl : args.length = vs.length := by
    simpa using codableFields_length L (args.map getStorageType) vs hc
  rw [createWriterWithState_zip L hooks st args ha vs hl]
  simpa using decode_write L hooks st hdom (storedArgsT args) (.seq vs) hc []

theorem findMethod_own {iface : List MethodSig}
    (hd : ((iface.map (·.name)).map getMethodId).Nodup) {o : Nat} {m : MethodSig}
    (hm : iface[o]? = some m) :
    findMethod (buildMethodMap (iface.map (·.name))) (getMethodId m.name) = some o := by
  have hn : (iface.map (·.name))[o]? = some m.name := by simp [hm]
  obtain ⟨hlt, he⟩ := List.getElem?_eq_some_iff.mp hn
  exact (findMethod_buildMethodMap_iff hd _ o).mpr ⟨hlt, by rw [he]⟩

theorem voidDispatchMethod_ne_notImplemented (iface : List MethodSig) (o : Nat) (data : Bytes) :
    voidDispatchMethod L hooks st iface o data ≠ some .notImplemented := by
  unfold voidDispatchMethod
  split
  · simp
  · split
    · cases decode L hooks st _ data <;> simp
    · simp

theorem dispatch_allowed (iface : List MethodSig) (impl : Nat → List Val → ImplResult)
    (name : UInt32) (data : Bytes) (r : DispatchResult) (c : Option (List MethodDecl)) (e : Bool)
    (h : dispatch L hooks st iface impl name data = some r) :
    Config.dispatchAllows ⟨c, some (iface.map MethodSig.decl), e⟩ name r = true := by
  have hn : (iface.map MethodSig.decl).map (·.name) = iface.map (·.name) := by
    simp [Function.comp_def, MethodSig.decl]
  unfold dispatch at h
  simp only [Config.dispatchAllows, hn]
  split at h
  · rename_i hf
    simp only [hf, Option.some.injEq] at h ⊢
    simp [← h]
  · rename_i o hf
    simp only [hf]

section

variable {dom : Nat → Val → Prop} (hdom : HooksRoundTrip hooks st dom)
include hdom

end

def calculatorSigs : List MethodSig :=
  [⟨asciiName "simple_sum", [.scalar 4, .scalar 4], .future (.scalar 4)⟩,
    ⟨asciiName "array_sum", [.vector (.scalar 4)], .future (.scalar 4)⟩,
    ⟨asciiName "string_concatenate", [.string 1, .string 1], .future (.string 1)⟩,
    ⟨asciiName "universal_add", [.variant [.scalar 4, .string 1], .variant [.scalar 4, .string 1]],
      .future (.variant [.scalar 4, .string 1, .reflected [.string 1, .scalar 4]])⟩,
    ⟨asciiName "send_telemetry_event", [.reflected [.string 1, .scalar 4, .scalar 1, .custom 0 true]],
      .void⟩]

example : calculatorSigs.map MethodSig.decl = calculatorMethods := rfl

end AsyncCppRpc.Marshal
