import AsyncCppRpc.Codec.Unchecked

namespace AsyncCppRpc.Codec

open Wire

def Layout.Exact (L : Layout) (t : Ty) (v : Val) : Prop :=
  (L.image t v).length = L.sizeOf t ∧ L.fromImage t (L.image t v) = v

section

variable (L : Layout) (dom : Nat → Val → Prop)

/-- The values of `t` that `Writer` and `Reader` carry: counts that fit their `uint32_t` and
`uint16_t`, bulk-copied elements held exactly by their object bytes, values of `dom` for a type with
hooks. Views, spans and node-based containers of trivially copyable elements are left out. -/
def Codable : Ty → Val → Prop
  | .scalar n, .bytes bs => bs.length = n
  | .string c, .seq xs => xs.length < 2 ^ 32 ∧ ∀ x ∈ xs, L.Exact (.scalar c) x
  | .vector t, .seq xs => xs.length < 2 ^ 32 ∧
      if t.trivial then ∀ x ∈ xs, L.Exact t x else ∀ x ∈ xs, Codable t x
  | .array k t, .seq xs => t.trivial = true ∧ xs.length = k ∧ k < 2 ^ 32 ∧ ∀ x ∈ xs, L.Exact t x
  | .list t, .seq xs => t.trivial = false ∧ xs.length < 2 ^ 32 ∧ ∀ x ∈ xs, Codable t x
  | .set t, .seq xs => t.trivial = false ∧ xs.length < 2 ^ 32 ∧ ∀ x ∈ xs, Codable t x
  | .optional _, .opt none => True
  | .optional t, .opt (some x) => Codable t x
  | .expected t _, .value x => Codable t x
  | .expected _ e, .unexpected x => Codable e x
  | .pair a b, .pair x y => Codable a x ∧ Codable b y
  | .tuple ts, .seq xs => codableFields ts xs
  | .variant ts, .alt i x => i < 2 ^ 16 ∧ codableAlt ts i x
  | .described ts, .seq xs => codableFields ts xs
  | .reflected ts, .seq xs => codableFields ts xs
  | .custom k _, v => dom k v
  | _, _ => False
termination_by structural t => t
where
  codableFields : List Ty → List Val → Prop
    | t :: ts, x :: xs => Codable t x ∧ codableFields ts xs
    | [], [] => True
    | _, _ => False
  termination_by structural ts => ts
  codableAlt : List Ty → Nat → Val → Prop
    | t :: _, 0, x => Codable t x
    | _ :: ts, i + 1, x => codableAlt ts i x
    | [], _, _ => False
  termination_by structural ts => ts

end

section

variable {σ : Type} (L : Layout) (hooks : Nat → Hook σ) (st : σ)

/-- Each `serialize_read` reads back what its `serialize_write` wrote, for the values of `dom`,
and leaves what follows. -/
def HooksRoundTrip (dom : Nat → Val → Prop) : Prop :=
  ∀ k v rest, dom k v → (hooks k).read st ((hooks k).write st v ++ rest) = some (v, rest)

theorem writeBulk_contiguous (t : Ty) (xs : List Val) :
    writeBulk L t true xs = (xs.map (L.image t)).flatten := by
  cases xs <;> simp [writeBulk]

theorem readBool_writeBool (b : Bool) (rest : Bytes) :
    readBool.run (writeBool b ++ rest) = some (b, rest) := by
  rw [readBool, StateT.run_map, show 1 = (writeBool b).length from rfl, readBytes_append]
  cases b <;> rfl

theorem readTimes_flatten (r : Reading Val) (w : Val → Bytes) (xs : List Val)
    (h : ∀ x ∈ xs, ∀ rest, r.run (w x ++ rest) = some (x, rest)) (rest : Bytes) :
    (readTimes r xs.length).run ((xs.map w).flatten ++ rest) = some (xs, rest) := by
  induction xs generalizing rest with
  | nil => rfl
  | cons x xs ih =>
    simp only [List.length_cons, readTimes, List.map_cons, List.flatten_cons, List.append_assoc,
      StateT.run_bind, h x (List.mem_cons_self x xs), Option.bind_eq_bind, Option.some_bind,
      ih (fun y hy => h y (List.mem_cons_of_mem x hy))]
    rfl

theorem readImage_image {t : Ty} {x : Val} (hx : L.Exact t x) (rest : Bytes) :
    (readImage L t).run (L.image t x ++ rest) = some (x, rest) := by
  have h := readBytes_append (L.image t x) rest
  rw [hx.1] at h
  simp [readImage, StateT.run_map, h, hx.2]

theorem readBulk_eq_readTimes (t : Ty) (n : Nat) : readBulk L t n = readTimes (readImage L t) n := by
  induction n with
  | zero => exact readBulk_zero L t
  | succ n ih => rw [readBulk_succ, ih]; rfl

theorem readBulk_writeBulk (t : Ty) (xs : List Val) (hx : ∀ x ∈ xs, L.Exact t x) (rest : Bytes) :
    (readBulk L t xs.length).run (writeBulk L t true xs ++ rest) = some (xs, rest) := by
  rw [readBulk_eq_readTimes, writeBulk_contiguous]
  exact readTimes_flatten _ _ xs (fun x hx' => readImage_image L (hx x hx')) rest

variable {dom : Nat → Val → Prop} (hdom : HooksRoundTrip hooks st dom)
include hdom

/-- For every type and every value it carries, `Reader` reads back what `Writer` wrote and leaves
the bytes after it. -/
theorem decode_write :
    ∀ t v, Codable L dom t v → ∀ rest,
      (read L hooks st t).run (write L hooks st t v ++ rest) = some (v, rest)
  | .custom k _, v, h, rest => hdom k v rest h
  | .scalar n, v, h, rest => by
    cases v <;> try exact False.elim h
    rename_i bs
    obtain rfl : bs.length = n := h
    simp only [Codec.read, write, Val.raw, StateT.run_map, readBytes_append]
    rfl
  | .string c, v, h, rest => by
    cases v <;> try exact False.elim h
    simp only [Codec.read, write, Val.elems, List.append_assoc, StateT.run_bind,
      readU32_writeU32 h.1, Option.bind_eq_bind, Option.some_bind, StateT.run_map,
      readBulk_writeBulk L _ _ h.2]
    rfl
  | .stringView _, v, h, _ => by cases v <;> try exact False.elim h
  | .span _ _, v, h, _ => by cases v <;> try exact False.elim h
  | .vector t, v, h, rest => by
    cases v <;> try exact False.elim h
    rename_i xs
    obtain ⟨hlen, hx⟩ := h
    cases ht : t.trivial <;> simp only [ht] at hx
    · simp only [Codec.read, write, writeRange, Val.elems, ht, List.append_assoc,
        StateT.run_bind, readU32_writeU32 hlen, Option.bind_eq_bind, Option.some_bind,
        StateT.run_map, if_false, Bool.false_eq_true,
        readTimes_flatten _ _ xs (fun x hm => decode_write t x (hx x hm))]
      rfl
    · simp only [Codec.read, write, writeRange, Val.elems, ht, List.append_assoc,
        StateT.run_bind, readU32_writeU32 hlen, Option.bind_eq_bind, Option.some_bind,
        StateT.run_map, if_true, readBulk_writeBulk L _ _ hx]
      rfl
  | .array k t, v, h, rest => by
    cases v <;> try exact False.elim h
    obtain ⟨ht, rfl, hk, hx⟩ := h
    simp only [Codec.read, write, writeRange, Val.elems, ht, List.append_assoc, if_true,
      StateT.run_bind, readU32_writeU32 hk, Option.bind_eq_bind, Option.some_bind,
      StateT.run_map, readBulk_writeBulk L _ _ hx]
    rfl
  | .list t, v, h, rest | .set t, v, h, rest => by
    cases v <;> try exact False.elim h
    rename_i xs
    obtain ⟨ht, hlen, hx⟩ := h
    simp only [Codec.read, write, writeRange, Val.elems, ht, List.append_assoc,
      Bool.false_eq_true, if_false, StateT.run_bind, readU32_writeU32 hlen, Option.bind_eq_bind,
      Option.some_bind, StateT.run_map,
      readTimes_flatten _ _ xs (fun x hm => decode_write t x (hx x hm))]
    rfl
  | .optional t, v, h, rest => by
    cases v <;> try exact False.elim h
    rename_i o
    cases o with
    | none =>
      simp only [Codec.read, write, StateT.run_bind, readBool_writeBool, Option.bind_eq_bind,
        Option.some_bind]
      rfl
    | some x =>
      simp only [Codec.read, write, List.append_assoc, StateT.run_bind, readBool_writeBool,
        Option.bind_eq_bind, Option.some_bind, if_true, StateT.run_map, decode_write t x h]
      rfl
  | .expected t e, v, h, rest => by
    cases v <;> try exact False.elim h
    · rename_i x
      simp only [Codec.read, write, List.append_assoc, StateT.run_bind, readBool_writeBool,
        Option.bind_eq_bind, Option.some_bind, if_true, StateT.run_map, decode_write t x h]
      rfl
    · rename_i x
      simp only [Codec.read, write, List.append_assoc, StateT.run_bind, readBool_writeBool,
        Option.bind_eq_bind, Option.some_bind, if_false, Bool.false_eq_true, StateT.run_map,
        decode_write e x h]
      rfl
  | .pair a b, v, h, rest => by
    cases v <;> try exact False.elim h
    rename_i x y
    simp only [Codec.read, write, List.append_assoc, StateT.run_bind, Option.bind_eq_bind,
      decode_write a x h.1, decode_write b y h.2, Option.some_bind]
    rfl
  | .tuple ts, v, h, rest | .described ts, v, h, rest | .reflected ts, v, h, rest => by
    cases v <;> try exact False.elim h
    simp only [Codec.read, write, Val.elems, StateT.run_map, fields ts _ h]
    rfl
  | .variant ts, v, h, rest => by
    cases v <;> try exact False.elim h
    rename_i i x
    simp only [Codec.read, write, List.append_assoc, StateT.run_bind, readU16_leBytes h.1,
      Option.bind_eq_bind, Option.some_bind, StateT.run_map, alt ts i x h.2]
    rfl
termination_by structural t => t
where
  fields :
      ∀ ts xs, Codable.codableFields L dom ts xs → ∀ rest,
        (read.readFields L hooks st ts).run (write.writeFields L hooks st ts xs ++ rest) =
          some (xs, rest)
    | [], [], _, rest => rfl
    | t :: ts, x :: xs, h, rest => by
      simp only [read.readFields, write.writeFields, List.append_assoc, StateT.run_bind,
        Option.bind_eq_bind, decode_write t x h.1, Option.some_bind,
        fields ts xs h.2]
      rfl
    | [], _ :: _, h, _ => h.elim
    | _ :: _, [], h, _ => h.elim
  termination_by structural ts => ts
  alt :
      ∀ ts i x, Codable.codableAlt L dom ts i x → ∀ rest,
        (read.readAlt L hooks st ts i).run (write.writeAlt L hooks st ts i x ++ rest) =
          some (x, rest)
    | t :: _, 0, x, h, rest => decode_write t x h rest
    | _ :: ts, i + 1, x, h, rest => alt ts i x h rest
    | [], _, _, h, _ => h.elim
  termination_by structural ts => ts

end

theorem error_result_read_back :
    HooksRoundTrip Hook.none () (fun _ _ => False) ∧
      Codable .x64 (fun _ _ => False)
        (.variant [.scalar 4, .string 1, .reflected [.string 1, .scalar 4]])
        (.alt 2 (.seq [.seq [.bytes [104], .bytes [105]], .bytes [1, 0, 0, 0]])) ∧
      (read .x64 Hook.none () (.variant [.scalar 4, .string 1, .reflected [.string 1, .scalar 4]])).run
          (write .x64 Hook.none () (.variant [.scalar 4, .string 1, .reflected [.string 1, .scalar 4]])
            (.alt 2 (.seq [.seq [.bytes [104], .bytes [105]], .bytes [1, 0, 0, 0]])) ++ []) =
        some (.alt 2 (.seq [.seq [.bytes [104], .bytes [105]], .bytes [1, 0, 0, 0]]), []) := by
  have hd : HooksRoundTrip Hook.none () (fun _ _ => False) := fun _ _ _ h => h.elim
  have hc : Codable .x64 (fun _ _ => False)
      (.variant [.scalar 4, .string 1, .reflected [.string 1, .scalar 4]])
      (.alt 2 (.seq [.seq [.bytes [104], .bytes [105]], .bytes [1, 0, 0, 0]])) :=
    show _ ∧ _ from ⟨by decide, show _ ∧ _ from ⟨show _ ∧ _ from ⟨by decide, by
      simp only [List.mem_cons, List.mem_singleton, List.not_mem_nil, or_false, forall_eq_or_imp,
        forall_eq]
      exact ⟨⟨rfl, rfl⟩, ⟨rfl, rfl⟩⟩⟩, show _ ∧ _ from ⟨rfl, trivial⟩⟩⟩
  exact ⟨hd, hc, decode_write .x64 Hook.none () hd _ _ hc []⟩

section

variable {σ : Type} (L : Layout) (hooks : Nat → Hook σ) (st : σ)

def writeEach (t : Ty) (vs : List Val) : Bytes :=
  (vs.map (write L hooks st t)).flatten

/-- On a node-based range of trivially copyable elements, reading each element rebuilds the range
from the elements' own encodings, while the bulk branch of `read_range` does not compile for a
`std::set` and copies past the first node of a `std::list` of two or more elements. -/
theorem node_range_bulk_read_diverges (t : Ty) (ht : t.trivial = true) {dom : Nat → Val → Prop}
    (hdom : HooksRoundTrip hooks st dom) (vs : List Val) (hvs : ∀ v ∈ vs, Codable L dom t v)
    (hlen : vs.length < 2 ^ 32) (rest : Bytes) :
    (readTimes (read L hooks st t) vs.length).run (writeEach L hooks st t vs ++ rest) =
        some (vs, rest) ∧
      decode L hooks st (.set t) (writeU32 vs.length ++ writeEach L hooks st t vs ++ rest) = none ∧
      (2 ≤ vs.length →
        decode L hooks st (.list t) (writeU32 vs.length ++ writeEach L hooks st t vs ++ rest) =
          none) := by
  refine ⟨readTimes_flatten _ _ vs (fun v hv => decode_write L hooks st hdom t v (hvs v hv)) rest,
    by simp [decode, Codec.read, ht]; rfl, fun h2 => ?_⟩
  simp only [decode, Codec.read, List.append_assoc, StateT.run_bind, readU32_writeU32 hlen,
    Option.bind_eq_bind, Option.some_bind, ht, if_true, show ¬vs.length ≤ 1 by omega, if_false]
  rfl

theorem int_list_bulk_read_fails :
    (readTimes (read .x64 Hook.none () (.scalar 4)) 2).run [1, 0, 0, 0, 2, 0, 0, 0] =
        some ([.bytes [1, 0, 0, 0], .bytes [2, 0, 0, 0]], []) ∧
      decode .x64 Hook.none () (.set (.scalar 4)) [2, 0, 0, 0, 1, 0, 0, 0, 2, 0, 0, 0] = none ∧
      decode .x64 Hook.none () (.list (.scalar 4)) [2, 0, 0, 0, 1, 0, 0, 0, 2, 0, 0, 0] = none := by
  obtain ⟨h1, h2, h3⟩ := node_range_bulk_read_diverges .x64 Hook.none () (.scalar 4) rfl
    (show HooksRoundTrip Hook.none () (fun _ _ => False) from fun _ _ _ h => h.elim)
    [.bytes [1, 0, 0, 0], .bytes [2, 0, 0, 0]]
    (by simp only [List.mem_cons, List.mem_singleton, List.not_mem_nil, or_false,
      forall_eq_or_imp, forall_eq]; exact ⟨rfl, rfl⟩) (by decide) []
  exact ⟨h1, h2, h3 (by decide)⟩

end

end AsyncCppRpc.Codec
