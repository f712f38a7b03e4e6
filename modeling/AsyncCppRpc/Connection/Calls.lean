import AsyncCppRpc.Transport
import Mathlib.Data.List.Nodup

namespace AsyncCppRpc.Connection

open Wire Transport

/-- How a pending-call slot (`corsl::promise<payload_t>`) is completed: `set_async` with a payload,
or `set_exception_async` with an `hresult_error` or `operation_cancelled`. -/
inductive Outcome where
  | value (payload : Bytes)
  | error (hr : UInt32)
  | cancelled
  deriving DecidableEq, Repr

inductive CallerPc where
  | issued
  | registered
  | sent
  deriving DecidableEq, Repr

/-- A `do_call` in flight: the method, the arguments, the 32-bit call id it drew from
`last_call_id`, how far it got, and whether `emplace` put its slot in the table. -/
structure Caller where
  name : UInt32
  payload : Bytes
  callId : UInt32
  pc : CallerPc
  inserted : Bool
  deriving DecidableEq, Repr

/-- `last_call_id`, `completions` and the callers. The map is kept as its list of entries,
each naming the caller whose promise it points to; `settled` records every completion. -/
structure Calls where
  lastCallId : UInt32
  completions : List (UInt32 × Nat)
  callers : List Caller
  settled : List (Nat × Outcome)
  deriving DecidableEq, Repr

def Calls.init : Calls := ⟨0, [], [], []⟩

def Calls.issue (t : Calls) (name : UInt32) (payload : Bytes) : Calls :=
  { t with
    lastCallId := t.lastCallId + 1
    callers := t.callers ++ [⟨name, payload, t.lastCallId, .issued, false⟩] }

/-- `completions.emplace(call_id, &promise)`: nothing is inserted when the key is taken. -/
def Calls.register (t : Calls) (c : Nat) (callId : UInt32) : Calls :=
  let fresh := (t.completions.lookup callId).isNone
  { t with
    completions := if fresh then t.completions ++ [(callId, c)] else t.completions
    callers := t.callers.modify (fun k => { k with pc := .registered, inserted := fresh }) c }

def Calls.markSent (t : Calls) (c : Nat) (k : Caller) : Calls :=
  { t with callers := t.callers.set c { k with pc := .sent } }

def Calls.nextId (t : Calls) : Calls :=
  { t with lastCallId := t.lastCallId + 1 }

/-- The completion a reply carries: its payload, or `hresult_error` with the four-byte code
of a `ResponseError`, or `E_FAIL` when that payload is not four bytes long. -/
def replyOutcome (m : Message) : Outcome :=
  if m.type = .responseError then
    if m.payload.length = 4 then .error (UInt32.ofNat (leValue m.payload)) else .error eFail
  else .value m.payload

/-- The reader's handling of a `Response` or `ResponseError`: `completions.find(call_id)` with
the 30-bit id of the reply; a found slot is erased and completed. -/
def Calls.complete (t : Calls) (m : Message) : Calls :=
  match t.completions.lookup (UInt32.ofNat m.callId.val) with
  | some c =>
    { t with
      completions := t.completions.filter (fun e => e.1 != UInt32.ofNat m.callId.val)
      settled := t.settled ++ [(c, replyOutcome m)] }
  | none => t

/-- `stop`'s drain: every slot still in the table is completed with `operation_cancelled`
and the table is cleared. -/
def Calls.drain (t : Calls) : Calls :=
  { t with
    completions := []
    settled := t.settled ++ t.completions.map fun e => (e.2, .cancelled) }

namespace Calls

def pending (t : Calls) : List Nat := t.completions.map Prod.snd

def completed (t : Calls) : List Nat := t.settled.map Prod.fst

/-- What every run keeps of the table: no caller is completed twice, or completed while its
slot is still in the table, and each of them has emplaced its slot. -/
structure Inv (t : Calls) : Prop where
  once : (t.pending ++ t.completed).Nodup
  registered : ∀ c ∈ t.pending ++ t.completed, ∃ k, t.callers[c]? = some k ∧ k.pc ≠ .issued

theorem inv_init : Calls.init.Inv :=
  ⟨List.nodup_nil, fun _ h => absurd h (List.not_mem_nil _)⟩

theorem mem_of_lookup_eq_some {l : List (UInt32 × Nat)} {a : UInt32} {b : Nat}
    (h : l.lookup a = some b) : (a, b) ∈ l := by
  obtain ⟨l₁, l₂, rfl, -⟩ := List.lookup_eq_some_iff.mp h
  simp

theorem Inv.issue {t : Calls} (h : t.Inv) (name : UInt32) (payload : Bytes) :
    (t.issue name payload).Inv := by
  refine ⟨h.once, fun c hc => ?_⟩
  obtain ⟨k, hk, hpc⟩ := h.registered c hc
  have hlt : c < t.callers.length := (List.getElem?_eq_some_iff.mp hk).1
  exact ⟨k, by simpa [Calls.issue, List.getElem?_append_left hlt] using hk, hpc⟩

theorem Inv.not_mem_of_issued {t : Calls} (h : t.Inv) {c : Nat} {k : Caller}
    (hk : t.callers[c]? = some k) (hpc : k.pc = .issued) : c ∉ t.pending ++ t.completed :=
  fun hm => by
    obtain ⟨k', hk', hne⟩ := h.registered c hm
    rw [hk, Option.some.injEq] at hk'
    exact hne (hk' ▸ hpc)

theorem Inv.of_subperm {t : Calls} {l : List Nat}
    (hs : (t.pending ++ t.completed).Subperm l) (hn : l.Nodup)
    (hr : ∀ c ∈ l, ∃ k, t.callers[c]? = some k ∧ k.pc ≠ .issued) : t.Inv := by
  obtain ⟨l', hp, hl⟩ := hs
  exact ⟨hp.nodup_iff.mp (hl.nodup hn), fun c hm => hr c (hl.subset (hp.symm.subset hm))⟩

theorem Inv.register {t : Calls} (h : t.Inv) {c : Nat} {k : Caller}
    (hk : t.callers[c]? = some k) (hpc : k.pc = .issued) : (t.register c k.callId).Inv := by
  have hnot := h.not_mem_of_issued hk hpc
  refine Inv.of_subperm ?_ (List.nodup_cons.mpr ⟨hnot, h.once⟩) fun c' hc' => ?_
  · -- the caller's slot is appended to the table, or nothing is inserted
    simp only [Calls.register, pending, completed]
    split_ifs
    · exact (by simp [pending, completed, List.perm_middle] :
        List.Perm _ (c :: (t.pending ++ t.completed))).subperm
    · exact (List.sublist_cons_self _ _).subperm
  · rcases List.mem_cons.mp hc' with rfl | hm
    · exact ⟨_, by simp [Calls.register, List.getElem?_modify, hk]; rfl, by simp⟩
    · have hne : c ≠ c' := fun he => hnot (he ▸ hm)
      obtain ⟨k', hk', hpc'⟩ := h.registered c' hm
      exact ⟨k', by simpa [Calls.register, List.getElem?_modify, hne] using hk', hpc'⟩

theorem Inv.markSent {t : Calls} (h : t.Inv) {c : Nat} {k : Caller}
    (hk : t.callers[c]? = some k) : (t.markSent c k).Inv := by
  refine ⟨h.once, fun c' hc' => ?_⟩
  obtain ⟨k', hk', hpc⟩ := h.registered c' hc'
  by_cases he : c = c'
  · subst he
    rw [hk, Option.some.injEq] at hk'
    subst hk'
    exact ⟨{ k with pc := .sent }, by
      simp [Calls.markSent, List.getElem?_set, (List.getElem?_eq_some_iff.mp hk).1], by simp⟩
  · exact ⟨k', by simpa [Calls.markSent, List.getElem?_set, he] using hk', hpc⟩

theorem Inv.nextId {t : Calls} (h : t.Inv) : t.nextId.Inv := ⟨h.once, h.registered⟩

theorem Inv.complete {t : Calls} (h : t.Inv) (m : Message) : (t.complete m).Inv := by
  unfold Calls.complete
  split
  · rename_i c hc
    have hmem := mem_of_lookup_eq_some hc
    have hp := (List.nodup_append.mp h.once).1
    -- the slot found is the only one of its key, so the filter removes its caller
    have hcf : c ∉ (t.completions.filter fun e => e.1 != UInt32.ofNat m.callId.val).map
        Prod.snd := by
      simp only [List.mem_map, List.mem_filter]
      rintro ⟨e, ⟨he, hne⟩, rfl⟩
      rw [List.inj_on_of_nodup_map hp he hmem rfl] at hne
      simp at hne
    have hsub := List.cons_subperm_of_not_mem_of_mem hcf (List.mem_map.mpr ⟨_, hmem, rfl⟩)
      ((List.filter_sublist _).map Prod.snd).subperm
    refine Inv.of_subperm ?_ h.once h.registered
    simpa [completed, List.append_assoc] using
      (List.perm_append_singleton c _).subperm.trans ((List.subperm_append_right _).mpr hsub)
  · exact h

theorem Inv.drain {t : Calls} (h : t.Inv) : t.drain.Inv :=
  Inv.of_subperm (by simpa [Calls.drain, pending, completed, Function.comp_def] using
    List.perm_append_comm.subperm) h.once h.registered

end Calls

end AsyncCppRpc.Connection
