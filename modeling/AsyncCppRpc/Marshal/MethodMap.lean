import AsyncCppRpc.MethodId
import Mathlib.Data.List.Sort

namespace AsyncCppRpc.Marshal

open Wire MethodId

/-- `method_map_entry`: a method identifier and the position of its method in the interface. -/
structure MethodMapEntry where
  name : UInt32
  ordinal : Nat
  deriving DecidableEq, Inhabited, Repr

def methodEntries (names : List (List UInt8)) : List MethodMapEntry :=
  names.enum.map fun e => ⟨getMethodId e.2, e.1⟩

def NameLE (a b : MethodMapEntry) : Prop := a.name ≤ b.name

instance : DecidableRel NameLE := fun a b => inferInstanceAs (Decidable (a.name ≤ b.name))

instance : IsTotal MethodMapEntry NameLE := ⟨fun a b => UInt32.le_total a.name b.name⟩

instance : IsTrans MethodMapEntry NameLE := ⟨fun _ _ _ => UInt32.le_trans⟩

/-- `build_method_map`: the entries sorted by identifier. MSVC's `sr::sort` sorts a range this
short by insertion; any sort gives the same table when the names hash apart. -/
def buildMethodMap (names : List (List UInt8)) : List MethodMapEntry :=
  (methodEntries names).insertionSort NameLE

/-- `sr::lower_bound` on `[first, first + len)`, halving the range as the standard library does;
`len` turns are enough. -/
def lowerBoundLoop (table : List MethodMapEntry) (key : UInt32) : Nat → Nat → Nat → Nat
  | 0, first, _ => first
  | fuel + 1, first, len =>
    if len = 0 then first
    else if (table.getD (first + len / 2) default).name < key then
      lowerBoundLoop table key fuel (first + len / 2 + 1) (len - len / 2 - 1)
    else lowerBoundLoop table key fuel first (len / 2)

def lowerBound (table : List MethodMapEntry) (key : UInt32) (first len : Nat) : Nat :=
  lowerBoundLoop table key len first len

/-- The lookup that `dispatch` and `void_dispatch` share: the ordinal of the entry found by
the lower bound when its name is `name`. `none` is where both throw `E_NOTIMPL`. -/
def findMethod (table : List MethodMapEntry) (name : UInt32) : Option Nat :=
  match table[lowerBound table name 0 table.length]? with
  | some e => if e.name = name then some e.ordinal else none
  | none => none

def Below (table : List MethodMapEntry) (key : UInt32) (first : Nat) : Prop :=
  ∀ j (h : j < table.length), j < first → table[j].name < key

def NotBelow (table : List MethodMapEntry) (key : UInt32) (last : Nat) : Prop :=
  ∀ j (h : j < table.length), last ≤ j → ¬ table[j].name < key

section Sorted

variable {table : List MethodMapEntry} {key : UInt32}

theorem name_mono (hs : table.Pairwise fun a b => a.name ≤ b.name) {i j : Nat}
    (hi : i < table.length) (hj : j < table.length) (hij : i ≤ j) :
    table[i].name ≤ table[j].name := by
  rcases Nat.lt_or_eq_of_le hij with h | rfl
  · exact List.pairwise_iff_getElem.mp hs i j hi hj h
  · simp

theorem lowerBoundLoop_spec (hs : table.Pairwise fun a b => a.name ≤ b.name) (fuel : Nat) :
    ∀ first len, len ≤ fuel → first + len ≤ table.length → Below table key first →
      NotBelow table key (first + len) →
      lowerBoundLoop table key fuel first len ≤ table.length ∧
        Below table key (lowerBoundLoop table key fuel first len) ∧
        NotBelow table key (lowerBoundLoop table key fuel first len) := by
  induction fuel with
  | zero =>
    intro first len hf hb hlo hhi
    obtain rfl : len = 0 := by omega
    exact ⟨by simpa using hb, hlo, by simpa using hhi⟩
  | succ fuel ih =>
    intro first len hf hb hlo hhi
    simp only [lowerBoundLoop]
    split_ifs with hlen hlt
    · exact ⟨by omega, hlo, by simpa [hlen] using hhi⟩
    · have hm : first + len / 2 < table.length := by omega
      simp only [List.getD_eq_getElem?_getD, List.getElem?_eq_getElem hm, Option.getD_some] at hlt
      refine ih _ _ (by omega) (by omega) (fun j hj hjm => ?_) (fun j hj hjl => hhi j hj (by omega))
      by_cases hjf : j < first
      · exact hlo j hj hjf
      · have := name_mono hs hj hm (by omega)
        simp only [uint32_lt_iff, uint32_le_iff] at hlt this ⊢
        omega
    · have hm : first + len / 2 < table.length := by omega
      simp only [List.getD_eq_getElem?_getD, List.getElem?_eq_getElem hm, Option.getD_some] at hlt
      refine ih _ _ (by omega) (by omega) hlo (fun j hj hjm => ?_)
      have := name_mono hs hm hj hjm
      simp only [uint32_lt_iff, uint32_le_iff] at hlt this ⊢
      omega

theorem lowerBound_whole (hs : table.Pairwise fun a b => a.name ≤ b.name) :
    lowerBound table key 0 table.length ≤ table.length ∧
      Below table key (lowerBound table key 0 table.length) ∧
      NotBelow table key (lowerBound table key 0 table.length) :=
  lowerBoundLoop_spec hs table.length 0 table.length le_rfl (by omega)
    (fun _ _ h => absurd h (Nat.not_lt_zero _)) (fun _ hj h => absurd hj (by omega))

theorem findMethod_mem {o : Nat} (h : findMethod table key = some o) :
    (⟨key, o⟩ : MethodMapEntry) ∈ table := by
  unfold findMethod at h
  split at h
  · rename_i e he
    split_ifs at h with hn
    cases h
    exact hn ▸ List.getElem?_mem he
  · cases h

theorem findMethod_of_mem (hs : table.Pairwise fun a b => a.name ≤ b.name)
    (hd : (table.map (·.name)).Nodup) {e : MethodMapEntry} (he : e ∈ table) :
    findMethod table e.name = some e.ordinal := by
  obtain ⟨j, hj, rfl⟩ := List.mem_iff_getElem.mp he
  obtain ⟨hr, hlo, hhi⟩ := @lowerBound_whole table table[j].name hs
  set r := lowerBound table table[j].name 0 table.length
  have hrj : r ≤ j := Nat.le_of_not_lt fun h => by simpa using hlo j hj h
  have hrl : r < table.length := by omega
  have hname : table[r].name = table[j].name := by
    have h1 := name_mono hs hrl hj hrj
    have h2 := hhi r hrl le_rfl
    simp only [uint32_lt_iff, uint32_le_iff] at h1 h2
    exact (uint32_eq_iff _ _).mpr (by omega)
  have hrj' : r = j :=
    (@List.Nodup.getElem_inj_iff _ _ hd r (by simpa using hrl) j (by simpa using hj)).mp
      (by simpa using hname)
  simp only [findMethod, List.getElem?_eq_getElem hrl, hname, if_true]
  simp [hrj']

end Sorted

theorem buildMethodMap_sorted (names : List (List UInt8)) :
    (buildMethodMap names).Pairwise fun a b => a.name ≤ b.name :=
  List.sorted_insertionSort NameLE (methodEntries names)

theorem mem_buildMethodMap {names : List (List UInt8)} {e : MethodMapEntry} :
    e ∈ buildMethodMap names ↔ ∃ n, names[e.ordinal]? = some n ∧ e.name = getMethodId n := by
  rw [buildMethodMap, (List.perm_insertionSort _ _).mem_iff, methodEntries, List.mem_map]
  constructor
  · rintro ⟨⟨i, n⟩, hm, rfl⟩
    exact ⟨n, List.mem_enum_iff_getElem?.mp hm, rfl⟩
  · rintro ⟨n, hn, he⟩
    exact ⟨(e.ordinal, n), List.mem_enum_iff_getElem?.mpr hn, by cases e; simp_all⟩

theorem buildMethodMap_names_nodup {names : List (List UInt8)}
    (hd : (names.map getMethodId).Nodup) : ((buildMethodMap names).map (·.name)).Nodup := by
  rw [buildMethodMap, ((List.perm_insertionSort NameLE (methodEntries names)).map
    (·.name)).nodup_iff, methodEntries, List.map_map]
  have : ((fun e : MethodMapEntry => e.name) ∘ fun e : Nat × List UInt8 => ⟨getMethodId e.2, e.1⟩)
      = getMethodId ∘ Prod.snd := rfl
  rwa [this, ← List.map_map, List.enum_map_snd]

theorem findMethod_buildMethodMap_iff {names : List (List UInt8)}
    (hd : (names.map getMethodId).Nodup) (x : UInt32) (i : Nat) :
    findMethod (buildMethodMap names) x = some i ↔
      ∃ h : i < names.length, getMethodId names[i] = x := by
  constructor
  · intro h
    obtain ⟨n, hn, hx⟩ := mem_buildMethodMap.mp (findMethod_mem h)
    obtain ⟨hi, rfl⟩ := List.getElem?_eq_some_iff.mp hn
    exact ⟨hi, hx.symm⟩
  · rintro ⟨hi, rfl⟩
    exact findMethod_of_mem (buildMethodMap_sorted names) (buildMethodMap_names_nodup hd)
      (show (⟨getMethodId names[i], i⟩ : MethodMapEntry) ∈ _ from
        mem_buildMethodMap.mpr ⟨_, List.getElem?_eq_getElem hi, rfl⟩)

theorem findMethod_buildMethodMap_eq_none_iff {names : List (List UInt8)}
    (hd : (names.map getMethodId).Nodup) (x : UInt32) :
    findMethod (buildMethodMap names) x = none ↔ ∀ n ∈ names, getMethodId n ≠ x := by
  constructor
  · intro h n hn hx
    obtain ⟨i, hi, rfl⟩ := List.mem_iff_getElem.mp hn
    simp [(findMethod_buildMethodMap_iff hd x i).mpr ⟨hi, hx⟩] at h
  · intro h
    cases hf : findMethod (buildMethodMap names) x with
    | none => rfl
    | some i =>
      obtain ⟨hi, hx⟩ := (findMethod_buildMethodMap_iff hd x i).mp hf
      exact absurd hx (h _ (List.getElem_mem hi))

end AsyncCppRpc.Marshal
