import AsyncCppRpc.Wire
import Mathlib.Data.List.Nodup

namespace AsyncCppRpc.Connection

inductive CapturedOn where
  | send
  | receive
  | stop
  deriving DecidableEq, Repr

structure ErrorInfo where
  hr : UInt32
  state : CapturedOn
  deriving DecidableEq, Repr

/-- The fields that `error_lock` guards. A handler is named by the number of the `on_error`
call that passed it; `reported` and `invoked` record every report and every handler call. -/
structure ErrorHook where
  errorHandler : Option Nat
  lastError : Option ErrorInfo
  installed : Nat
  reported : List ErrorInfo
  invoked : List (Nat × ErrorInfo)
  deriving DecidableEq, Repr

def ErrorHook.init : ErrorHook := ⟨none, none, 0, [], []⟩

/-- `error_on_background(hr, on)`: the installed handler is taken out and called (on a
background thread) with the error; with no handler the error is kept in `last_error`. -/
def errorOnBackground (e : ErrorHook) (hr : UInt32) (phase : CapturedOn) : ErrorHook :=
  match e.errorHandler with
  | some f =>
    { e with
      errorHandler := none
      reported := e.reported ++ [⟨hr, phase⟩]
      invoked := e.invoked ++ [(f, ⟨hr, phase⟩)] }
  | none => { e with lastError := some ⟨hr, phase⟩, reported := e.reported ++ [⟨hr, phase⟩] }

/-- `on_error(f)`: a kept error is taken out and passed to `f` at once, and `f` is not kept;
otherwise `f` becomes the handler. -/
def onError (e : ErrorHook) : ErrorHook :=
  match e.lastError with
  | some err =>
    { e with
      lastError := none
      installed := e.installed + 1
      invoked := e.invoked ++ [(e.installed, err)] }
  | none => { e with errorHandler := some e.installed, installed := e.installed + 1 }

def onErrorClear (e : ErrorHook) : ErrorHook :=
  { e with errorHandler := none }

inductive HookOp where
  | report (hr : UInt32) (phase : CapturedOn)
  | install
  | remove
  deriving DecidableEq, Repr

def HookOp.apply : HookOp → ErrorHook → ErrorHook
  | .report hr phase, e => errorOnBackground e hr phase
  | .install, e => onError e
  | .remove, e => onErrorClear e

def runHook (ops : List HookOp) (e : ErrorHook := .init) : ErrorHook :=
  ops.foldl (fun e op => op.apply e) e

/-- What every sequence of operations keeps: every handler called was installed and is called
at most once, only with a reported error; a kept error is the latest report and no handler is
installed beside it. -/
structure HookInv (e : ErrorHook) : Prop where
  handler_fresh : ∀ f, e.errorHandler = some f → f < e.installed ∧ f ∉ e.invoked.map Prod.fst
  invoked_installed : ∀ p ∈ e.invoked, p.1 < e.installed
  invoked_nodup : (e.invoked.map Prod.fst).Nodup
  invoked_reported : ∀ p ∈ e.invoked, p.2 ∈ e.reported
  last_latest : ∀ err, e.lastError = some err → e.reported.getLast? = some err ∧ e.errorHandler = none

theorem hookInv_init : HookInv .init := by
  constructor <;> simp [ErrorHook.init]

theorem HookInv.errorOnBackground {e : ErrorHook} (h : HookInv e) (hr : UInt32)
    (phase : CapturedOn) : HookInv (errorOnBackground e hr phase) := by
  unfold AsyncCppRpc.Connection.errorOnBackground
  split
  · rename_i f hf
    obtain ⟨hlt, hnot⟩ := h.handler_fresh f hf
    refine ⟨by simp, fun p hp => ?_, ?_, fun p hp => ?_, fun err herr => ?_⟩
    · rcases List.mem_append.mp hp with hp | hp
      · exact h.invoked_installed p hp
      · simp_all
    · rw [List.map_append]
      exact List.nodup_append.mpr ⟨h.invoked_nodup, List.nodup_singleton _,
        List.disjoint_singleton.mpr hnot⟩
    · rcases List.mem_append.mp hp with hp | hp
      · exact List.mem_append_left _ (h.invoked_reported p hp)
      · simp_all
    · exact absurd (h.last_latest err herr).2 (by simp [hf])
  · exact ⟨fun f hf => by simp_all, h.invoked_installed, h.invoked_nodup,
      fun p hp => List.mem_append_left _ (h.invoked_reported p hp), fun err herr => by simp_all⟩

theorem HookInv.not_invoked {e : ErrorHook} (h : HookInv e) : e.installed ∉ e.invoked.map Prod.fst :=
  fun hm => by
    obtain ⟨p, hp, hpf⟩ := List.mem_map.mp hm
    exact absurd (hpf ▸ h.invoked_installed p hp) (Nat.lt_irrefl _)

theorem HookInv.onError {e : ErrorHook} (h : HookInv e) : HookInv (onError e) := by
  unfold AsyncCppRpc.Connection.onError
  split
  · rename_i err herr
    refine ⟨fun f hf => ?_, fun p hp => ?_, ?_, fun p hp => ?_, fun _ hl => by simp at hl⟩
    · have := h.handler_fresh f hf
      refine ⟨Nat.lt_succ_of_lt this.1, fun hm => ?_⟩
      simp only [List.map_append, List.mem_append, List.map_cons, List.map_nil,
        List.mem_singleton] at hm
      rcases hm with hm | rfl
      · exact this.2 hm
      · exact Nat.lt_irrefl _ this.1
    · rcases List.mem_append.mp hp with hp | hp
      · exact Nat.lt_succ_of_lt (h.invoked_installed p hp)
      · simp_all
    · rw [List.map_append]
      exact List.nodup_append.mpr ⟨h.invoked_nodup, List.nodup_singleton _,
        List.disjoint_singleton.mpr h.not_invoked⟩
    · rcases List.mem_append.mp hp with hp | hp
      · exact h.invoked_reported p hp
      · simp only [List.mem_singleton] at hp
        subst hp
        exact List.mem_of_getLast?_eq_some (h.last_latest err herr).1
  · refine ⟨fun f hf => ?_, fun p hp => Nat.lt_succ_of_lt (h.invoked_installed p hp),
      h.invoked_nodup, h.invoked_reported, fun err herr => by simp_all⟩
    simp only [Option.some.injEq] at hf
    exact hf ▸ ⟨Nat.lt_succ_self _, h.not_invoked⟩

theorem HookInv.onErrorClear {e : ErrorHook} (h : HookInv e) : HookInv (onErrorClear e) :=
  ⟨fun f hf => by simp [AsyncCppRpc.Connection.onErrorClear] at hf, h.invoked_installed,
    h.invoked_nodup, h.invoked_reported,
    fun err herr => ⟨(h.last_latest err herr).1, rfl⟩⟩

theorem HookInv.apply {e : ErrorHook} (h : HookInv e) : ∀ op : HookOp, HookInv (op.apply e)
  | .report hr phase => h.errorOnBackground hr phase
  | .install => h.onError
  | .remove => h.onErrorClear

theorem hookInv_runHook (ops : List HookOp) {e : ErrorHook} (h : HookInv e) :
    HookInv (runHook ops e) := by
  induction ops generalizing e with
  | nil => exact h
  | cons op ops ih => exact ih (h.apply op)

theorem runHook_append (ops ops' : List HookOp) (e : ErrorHook) :
    runHook (ops ++ ops') e = runHook ops' (runHook ops e) := by
  simp [runHook, List.foldl_append]

theorem runHook_snoc (ops : List HookOp) (op : HookOp) :
    runHook (ops ++ [op]) = op.apply (runHook ops) :=
  runHook_append ops [op] .init

/-- Whatever the order of reports, installations and removals, each installed handler is called at
most once and only with a reported error, and a kept error is always the latest report. -/
theorem error_handler_gets_latest_report (ops : List HookOp) :
    ((runHook ops).invoked.map Prod.fst).Nodup ∧
      (∀ p ∈ (runHook ops).invoked, p.2 ∈ (runHook ops).reported) ∧
      (∀ err, (runHook ops).lastError = some err → (runHook ops).reported.getLast? = some err) ∧
      (∀ err, (runHook ops).lastError = some err →
        (runHook (ops ++ [.install])).invoked =
          (runHook ops).invoked ++ [((runHook ops).installed, err)]) := by
  have h := hookInv_runHook ops hookInv_init
  refine ⟨h.invoked_nodup, h.invoked_reported, fun err he => (h.last_latest err he).1,
    fun err he => ?_⟩
  rw [runHook_append]
  show (onError (runHook ops)).invoked = _
  simp only [onError, he]

end AsyncCppRpc.Connection
