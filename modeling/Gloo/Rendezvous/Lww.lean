import Gloo.Rendezvous.Store

set_option autoImplicit false

/-! # What a client expects: a last-writer-wins map

A client of the rendezvous store uses `set`, `get` and `wait` as a map from keys to values where
the last `set` of a key wins: `set` always succeeds, `get` returns the value last set and fails
for a key never set, and `wait` succeeds exactly when every key was set (`Lww.exec`). A `wait`
for a key never set fails when its timeout expires, and never returns when it cannot expire; the
timeouts that cannot expire (`forever`) are the backend's.

A call's outcome is seen by the caller (`Seen`) as a reply, an exception it can catch and go on
after, a call that never returns, or undefined behaviour. The last two end the caller's run:
`Store.runEach` runs calls on a backend one after another up to the first of them, and
`Lww.runEach` runs them on the map up to its first call that never returns.

`runEach_refines` turns a one-call refinement into one of whole runs. The backends' refinement
theorems are `FileStore.fileStore_refines_lww`, for a `FileStore` on keys that are one plain file
name, and `Backend.hashStack_refines_lww`, for a `HashStore` under any prefixes, on every key. -/

namespace Gloo.Rendezvous

/-- What a caller sees of a call: the reply it returned, an exception it can catch and go on
    after, a call that never returns, or undefined behaviour. -/
inductive Seen
  | replied (r : Store.Reply)
  | failed
  | blocked
  | undefined
  deriving DecidableEq, Repr

/-- Whether the caller goes on after the call: not after a call that never returns, nor after
    undefined behaviour. -/
def Seen.goesOn : Seen → Bool
  | .replied _ | .failed => true
  | .blocked | .undefined => false

/-- What a caller sees of an outcome: `std::runtime_error` and `std::system_error` are
    exceptions it can catch. -/
def Outcome.seen : Outcome Store.Reply → Seen
  | .returned r => .replied r
  | .threw (.runtimeError _) | .threw (.systemError _) => .failed
  | .threw .blocksForever => .blocked
  | .threw (.undefinedBehavior _) => .undefined

/-- Each call in turn on the state the one before left, the caller catching what a call throws,
    up to and including the first call that never returns or is undefined: the outcome of every
    call made, and the final state. -/
def Store.runEach {σ : Type} (S : Store σ) : List Store.Op → σ → List (Outcome Store.Reply) × σ
  | [], s => ([], s)
  | op :: ops, s =>
    let rest := if (outcome (S.exec op s)).seen.goesOn then S.runEach ops (stateOf (S.exec op s))
      else ([], stateOf (S.exec op s))
    (outcome (S.exec op s) :: rest.1, rest.2)

/-- A last-writer-wins map from keys to values. -/
abbrev Lww := String → Option Bytes

namespace Lww

variable (forever : Millis → Bool)

/-- One call on the map: `set` always succeeds; `get` returns the last value set and fails for a
    key never set; `wait` succeeds exactly when every key was set, and otherwise fails, or never
    returns when its timeout is one that `forever` says cannot expire. -/
def exec (m : Lww) : Call → Seen × Lww
  | .set key value => (.replied .done, Function.update m key (some value))
  | .get key => (match m key with
      | some data => .replied (.value data)
      | none => .failed, m)
  | .wait keys timeout =>
    (if keys.all fun key => (m key).isSome then .replied .done
      else if forever timeout then .blocked else .failed, m)

/-- Each call in turn, up to and including the first call that never returns: what the caller
    saw of every call made, and the final map. -/
def runEach : List Call → Lww → List Seen × Lww
  | [], m => ([], m)
  | c :: cs, m =>
    let rest := if (exec forever m c).1.goesOn then runEach cs (exec forever m c).2
      else ([], (exec forever m c).2)
    ((exec forever m c).1 :: rest.1, rest.2)

end Lww

/-- **Runs refine the map when calls do.** Let `R` relate states of a backend to maps, such that
    every call allowed by `ok`, from related states, is seen as the map's call and leaves related
    states. Then every run of allowed calls is seen call by call as the map's run, both stopping
    at the same call, and leaves related states. -/
theorem runEach_refines {σ : Type} (S : Store σ) (forever : Millis → Bool) (R : σ → Lww → Prop)
    (ok : Call → Prop)
    (hexec : ∀ c s m, R s m → ok c →
      (outcome (S.exec c.toOp s)).seen = (Lww.exec forever m c).1 ∧
        R (stateOf (S.exec c.toOp s)) (Lww.exec forever m c).2) :
    ∀ (calls : List Call) (s : σ) (m : Lww), R s m → (∀ c ∈ calls, ok c) →
      (S.runEach (calls.map Call.toOp) s).1.map Outcome.seen = (Lww.runEach forever calls m).1 ∧
        R (S.runEach (calls.map Call.toOp) s).2 (Lww.runEach forever calls m).2
  | [], _, _, h, _ => ⟨rfl, h⟩
  | c :: calls, s, m, h, hok => by
    obtain ⟨hseen, h'⟩ := hexec c s m h (hok c (List.mem_cons_self _ _))
    simp only [List.map_cons, Store.runEach, Lww.runEach, hseen]
    split
    · obtain ⟨ih₁, ih₂⟩ := runEach_refines S forever R ok hexec calls _ _ h' fun c' hc' =>
        hok c' (List.mem_cons_of_mem _ hc')
      exact ⟨by rw [ih₁], ih₂⟩
    · exact ⟨rfl, h'⟩

end Gloo.Rendezvous
