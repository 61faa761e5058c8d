import Gloo.Rendezvous.Store

set_option autoImplicit false

/-! # The in-process store, one call at a time

`HashStore` (`hash_store.cc`) is a `std::unordered_map` behind a mutex, with a condition
variable that `set` broadcasts on. This file models its calls as they run when no other thread
uses the store; the interleaved model, with the mutex and the condition variable, is
`HashStore/Threads.lean`.

`wait` first computes `steady_clock::now() + timeout`: the milliseconds are converted to the
clock's nanoseconds and added in `int64_t`, which is undefined when it overflows. When a key is
missing and no other thread can set it, the loop ends with the timeout error once the deadline
passes, or, when the timeout is `kNoTimeout`, never returns. `kNoTimeout` is declared outside
this repository (in `gloo/common/store.h`), so it is a parameter here. -/

namespace Gloo.Rendezvous

namespace HashStore

/-- `map_` with `data` under `key`. -/
def insert (m : String → Option Bytes) (key : String) (data : Bytes) : String → Option Bytes :=
  fun k => if k = key then some data else m k

@[simp] theorem insert_same (m : String → Option Bytes) (key : String) (data : Bytes) :
    insert m key data key = some data := by
  simp [insert]

theorem insert_other (m : String → Option Bytes) {key k : String} (data : Bytes) (h : k ≠ key) :
    insert m key data k = m k := by
  simp [insert, h]

/-- `HashStore::set`: `map_[key] = data` under the lock, then `notify_all`. -/
def set (key : String) (data : Bytes) : StoreM World Unit :=
  fun w => .ok () { w with map := insert w.map key data }

/-- `HashStore::get`. -/
def get (key : String) : StoreM World Bytes := fun w =>
  match w.map key with
  | some data => .ok data w
  | none => .error (.runtimeError ("Key not found: " ++ key)) w

/-- The loop condition of `HashStore::wait`: every key is in `map_`. -/
def allFound (m : String → Option Bytes) (keys : List String) : Bool :=
  keys.all fun key => (m key).isSome

/-- The deadline `steady_clock::now() + timeout` in nanoseconds, when it is defined. -/
def deadline (clock : Nat) (timeout : Millis) : Option Int :=
  if InInt64 (timeout * 1000000) ∧ InInt64 (clock + timeout * 1000000) then
    some (clock + timeout * 1000000)
  else none

theorem eq_of_deadline_eq_some {clock : Nat} {timeout : Millis} {d : Int}
    (h : deadline clock timeout = some d) : d = clock + timeout * 1000000 := by
  unfold deadline at h
  split_ifs at h
  exact (Option.some.inj h).symm

/-- `std::chrono::milliseconds::max()` leaves `int64_t` as nanoseconds, at every clock. -/
theorem deadline_max (clock : Nat) : deadline clock (2 ^ 63 - 1) = none :=
  if_neg fun h => absurd h.1 (by decide)

/-- `HashStore::wait` when no other thread sets a key. -/
def wait (kNoTimeout : Millis) (keys : List String) (timeout : Millis) : StoreM World Unit :=
  fun w => match deadline w.clock timeout with
    | none => .error (.undefinedBehavior "signed overflow in steady_clock::now() + timeout") w
    | some _ =>
      if allFound w.map keys then .ok () w
      else if timeout ≠ kNoTimeout then .error (.runtimeError "Wait timeout") w
      else .error .blocksForever w

/-- `wait` once its deadline is defined: it returns when every key is there, and otherwise
    times out or, for `kNoTimeout`, never returns. -/
theorem wait_of_deadline (kNoTimeout : Millis) (keys : List String) {timeout : Millis} {w : World}
    {d : Int} (hd : deadline w.clock timeout = some d) :
    wait kNoTimeout keys timeout w
      = if allFound w.map keys then .ok () w
        else if timeout ≠ kNoTimeout then .error (.runtimeError "Wait timeout") w
        else .error .blocksForever w := by
  simp only [wait, hd]

theorem allFound_congr {m m' : String → Option Bytes} :
    ∀ {keys : List String}, (∀ key ∈ keys, m key = m' key) → allFound m keys = allFound m' keys
  | [], _ => rfl
  | key :: keys, h => by
    have ih := allFound_congr fun k hk => h k (List.mem_cons_of_mem key hk)
    unfold allFound at ih ⊢
    rw [List.all_cons, List.all_cons, ih, h key (List.mem_cons_self _ _)]

end HashStore

/-- A `HashStore`; it keeps the default derived methods. -/
def hashStore (kNoTimeout : Millis) : Store World :=
  Store.base HashStore.set HashStore.get (HashStore.wait kNoTimeout)

end Gloo.Rendezvous
