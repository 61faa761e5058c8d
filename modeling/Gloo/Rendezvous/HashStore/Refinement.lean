import Gloo.Rendezvous.Backend
import Gloo.Rendezvous.Lww

set_option autoImplicit false

/-! # The hash store against a last-writer-wins map

A `HashStore` under any stack of `PrefixStore`s keeps key `key` at `physKey pfxs key` of its
table, an injective map, so the table seen through the stack (`hashView`) is a last-writer-wins
map on every key, with no restriction on the key strings (compare `fileStore_refines_lww`).

A `wait` for a key never set throws `"Wait timeout"`, or never returns when its timeout is the
`kNoTimeout` sentinel: that ends the caller's run. The one condition is on `wait`:
`HashStore::wait` computes `steady_clock::now() + timeout` before it looks at the table, and
that sum is undefined when it leaves the range of `int64_t` nanoseconds. Sequential calls never
move the clock, so the condition is one on each timeout at the clock of the run
(`hashStack_refines_lww`). -/

namespace Gloo.Rendezvous

namespace Backend

variable (kNoTimeout : Millis) (pfxs : List String)

/-- The map a client of `hashStack pfxs` sees: the table at each key's physical key. -/
def hashView (w : World) : Lww := fun key => w.map (physKey pfxs key)

/-- Writing a physical key is setting the key in the map seen through the stack. -/
theorem hashView_insert (w : World) (key : String) (data : Bytes) :
    hashView pfxs { w with map := HashStore.insert w.map (physKey pfxs key) data }
      = Function.update (hashView pfxs w) key (some data) := by
  funext k
  by_cases e : k = key
  · subst e
    simp [hashView]
  · simp only [hashView, Function.update_noteq e]
    exact HashStore.insert_other _ _ ((physKey_inj pfxs).not.2 e)

/-- **One call refines the map.** A call on a hash stack is seen as the call of the map seen
    through the stack, where the timeout that cannot expire is `kNoTimeout`; it leaves as that map
    what the map's call leaves, and keeps the clock. A `wait` needs a deadline in range. -/
theorem hashStack_exec_refines (c : Call) (w : World)
    (hc : ∀ keys timeout, c = .wait keys timeout → (HashStore.deadline w.clock timeout).isSome) :
    (outcome (((hashStack pfxs).toStore kNoTimeout).exec c.toOp w)).seen
        = (Lww.exec (fun timeout => decide (timeout = kNoTimeout)) (hashView pfxs w) c).1 ∧
      hashView pfxs (stateOf (((hashStack pfxs).toStore kNoTimeout).exec c.toOp w))
        = (Lww.exec (fun timeout => decide (timeout = kNoTimeout)) (hashView pfxs w) c).2 ∧
      (stateOf (((hashStack pfxs).toStore kNoTimeout).exec c.toOp w)).clock = w.clock := by
  cases c with
  | set key value =>
    simp only [Call.toOp, Store.exec, hashStack_set, Lww.exec]
    exact ⟨rfl, hashView_insert pfxs w key value, rfl⟩
  | get key =>
    have hs : stateOf (HashStore.get (physKey pfxs key) w) = w := HashStore.stateOf_get _ _
    refine ⟨?_, ?_, ?_⟩ <;>
      simp only [Call.toOp, Store.exec, hashStack_get, outcome_map, stateOf_map, hs, Lww.exec]
    simp only [HashStore.get, hashView]
    cases w.map (physKey pfxs key) <;> rfl
  | wait keys timeout =>
    obtain ⟨d, hd⟩ := Option.isSome_iff_exists.1 (hc keys timeout rfl)
    have hw := HashStore.wait_of_deadline kNoTimeout (keys.map (physKey pfxs)) hd
    have hall : HashStore.allFound w.map (keys.map (physKey pfxs))
        = keys.all fun key => (hashView pfxs w key).isSome := by
      simp [HashStore.allFound, hashView, List.all_map, Function.comp_def]
    rw [hall] at hw
    simp only [Call.toOp, Store.exec, hashStack_wait, Lww.exec]
    split at hw
    · rw [StoreM.bind_of_ok _ hw, if_pos ‹_›]
      exact ⟨rfl, rfl, rfl⟩
    · rw [if_neg ‹_›]
      split at hw
      · rw [StoreM.bind_of_error _ hw]
        exact ⟨by simp [Outcome.seen, ‹timeout ≠ kNoTimeout›], rfl, rfl⟩
      · rw [StoreM.bind_of_error _ hw]
        exact ⟨by simp [Outcome.seen, not_not.1 ‹_›], rfl, rfl⟩

end Backend

end Gloo.Rendezvous
