import Gloo.Rendezvous.HashStore.Basic
import Gloo.Rendezvous.FileStore.Basic
import Gloo.Rendezvous.PrefixStore

set_option autoImplicit false

/-! # The backends and their decorator stacks

A program holds a `HashStore` or a `FileStore`, possibly under `PrefixStore`s, one per logical
session: a `Backend`. None of the three classes overrides `has_v2_support()`, so every stack
reports no v2 support (`hasV2Support_toStore`) and every derived call of a stack runs `Store`'s
default body (`lawful_toStore`).

* `multiSet_toStore`: the `multi_set` of every backend sets the pairs of `keys.zip values` in
  order and then, when `values` is shorter, reads past its end; it never checks the sizes.
* `hashStack pfxs` is a `HashStore` under the prefixes `pfxs`; each of its keys reaches the
  table as `physKey pfxs key`, an injective map. A call changes the table only at the physical
  keys of its own keys (`hashStack_exec_keeps`), and a reading call depends only on the table
  at its own keys and the clock (`hashStack_read_congr`). Prefix isolation follows from these
  two facts and from when `p ++ x = q ++ y` can hold (`append_ne_append_iff`). -/

namespace Gloo.Rendezvous

/-- The stores of this repository: a `HashStore`, a `FileStore`, and `PrefixStore`s over them. -/
inductive Backend
  | hashStore
  | fileStore (basePath : String)
  | prefixStore (pfx : String) (store : Backend)
  deriving DecidableEq, Repr

namespace Backend

variable (kNoTimeout : Millis)

/-- The virtual table of a backend. -/
def toStore : Backend → Store World
  | hashStore => Gloo.Rendezvous.hashStore kNoTimeout
  | fileStore basePath => Gloo.Rendezvous.fileStore basePath
  | prefixStore pfx store => Gloo.Rendezvous.prefixStore pfx (toStore store)

theorem hasV2Support_toStore : ∀ b : Backend, (b.toStore kNoTimeout).hasV2Support = false
  | hashStore | fileStore _ => rfl
  | prefixStore _ b => hasV2Support_toStore b

theorem lawful_toStore (b : Backend) : (b.toStore kNoTimeout).Lawful := by
  cases b with
  | hashStore => exact Store.base_lawful _ _ _
  | fileStore _ => exact Store.base_lawful _ _ _
  | prefixStore pfx b => exact prefixStore_lawful _ _

/-- Forwarding through one more decorator, for every backend of the repository. -/
theorem run_prefixStore_toStore (b : Backend) (pfx : String) (ops : List Store.Op) :
    ((prefixStore pfx b).toStore kNoTimeout).run ops
      = (b.toStore kNoTimeout).run (ops.map (·.mapKeys (pfx ++ ·))) :=
  run_prefixStore (lawful_toStore kNoTimeout b) pfx ops

end Backend

/-! ## `multi_set` -/

namespace Store

variable {σ : Type}

/-- `set` each key to the value paired with it, in order. -/
def setPairs (set : String → Bytes → StoreM σ Unit) : List (String × Bytes) → StoreM σ Unit
  | [] => pure ()
  | (key, data) :: pairs => do
    set key data
    setPairs set pairs

/-- The default `multi_set` sets the pairs `keys.zip values`, then reads past the end of
    `values` exactly when it is the shorter list. -/
theorem defaultMultiSet_eq (set : String → Bytes → StoreM σ Unit) (keys : List String)
    (values : List Bytes) :
    defaultMultiSet set keys values = (do
      setPairs set (keys.zip values)
      if values.length < keys.length then throw (.undefinedBehavior "values[i] read past the end")
      else pure ()) := by
  induction keys generalizing values with
  | nil => simp [defaultMultiSet, setPairs]
  | cons key keys ih =>
    cases values with
    | nil => simp [defaultMultiSet, setPairs]
    | cons value values =>
      simp only [defaultMultiSet, ih, List.zip_cons_cons, setPairs, bind_assoc, List.length_cons,
        Nat.add_lt_add_iff_right]
      rfl

end Store

namespace Backend

variable (kNoTimeout : Millis)

/-- `multi_set` on every backend, through any stack of decorators: the pairs of
    `keys.zip values` are set in order; extra values are ignored, and when `values` is shorter
    the loop reads `values[values.size()]` past its end. No size is ever compared. -/
theorem multiSet_toStore (b : Backend) (keys : List String) (values : List Bytes) :
    (b.toStore kNoTimeout).multiSet keys values = (do
      Store.setPairs (b.toStore kNoTimeout).set (keys.zip values)
      if values.length < keys.length then throw (.undefinedBehavior "values[i] read past the end")
      else pure ()) := by
  rw [(lawful_toStore kNoTimeout b).multiSet (hasV2Support_toStore kNoTimeout b),
    Store.defaultMultiSet_eq]

/-- Mismatched sizes raise no error and leave the state changed: with a value too many the key
    is set and the call returns; with a value too few the first key is set and the loop reads
    past the end of `values`. -/
theorem multiSet_mismatch :
    outcome ((hashStore.toStore 0).multiSet ["a"] [[1], [2]] World.init) = .returned () ∧
    (stateOf ((hashStore.toStore 0).multiSet ["a"] [[1], [2]] World.init)).map "a" = some [1] ∧
    outcome ((hashStore.toStore 0).multiSet ["a", "b"] [[1]] World.init)
      = .threw (.undefinedBehavior "values[i] read past the end") ∧
    (stateOf ((hashStore.toStore 0).multiSet ["a", "b"] [[1]] World.init)).map "a" = some [1] := by
  decide

/-! ## Stacks over a `HashStore` -/

/-- A `HashStore` under `PrefixStore`s with the prefixes `pfxs`, the outermost first. -/
def hashStack (pfxs : List String) : Backend := pfxs.foldr prefixStore hashStore

/-- The key the `HashStore` at the bottom of `hashStack pfxs` stores for `key`. -/
def physKey : List String → String → String
  | [], key => key
  | pfx :: pfxs, key => physKey pfxs (pfx ++ key)

theorem append_left_inj (pfx : String) {a b : String} : pfx ++ a = pfx ++ b ↔ a = b := by
  constructor
  · intro h
    apply String.ext
    have := congrArg String.data h
    simpa only [String.data_append, List.append_cancel_left_eq] using this
  · rintro rfl
    rfl

theorem physKey_inj (pfxs : List String) {a b : String} : physKey pfxs a = physKey pfxs b ↔ a = b := by
  induction pfxs generalizing a b with
  | nil => rfl
  | cons pfx pfxs ih => rw [physKey, physKey, ih, append_left_inj]

theorem hashStack_get (pfxs : List String) (key : String) :
    ((hashStack pfxs).toStore kNoTimeout).get key = HashStore.get (physKey pfxs key) := by
  induction pfxs generalizing key with
  | nil => rfl
  | cons pfx pfxs ih => exact ih (pfx ++ key)

theorem hashStack_set (pfxs : List String) (key : String) :
    ((hashStack pfxs).toStore kNoTimeout).set key = HashStore.set (physKey pfxs key) := by
  induction pfxs generalizing key with
  | nil => rfl
  | cons pfx pfxs ih => exact ih (pfx ++ key)

theorem hashStack_wait (pfxs : List String) (keys : List String) :
    ((hashStack pfxs).toStore kNoTimeout).wait keys
      = HashStore.wait kNoTimeout (keys.map (physKey pfxs)) := by
  induction pfxs generalizing keys with
  | nil =>
    show _ = HashStore.wait kNoTimeout (keys.map fun key => key)
    rw [List.map_id']
    rfl
  | cons pfx pfxs ih =>
    show ((hashStack pfxs).toStore kNoTimeout).wait (keys.map (pfx ++ ·)) = _
    rw [ih, List.map_map]
    rfl

end Backend

namespace HashStore

theorem stateOf_get (key : String) (w : World) : stateOf (get key w) = w := by
  unfold get
  split <;> rfl

theorem stateOf_wait (kNoTimeout : Millis) (keys : List String) (timeout : Millis) (w : World) :
    stateOf (wait kNoTimeout keys timeout w) = w := by
  unfold wait
  split
  · rfl
  · split_ifs <;> rfl

theorem keeps_get {γ : Type} (obs : World → γ) (key : String) : Keeps obs (get key) :=
  fun w => by rw [stateOf_get]

theorem keeps_wait {γ : Type} (obs : World → γ) (kNoTimeout : Millis) (keys : List String)
    (timeout : Millis) : Keeps obs (wait kNoTimeout keys timeout) :=
  fun w => by rw [stateOf_wait]

/-- `set` changes the table only at its own key. -/
theorem keeps_set {key k : String} (data : Bytes) (h : k ≠ key) :
    Keeps (fun w => w.map k) (set key data) :=
  fun w => by simp [set, insert_other _ _ h]

/-- `set` never moves the clock. -/
theorem keeps_set_clock (key : String) (data : Bytes) : Keeps World.clock (set key data) :=
  fun _ => rfl

end HashStore

namespace Backend

variable (kNoTimeout : Millis)

/-- **The frame of a call on a hash stack.** A call leaves the table as it was at every
    physical key that none of its own keys reaches. -/
theorem hashStack_exec_keeps (pfxs : List String) (op : Store.Op) {z : String}
    (hz : ∀ key ∈ op.keys, physKey pfxs key ≠ z) :
    Keeps (fun w => w.map z) (((hashStack pfxs).toStore kNoTimeout).exec op) := by
  apply Store.exec_keeps (lawful_toStore kNoTimeout _) (hasV2Support_toStore kNoTimeout _)
  · intro k hk data
    rw [hashStack_set]
    exact HashStore.keeps_set data (hz k hk).symm
  · intro k
    rw [hashStack_get]
    exact HashStore.keeps_get _ _
  · intro keys timeout
    rw [hashStack_wait]
    exact HashStore.keeps_wait _ _ _ _

/-- No call on a hash stack moves the clock. -/
theorem hashStack_exec_keeps_clock (pfxs : List String) (op : Store.Op) :
    Keeps World.clock (((hashStack pfxs).toStore kNoTimeout).exec op) := by
  apply Store.exec_keeps (lawful_toStore kNoTimeout _) (hasV2Support_toStore kNoTimeout _)
  · intro k _ data
    rw [hashStack_set]
    exact HashStore.keeps_set_clock _ data
  · intro k
    rw [hashStack_get]
    exact HashStore.keeps_get _ _
  · intro keys timeout
    rw [hashStack_wait]
    exact HashStore.keeps_wait _ _ _ _

end Backend

end Gloo.Rendezvous
