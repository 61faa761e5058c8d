import Gloo.Rendezvous.Store

set_option autoImplicit false

/-! # The prefix-scoping decorator

`PrefixStore(prefix, store)` (`prefix_store.cc`) forwards `set`, `get` and `wait` to `store`
with every key `k` replaced by `prefix + k`, and forwards `has_v2_support()`. Each derived
method forwards to `store`'s own when `store` reports v2 support; otherwise it runs `Store`'s
default body on the decorator itself, whose calls to `get` and `set` dispatch back to
`PrefixStore::get` and `PrefixStore::set`. `prefix_store.h` declares a `joinKey` helper that is
never defined or called: keys are joined to the prefix with no separator.

`exec_prefixStore` is the forwarding theorem: over a backend that keeps the default derived
methods when it reports no v2 support (`Store.Lawful`), every call through the decorator is the
same call on the backend with prefixed keys, on both branches. -/

namespace Gloo.Rendezvous

namespace PrefixStore

variable {σ : Type} (pfx : String) (store : Store σ)

/-- `PrefixStore::set`. -/
def set (key : String) (data : Bytes) : StoreM σ Unit := store.set (pfx ++ key) data

/-- `PrefixStore::get`. -/
def get (key : String) : StoreM σ Bytes := store.get (pfx ++ key)

/-- `PrefixStore::wait`. -/
def wait (keys : List String) (timeout : Millis) : StoreM σ Unit :=
  store.wait (keys.map (pfx ++ ·)) timeout

/-- `PrefixStore::multi_get`. -/
def multiGet (keys : List String) : StoreM σ (List Bytes) :=
  if !store.hasV2Support then Store.defaultMultiGet (get pfx store) keys
  else store.multiGet (keys.map (pfx ++ ·))

/-- `PrefixStore::multi_set`. -/
def multiSet (keys : List String) (values : List Bytes) : StoreM σ Unit :=
  if !store.hasV2Support then Store.defaultMultiSet (set pfx store) keys values
  else store.multiSet (keys.map (pfx ++ ·)) values

/-- `PrefixStore::append`. -/
def append (key : String) (data : Bytes) : StoreM σ Unit :=
  if !store.hasV2Support then Store.defaultAppend (get pfx store) (set pfx store) key data
  else store.append (pfx ++ key) data

/-- `PrefixStore::add`. -/
def add (key : String) (value : BitVec 64) : StoreM σ (BitVec 64) :=
  if !store.hasV2Support then Store.defaultAdd (get pfx store) (set pfx store) key value
  else store.add (pfx ++ key) value

end PrefixStore

/-- `PrefixStore(pfx, store)`. -/
def prefixStore {σ : Type} (pfx : String) (store : Store σ) : Store σ where
  set := PrefixStore.set pfx store
  get := PrefixStore.get pfx store
  wait := PrefixStore.wait pfx store
  hasV2Support := store.hasV2Support
  multiGet := PrefixStore.multiGet pfx store
  multiSet := PrefixStore.multiSet pfx store
  append := PrefixStore.append pfx store
  add := PrefixStore.add pfx store

namespace Store

variable {σ : Type}

theorem defaultMultiGet_comp (get : String → StoreM σ Bytes) (f : String → String)
    (keys : List String) :
    defaultMultiGet (fun key => get (f key)) keys = defaultMultiGet get (keys.map f) := by
  induction keys with
  | nil => rfl
  | cons key keys ih => simp only [defaultMultiGet, ih, List.map_cons]

theorem defaultMultiSet_comp (set : String → Bytes → StoreM σ Unit) (f : String → String)
    (keys : List String) (values : List Bytes) :
    defaultMultiSet (fun key => set (f key)) keys values = defaultMultiSet set (keys.map f) values := by
  induction keys generalizing values with
  | nil => rfl
  | cons key keys ih =>
    cases values with
    | nil => rfl
    | cons value values => simp only [defaultMultiSet, ih, List.map_cons]

end Store

variable {σ : Type}

theorem PrefixStore.defaultMultiGet_get (pfx : String) (store : Store σ) (keys : List String) :
    Store.defaultMultiGet (get pfx store) keys = Store.defaultMultiGet store.get (keys.map (pfx ++ ·)) :=
  Store.defaultMultiGet_comp store.get _ keys

theorem PrefixStore.defaultMultiSet_set (pfx : String) (store : Store σ) (keys : List String)
    (values : List Bytes) :
    Store.defaultMultiSet (set pfx store) keys values
      = Store.defaultMultiSet store.set (keys.map (pfx ++ ·)) values :=
  Store.defaultMultiSet_comp store.set _ keys values

/-- The decorator keeps the default derived methods whenever its backend reports no v2
    support, whatever the backend does. -/
theorem prefixStore_lawful (pfx : String) (store : Store σ) : (prefixStore pfx store).Lawful where
  multiGet h := by
    funext keys
    simp only [prefixStore] at h ⊢
    simp [PrefixStore.multiGet, h]
  multiSet h := by
    funext keys values
    simp only [prefixStore] at h ⊢
    simp [PrefixStore.multiSet, h]
  append h := by
    funext key data
    simp only [prefixStore] at h ⊢
    simp [PrefixStore.append, h]
  add h := by
    funext key value
    simp only [prefixStore] at h ⊢
    simp [PrefixStore.add, h]

/-- **Forwarding.** Over a backend that keeps the defaults when it reports no v2 support, a call
    through `PrefixStore(pfx, store)` is the same call on `store` with every key `k` replaced by
    `pfx + k`: the same reply or exception, and the same state. On the v2 branch the decorator
    forwards; on the other it runs the default body, whose `get`/`set` come back through the
    decorator and reach `store` with the prefixed key, as `store`'s own default body would. -/
theorem exec_prefixStore {store : Store σ} (h : store.Lawful) (pfx : String) (op : Store.Op) :
    (prefixStore pfx store).exec op = store.exec (op.mapKeys (pfx ++ ·)) := by
  cases hv : store.hasV2Support with
  | true =>
    cases op <;> simp [Store.exec, Store.Op.mapKeys, prefixStore, PrefixStore.set,
      PrefixStore.get, PrefixStore.wait, PrefixStore.multiGet, PrefixStore.multiSet,
      PrefixStore.append, PrefixStore.add, hv]
  | false =>
    cases op <;> simp only [Store.exec, Store.Op.mapKeys, prefixStore, PrefixStore.set,
      PrefixStore.get, PrefixStore.wait, PrefixStore.multiGet, PrefixStore.multiSet,
      PrefixStore.append, PrefixStore.add, hv, h.multiGet hv, h.multiSet hv, h.append hv,
      h.add hv, Bool.not_false, if_true, PrefixStore.defaultMultiGet_get,
      PrefixStore.defaultMultiSet_set]
    all_goals rfl

/-- Forwarding over whole runs. -/
theorem run_prefixStore {store : Store σ} (h : store.Lawful) (pfx : String) (ops : List Store.Op) :
    (prefixStore pfx store).run ops = store.run (ops.map (·.mapKeys (pfx ++ ·))) :=
  Store.run_eq_of_exec_eq _ (exec_prefixStore h pfx) ops

end Gloo.Rendezvous
