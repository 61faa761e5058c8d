import Mathlib

set_option autoImplicit false

/-! # The rendezvous store interface

`gloo/rendezvous/store.h` declares `Store`: three pure virtual methods (`set`, `get`, `wait`)
and four derived ones (`multi_get`, `multi_set`, `append`, `add`) whose default bodies call
back into `get` and `set`, with `has_v2_support()` false by default. A `Store σ` here is that
virtual table over the state `σ` the store acts on. Each method is a `StoreM σ` computation:
an `EStateM` whose failure keeps the state, since a C++ exception does not undo the writes made
before it.

The state every backend of this development acts on is a `World`: the table of a `HashStore`
(process memory), the file system a `FileStore` keeps its files in, and the steady clock.

`Store.base` builds a backend that overrides only the pure virtual methods, as `HashStore` and
`FileStore` do. `Store.Lawful` says that a backend reporting no v2 support keeps the default
derived methods, which is what `PrefixStore`'s fallback relies on. `Store.exec` runs one call of
the interface, so that a sequence of calls is a list of `Op`s run by `Store.run`. -/

namespace Gloo.Rendezvous

/-- The contents of a `std::vector<char>`. -/
abbrev Bytes := List UInt8

/-- The count of a `std::chrono::milliseconds`. -/
abbrev Millis := Int

/-- An `errno` value, as `std::system_error` carries it. -/
structure Errno where
  code : Nat
  deriving DecidableEq, Repr

/-- How a store call ends without returning. `runtimeError` and `systemError` are the
    exceptions the backends throw (`std::runtime_error` with its `what()`, and
    `std::system_error(errno, std::system_category())`). The other two are not exceptions but
    the end of every defined behaviour of the run: undefined behaviour (a read past a vector's
    end, a signed overflow), and a call that never returns. -/
inductive StoreError
  | runtimeError (what : String)
  | systemError (code : Errno)
  | undefinedBehavior (what : String)
  | blocksForever
  deriving DecidableEq, Repr

/-- A store method over the state `σ`; on an exception the state keeps every earlier write. -/
abbrev StoreM (σ α : Type) := EStateM StoreError σ α

/-- What a call returned or threw. -/
inductive Outcome (α : Type)
  | returned (a : α)
  | threw (e : StoreError)
  deriving DecidableEq, Repr

section StoreM

variable {σ α β : Type}

@[simp] theorem StoreM.pure_apply (a : α) (s : σ) : (pure a : StoreM σ α) s = .ok a s := rfl

@[simp] theorem StoreM.throw_apply (e : StoreError) (s : σ) :
    (throw e : StoreM σ α) s = .error e s := rfl

theorem StoreM.bind_of_ok {x : StoreM σ α} {s s' : σ} {a : α} (f : α → StoreM σ β)
    (h : x s = .ok a s') : (x >>= f) s = f a s' := by
  show EStateM.bind x f s = _
  simp only [EStateM.bind, h]

theorem StoreM.bind_of_error {x : StoreM σ α} {s s' : σ} {e : StoreError} (f : α → StoreM σ β)
    (h : x s = .error e s') : (x >>= f) s = .error e s' := by
  show EStateM.bind x f s = _
  simp only [EStateM.bind, h]

/-- The state a call leaves behind, whether it returned or threw. -/
def stateOf : EStateM.Result StoreError σ α → σ
  | .ok _ s => s
  | .error _ s => s

@[simp] theorem stateOf_ok (a : α) (s : σ) :
    stateOf (.ok a s : EStateM.Result StoreError σ α) = s := rfl

@[simp] theorem stateOf_error (e : StoreError) (s : σ) :
    stateOf (.error e s : EStateM.Result StoreError σ α) = s := rfl

/-- What a call returned or threw, without the state it left. -/
def outcome : EStateM.Result StoreError σ α → Outcome α
  | .ok a _ => .returned a
  | .error e _ => .threw e

@[simp] theorem outcome_ok (a : α) (s : σ) :
    outcome (.ok a s : EStateM.Result StoreError σ α) = .returned a := rfl

@[simp] theorem outcome_error (e : StoreError) (s : σ) :
    outcome (.error e s : EStateM.Result StoreError σ α) = .threw e := rfl

/-- `x` leaves the observation `obs` of the state as it was, whether it returns or throws. -/
def Keeps {γ : Type} (obs : σ → γ) (x : StoreM σ α) : Prop := ∀ s, obs (stateOf (x s)) = obs s

section Keeps

variable {γ : Type} {obs : σ → γ}

theorem Keeps.pure (a : α) : Keeps obs (pure a : StoreM σ α) := fun _ => rfl

theorem Keeps.throw (e : StoreError) : Keeps obs (throw e : StoreM σ α) := fun _ => rfl

theorem Keeps.bind {x : StoreM σ α} {f : α → StoreM σ β} (hx : Keeps obs x)
    (hf : ∀ a, Keeps obs (f a)) : Keeps obs (x >>= f) := by
  intro s
  have hs := hx s
  cases h : x s with
  | ok a s' => rw [StoreM.bind_of_ok f h, hf a s']; rwa [h] at hs
  | error e s' => rw [StoreM.bind_of_error f h]; rwa [h] at hs

theorem outcome_map (f : α → β) (x : StoreM σ α) (s : σ) :
    outcome ((f <$> x) s) = match outcome (x s) with
      | .returned a => .returned (f a)
      | .threw e => .threw e := by
  show outcome (EStateM.map f x s) = _
  unfold EStateM.map
  cases x s <;> rfl

theorem outcome_bind_pure (x : StoreM σ α) (f : α → β) (s : σ) :
    outcome ((x >>= fun a => pure (f a)) s) = match outcome (x s) with
      | .returned a => .returned (f a)
      | .threw e => .threw e := by
  rw [← map_eq_pure_bind]
  exact outcome_map f x s

theorem stateOf_map (f : α → β) (x : StoreM σ α) (s : σ) :
    stateOf ((f <$> x) s) = stateOf (x s) := by
  show stateOf (EStateM.map f x s) = _
  unfold EStateM.map
  cases x s <;> rfl

theorem Keeps.map {x : StoreM σ α} (f : α → β) (hx : Keeps obs x) : Keeps obs (f <$> x) := by
  rw [map_eq_pure_bind]
  exact hx.bind fun _ => Keeps.pure _

end Keeps

end StoreM

/-! ## The state of the backends -/

/-- A path of the file system: the names of its components below the root. -/
abbrev Path := List String

/-- What a path names: a regular file with its bytes, or a directory. -/
inductive Entry
  | file (data : Bytes)
  | dir
  deriving DecidableEq, Repr

/-- A file system: what each path names, if anything. -/
abbrev Fs := Path → Option Entry

/-- The state the backends act on: the `map_` of a `HashStore`, the file system a `FileStore`
    keeps its files in, and the reading of `std::chrono::steady_clock` in nanoseconds. -/
structure World where
  map : String → Option Bytes
  fs : Fs
  clock : Nat

/-- A fresh process: an empty table, a file system holding only the root directory, the clock
    at zero. -/
def World.init : World := ⟨fun _ => none, fun p => if p = [] then some .dir else none, 0⟩

/-- A file system holding only the directory `dir` and its ancestors. -/
def Fs.onlyDir (dir : Path) : Fs := fun p => if p.isPrefixOf dir then some .dir else none

/-! ## `int64_t` values as bytes -/

/-- The `n` low bytes of `x`, the least significant first. -/
def leBytes : Nat → Nat → Bytes
  | 0, _ => []
  | n + 1, x => UInt8.ofNat (x % 256) :: leBytes n (x / 256)

/-- The number whose bytes, the least significant first, are `bs`. -/
def leValue : Bytes → Nat
  | [] => 0
  | b :: bs => b.toNat + 256 * leValue bs

@[simp] theorem length_leBytes (n x : Nat) : (leBytes n x).length = n := by
  induction n generalizing x with
  | zero => rfl
  | succ n ih => simp [leBytes, ih]

theorem leValue_leBytes (n x : Nat) : leValue (leBytes n x) = x % 256 ^ n := by
  induction n generalizing x with
  | zero => simp [leBytes, leValue, Nat.mod_one]
  | succ n ih =>
    have hb : (UInt8.ofNat (x % 256)).toNat = x % 256 :=
      UInt8.toNat_ofNat_of_lt (Nat.mod_lt _ (by decide))
    rw [leBytes, leValue, ih, hb, Nat.pow_succ', Nat.mod_mul]

/-- `memcpy(newData.data(), &current, sizeof(int64_t))`: the bytes of an `int64_t` in the
    host's order, little-endian on the hosts gloo builds for. A value read back on the same host
    round-trips in either order (`decodeInt64_encodeInt64`). -/
def encodeInt64 (x : BitVec 64) : Bytes := leBytes 8 x.toNat

/-- `memcpy(&current, data.data(), sizeof(int64_t))`. -/
def decodeInt64 (data : Bytes) : BitVec 64 := BitVec.ofNat 64 (leValue data)

@[simp] theorem length_encodeInt64 (x : BitVec 64) : (encodeInt64 x).length = 8 :=
  length_leBytes 8 _

@[simp] theorem decodeInt64_encodeInt64 (x : BitVec 64) : decodeInt64 (encodeInt64 x) = x := by
  apply BitVec.eq_of_toNat_eq
  rw [decodeInt64, encodeInt64, leValue_leBytes, BitVec.toNat_ofNat,
    Nat.mod_eq_of_lt (x.isLt.trans_eq (by decide)), Nat.mod_eq_of_lt x.isLt]

/-- The values an `int64_t` holds. -/
def InInt64 (x : Int) : Prop := -2 ^ 63 ≤ x ∧ x < 2 ^ 63

instance : DecidablePred InInt64 := fun _ => inferInstanceAs (Decidable (_ ∧ _))

theorem toInt_ofInt_of_inInt64 {x : Int} (h : InInt64 x) : (BitVec.ofInt 64 x).toInt = x := by
  obtain ⟨h1, h2⟩ := h
  rw [BitVec.toInt_ofInt, Int.bmod_def]
  split <;> omega

/-! ## The interface -/

/-- The virtual methods of `Store`, over the state `σ` the store acts on. -/
structure Store (σ : Type) where
  set : String → Bytes → StoreM σ Unit
  get : String → StoreM σ Bytes
  wait : List String → Millis → StoreM σ Unit
  hasV2Support : Bool
  multiGet : List String → StoreM σ (List Bytes)
  multiSet : List String → List Bytes → StoreM σ Unit
  append : String → Bytes → StoreM σ Unit
  add : String → BitVec 64 → StoreM σ (BitVec 64)

namespace Store

variable {σ : Type}

/-! ## The default derived methods -/

/-- `Store::multi_get`: `get` every key, in order. -/
def defaultMultiGet (get : String → StoreM σ Bytes) : List String → StoreM σ (List Bytes)
  | [] => pure []
  | key :: keys => do
    let value ← get key
    let values ← defaultMultiGet get keys
    pure (value :: values)

/-- `Store::multi_set`: `set(keys[i], values[i])` for every `i < keys.size()`. Nothing compares
    the two sizes: extra values are never read, and a missing `values[i]` is read past the end
    of the vector. -/
def defaultMultiSet (set : String → Bytes → StoreM σ Unit) :
    List String → List Bytes → StoreM σ Unit
  | [], _ => pure ()
  | key :: keys, value :: values => do
    set key value
    defaultMultiSet set keys values
  | _ :: _, [] => throw (.undefinedBehavior "values[i] read past the end")

/-- `Store::append`: read the value, extend it, write it back. -/
def defaultAppend (get : String → StoreM σ Bytes) (set : String → Bytes → StoreM σ Unit)
    (key : String) (value : Bytes) : StoreM σ Unit := do
  let existing ← get key
  set key (existing ++ value)

/-- `Store::add`: read the value, take it as an `int64_t` when it is eight bytes long and as
    `0` otherwise, add `value` (`current += value`, undefined on signed overflow), write the
    sum back and return it. -/
def defaultAdd (get : String → StoreM σ Bytes) (set : String → Bytes → StoreM σ Unit)
    (key : String) (value : BitVec 64) : StoreM σ (BitVec 64) := do
  let data ← get key
  let current : BitVec 64 := if data.length = 8 then decodeInt64 data else 0
  let sum := current.toInt + value.toInt
  if InInt64 sum then
    let total := BitVec.ofInt 64 sum
    set key (encodeInt64 total)
    pure total
  else throw (.undefinedBehavior "signed overflow in current += value")

/-- A backend that overrides only the pure virtual methods, as `HashStore` and `FileStore` do. -/
def base (set : String → Bytes → StoreM σ Unit) (get : String → StoreM σ Bytes)
    (wait : List String → Millis → StoreM σ Unit) : Store σ where
  set := set
  get := get
  wait := wait
  hasV2Support := false
  multiGet := defaultMultiGet get
  multiSet := defaultMultiSet set
  append := defaultAppend get set
  add := defaultAdd get set

/-- A backend that reports no v2 support keeps the default derived methods: the assumption
    `PrefixStore`'s fallback rests on. -/
structure Lawful (S : Store σ) : Prop where
  multiGet : S.hasV2Support = false → S.multiGet = defaultMultiGet S.get
  multiSet : S.hasV2Support = false → S.multiSet = defaultMultiSet S.set
  append : S.hasV2Support = false → S.append = defaultAppend S.get S.set
  add : S.hasV2Support = false → S.add = defaultAdd S.get S.set

theorem base_lawful (set : String → Bytes → StoreM σ Unit) (get : String → StoreM σ Bytes)
    (wait : List String → Millis → StoreM σ Unit) : (base set get wait).Lawful :=
  ⟨fun _ => rfl, fun _ => rfl, fun _ => rfl, fun _ => rfl⟩

/-! ## Calls and runs -/

/-- One call of the interface. -/
inductive Op
  | set (key : String) (value : Bytes)
  | get (key : String)
  | wait (keys : List String) (timeout : Millis)
  | hasV2Support
  | multiGet (keys : List String)
  | multiSet (keys : List String) (values : List Bytes)
  | append (key : String) (value : Bytes)
  | add (key : String) (value : BitVec 64)
  deriving DecidableEq, Repr

/-- What a call returns. -/
inductive Reply
  | done
  | value (data : Bytes)
  | values (data : List Bytes)
  | flag (supported : Bool)
  | total (sum : BitVec 64)
  deriving DecidableEq, Repr

/-- The keys a call names, in order. -/
def Op.keys : Op → List String
  | .set key _ | .get key | .append key _ | .add key _ => [key]
  | .wait keys _ | .multiGet keys | .multiSet keys _ => keys
  | .hasV2Support => []

/-- A call that only reads the store: `get`, `wait`, `has_v2_support`, `multi_get`. -/
def Op.isRead : Op → Bool
  | .get _ | .wait _ _ | .hasV2Support | .multiGet _ => true
  | .set _ _ | .multiSet _ _ | .append _ _ | .add _ _ => false

/-- The same call with `f` applied to every key it names. -/
def Op.mapKeys (f : String → String) : Op → Op
  | .set key value => .set (f key) value
  | .get key => .get (f key)
  | .wait keys timeout => .wait (keys.map f) timeout
  | .hasV2Support => .hasV2Support
  | .multiGet keys => .multiGet (keys.map f)
  | .multiSet keys values => .multiSet (keys.map f) values
  | .append key value => .append (f key) value
  | .add key value => .add (f key) value

@[simp] theorem Op.keys_mapKeys (f : String → String) (op : Op) :
    (op.mapKeys f).keys = op.keys.map f := by
  cases op <;> rfl

/-- Run one call through the virtual table. -/
def exec (S : Store σ) : Op → StoreM σ Reply
  | .set key value => do S.set key value; pure .done
  | .get key => .value <$> S.get key
  | .wait keys timeout => do S.wait keys timeout; pure .done
  | .hasV2Support => pure (.flag S.hasV2Support)
  | .multiGet keys => .values <$> S.multiGet keys
  | .multiSet keys values => do S.multiSet keys values; pure .done
  | .append key value => do S.append key value; pure .done
  | .add key value => .total <$> S.add key value

/-- Run calls one after another; the first that does not return ends the run. -/
def run (S : Store σ) : List Op → StoreM σ (List Reply)
  | [] => pure []
  | op :: ops => do
    let reply ← S.exec op
    let replies ← S.run ops
    pure (reply :: replies)

/-- Two stores that agree call by call, up to a renaming `g` of the calls, agree on every run. -/
theorem run_eq_of_exec_eq {S T : Store σ} (g : Op → Op) (h : ∀ op, S.exec op = T.exec (g op))
    (ops : List Op) : S.run ops = T.run (ops.map g) := by
  induction ops with
  | nil => rfl
  | cons op ops ih => simp only [run, List.map_cons, h, ih]

/-! ## Frames -/

section Frame

variable {γ : Type} {obs : σ → γ}

theorem keeps_defaultMultiGet {get : String → StoreM σ Bytes} (hget : ∀ key, Keeps obs (get key))
    (keys : List String) : Keeps obs (defaultMultiGet get keys) := by
  induction keys with
  | nil => exact Keeps.pure _
  | cons key keys ih => exact (hget key).bind fun _ => ih.bind fun _ => Keeps.pure _

theorem keeps_defaultMultiSet {set : String → Bytes → StoreM σ Unit} :
    ∀ (keys : List String) (values : List Bytes), (∀ key ∈ keys, ∀ data, Keeps obs (set key data)) →
      Keeps obs (defaultMultiSet set keys values)
  | [], _, _ => Keeps.pure _
  | _ :: _, [], _ => Keeps.throw _
  | key :: keys, value :: values, hset =>
    (hset key (List.mem_cons_self _ _) value).bind fun _ =>
      keeps_defaultMultiSet keys values fun k hk => hset k (List.mem_cons_of_mem _ hk)

/-- **The frame of a call.** On a backend that keeps the default derived methods, a call leaves
    an observation of the state as it was when every `set` it can make on its own keys does,
    and `get` and `wait` do. -/
theorem exec_keeps {S : Store σ} (hl : S.Lawful) (hv : S.hasV2Support = false) {op : Op}
    (hset : ∀ key ∈ op.keys, ∀ data, Keeps obs (S.set key data))
    (hget : ∀ key, Keeps obs (S.get key))
    (hwait : ∀ keys timeout, Keeps obs (S.wait keys timeout)) : Keeps obs (S.exec op) := by
  cases op with
  | set key value => exact (hset key (List.mem_singleton_self _) value).bind fun _ => Keeps.pure _
  | get key => exact (hget key).map _
  | wait keys timeout => exact (hwait keys timeout).bind fun _ => Keeps.pure _
  | hasV2Support => exact Keeps.pure _
  | multiGet keys =>
    simp only [exec, hl.multiGet hv]
    exact (keeps_defaultMultiGet hget keys).map _
  | multiSet keys values =>
    simp only [exec, hl.multiSet hv]
    exact (keeps_defaultMultiSet keys values hset).bind fun _ => Keeps.pure _
  | append key value =>
    simp only [exec, hl.append hv]
    exact ((hget key).bind fun _ => hset key (List.mem_singleton_self _) _).bind
      fun _ => Keeps.pure _
  | add key value =>
    simp only [exec, hl.add hv]
    refine ((hget key).bind fun _ => ?_).map _
    dsimp only
    split_ifs
    all_goals first
      | exact Keeps.throw _
      | exact (hset key (List.mem_singleton_self _) _).bind fun _ => Keeps.pure _

theorem run_keeps {S : Store σ} {ops : List Op} (h : ∀ op ∈ ops, Keeps obs (S.exec op)) :
    Keeps obs (S.run ops) := by
  induction ops with
  | nil => exact Keeps.pure _
  | cons op ops ih =>
    exact (h op (List.mem_cons_self _ _)).bind fun _ =>
      (ih fun o ho => h o (List.mem_cons_of_mem _ ho)).bind fun _ => Keeps.pure _

end Frame

end Store

/-- The calls a client makes of the basic interface. -/
inductive Call
  | set (key : String) (value : Bytes)
  | get (key : String)
  | wait (keys : List String) (timeout : Millis)
  deriving DecidableEq, Repr

namespace Call

/-- The call as the store's virtual table receives it. -/
def toOp : Call → Store.Op
  | set key value => .set key value
  | get key => .get key
  | wait keys timeout => .wait keys timeout

/-- The keys a call names. -/
def keys : Call → List String
  | set key _ | get key => [key]
  | wait keys _ => keys

end Call

end Gloo.Rendezvous
