import Gloo.Rendezvous.Backend

set_option autoImplicit false

/-! # `append` and `add`: read, change, write back

`Store::append` and `Store::add` read the key with `get`, compute the new bytes and write them
with `set`. `append` writes the old bytes followed by the new ones. `add` takes the old value as
an `int64_t` when it is eight bytes long and as `0` otherwise, adds the delta, writes the eight
bytes of the sum and returns it. Both read with `get`, which throws for a key that was never set,
in both backends: neither starts a missing key empty or at zero; they fail.

`Store.ReadsBack S key` is what they need of a backend: a read never changes the state, and once a
read returned, a write returns and is read back. Every backend of the repository has it at every
key (`Backend.readsBack`); for the file store this holds because a path that resolved to a file
resolves to it again after the file is rewritten. `Backend.append_appends` and
`Backend.add_counts` are then the contracts of the two calls. -/

namespace Gloo.Rendezvous

namespace Store

variable {σ : Type}

/-- `key` reads back what was written to it. -/
structure ReadsBack (S : Store σ) (key : String) : Prop where
  stateOf_get : ∀ s, stateOf (S.get key s) = s
  set_get : ∀ s v, S.get key s = .ok v s →
    ∀ data, ∃ s', S.set key data s = .ok () s' ∧ S.get key s' = .ok data s'

/-- One `append` on a key that was read: it writes the old bytes followed by `value`, and they are
    read back. -/
theorem defaultAppend_of_get {S : Store σ} {key : String} (hr : S.ReadsBack key) {s : σ}
    {data : Bytes} (hget : S.get key s = .ok data s) (value : Bytes) :
    ∃ s', defaultAppend S.get S.set key value s = .ok () s' ∧
      S.get key s' = .ok (data ++ value) s' := by
  obtain ⟨s', hset, hget'⟩ := hr.set_get s data hget (data ++ value)
  exact ⟨s', by rw [defaultAppend, StoreM.bind_of_ok _ hget]; exact hset, hget'⟩

/-- The value `add` starts from: the stored bytes as an `int64_t` when there are eight of them,
    and `0` otherwise. -/
def counterValue (data : Bytes) : Int := if data.length = 8 then (decodeInt64 data).toInt else 0

@[simp] theorem counterValue_encodeInt64 (x : BitVec 64) : counterValue (encodeInt64 x) = x.toInt := by
  simp [counterValue]

/-- `current` before the sum, as an integer: the counter value. -/
theorem toInt_current (data : Bytes) :
    (if data.length = 8 then decodeInt64 data else 0).toInt = counterValue data := by
  unfold counterValue
  split <;> rfl

/-- The totals a run of `add`s returns from `start`: `start + d₁`, `start + d₁ + d₂`, …. -/
def runningTotals (start : Int) : List Int → List Int
  | [] => []
  | d :: ds => (start + d) :: runningTotals (start + d) ds

/-- One `add` on a key that was read: it returns the sum and writes its eight bytes. -/
theorem defaultAdd_of_get {S : Store σ} {key : String} (hr : S.ReadsBack key) {s : σ}
    {data : Bytes} (hget : S.get key s = .ok data s) (value : BitVec 64)
    (hin : InInt64 (counterValue data + value.toInt)) :
    ∃ s', defaultAdd S.get S.set key value s
        = .ok (BitVec.ofInt 64 (counterValue data + value.toInt)) s' ∧
      S.get key s' = .ok (encodeInt64 (BitVec.ofInt 64 (counterValue data + value.toInt))) s' := by
  obtain ⟨s', hset, hget'⟩ := hr.set_get s data hget
    (encodeInt64 (BitVec.ofInt 64 (counterValue data + value.toInt)))
  refine ⟨s', ?_, hget'⟩
  rw [defaultAdd, StoreM.bind_of_ok _ hget]
  simp only [toInt_current, if_pos hin]
  rw [StoreM.bind_of_ok _ hset]
  rfl

/-- One `add` on a key that was read, whose sum leaves `int64_t`: `current += value` overflows,
    before anything is written. -/
theorem defaultAdd_of_get_overflow {S : Store σ} {key : String} {s : σ} {data : Bytes}
    (hget : S.get key s = .ok data s) (value : BitVec 64)
    (hover : ¬ InInt64 (counterValue data + value.toInt)) :
    defaultAdd S.get S.set key value s
      = .error (.undefinedBehavior "signed overflow in current += value") s := by
  rw [defaultAdd, StoreM.bind_of_ok _ hget]
  simp only [toInt_current, if_neg hover]
  rfl

/-- An `add` whose read throws throws the same, with the state the read left. -/
theorem defaultAdd_of_get_error {S : Store σ} {key : String} {s s' : σ} {e : StoreError}
    (hget : S.get key s = .error e s') (value : BitVec 64) :
    defaultAdd S.get S.set key value s = .error e s' :=
  StoreM.bind_of_error _ hget

/-- A run of `add`s on a key that was read returns the running totals and leaves the eight
    bytes of the last one. -/
theorem run_adds {S : Store σ} (hl : S.Lawful) (hv : S.hasV2Support = false) {key : String}
    (hr : S.ReadsBack key) :
    ∀ (ds : List (BitVec 64)) (s : σ) (data : Bytes), S.get key s = .ok data s →
      (∀ t ∈ runningTotals (counterValue data) (ds.map BitVec.toInt), InInt64 t) →
      ∃ s', S.run (ds.map (.add key)) s
          = .ok ((runningTotals (counterValue data) (ds.map BitVec.toInt)).map
              fun t => .total (BitVec.ofInt 64 t)) s' ∧
        S.get key s' = .ok (match (runningTotals (counterValue data) (ds.map BitVec.toInt)).getLast? with
          | some t => encodeInt64 (BitVec.ofInt 64 t)
          | none => data) s'
  | [], s, data, hget, _ => ⟨s, rfl, hget⟩
  | d :: ds, s, data, hget, hin => by
    have hin₁ : InInt64 (counterValue data + d.toInt) := hin _ (List.mem_cons_self _ _)
    obtain ⟨s₁, hadd, hget₁⟩ := defaultAdd_of_get hr hget d hin₁
    have hstart : counterValue (encodeInt64 (BitVec.ofInt 64 (counterValue data + d.toInt)))
        = counterValue data + d.toInt := by
      rw [counterValue_encodeInt64, toInt_ofInt_of_inInt64 hin₁]
    obtain ⟨s', hrun, hget'⟩ := run_adds hl hv hr ds s₁ _ hget₁ (by
      rw [hstart]
      exact fun t ht => hin t (List.mem_cons_of_mem _ ht))
    rw [hstart] at hrun hget'
    refine ⟨s', ?_, ?_⟩
    · simp only [List.map_cons, run, exec, hl.add hv]
      rw [map_eq_pure_bind, bind_assoc, StoreM.bind_of_ok _ hadd]
      simp only [pure_bind]
      rw [StoreM.bind_of_ok _ hrun]
      rfl
    · rw [hget']
      simp only [List.map_cons, runningTotals]
      cases h : runningTotals (counterValue data + d.toInt) (ds.map BitVec.toInt) with
      | nil => rfl
      | cons t ts => simp [List.getLast?_cons, h]

/-- An `append` whose read throws throws the same, with the state the read left. -/
theorem defaultAppend_of_get_error {S : Store σ} {key : String} {s s' : σ} {e : StoreError}
    (hget : S.get key s = .error e s') (value : Bytes) :
    defaultAppend S.get S.set key value s = .error e s' :=
  StoreM.bind_of_error _ hget

end Store

namespace Backend

variable (kNoTimeout : Millis)

/-- Every key of every backend reads back what was written to it. -/
theorem readsBack : ∀ (b : Backend) (key : String), (b.toStore kNoTimeout).ReadsBack key
  | hashStore, key =>
    ⟨HashStore.stateOf_get key, fun s _ _ data =>
      ⟨_, rfl, show HashStore.get key _ = _ by simp [HashStore.get]⟩⟩
  | fileStore basePath, key =>
    ⟨FileStore.stateOf_get basePath key, fun _ _ hget data => FileStore.set_get_of_get hget data⟩
  | prefixStore pfx b, key =>
    ⟨(readsBack b (pfx ++ key)).stateOf_get, (readsBack b (pfx ++ key)).set_get⟩

/-- **`append`.** On every backend, `append(key, v)` on a key that holds `data` returns and
    leaves `data ++ v`. On a key whose `get` throws (a key that was never set) it throws the same
    and leaves the state as `get` did. -/
theorem append_appends (b : Backend) (key : String) :
    (∀ (w : World) (data value : Bytes), (b.toStore kNoTimeout).get key w = .ok data w →
      ∃ w', (b.toStore kNoTimeout).append key value w = .ok () w' ∧
        (b.toStore kNoTimeout).get key w' = .ok (data ++ value) w') ∧
    (∀ (w w' : World) (e : StoreError) (value : Bytes),
      (b.toStore kNoTimeout).get key w = .error e w' →
      (b.toStore kNoTimeout).append key value w = .error e w') := by
  rw [(lawful_toStore kNoTimeout b).append (hasV2Support_toStore kNoTimeout b)]
  exact ⟨fun _ _ value hget => Store.defaultAppend_of_get (readsBack kNoTimeout b key) hget value,
    fun _ _ _ value hget => Store.defaultAppend_of_get_error hget value⟩

theorem append_appends_at :
    ((fileStore "/tmp/gloo").toStore 0).get "k"
        { World.init with fs := (Fs.onlyDir ["tmp", "gloo"]).write ["tmp", "gloo", "k"] [1, 2] }
      = .ok [1, 2]
        { World.init with fs := (Fs.onlyDir ["tmp", "gloo"]).write ["tmp", "gloo", "k"] [1, 2] } ∧
    ∃ w', ((fileStore "/tmp/gloo").toStore 0).append "k" [3]
        { World.init with fs := (Fs.onlyDir ["tmp", "gloo"]).write ["tmp", "gloo", "k"] [1, 2] }
        = .ok () w' ∧
      ((fileStore "/tmp/gloo").toStore 0).get "k" w' = .ok [1, 2, 3] w' :=
  ⟨rfl, (append_appends 0 (fileStore "/tmp/gloo") "k").1
    { World.init with fs := (Fs.onlyDir ["tmp", "gloo"]).write ["tmp", "gloo", "k"] [1, 2] } [1, 2]
    [3] rfl⟩

/-- **The counter contract.** On every backend, a run of `add(key, dᵢ)` on a key that holds
    `data` returns the running totals from `c₀` (the eight bytes of `data` as an `int64_t`, or
    `0` when `data` has another length), as long as every total is an `int64_t`; after the run
    the key holds the eight bytes of the last total. On a key whose `get` throws (a key that was
    never set), `add` throws the same and leaves the state as `get` did. -/
theorem add_counts (b : Backend) (key : String) :
    (∀ (w : World) (data : Bytes) (ds : List (BitVec 64)),
      (b.toStore kNoTimeout).get key w = .ok data w →
      (∀ t ∈ Store.runningTotals (Store.counterValue data) (ds.map BitVec.toInt), InInt64 t) →
      ∃ w', (b.toStore kNoTimeout).run (ds.map (.add key)) w
          = .ok ((Store.runningTotals (Store.counterValue data) (ds.map BitVec.toInt)).map
              fun t => .total (BitVec.ofInt 64 t)) w' ∧
        (b.toStore kNoTimeout).get key w'
          = .ok (match (Store.runningTotals (Store.counterValue data) (ds.map BitVec.toInt)).getLast? with
            | some t => encodeInt64 (BitVec.ofInt 64 t)
            | none => data) w') ∧
    (∀ (w w' : World) (e : StoreError) (d : BitVec 64),
      (b.toStore kNoTimeout).get key w = .error e w' →
      (b.toStore kNoTimeout).add key d w = .error e w') := by
  have hl := lawful_toStore kNoTimeout b
  have hv := hasV2Support_toStore kNoTimeout b
  refine ⟨fun w data ds hget hin => Store.run_adds hl hv (readsBack kNoTimeout b key) ds w data hget hin,
    fun w w' e d hget => ?_⟩
  rw [hl.add hv]
  exact Store.defaultAdd_of_get_error hget d

theorem add_counts_at :
    (hashStore.toStore 0).get "k" { World.init with map := HashStore.insert World.init.map "k" (encodeInt64 5) }
      = .ok (encodeInt64 5) { World.init with map := HashStore.insert World.init.map "k" (encodeInt64 5) } ∧
    (∀ t ∈ Store.runningTotals (Store.counterValue (encodeInt64 5))
      (([3, 4] : List (BitVec 64)).map BitVec.toInt), InInt64 t) ∧
    ∃ w', (hashStore.toStore 0).run ((([3, 4] : List (BitVec 64))).map (.add "k"))
          { World.init with map := HashStore.insert World.init.map "k" (encodeInt64 5) }
        = .ok ((Store.runningTotals (Store.counterValue (encodeInt64 5))
            (([3, 4] : List (BitVec 64)).map BitVec.toInt)).map fun t => .total (BitVec.ofInt 64 t)) w' ∧
      (hashStore.toStore 0).get "k" w'
        = .ok (match (Store.runningTotals (Store.counterValue (encodeInt64 5))
            (([3, 4] : List (BitVec 64)).map BitVec.toInt)).getLast? with
          | some t => encodeInt64 (BitVec.ofInt 64 t)
          | none => encodeInt64 5) w' :=
  ⟨rfl, by decide, (add_counts 0 hashStore "k").1 _ _ _ rfl (by decide)⟩

/-- `add` on a key that was never set throws `get`'s error instead of starting from zero. -/
theorem add_missing_key_throws :
    outcome ((hashStore.toStore 0).add "k" 5 World.init)
      = .threw (.runtimeError "Key not found: k") ∧
    outcome (((fileStore "/tmp/gloo").toStore 0).add "k" 5
        { World.init with fs := Fs.onlyDir ["tmp", "gloo"] })
      = .threw (.systemError ENOENT) := by
  decide

/-- **`add` overflows.** On every backend, `add(key, d)` on a key whose counter value `c` (its
    eight bytes as an `int64_t`, or `0`) has `c + d` outside `int64_t` reaches the signed
    overflow in `current += value`, undefined behaviour, before it writes anything. Every `d`
    is allowed by the signature, so `c = 2⁶³ - 1` and `d = 1` reach it. -/
theorem add_overflows (b : Backend) (key : String) (w : World) (data : Bytes) (d : BitVec 64)
    (hget : (b.toStore kNoTimeout).get key w = .ok data w)
    (hover : ¬ InInt64 (Store.counterValue data + d.toInt)) :
    (b.toStore kNoTimeout).add key d w
      = .error (.undefinedBehavior "signed overflow in current += value") w := by
  rw [(lawful_toStore kNoTimeout b).add (hasV2Support_toStore kNoTimeout b)]
  exact Store.defaultAdd_of_get_overflow hget d hover

theorem add_overflows_at :
    (hashStore.toStore 0).get "k"
        { World.init with map := HashStore.insert World.init.map "k" (encodeInt64 9223372036854775807) }
      = .ok (encodeInt64 9223372036854775807)
        { World.init with map := HashStore.insert World.init.map "k" (encodeInt64 9223372036854775807) } ∧
    ¬ InInt64 (Store.counterValue (encodeInt64 9223372036854775807) + (1 : BitVec 64).toInt) ∧
    (hashStore.toStore 0).add "k" 1
        { World.init with map := HashStore.insert World.init.map "k" (encodeInt64 9223372036854775807) }
      = .error (.undefinedBehavior "signed overflow in current += value")
        { World.init with map := HashStore.insert World.init.map "k" (encodeInt64 9223372036854775807) } :=
  ⟨rfl, by decide, add_overflows 0 hashStore "k" _ _ 1 rfl (by decide)⟩

end Backend

end Gloo.Rendezvous
