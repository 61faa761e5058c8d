import Gloo.Rendezvous.Backend

set_option autoImplicit false

/-! # Prefix isolation

Two facts about `PrefixStore` as a namespace over one backing store. The decorator forwards:
every run through `PrefixStore(pfx, S)` is the run of `S` on the prefixed keys
(`prefixStore_forwards_and_confines`). And over a `HashStore`, a run through the decorator
changes what `S` answers only at keys that begin with `pfx`, and a call through
`PrefixStore(p, S)` changes no reading call through `PrefixStore(q, S)` whose keys it cannot
reach (`prefixStores_isolated_iff`).

Neither holds as a namespace guarantee in general. The prefix is joined with no separator, so
`"a" + "bc"` and `"ab" + "c"` are the same key (`prefixStores_collide`); and over a
`FileStore` a prefixed key is a path, so the prefix `"./"` writes the file of the unprefixed key
(`prefixStore_fileStore_aliases`), and the prefixes `"./a"` and `"a"`, neither of which extends
the other, share the file `ax` (`prefixStores_collide`). -/

namespace Gloo.Rendezvous

namespace HashStore

theorem outcome_get_congr {w w' : World} {key : String} (h : w.map key = w'.map key) :
    outcome (get key w) = outcome (get key w') := by
  unfold get
  rw [h]
  split <;> rfl

theorem outcome_wait_congr (kNoTimeout : Millis) (keys : List String) (timeout : Millis)
    {w w' : World} (hmap : ∀ key ∈ keys, w.map key = w'.map key) (hclock : w.clock = w'.clock) :
    outcome (wait kNoTimeout keys timeout w) = outcome (wait kNoTimeout keys timeout w') := by
  unfold wait
  rw [hclock, allFound_congr hmap]
  split
  · rfl
  · split_ifs <;> rfl

end HashStore

namespace Store

variable {σ : Type}

/-- The outcome of `multi_get`'s default body depends only on the outcomes of its `get`s, when
    `get` only reads. -/
theorem outcome_defaultMultiGet_congr {get : String → StoreM σ Bytes}
    (hget : ∀ key s, stateOf (get key s) = s) {s s' : σ} :
    ∀ keys : List String, (∀ key ∈ keys, outcome (get key s) = outcome (get key s')) →
      outcome (defaultMultiGet get keys s) = outcome (defaultMultiGet get keys s')
  | [], _ => rfl
  | key :: keys, h => by
    have ih := outcome_defaultMultiGet_congr hget keys fun k hk => h k (List.mem_cons_of_mem _ hk)
    have hk := h key (List.mem_cons_self _ _)
    simp only [defaultMultiGet]
    cases e : get key s with
    | ok v s₁ =>
      cases e' : get key s' with
      | ok v' s₁' =>
        have hs : s₁ = s := by simpa [e] using hget key s
        have hs' : s₁' = s' := by simpa [e'] using hget key s'
        have hv : v = v' := by simpa [e, e'] using hk
        subst hs hs' hv
        rw [StoreM.bind_of_ok _ e, StoreM.bind_of_ok _ e', outcome_bind_pure, outcome_bind_pure, ih]
      | error err s₁' => rw [e, e'] at hk; cases hk
    | error err s₁ =>
      cases e' : get key s' with
      | ok v' s₁' => rw [e, e'] at hk; cases hk
      | error err' s₁' =>
        have herr : err = err' := by simpa [e, e'] using hk
        rw [StoreM.bind_of_error _ e, StoreM.bind_of_error _ e', herr]
        rfl

end Store

namespace Backend

variable (kNoTimeout : Millis)

/-- A reading call on a hash stack depends only on the table at its own keys and on the
    clock. -/
theorem hashStack_read_congr (pfxs : List String) {r : Store.Op} (hr : r.isRead = true)
    {w w' : World} (hmap : ∀ key ∈ r.keys, w.map (physKey pfxs key) = w'.map (physKey pfxs key))
    (hclock : w.clock = w'.clock) :
    outcome (((hashStack pfxs).toStore kNoTimeout).exec r w)
      = outcome (((hashStack pfxs).toStore kNoTimeout).exec r w') := by
  cases r with
  | get key =>
    simp only [Store.exec, outcome_map, hashStack_get,
      HashStore.outcome_get_congr (hmap key (List.mem_singleton_self _))]
  | wait keys timeout =>
    simp only [Store.exec, outcome_bind_pure, hashStack_wait]
    rw [HashStore.outcome_wait_congr kNoTimeout _ timeout (by simpa using hmap) hclock]
  | hasV2Support => rfl
  | multiGet keys =>
    simp only [Store.exec, outcome_map,
      (lawful_toStore kNoTimeout _).multiGet (hasV2Support_toStore kNoTimeout _)]
    have hget : ∀ key s, stateOf (((hashStack pfxs).toStore kNoTimeout).get key s) = s :=
      fun key s => by simp only [hashStack_get, HashStore.stateOf_get]
    have hout : ∀ key ∈ keys, outcome (((hashStack pfxs).toStore kNoTimeout).get key w)
        = outcome (((hashStack pfxs).toStore kNoTimeout).get key w') := fun key hk => by
      rw [hashStack_get]
      exact HashStore.outcome_get_congr (hmap key hk)
    rw [Store.outcome_defaultMultiGet_congr hget keys hout]
  | set | multiSet | append | add => cases hr

/-! ## Forwarding and confinement -/

/-- **Forwarding and confinement.** For every backend, a run through `PrefixStore(pfx, S)` is the
    run of `S` with every key `k` replaced by `pfx + k`: the same replies, exceptions and final
    state. When `S` is a `HashStore` or a stack of `PrefixStore`s over one, the run changes what
    `S` answers for a key only when the key begins with `pfx`. -/
theorem prefixStore_forwards_and_confines :
    (∀ (b : Backend) (pfx : String) (ops : List Store.Op),
      ((prefixStore pfx b).toStore kNoTimeout).run ops
        = (b.toStore kNoTimeout).run (ops.map (·.mapKeys (pfx ++ ·)))) ∧
    (∀ (pfxs : List String) (pfx key : String) (ops : List Store.Op) (w : World),
      (∀ rest, key ≠ pfx ++ rest) →
      outcome (((hashStack pfxs).toStore kNoTimeout).get key
          (stateOf (((prefixStore pfx (hashStack pfxs)).toStore kNoTimeout).run ops w)))
        = outcome (((hashStack pfxs).toStore kNoTimeout).get key w)) := by
  refine ⟨run_prefixStore_toStore kNoTimeout, fun pfxs pfx key ops w hkey => ?_⟩
  have hkeep : Keeps (fun w => w.map (physKey pfxs key))
      (((hashStack (pfx :: pfxs)).toStore kNoTimeout).run ops) :=
    Store.run_keeps fun op _ => hashStack_exec_keeps kNoTimeout (pfx :: pfxs) op
      fun x _ e => hkey x ((physKey_inj pfxs).1 e).symm
  rw [hashStack_get]
  exact HashStore.outcome_get_congr (hkeep w)

/-- Confinement fails over a `FileStore`: through the prefix `"./"`, `set("x")` writes the file
    `S` reads for the key `"x"`, which does not begin with `"./"`. -/
theorem prefixStore_fileStore_aliases :
    (∀ rest, ("x" : String) ≠ "./" ++ rest) ∧
    outcome (((fileStore "/tmp/gloo").toStore 0).get "x"
      { World.init with fs := Fs.onlyDir ["tmp", "gloo"] }) = .threw (.systemError ENOENT) ∧
    outcome (((fileStore "/tmp/gloo").toStore 0).get "x"
      (stateOf (((prefixStore "./" (fileStore "/tmp/gloo")).toStore 0).set "x" [1]
        { World.init with fs := Fs.onlyDir ["tmp", "gloo"] }))) = .returned [1] := by
  refine ⟨fun rest h => ?_, by decide, by decide⟩
  have := congrArg String.data h
  simp at this

theorem prefixStore_forwards_and_confines_at :
    (∀ rest, ("b" : String) ≠ "a" ++ rest) ∧
    outcome (((hashStack []).toStore 0).get "b"
        (stateOf (((prefixStore "a" (hashStack [])).toStore 0).run [.set "b" [1]] World.init)))
      = outcome (((hashStack []).toStore 0).get "b" World.init) := by
  have hb : ∀ rest, ("b" : String) ≠ "a" ++ rest := fun rest h => by
    have := congrArg String.data h
    simp at this
  exact ⟨hb, (prefixStore_forwards_and_confines 0).2 [] "a" "b" [.set "b" [1]] World.init hb⟩

/-! ## Two prefixes over one store -/

/-- When `p + x = q + y` can hold: exactly when one prefix extends the other. -/
theorem append_ne_append_iff (p q : String) :
    (∀ x y : String, p ++ x ≠ q ++ y) ↔ (∀ rest, q ≠ p ++ rest) ∧ (∀ rest, p ≠ q ++ rest) := by
  constructor
  · intro h
    exact ⟨fun rest e => h rest "" (by rw [e, String.append_empty]),
      fun rest e => h "" rest (by rw [e, String.append_empty])⟩
  · rintro ⟨hq, hp⟩ x y e
    have e' := congrArg String.data e
    simp only [String.data_append, List.append_eq_append_iff] at e'
    rcases e' with ⟨a, hqa, -⟩ | ⟨c, hpc, -⟩
    · exact hq ⟨a⟩ (String.ext (by rw [hqa]; rfl))
    · exact hp ⟨c⟩ (String.ext (by rw [hpc]; rfl))

/-- **Prefix isolation.** Over a `HashStore` or a stack of `PrefixStore`s over one, a call
    through `PrefixStore(p, S)` leaves the outcome of every reading call (`get`, `multi_get`,
    `wait`) through `PrefixStore(q, S)` as it was, as long as no key `x` of the first and `y` of
    the second have `p + x = q + y`. That holds for all keys exactly when neither prefix is a
    prefix of the other. -/
theorem prefixStores_isolated_iff :
    (∀ (pfxs : List String) (p q : String) (op r : Store.Op) (w : World), r.isRead = true →
      (∀ x ∈ op.keys, ∀ y ∈ r.keys, p ++ x ≠ q ++ y) →
      outcome (((prefixStore q (hashStack pfxs)).toStore kNoTimeout).exec r
          (stateOf (((prefixStore p (hashStack pfxs)).toStore kNoTimeout).exec op w)))
        = outcome (((prefixStore q (hashStack pfxs)).toStore kNoTimeout).exec r w)) ∧
    (∀ p q : String,
      (∀ x y : String, p ++ x ≠ q ++ y) ↔ (∀ rest, q ≠ p ++ rest) ∧ (∀ rest, p ≠ q ++ rest)) := by
  refine ⟨fun pfxs p q op r w hr hdisj => ?_, append_ne_append_iff⟩
  refine hashStack_read_congr kNoTimeout (q :: pfxs) hr (fun y hy => ?_)
    (hashStack_exec_keeps_clock kNoTimeout (p :: pfxs) op w)
  exact hashStack_exec_keeps kNoTimeout (p :: pfxs) op
    (fun x hx e => hdisj x hx y hy ((physKey_inj pfxs).1 e)) w

theorem prefixStores_isolated_iff_at :
    (Store.Op.get "y").isRead = true ∧
    (∀ x ∈ (Store.Op.set "x" [1]).keys, ∀ y ∈ (Store.Op.get "y").keys, "a" ++ x ≠ "b" ++ y) ∧
    outcome (((prefixStore "b" (hashStack [])).toStore 0).exec (.get "y")
        (stateOf (((prefixStore "a" (hashStack [])).toStore 0).exec (.set "x" [1]) World.init)))
      = outcome (((prefixStore "b" (hashStack [])).toStore 0).exec (.get "y") World.init) :=
  ⟨rfl, by decide,
    (prefixStores_isolated_iff 0).1 [] "a" "b" (.set "x" [1]) (.get "y") World.init rfl (by decide)⟩

/-- Two distinct prefixes, one extending the other, share a key: `set("bc")` through the prefix
    `"a"` is what `get("c")` through the prefix `"ab"` reads. Over a `FileStore` keys are paths,
    and prefixes neither of which extends the other share files too: `set("x")` through `"./a"`
    writes the file `ax` that `get("x")` through `"a"` reads. -/
theorem prefixStores_collide :
    ("a" : String) ≠ "ab" ∧
    outcome (((prefixStore "ab" hashStore).toStore 0).get "c" World.init)
      = .threw (.runtimeError "Key not found: abc") ∧
    outcome (((prefixStore "ab" hashStore).toStore 0).get "c"
        (stateOf (((prefixStore "a" hashStore).toStore 0).set "bc" [1] World.init)))
      = .returned [1] ∧
    (∀ rest, ("a" : String) ≠ "./a" ++ rest) ∧ (∀ rest, ("./a" : String) ≠ "a" ++ rest) ∧
    outcome (((prefixStore "a" (fileStore "/tmp/gloo")).toStore 0).get "x"
        { World.init with fs := Fs.onlyDir ["tmp", "gloo"] })
      = .threw (.systemError ENOENT) ∧
    outcome (((prefixStore "a" (fileStore "/tmp/gloo")).toStore 0).get "x"
        (stateOf (((prefixStore "./a" (fileStore "/tmp/gloo")).toStore 0).set "x" [1]
          { World.init with fs := Fs.onlyDir ["tmp", "gloo"] })))
      = .returned [1] := by
  refine ⟨by decide, by decide, by decide, fun rest h => ?_, fun rest h => ?_, by decide, by decide⟩
  all_goals
    have := congrArg String.data h
    simp at this

end Backend

end Gloo.Rendezvous
