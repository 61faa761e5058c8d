import Gloo.Rendezvous.FileStore.Basic
import Gloo.Rendezvous.Lww

set_option autoImplicit false

/-! # The file store against a last-writer-wins map

What a client of the rendezvous store expects of `set`, `get` and `wait` is a map from keys to
values where the last `set` wins (`Lww`). A `FileStore` keeps a key as the file
`realPath(key) = basePath + "/" + key`, and POSIX resolves that path; the two agree exactly on
the keys that are one plain file name (`PlainKey`).

`Mirrors basePath dir w m` relates a world to a map: the base path walks to the directory `dir`,
and the file of every plain key in it is the map's value. Each call keeps the relation and
answers as the map does (`exec_refines`); over whole runs, a file store over an empty directory
answers every sequence of calls on plain keys as the map does (`fileStore_refines_lww`). A `wait`
for a key never set throws its timeout when the steady clock can count past it (`timesOut`), and
otherwise never returns; the map's `wait` then never returns either, and both runs end there. Other
keys are paths: `"./x"` reads the file of `"x"`, and `""` and `"."` name the base directory,
which `stat` finds present (`fileStore_keys_alias`). -/

namespace Gloo.Rendezvous

/-! ## The relation -/

namespace FileStore

/-- The world keeps the map `m` in the directory `dir` that `basePath` walks to: the file of
    every plain key is the key's value, and there is no file for a key the map lacks. -/
structure Mirrors (basePath : String) (dir : Path) (w : World) (m : Lww) : Prop where
  no_nul : nul ∉ basePath.toList
  base : descendAll w.fs [] (components basePath.toList) = .ok dir
  files : ∀ key, PlainKey basePath key → w.fs (dir ++ [key]) = (m key).map .file

variable {basePath : String} {dir : Path} {w : World} {m : Lww} {key : String}

theorem Mirrors.openWrite (h : Mirrors basePath dir w m) (hk : PlainKey basePath key) :
    Gloo.Rendezvous.openWrite w.fs ⟨dir ++ [key], false⟩ = .ok () := by
  simp only [Gloo.Rendezvous.openWrite, h.files key hk]
  cases m key <;> rfl

theorem Mirrors.stat (h : Mirrors basePath dir w m) (hk : PlainKey basePath key) :
    Gloo.Rendezvous.stat w.fs ⟨dir ++ [key], false⟩
      = if (m key).isSome then .ok () else .error ENOENT := by
  simp only [Gloo.Rendezvous.stat, h.files key hk]
  cases m key <;> rfl

/-- Writing the file of a plain key is setting the key in the map. -/
theorem Mirrors.write (h : Mirrors basePath dir w m) (hk : PlainKey basePath key) (data : Bytes) :
    Mirrors basePath dir { w with fs := w.fs.write (dir ++ [key]) data }
      (Function.update m key (some data)) where
  no_nul := h.no_nul
  base := descendAll_of_dirs (Fs.write_keeps_dirs data (h.openWrite hk)) _ _ _ h.base
  files k hk' := by
    by_cases e : k = key
    · subst e
      simp
    · have hne : dir ++ [k] ≠ dir ++ [key] := by simpa using e
      simp only [Fs.write_other _ _ hne, Function.update_noteq e, h.files k hk']

/-! ## One call -/

theorem set_of_mirrors (h : Mirrors basePath dir w m) (hk : PlainKey basePath key) (data : Bytes) :
    set basePath key data w = .ok () { w with fs := w.fs.write (dir ++ [key]) data } := by
  simp only [set, setWith, openForSet, resolve_plain h.no_nul h.base hk, h.openWrite hk,
    SetFaults.kept]

theorem get_of_mirrors (h : Mirrors basePath dir w m) (hk : PlainKey basePath key) :
    get basePath key w = match m key with
      | some data => .ok data w
      | none => .error (.systemError ENOENT) w := by
  simp only [get, resolve_plain h.no_nul h.base hk, openRead, h.files key hk]
  cases m key <;> rfl

/-- A pass of the polling loop over plain keys finds what the map holds. -/
theorem ready_of_mirrors (h : Mirrors basePath dir w m) :
    ∀ keys : List String, (∀ key ∈ keys, PlainKey basePath key) →
      ready w.fs basePath keys = .ok (keys.all fun key => (m key).isSome)
  | [], _ => rfl
  | key :: keys, hks => by
    have ih := ready_of_mirrors h keys fun k hk => hks k (List.mem_cons_of_mem _ hk)
    have hk := hks key (List.mem_cons_self _ _)
    simp only [ready, resolve_plain h.no_nul h.base hk, h.stat hk, List.all_cons]
    cases m key <;> simp [ih, ENOENT]

/-- `wait` on plain keys: it returns when the map holds every key, and otherwise throws its
    timeout or, when the timeout cannot expire, never returns. -/
theorem wait_of_mirrors (h : Mirrors basePath dir w m) {keys : List String} (timeout : Millis)
    (hks : ∀ key ∈ keys, PlainKey basePath key) :
    wait basePath keys timeout w
      = if keys.all (fun key => (m key).isSome) then .ok () w
        else if timesOut w.clock timeout then .error (.runtimeError "Timeout waiting for keys") w
        else .error .blocksForever w := by
  simp only [wait, ready_of_mirrors h keys hks]
  cases keys.all fun key => (m key).isSome <;> rfl

/-- **One call refines the map.** On plain keys, a call is seen as the map's call, where the
    timeouts that cannot expire are those the clock cannot count past; the world after it mirrors
    the map after it, at the same clock. -/
theorem exec_refines (h : Mirrors basePath dir w m) (c : Call)
    (hc : ∀ key ∈ c.keys, PlainKey basePath key) :
    (outcome ((fileStore basePath).exec c.toOp w)).seen
        = (Lww.exec (fun timeout => !timesOut w.clock timeout) m c).1 ∧
      Mirrors basePath dir (stateOf ((fileStore basePath).exec c.toOp w))
        (Lww.exec (fun timeout => !timesOut w.clock timeout) m c).2 ∧
      (stateOf ((fileStore basePath).exec c.toOp w)).clock = w.clock := by
  cases c with
  | set key value =>
    have hk := hc key (List.mem_singleton_self _)
    simp only [Call.toOp, Store.exec, Lww.exec, fileStore_set]
    rw [StoreM.bind_of_ok _ (set_of_mirrors h hk value)]
    exact ⟨rfl, h.write hk value, rfl⟩
  | get key =>
    have hk := hc key (List.mem_singleton_self _)
    simp only [Call.toOp, Store.exec, Lww.exec, fileStore_get, outcome_map, stateOf_map,
      get_of_mirrors h hk]
    cases m key <;> exact ⟨rfl, h, rfl⟩
  | wait keys timeout =>
    have hw := wait_of_mirrors h timeout (show ∀ key ∈ keys, PlainKey basePath key from hc)
    -- the four cases: every key present or not, the timeout one the clock can count past or not
    rcases Bool.eq_false_or_eq_true (keys.all fun key => (m key).isSome) with hall | hall <;>
    rcases Bool.eq_false_or_eq_true (timesOut w.clock timeout) with ht | ht <;>
      simp only [Call.toOp, Store.exec, Lww.exec, fileStore_wait, bind, EStateM.bind, hw, hall,
        ht, if_true, if_false, Bool.false_eq_true, Bool.not_true, Bool.not_false] <;>
      exact ⟨rfl, h, rfl⟩

end FileStore

end Gloo.Rendezvous
