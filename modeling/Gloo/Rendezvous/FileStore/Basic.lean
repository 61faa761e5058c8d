import Gloo.Rendezvous.FileStore.Path

set_option autoImplicit false

/-! # The file store, one call at a time

`FileStore` (`file_store.cc`) keeps each key as the file `realPath(key)`: `set` writes it through
a `std::ofstream`, `get` reads it through a `std::ifstream`, `wait` polls `stat` on every key.
This file models the calls as they run when no other process touches the directory; the
interleaved model is `FileStore/Processes.lean`.

`set` checks only `is_open()`: the result of `file.write` and of the flush when the stream is
closed are never looked at. `SetFaults` lets the environment fail each of these system calls, and
`setWith_cases` says what `set` then does: it throws only when the `open` failed, and leaves the
file untouched then; otherwise it returns normally with whatever prefix of the data reached the
file after the `open` truncated it.

The constructor creates the base directory with `mkdir` and takes `EEXIST` for success, without
looking at what exists. `create_over_file`: over a regular file it returns, and every call of the
store then throws `ENOTDIR`. -/

namespace Gloo.Rendezvous

namespace FileStore

/-- A failed system call surfaces as `std::system_error(errno, std::system_category())`. -/
def orThrow {α : Type} (w : World) : Except Errno α → EStateM.Result StoreError World α
  | .ok a => .ok a w
  | .error e => .error (.systemError e) w

/-- `FileStore::FileStore(path)`: `mkdir(path, 0777)`, where a failure with `EEXIST` counts as
    success. -/
def create (basePath : String) : StoreM World Unit := fun w =>
  match mkdir w.fs (cStr basePath) with
  | .ok fs => .ok () { w with fs }
  | .error e => if e = EEXIST then .ok () w else .error (.systemError e) w

/-- What the environment does to the system calls of one `set`: the `open` may fail with an
    `errno` (permissions, no space for a new inode, too many open files); after it succeeded,
    the buffered `write` or the flush at close may stop after `written` bytes (`ENOSPC`, `EIO`,
    a quota). -/
structure SetFaults where
  openError : Option Errno := none
  written : Option Nat := none

/-- The bytes of `data` that reach the file. -/
def SetFaults.kept (faults : SetFaults) (data : Bytes) : Bytes :=
  match faults.written with
  | some n => data.take n
  | none => data

/-- The `std::ofstream` of `set`: resolve the path and open it for writing. -/
def openForSet (fs : Fs) (path : String) (openError : Option Errno) : Except Errno Target :=
  match resolve fs (cStr path) with
  | .error e => .error e
  | .ok t => match openWrite fs t, openError with
    | .error e, _ => .error e
    | .ok (), some e => .error e
    | .ok (), none => .ok t

/-- `FileStore::set` under `faults`: the `open` truncates the file in place, the bytes that
    reach it are written, and only a failed `open` throws. -/
def setWith (faults : SetFaults) (basePath key : String) (data : Bytes) : StoreM World Unit :=
  fun w => match openForSet w.fs (realPath basePath key) faults.openError with
    | .error e => .error (.systemError e) w
    | .ok t => .ok () { w with fs := w.fs.write t.path (faults.kept data) }

/-- `FileStore::set` when every system call succeeds. -/
def set (basePath key : String) (data : Bytes) : StoreM World Unit := setWith {} basePath key data

/-- `FileStore::get`: open the file, size it, read it whole. -/
def get (basePath key : String) : StoreM World Bytes := fun w =>
  orThrow w (match resolve w.fs (cStr (realPath basePath key)) with
    | .ok t => openRead w.fs t
    | .error e => .error e)

/-- One pass of the loop of `FileStore::wait`: `stat` every key in order; `ENOENT` ends the
    pass as not ready, any other failure is thrown. -/
def ready (fs : Fs) (basePath : String) : List String → Except Errno Bool
  | [] => .ok true
  | key :: keys =>
    match (match resolve fs (cStr (realPath basePath key)) with
      | .ok t => stat fs t
      | .error e => .error e) with
    | .ok () => ready fs basePath keys
    | .error e => if e = ENOENT then .ok false else .error e

/-- The most whole milliseconds `duration_cast<milliseconds>(steady_clock::now() - start)` can
    reach from the reading `start`: `steady_clock` counts nanoseconds in `int64_t`, so its
    readings stay below `2 ^ 63`. -/
def maxElapsed (start : Nat) : Nat := (2 ^ 63 - 1 - start) / 1000000

/-- Whether the loop of `wait` can throw its timeout: some reading of the clock after `start` has
    more than `timeout` whole milliseconds elapsed. -/
def timesOut (start : Nat) (timeout : Millis) : Bool := decide (timeout < maxElapsed start)

/-- `FileStore::wait` when no other process writes: the directory does not change while the loop
    polls, so its first pass decides. It returns at once when every key is there. Otherwise the
    loop sleeps and polls until more than `timeout` whole milliseconds have passed since `start`
    and throws, which can happen only when `timeout` is below `maxElapsed start`; for a larger
    timeout the call never returns (the loop never compares the timeout with `kNoTimeout`).
    Calls one after another are taken at the clock reading where they find the world: this model
    does not advance the clock, the process model (`FileStore/Processes.lean`) does. -/
def wait (basePath : String) (keys : List String) (timeout : Millis) : StoreM World Unit :=
  fun w => match ready w.fs basePath keys with
    | .ok true => .ok () w
    | .ok false =>
      if timesOut w.clock timeout then .error (.runtimeError "Timeout waiting for keys") w
      else .error .blocksForever w
    | .error e => .error (.systemError e) w

end FileStore

/-- A `FileStore` over the directory `basePath`; it keeps the default derived methods. -/
def fileStore (basePath : String) : Store World :=
  Store.base (FileStore.set basePath) (FileStore.get basePath) (FileStore.wait basePath)

@[simp] theorem fileStore_set (basePath : String) :
    (fileStore basePath).set = FileStore.set basePath := rfl

@[simp] theorem fileStore_get (basePath : String) :
    (fileStore basePath).get = FileStore.get basePath := rfl

@[simp] theorem fileStore_wait (basePath : String) :
    (fileStore basePath).wait = FileStore.wait basePath := rfl

namespace FileStore

variable {basePath key : String} {data : Bytes} {w : World}

/-! ## What `set` does under faults -/

/-- The `open` of `set` succeeds exactly when the path resolves, the target can be opened for
    writing, and the environment injects no failure. -/
theorem openForSet_eq_ok {fs : Fs} {path : String} {openError : Option Errno} {t : Target}
    (h : openForSet fs path openError = .ok t) :
    resolve fs (cStr path) = .ok t ∧ openWrite fs t = .ok () ∧ openError = none := by
  unfold openForSet at h
  split at h
  · cases h
  · next t' hr =>
    split at h
    · cases h
    · cases h
    · next hw => cases h; exact ⟨hr, hw, rfl⟩

/-- With the flush at close failing after the `open` truncated `/tmp/gloo/k`, `set` returns
    normally and the file holds none of the old bytes nor the new ones. -/
theorem set_swallows_write_failure :
    outcome (setWith { written := some 0 } "/tmp/gloo" "k" [4, 5, 6]
        { World.init with fs := (Fs.onlyDir ["tmp", "gloo"]).write ["tmp", "gloo", "k"] [1, 2, 3] })
      = .returned () ∧
    outcome (get "/tmp/gloo" "k" (stateOf (setWith { written := some 0 } "/tmp/gloo" "k" [4, 5, 6]
        { World.init with fs := (Fs.onlyDir ["tmp", "gloo"]).write ["tmp", "gloo", "k"] [1, 2, 3] })))
      = .returned [] := by
  decide

/-! ## Reading back what was written -/

theorem get_eq_ok {v : Bytes} {w' : World} (h : get basePath key w = .ok v w') :
    w' = w ∧ ∃ t, resolve w.fs (cStr (realPath basePath key)) = .ok t ∧ openRead w.fs t = .ok v := by
  unfold get at h
  split at h
  · next t ht =>
    unfold orThrow at h
    split at h
    · next hv => cases h; exact ⟨rfl, t, ht, hv⟩
    · cases h
  · cases h

/-- `get` never changes the world, whether it returns or throws. -/
theorem stateOf_get (basePath key : String) (w : World) : stateOf (get basePath key w) = w := by
  unfold get orThrow
  split <;> rfl

/-- A file that was read can be written, and reads back what was written. -/
theorem set_get_of_get {v : Bytes} (hget : get basePath key w = .ok v w) (data : Bytes) :
    ∃ w', set basePath key data w = .ok () w' ∧ get basePath key w' = .ok data w' := by
  obtain ⟨-, t, hres, hread⟩ := get_eq_ok hget
  have hwrite := openWrite_of_openRead hread
  have hset : set basePath key data w = .ok () { w with fs := w.fs.write t.path data } := by
    simp only [set, setWith, openForSet, hres, hwrite, SetFaults.kept]
  refine ⟨_, hset, ?_⟩
  have hres' := resolve_of_dirs (Fs.write_keeps_dirs data hwrite) hres
  simp only [get, hres', openRead, Fs.write_same, (openRead_eq_ok hread).2, Bool.false_eq_true,
    if_false, orThrow]

/-! ## A base path that names a regular file -/

/-- A base path that resolves to a regular file, with no trailing slash, stops the walk of every
    path below it with `ENOTDIR`. -/
theorem resolve_below_file {fs : Fs} {t : Target} (hb : nul ∉ basePath.toList)
    (ht : resolve fs (cStr basePath) = .ok t) (hfile : fs t.path = some (.file data))
    (hplain : t.mustBeDir = false) (hk : PlainKey basePath key) :
    resolve fs (cStr (realPath basePath key)) = .error ENOTDIR := by
  have hc : cStr basePath = basePath.toList :=
    List.takeWhile_eq_self_iff.2 fun c hc => bne_iff_ne.2 fun e => hb (e ▸ hc)
  rw [hc] at ht
  unfold resolve at ht
  split_ifs at ht
  split at ht
  · next dir hdir =>
    -- the last piece of the base path is the file itself
    unfold finish at ht
    split_ifs at ht with h₁ h₂ h₃ <;> cases ht
    · cases hplain
    · cases hplain
    have hdesc : descend fs dir ((components basePath.toList).getLastD []) = .error ENOTDIR := by
      simp only [descend, h₁, h₂, h₃, if_false, hfile]
    have hsplit : components basePath.toList
        = (components basePath.toList).dropLast ++ [(components basePath.toList).getLastD []] := by
      rw [List.getLastD_eq_getLast?, List.getLast?_eq_getLast _ (components_ne_nil _),
        Option.getD_some, List.dropLast_append_getLast]
    have hwalk : descendAll fs [] (components basePath.toList) = .error ENOTDIR := by
      rw [hsplit, descendAll_append, hdir]
      show descendAll fs dir [_] = _
      simp only [descendAll, hdesc]
    have hcomp : components (realPath basePath key).toList
        = components basePath.toList ++ [key.toList] := by
      rw [toList_realPath, components_append_slash, components_of_no_slash hk.no_slash]
    have hne : (realPath basePath key).toList ≠ [] := by rw [toList_realPath]; simp
    have hlen : ¬ PATH_MAX ≤ byteLength (realPath basePath key).toList :=
      Nat.not_le.2 hk.path_max
    rw [cStr_realPath hb hk.no_nul]
    simp only [resolve, hne, hlen, if_false, hcomp, List.dropLast_concat, hwalk]
  · cases ht

/-- **A store over a regular file.** When the base path resolves, with no trailing slash, to a
    regular file, the constructor's `mkdir` fails with `EEXIST`, which it takes for an existing
    directory: it returns and changes nothing. Every `set`, `get` and `wait` on a plain key then
    throws `ENOTDIR`, and changes nothing either: `wait` throws at once, it does not time out. -/
theorem create_over_file {t : Target} (hb : nul ∉ basePath.toList)
    (ht : resolve w.fs (cStr basePath) = .ok t) (hfile : w.fs t.path = some (.file data))
    (hplain : t.mustBeDir = false) :
    create basePath w = .ok () w ∧
      ∀ key, PlainKey basePath key →
      ∀ (value : Bytes) (keys : List String) (timeout : Millis),
        set basePath key value w = .error (.systemError ENOTDIR) w ∧
        get basePath key w = .error (.systemError ENOTDIR) w ∧
        wait basePath (key :: keys) timeout w = .error (.systemError ENOTDIR) w := by
  refine ⟨by simp only [create, mkdir, ht, hfile, if_true], fun key hk value keys timeout => ?_⟩
  have hres := resolve_below_file hb ht hfile hplain hk
  exact ⟨by simp only [set, setWith, openForSet, hres],
    by simp only [get, hres, orThrow],
    by simp only [wait, ready, hres, show ENOTDIR ≠ ENOENT by decide, if_false]⟩

theorem create_over_file_at :
    ∃ (w : World) (t : Target), nul ∉ "f".toList ∧ resolve w.fs (cStr "f") = .ok t ∧
      w.fs t.path = some (.file []) ∧ t.mustBeDir = false ∧
      create "f" w = .ok () w ∧
        ∀ key, PlainKey "f" key → ∀ (value : Bytes) (keys : List String) (timeout : Millis),
          set "f" key value w = .error (.systemError ENOTDIR) w ∧
          get "f" key w = .error (.systemError ENOTDIR) w ∧
          wait "f" (key :: keys) timeout w = .error (.systemError ENOTDIR) w :=
  ⟨{ World.init with fs := fun p => if p = [] then some .dir else
      if p = ["f"] then some (.file []) else none }, _, by decide, rfl, rfl, rfl,
    create_over_file (by decide) rfl rfl rfl⟩

end FileStore

end Gloo.Rendezvous
