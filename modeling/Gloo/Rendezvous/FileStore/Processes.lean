import Gloo.Rendezvous.FileStore.Basic

set_option autoImplicit false

/-! # The file store under processes

Processes share the base directory, each through its own `FileStore`. The directory is a map
from paths to bytes (`Disk`), and every system call a store call makes is one atomic step over
it:

* `set` opens `realPath(key)` with a `std::ofstream`, which creates the file or truncates it in
  place; its bytes reach the file when the stream is closed and flushes them at offset 0;
* `get` opens the file with `std::ios::ate`, so `tellg` is the size the file had then, and
  reads that many bytes from offset 0 into a vector of zeros;
* `wait` polls `stat` on every key; after a failed pass it compares the milliseconds elapsed
  with its timeout and sleeps 10 ms.

`Pc` is where a process is and `next` its next step, which is determined since a process is
sequential; `step` is an event of the whole system.

`Disk` keys a file by the string `realPath(key)`, not by the path the kernel resolves it to. On
plain keys the two agree (`PlainEvents`): a plain key names the file of that name in the base
directory, and distinct plain keys name distinct files. Keys such as `"./k"` name the file of
`"k"` in the kernel but another entry here, so what this module says of the files is stated for
runs on plain keys.

Between the open of a `set` and its close, the file exists and is empty, and `stat` sees it. So a
`wait` can return and a `get` read `[]` although the only `set` stores `[1]`; and two `set`s of
one key can leave bytes of both (`get_reads_partial_value`). What holds is
`single_set_reads`: when `set(key, v)` is the only `set` of `key`, every `get(key)` returns `[]`
or `v`, and one that starts once the `set` has returned returns `v`.

`wait` compares the elapsed time with the timeout it was given, the `kNoTimeout` sentinel
included (`wait_noTimeout_throws`). It throws only when more than `timeout` whole milliseconds
have passed since its call, for every timeout (`wait_throws_only_after_elapsed`), so never when
the clock cannot count that far (`wait_never_times_out`). -/

namespace Gloo.Rendezvous

namespace FileStore

/-- The base directory: the bytes of the file at each path. -/
abbrev Disk := String → Option Bytes

/-- What the flush at close leaves in a file that holds `current`: `data` written at offset 0. -/
def overlay (data current : Bytes) : Bytes := data ++ current.drop data.length

/-- What `get` returns when it sized the file at `size` bytes and the file holds `current` when
    it reads: the vector of `size` zeros with the bytes read at its start. -/
def readInto (size : Nat) (current : Bytes) : Bytes :=
  current.take size ++ List.replicate (size - current.length) 0

@[simp] theorem overlay_nil (data : Bytes) : overlay data [] = data := by simp [overlay]

@[simp] theorem readInto_zero (current : Bytes) : readInto 0 current = [] := by simp [readInto]

@[simp] theorem readInto_length (data : Bytes) : readInto data.length data = data := by
  simp [readInto]

/-- Where a process is. `setOpen` and `setClose` are `set` before its `std::ofstream` opens the
    file and before the stream is closed. `getOpen` and `getRead` are `get` before its
    `std::ifstream` opens the file, and with the size it found. `waitStat` is a pass of `wait`
    with the keys it has still to `stat`; `waitElapsed` is the time check after a failed pass,
    and `waitSleep` the 10 ms sleep. `done` is the last call and how it ended. -/
inductive Pc
  | idle
  | setOpen (key : String) (data : Bytes)
  | setClose (key : String) (data : Bytes)
  | getOpen (key : String)
  | getRead (key : String) (size : Nat)
  | waitStat (keys pending : List String) (timeout : Millis) (start : Nat)
  | waitElapsed (keys : List String) (timeout : Millis) (start : Nat)
  | waitSleep (keys : List String) (timeout : Millis) (start wakeAt : Nat)
  | done (call : Call) (r : Outcome Store.Reply)
  deriving DecidableEq, Repr

namespace Pc

/-- A process between calls. -/
def isFree : Pc → Bool
  | idle | done _ _ => true
  | _ => false

/-- Inside a `set` of `key`. -/
def setting (key : String) : Pc → Bool
  | setOpen k _ | setClose k _ => k = key
  | _ => false

/-- Where a call starts; `wait` first reads the clock. -/
def start (clock : Nat) : Call → Pc
  | .set key data => setOpen key data
  | .get key => getOpen key
  | .wait keys timeout => waitStat keys keys timeout clock

/-- In the polling loop of `wait(keys, timeout)` that read the clock at `start`. -/
def waitingSince (keys : List String) (timeout : Millis) (start : Nat) : Pc → Prop
  | waitStat ks _ tm st | waitElapsed ks tm st | waitSleep ks tm st _ =>
    ks = keys ∧ tm = timeout ∧ st = start
  | _ => False

theorem isFree_eq_false_of_waitingSince {p : Pc} {keys : List String} {timeout : Millis}
    {start : Nat} (h : p.waitingSince keys timeout start) : p.isFree = false := by
  cases p <;> first | rfl | cases h

end Pc

/-- Processes sharing the base directory: its files, where each process is, and `steady_clock`
    in nanoseconds. -/
structure System where
  disk : Disk
  pc : Nat → Pc
  clock : Nat

/-- The processes before their first call, over the files `disk`. -/
def System.init (disk : Disk) : System := ⟨disk, fun _ => .idle, 0⟩

/-- What can happen next: a process starts a call or makes its next system call, or time
    passes. -/
inductive Event
  | call (pid : Nat) (c : Call)
  | next (pid : Nat)
  | tick (ns : Nat)
  deriving DecidableEq, Repr

/-- Whether the event starts a `set` of `key`. -/
def Event.setsKey (key : String) : Event → Bool
  | call _ (.set k _) => k = key
  | _ => false

/-- Whether the event is process `pid` starting a call. -/
def Event.calls (pid : Nat) : Event → Bool
  | call p _ => p = pid
  | _ => false

/-- The keys of the call the event starts, if it starts one. -/
def Event.keys : Event → List String
  | call _ c => c.keys
  | _ => []

/-- Every call the events start is on plain keys. There the files of `Disk` are the kernel's: a
    plain key names the file of that name in the base directory (`resolve_plain`), and distinct
    plain keys name distinct files (`realPath_inj`). -/
def PlainEvents (basePath : String) (es : List Event) : Prop :=
  ∀ e ∈ es, ∀ key ∈ e.keys, PlainKey basePath key

instance (basePath : String) (es : List Event) : Decidable (PlainEvents basePath es) :=
  inferInstanceAs (Decidable (∀ e ∈ es, ∀ key ∈ e.keys, PlainKey basePath key))

/-- A call starts inside a `set` of `key` exactly when it is a `set` of `key`. -/
theorem Pc.setting_start (clock pid : Nat) (c : Call) (key : String) :
    (Pc.start clock c).setting key = (Event.call pid c).setsKey key := by
  cases c <;> rfl

section Step

variable (basePath : String)

/-- The next system call of a process, when it can make one: the files after it, and where the
    process is then. -/
def next (disk : Disk) (clock : Nat) : Pc → Option (Disk × Pc)
  | .setOpen key data =>
    some (Function.update disk (realPath basePath key) (some []), .setClose key data)
  | .setClose key data =>
    some (Function.update disk (realPath basePath key)
        (some (overlay data ((disk (realPath basePath key)).getD []))),
      .done (.set key data) (.returned .done))
  | .getOpen key =>
    match disk (realPath basePath key) with
    | some current => some (disk, .getRead key current.length)
    | none => some (disk, .done (.get key) (.threw (.systemError ENOENT)))
  | .getRead key size =>
    some (disk, .done (.get key)
      (.returned (.value (readInto size ((disk (realPath basePath key)).getD [])))))
  | .waitStat keys [] timeout _ => some (disk, .done (.wait keys timeout) (.returned .done))
  | .waitStat keys (key :: pending) timeout start =>
    match disk (realPath basePath key) with
    | some _ => some (disk, .waitStat keys pending timeout start)
    | none => some (disk, .waitElapsed keys timeout start)
  | .waitElapsed keys timeout start =>
    if (((clock - start) / 1000000 : Nat) : Int) > timeout then
      some (disk, .done (.wait keys timeout) (.threw (.runtimeError "Timeout waiting for keys")))
    else some (disk, .waitSleep keys timeout start (clock + 10000000))
  | .waitSleep keys timeout start wakeAt =>
    if wakeAt ≤ clock then some (disk, .waitStat keys keys timeout start) else none
  | .idle | .done _ _ => none

/-- One event, when it can happen. `steady_clock` counts nanoseconds in an `int64_t`. -/
def step (s : System) : Event → Option System
  | .call pid c =>
    if (s.pc pid).isFree then some { s with pc := Function.update s.pc pid (Pc.start s.clock c) }
    else none
  | .next pid =>
    (next basePath s.disk s.clock (s.pc pid)).map fun r =>
      { s with disk := r.1, pc := Function.update s.pc pid r.2 }
  | .tick ns => if s.clock + ns < 2 ^ 63 then some { s with clock := s.clock + ns } else none

/-- The events one after another, while each can happen. -/
def run (s : System) : List Event → Option System
  | [] => some s
  | e :: es => (step basePath s e).bind fun s' => run s' es

theorem run_cons {s s₁ : System} {e : Event} (es : List Event) (h : step basePath s e = some s₁) :
    run basePath s (e :: es) = run basePath s₁ es := by
  simp only [run, h, Option.some_bind]

theorem run_append (s : System) (es₁ es₂ : List Event) :
    run basePath s (es₁ ++ es₂) = (run basePath s es₁).bind fun s' => run basePath s' es₂ := by
  induction es₁ generalizing s with
  | nil => rfl
  | cons e es ih =>
    rw [List.cons_append]
    simp only [run, ih, Option.bind_assoc]

/-! What a step that happened did, one lemma per kind of event. -/

variable {basePath} {s s' : System}

theorem step_call_eq {pid : Nat} {c : Call} (h : step basePath s (.call pid c) = some s') :
    (s.pc pid).isFree ∧ s' = { s with pc := Function.update s.pc pid (Pc.start s.clock c) } := by
  simp only [step] at h
  split_ifs at h with hf
  exact ⟨hf, (Option.some.inj h).symm⟩

theorem step_next_eq {pid : Nat} (h : step basePath s (.next pid) = some s') :
    ∃ disk p, next basePath s.disk s.clock (s.pc pid) = some (disk, p) ∧
      s' = { s with disk := disk, pc := Function.update s.pc pid p } := by
  simp only [step, Option.map_eq_some'] at h
  obtain ⟨⟨disk, p⟩, hn, rfl⟩ := h
  exact ⟨disk, p, hn, rfl⟩

theorem step_tick_eq {ns : Nat} (h : step basePath s (.tick ns) = some s') :
    s' = { s with clock := s.clock + ns } := by
  simp only [step] at h
  split_ifs at h
  exact (Option.some.inj h).symm

end Step

/-- A `get` after a `wait` that returned reads `[]` although the only `set` of the key stores
    `[1]`: process 1's `std::ofstream` has created the file and not flushed it yet. Two `set`s
    of one key can leave bytes of both: `[1, 2]` flushed over `[7, 8, 9]` gives `[1, 2, 9]`. -/
theorem get_reads_partial_value :
    PlainKey "/tmp/gloo" "k" ∧
    (∃ s s', run "/tmp/gloo" (System.init fun _ => none)
        [.call 1 (.set "k" [1]), .next 1, .call 0 (.wait ["k"] 1000), .next 0, .next 0] = some s ∧
      s.pc 0 = .done (.wait ["k"] 1000) (.returned .done) ∧
      run "/tmp/gloo" s [.call 0 (.get "k"), .next 0, .next 0] = some s' ∧
      s'.pc 0 = .done (.get "k") (.returned (.value [])) ∧ s'.pc 1 = .setClose "k" [1]) ∧
    ∃ s, run "/tmp/gloo" (System.init fun _ => none)
        [.call 0 (.set "k" [1, 2]), .call 1 (.set "k" [7, 8, 9]), .next 0, .next 1, .next 1,
          .next 0, .call 2 (.get "k"), .next 2, .next 2] = some s ∧
      s.pc 2 = .done (.get "k") (.returned (.value [1, 2, 9])) :=
  ⟨by decide, ⟨_, _, rfl, rfl, rfl, rfl, rfl⟩, _, rfl, rfl⟩

/-! ## One `set` of a key -/

/-- Where a process may be while `set(key, v)` is the only `set` of `key` and the file of `key`
    holds `file`. That `set` opens a file that does not exist yet and closes the empty one it
    created. A `get` that sized the file found it empty or holding `v`, a `get` returned `[]` or
    `v`, and once the `set` has returned, the file holds `v`. -/
def PcOk (key : String) (v : Bytes) (file : Option Bytes) : Pc → Prop
  | .setOpen k d => k = key → d = v ∧ file = none
  | .setClose k d => k = key → d = v ∧ file = some []
  | .getRead k n => k = key → n = 0 ∨ (n = v.length ∧ file = some v)
  | .done c r => (c = .get key → ∀ d, r = .returned (.value d) → d = [] ∨ d = v) ∧
      ∀ d, c = .set key d → file = some v
  | _ => True

/-- The states of a run whose only `set` of `key` is one call `set(key, v)`. -/
structure OneSet (basePath key : String) (v : Bytes) (s : System) : Prop where
  file : s.disk (realPath basePath key) = none ∨ s.disk (realPath basePath key) = some [] ∨
    s.disk (realPath basePath key) = some v
  procs : ∀ pid, PcOk key v (s.disk (realPath basePath key)) (s.pc pid)
  unique : ∀ pid pid', (s.pc pid).setting key → (s.pc pid').setting key → pid = pid'

/-- No `set` of `key` has started: its file does not exist and no process is in a `set` of it. -/
structure Fresh (basePath key : String) (s : System) : Prop where
  file : s.disk (realPath basePath key) = none
  procs : ∀ pid, (s.pc pid).setting key = false

section OneSet

variable {basePath key : String} {v : Bytes}

theorem PcOk.mono {file file' : Option Bytes} {p : Pc} (h : PcOk key v file p)
    (hp : p.setting key = false) (hf : file = some v → file' = some v) : PcOk key v file' p := by
  cases p with
  | setOpen k d | setClose k d =>
    intro hk
    subst hk
    simp [Pc.setting] at hp
  | getRead k n => exact fun hk => (h hk).imp_right fun ⟨hn, hv⟩ => ⟨hn, hf hv⟩
  | done c r => exact ⟨h.1, fun d hd => hf (h.2 d hd)⟩
  | _ => exact h

/-- A step of other processes' files: the next system call of a process that is in no `set` of
    `key` leaves the file of `key` alone and starts no `set` of it. -/
theorem next_of_not_setting {disk disk' : Disk} {clock : Nat} {p p' : Pc}
    (h : next basePath disk clock p = some (disk', p')) (hp : p.setting key = false) :
    disk' (realPath basePath key) = disk (realPath basePath key) ∧ p'.setting key = false := by
  have other : ∀ {k : String}, decide (k = key) = false → ∀ f,
      Function.update disk (realPath basePath k) f (realPath basePath key)
        = disk (realPath basePath key) := fun hk f =>
    Function.update_noteq (fun e => by simp [realPath_inj.1 e] at hk) _ _
  cases p with
  | setOpen k d =>
    cases h
    exact ⟨other hp _, hp⟩
  | setClose k d =>
    cases h
    exact ⟨other hp _, rfl⟩
  | getOpen k =>
    simp only [next] at h
    split at h <;> cases h <;> exact ⟨rfl, rfl⟩
  | getRead k n =>
    cases h
    exact ⟨rfl, rfl⟩
  | waitStat keys pending timeout start =>
    cases pending <;> simp only [next] at h
    · cases h
      exact ⟨rfl, rfl⟩
    · split at h <;> cases h <;> exact ⟨rfl, rfl⟩
  | waitElapsed keys timeout start | waitSleep keys timeout start _ =>
    simp only [next] at h
    split at h <;> cases h
    all_goals exact ⟨rfl, rfl⟩
  | idle | done _ _ => cases h

/-- Process `pid` moves to `p`, the files changing nowhere at `key`'s file; `p` keeps the
    invariant, and is in a `set` of `key` only if no other process is. -/
theorem OneSet.update {s : System} (h : OneSet basePath key v s) {pid : Nat} {disk : Disk} {p : Pc}
    (hfile : disk (realPath basePath key) = s.disk (realPath basePath key))
    (hp : PcOk key v (s.disk (realPath basePath key)) p)
    (hset : p.setting key → ∀ q, q ≠ pid → (s.pc q).setting key = false) :
    OneSet basePath key v { s with disk := disk, pc := Function.update s.pc pid p } where
  file := by
    dsimp only
    rw [hfile]
    exact h.file
  procs := by
    change ∀ q, PcOk key v (disk _) (Function.update s.pc pid p q)
    rw [hfile]
    exact (Function.forall_update_iff s.pc fun _ => PcOk key v _).2 ⟨hp, fun q _ => h.procs q⟩
  unique a b ha hb := by
    change (Function.update s.pc pid p a).setting key = true at ha
    change (Function.update s.pc pid p b).setting key = true at hb
    rw [Function.update_apply] at ha hb
    split at ha <;> split at hb
    · subst_vars; rfl
    · exact absurd hb (by rw [hset ha b ‹_›]; decide)
    · exact absurd ha (by rw [hset hb a ‹_›]; decide)
    · exact h.unique a b ha hb

/-- The process in the `set` of `key` opens or closes its file: the file goes from not existing
    to empty, or from empty to `v`. -/
theorem OneSet.write {s : System} (h : OneSet basePath key v s) {pid : Nat} {f : Option Bytes}
    {p : Pc} (hpid : (s.pc pid).setting key) (hf : f = some [] ∨ f = some v)
    (hmono : s.disk (realPath basePath key) = some v → f = some v) (hp : PcOk key v f p) :
    OneSet basePath key v
      { s with disk := Function.update s.disk (realPath basePath key) f,
               pc := Function.update s.pc pid p } where
  file := by
    dsimp only
    rw [Function.update_same]
    exact .inr hf
  procs q := by
    change PcOk key v (Function.update s.disk _ f _) (Function.update s.pc pid p q)
    rw [Function.update_same, Function.update_apply]
    split
    · exact hp
    · next e =>
      exact (h.procs q).mono (Bool.eq_false_iff.2 fun hq => e (h.unique q pid hq hpid)) hmono
  unique a b ha hb := by
    change (Function.update s.pc pid p a).setting key = true at ha
    change (Function.update s.pc pid p b).setting key = true at hb
    rw [Function.update_apply] at ha hb
    split at ha <;> split at hb
    · subst_vars; rfl
    · next ea _ => exact (ea.trans (h.unique b pid hb hpid).symm)
    · next _ eb => exact ((h.unique a pid ha hpid).trans eb.symm)
    · exact h.unique a b ha hb

/-- A process in no `set` of `key` keeps its part of the invariant when it makes its next system
    call: a `get` of `key` sizes the file at `0` or at `v.length`, and reads `[]` or `v`. -/
theorem PcOk.next {disk disk' : Disk} {clock : Nat} {q p : Pc}
    (hfile : disk (realPath basePath key) = none ∨ disk (realPath basePath key) = some [] ∨
      disk (realPath basePath key) = some v)
    (hq : PcOk key v (disk (realPath basePath key)) q) (hs : q.setting key = false)
    (hn : next basePath disk clock q = some (disk', p)) :
    PcOk key v (disk (realPath basePath key)) p := by
  cases q with
  | setOpen k d =>
    cases hn
    rintro rfl
    simp [Pc.setting] at hs
  | setClose k d =>
    cases hn
    refine ⟨nofun, fun d' hd => ?_⟩
    cases hd
    simp [Pc.setting] at hs
  | getOpen k =>
    simp only [FileStore.next] at hn
    split at hn <;> cases hn
    · next c hc =>
      rintro rfl
      rcases hfile with h | h | h <;> rw [h] at hc <;> cases hc
      · exact .inl rfl
      · exact .inr ⟨rfl, h⟩
    · exact ⟨fun _ d hd => (nomatch hd), fun d hd => nomatch hd⟩
  | getRead k n =>
    cases hn
    refine ⟨?_, fun d hd => nomatch hd⟩
    rintro ⟨⟩ d ⟨⟩
    rcases hq rfl with rfl | ⟨rfl, hv⟩
    · exact .inl (readInto_zero _)
    · rw [hv]
      exact .inr (readInto_length v)
  | waitStat keys pending timeout start =>
    cases pending <;> simp only [FileStore.next] at hn
    · cases hn
      exact ⟨nofun, fun d hd => nomatch hd⟩
    · split at hn <;> cases hn <;> trivial
  | waitElapsed keys timeout start =>
    simp only [FileStore.next] at hn
    split at hn <;> cases hn
    · exact ⟨nofun, fun d hd => nomatch hd⟩
    · trivial
  | waitSleep keys timeout start wakeAt =>
    simp only [FileStore.next] at hn
    split at hn <;> cases hn
    trivial
  | idle | done _ _ => cases hn

/-- The process in the `set` of `key` opens the file, which does not exist yet, or closes it
    empty and flushes `v`. -/
theorem OneSet.next_setting {s : System} (h : OneSet basePath key v s) {pid : Nat} {disk : Disk}
    {p : Pc} (hpid : (s.pc pid).setting key)
    (hn : next basePath s.disk s.clock (s.pc pid) = some (disk, p)) :
    (s.disk (realPath basePath key) = none ∧
        disk = Function.update s.disk (realPath basePath key) (some []) ∧ p = .setClose key v) ∨
      (s.disk (realPath basePath key) = some [] ∧
        disk = Function.update s.disk (realPath basePath key) (some v) ∧
        p = .done (.set key v) (.returned .done)) := by
  have hok := h.procs pid
  generalize s.pc pid = c at hpid hn hok
  cases c with
  | setOpen k d =>
    obtain rfl := of_decide_eq_true hpid
    obtain ⟨rfl, hnone⟩ := hok rfl
    cases hn
    exact .inl ⟨hnone, rfl, rfl⟩
  | setClose k d =>
    obtain rfl := of_decide_eq_true hpid
    obtain ⟨rfl, hnil⟩ := hok rfl
    cases hn
    exact .inr ⟨hnil, by simp [hnil], rfl⟩
  | _ => cases hpid

/-- The next system call of any process keeps the invariant. -/
theorem OneSet.next {s : System} (h : OneSet basePath key v s) {pid : Nat} {disk : Disk} {p : Pc}
    (hn : next basePath s.disk s.clock (s.pc pid) = some (disk, p)) :
    OneSet basePath key v { s with disk := disk, pc := Function.update s.pc pid p } := by
  cases hset : (s.pc pid).setting key with
  | false =>
    obtain ⟨hfile, hp⟩ := next_of_not_setting hn hset
    exact h.update hfile (PcOk.next h.file (h.procs pid) hset hn) fun hp' => by
      rw [hp] at hp'
      cases hp'
  | true =>
    rcases h.next_setting hset hn with ⟨hnone, rfl, rfl⟩ | ⟨-, rfl, rfl⟩
    · exact h.write hset (.inl rfl) (fun hv => by rw [hnone] at hv; cases hv) fun _ => ⟨rfl, rfl⟩
    · exact h.write hset (.inr rfl) (fun _ => rfl) ⟨nofun, fun _ _ => rfl⟩

/-- Every event but the start of a `set` of `key` keeps the invariant. -/
theorem OneSet.step {s s' : System} {e : Event} (h : OneSet basePath key v s)
    (hs : step basePath s e = some s') (he : e.setsKey key = false) : OneSet basePath key v s' := by
  cases e with
  | call pid c =>
    obtain ⟨-, rfl⟩ := step_call_eq hs
    refine h.update rfl ?_ fun hc => ?_ <;> cases c <;>
      simp_all [Pc.start, Pc.setting, Event.setsKey, PcOk]
  | next pid =>
    obtain ⟨disk, p, hn, rfl⟩ := step_next_eq hs
    exact h.next hn
  | tick ns =>
    obtain rfl := step_tick_eq hs
    exact ⟨h.file, h.procs, h.unique⟩

/-- Every event but the start of a `set` of `key` keeps a `set` of `key` from having started. -/
theorem Fresh.step {s s' : System} {e : Event} (h : Fresh basePath key s)
    (hs : step basePath s e = some s') (he : e.setsKey key = false) : Fresh basePath key s' := by
  have others : ∀ pid, ∀ p : Pc, p.setting key = false →
      ∀ q, (Function.update s.pc pid p q).setting key = false := fun pid p hp =>
    (Function.forall_update_iff s.pc fun _ p => p.setting key = false).2 ⟨hp, fun q _ => h.procs q⟩
  cases e with
  | call pid c =>
    obtain ⟨-, rfl⟩ := step_call_eq hs
    exact ⟨h.file, others pid _ ((Pc.setting_start _ pid c key).trans he)⟩
  | next pid =>
    obtain ⟨disk, p, hn, rfl⟩ := step_next_eq hs
    obtain ⟨hfile, hp⟩ := next_of_not_setting hn (h.procs pid)
    exact ⟨hfile.trans h.file, others pid p hp⟩
  | tick ns =>
    obtain rfl := step_tick_eq hs
    exact ⟨h.file, h.procs⟩

/-- The one `set(key, v)` starts. -/
theorem OneSet.call_set {s s' : System} {pid : Nat} (h : OneSet basePath key v s)
    (hf : Fresh basePath key s) (hs : FileStore.step basePath s (.call pid (.set key v)) = some s') :
    OneSet basePath key v s' := by
  obtain ⟨-, rfl⟩ := step_call_eq hs
  exact h.update rfl (fun _ => ⟨rfl, hf.file⟩) fun _ q _ => hf.procs q

/-- A run with at most one `set` of `key`, which stores `v`, keeps the invariant; the `set`
    starts from a state where none had started. -/
theorem OneSet.run (es : List Event) {s s' : System} (hr : FileStore.run basePath s es = some s')
    (h : OneSet basePath key v s) (hv : ∀ pid d, Event.call pid (.set key d) ∈ es → d = v)
    (hc : es.countP (·.setsKey key) = 0 ∨ (es.countP (·.setsKey key) = 1 ∧ Fresh basePath key s)) :
    OneSet basePath key v s' := by
  induction es generalizing s with
  | nil => cases hr; exact h
  | cons e es ih =>
    simp only [FileStore.run, Option.bind_eq_some] at hr
    obtain ⟨s₁, h₁, hr⟩ := hr
    have hv' : ∀ pid d, Event.call pid (.set key d) ∈ es → d = v :=
      fun pid d hd => hv pid d (List.mem_cons_of_mem _ hd)
    cases he : e.setsKey key with
    | true =>
      simp only [List.countP_cons, he, if_true] at hc
      obtain ⟨hc, hf⟩ := hc.resolve_left (by omega)
      have hes : es.countP (·.setsKey key) = 0 := by omega
      cases e with
      | call pid c =>
        cases c with
        | set k d =>
          simp only [Event.setsKey, decide_eq_true_eq] at he
          subst he
          obtain rfl := hv pid d (List.mem_cons_self _ _)
          exact ih hr (h.call_set hf h₁) hv' (.inl hes)
        | _ => cases he
      | _ => cases he
    | false =>
      simp only [List.countP_cons, he] at hc
      exact ih hr (h.step h₁ he) hv' (hc.imp id fun ⟨hc, hf⟩ => ⟨by simpa using hc, hf.step h₁ he⟩)

/-- Once the file of `key` holds `v`, it keeps `v`. -/
theorem OneSet.file_step {s s' : System} {e : Event} (h : OneSet basePath key v s)
    (hfile : s.disk (realPath basePath key) = some v) (hs : FileStore.step basePath s e = some s')
    (he : e.setsKey key = false) : s'.disk (realPath basePath key) = some v := by
  cases e with
  | call pid c =>
    obtain ⟨-, rfl⟩ := step_call_eq hs
    exact hfile
  | next pid =>
    obtain ⟨disk, p, hn, rfl⟩ := step_next_eq hs
    cases hset : (s.pc pid).setting key with
    | false => exact (next_of_not_setting hn hset).1.trans hfile
    | true =>
      rcases h.next_setting hset hn with ⟨hnone, -, -⟩ | ⟨-, rfl, -⟩
      · rw [hnone] at hfile
        cases hfile
      · exact Function.update_same _ _ _
  | tick ns =>
    obtain rfl := step_tick_eq hs
    exact hfile

/-- Once the `set` of `key` has returned, the file holds `v`. -/
theorem OneSet.file_of_done {s : System} (h : OneSet basePath key v s) {p : Nat} {d : Bytes}
    {r : Outcome Store.Reply} (hp : s.pc p = .done (.set key d) r) :
    s.disk (realPath basePath key) = some v := by
  have hok := h.procs p
  rw [hp] at hok
  exact hok.2 d rfl

/-- A run with no `set` of `key` keeps the invariant, and the file of `key` holding `v`. -/
theorem OneSet.file_run (es : List Event) {s s' : System}
    (hr : FileStore.run basePath s es = some s') (hes : ∀ e ∈ es, e.setsKey key = false)
    (h : OneSet basePath key v s) (hfile : s.disk (realPath basePath key) = some v) :
    OneSet basePath key v s' ∧ s'.disk (realPath basePath key) = some v := by
  induction es generalizing s with
  | nil => cases hr; exact ⟨h, hfile⟩
  | cons e es ih =>
    obtain ⟨s₁, h₁, hr⟩ := Option.bind_eq_some.1 hr
    have he := hes e (List.mem_cons_self _ _)
    exact ih hr (fun e' he' => hes e' (List.mem_cons_of_mem _ he')) (h.step h₁ he)
      (h.file_step hfile h₁ he)

/-- A `get` of `key` that opens the file once it holds `v`: it has not opened the file yet, or
    sized it at `v.length`, or returned `v`. -/
def ReadsV (key : String) (v : Bytes) : Pc → Prop
  | .getOpen k => k = key
  | .getRead k n => k = key ∧ n = v.length
  | .done c r => c = .get key ∧ r = .returned (.value v)
  | _ => False

/-- While the file holds `v`, such a `get` stays such through every event that is not a call of
    its process. -/
theorem ReadsV.step {s s' : System} {e : Event} {q : Nat}
    (hfile : s.disk (realPath basePath key) = some v) (hq : ReadsV key v (s.pc q))
    (hs : FileStore.step basePath s e = some s') (he : e.calls q = false) : ReadsV key v (s'.pc q) := by
  cases e with
  | call pid c =>
    obtain ⟨-, rfl⟩ := step_call_eq hs
    change ReadsV key v (Function.update s.pc pid _ q)
    rw [Function.update_noteq (by simpa [Event.calls, eq_comm] using he)]
    exact hq
  | next pid =>
    obtain ⟨disk, p, hn, rfl⟩ := step_next_eq hs
    change ReadsV key v (Function.update s.pc pid p q)
    rw [Function.update_apply]
    split
    · next hqp =>
      subst hqp
      generalize s.pc q = c at hq hn
      cases c with
      | getOpen k =>
        obtain rfl : k = key := hq
        simp only [FileStore.next, hfile] at hn
        cases hn
        exact ⟨rfl, rfl⟩
      | getRead k n =>
        obtain ⟨rfl, rfl⟩ := hq
        simp only [FileStore.next, hfile, Option.getD_some, readInto_length] at hn
        cases hn
        exact ⟨rfl, rfl⟩
      | done c r => cases hn
      | _ => cases hq
    · exact hq
  | tick ns =>
    obtain rfl := step_tick_eq hs
    exact hq

theorem ReadsV.run {q : Nat} (es : List Event) {s s' : System}
    (hr : FileStore.run basePath s es = some s')
    (hes : ∀ e ∈ es, e.setsKey key = false ∧ e.calls q = false) (h : OneSet basePath key v s)
    (hfile : s.disk (realPath basePath key) = some v) (hq : ReadsV key v (s.pc q)) :
    ReadsV key v (s'.pc q) := by
  induction es generalizing s with
  | nil => cases hr; exact hq
  | cons e es ih =>
    obtain ⟨s₁, h₁, hr⟩ := Option.bind_eq_some.1 hr
    obtain ⟨hset, hcall⟩ := hes e (List.mem_cons_self _ _)
    exact ih hr (fun e he => hes e (List.mem_cons_of_mem _ he)) (h.step h₁ hset)
      (h.file_step hfile h₁ hset) (hq.step hfile h₁ hcall)

end OneSet

/-- `wait(keys, kNoTimeout)` throws `"Timeout waiting for keys"` once more than `kNoTimeout`
    milliseconds have passed with a key missing: the loop compares the elapsed time with the
    timeout it was given, never with the sentinel. -/
theorem wait_noTimeout_throws (basePath : String) (kNoTimeout : Millis)
    (hk : (kNoTimeout.toNat + 1) * 1000000 < 2 ^ 63) :
    ∃ s, run basePath (System.init fun _ => none)
        [.call 0 (.wait ["k"] kNoTimeout), .next 0, .tick ((kNoTimeout.toNat + 1) * 1000000),
          .next 0] = some s ∧
      s.pc 0 = .done (.wait ["k"] kNoTimeout) (.threw (.runtimeError "Timeout waiting for keys")) := by
  obtain ⟨s, hs, hpc, hclock⟩ : ∃ s, run basePath (System.init fun _ => none)
      [.call 0 (.wait ["k"] kNoTimeout), .next 0] = some s ∧
      s.pc 0 = .waitElapsed ["k"] kNoTimeout 0 ∧ s.clock = 0 := ⟨_, rfl, rfl, rfl⟩
  have htick : step basePath s (.tick ((kNoTimeout.toNat + 1) * 1000000))
      = some { s with clock := (kNoTimeout.toNat + 1) * 1000000 } := by
    simp only [step, hclock, Nat.zero_add, if_pos hk]
  have helapsed : ((((kNoTimeout.toNat + 1) * 1000000 - 0) / 1000000 : Nat) : Int) > kNoTimeout := by
    rw [Nat.sub_zero, Nat.mul_div_cancel _ (by decide)]
    have := Int.self_le_toNat kNoTimeout
    omega
  have hnext : step basePath { s with clock := (kNoTimeout.toNat + 1) * 1000000 } (.next 0)
      = some { s with clock := (kNoTimeout.toNat + 1) * 1000000,
                      pc := Function.update s.pc 0
                        (.done (.wait ["k"] kNoTimeout) (.threw (.runtimeError "Timeout waiting for keys"))) } := by
    simp only [step, next, hpc, if_pos helapsed, Option.map_some']
  have hrun : run basePath (System.init fun _ => none)
      [.call 0 (.wait ["k"] kNoTimeout), .next 0, .tick ((kNoTimeout.toNat + 1) * 1000000), .next 0]
      = some { s with clock := (kNoTimeout.toNat + 1) * 1000000,
                      pc := Function.update s.pc 0
                        (.done (.wait ["k"] kNoTimeout) (.threw (.runtimeError "Timeout waiting for keys"))) } := by
    rw [show [Event.call 0 (.wait ["k"] kNoTimeout), .next 0,
        .tick ((kNoTimeout.toNat + 1) * 1000000), .next 0] = [.call 0 (.wait ["k"] kNoTimeout), .next 0] ++
          [.tick ((kNoTimeout.toNat + 1) * 1000000), .next 0] from rfl,
      run_append, hs, Option.some_bind, run_cons _ _ htick, run_cons _ _ hnext]
    rfl
  exact ⟨_, hrun, Function.update_same 0 _ s.pc⟩

theorem wait_noTimeout_throws_at :
    ((Int.toNat 0 + 1) * 1000000 < 2 ^ 63) ∧
    ∃ s, run "/tmp/gloo" (System.init fun _ => none)
        [.call 0 (.wait ["k"] 0), .next 0, .tick ((Int.toNat 0 + 1) * 1000000), .next 0] = some s ∧
      s.pc 0 = .done (.wait ["k"] 0) (.threw (.runtimeError "Timeout waiting for keys")) :=
  ⟨by decide, wait_noTimeout_throws "/tmp/gloo" 0 (by decide)⟩

/-! ## How long `wait` waits -/

section Elapsed

variable {basePath : String} {s s' : System} {e : Event} {pid : Nat}

/-- Time never runs backwards. -/
theorem clock_le_step (h : step basePath s e = some s') : s.clock ≤ s'.clock := by
  cases e with
  | call q c =>
    obtain ⟨-, rfl⟩ := step_call_eq h
    exact le_rfl
  | next q =>
    obtain ⟨-, -, -, rfl⟩ := step_next_eq h
    exact le_rfl
  | tick ns =>
    obtain rfl := step_tick_eq h
    exact Nat.le_add_right _ _

theorem clock_le_run : ∀ {s s' : System} {es : List Event}, run basePath s es = some s' →
    s.clock ≤ s'.clock
  | _, _, [], h => by cases h; exact le_rfl
  | _, _, _ :: _, h => by
    obtain ⟨_, h₁, h⟩ := Option.bind_eq_some.1 h
    exact (clock_le_step h₁).trans (clock_le_run h)

/-- A finished call stays finished until its process makes another. -/
theorem done_step {c : Call} {r : Outcome Store.Reply} (hd : s.pc pid = .done c r)
    (hs : step basePath s e = some s') (he : e.calls pid = false) : s'.pc pid = .done c r := by
  cases e with
  | call q c' =>
    obtain ⟨-, rfl⟩ := step_call_eq hs
    exact (Function.update_noteq (by simpa [Event.calls, eq_comm] using he) _ _).trans hd
  | next q =>
    obtain ⟨disk, p, hn, rfl⟩ := step_next_eq hs
    by_cases hq : pid = q
    · subst hq
      rw [hd] at hn
      cases hn
    · exact (Function.update_noteq hq _ _).trans hd
  | tick ns =>
    obtain rfl := step_tick_eq hs
    exact hd

theorem done_run {c : Call} {r : Outcome Store.Reply} :
    ∀ {s s' : System} {es : List Event}, s.pc pid = .done c r → run basePath s es = some s' →
      (∀ e ∈ es, e.calls pid = false) → s'.pc pid = .done c r
  | _, _, [], hd, h, _ => by cases h; exact hd
  | _, _, e :: _, hd, h, hes => by
    obtain ⟨_, h₁, h⟩ := Option.bind_eq_some.1 h
    exact done_run (done_step hd h₁ (hes e (List.mem_cons_self _ _))) h
      fun e he => hes e (List.mem_cons_of_mem _ he)

variable {keys : List String} {timeout : Millis} {start : Nat}

/-- One system call of the polling loop: it stays in the loop, returns, or throws when more
    than `timeout` whole milliseconds have passed since `start`. -/
theorem next_of_waitingSince {disk disk' : Disk} {clock : Nat} {p p' : Pc}
    (hw : p.waitingSince keys timeout start) (hn : next basePath disk clock p = some (disk', p')) :
    p'.waitingSince keys timeout start ∨ p' = .done (.wait keys timeout) (.returned .done) ∨
      (p' = .done (.wait keys timeout) (.threw (.runtimeError "Timeout waiting for keys")) ∧
        timeout < (((clock - start) / 1000000 : Nat) : Int)) := by
  cases p with
  | waitStat ks pending tm st =>
    obtain ⟨rfl, rfl, rfl⟩ := hw
    cases pending with
    | nil =>
      cases hn
      exact .inr (.inl rfl)
    | cons k pending =>
      simp only [next] at hn
      split at hn <;> cases hn <;> exact .inl ⟨rfl, rfl, rfl⟩
  | waitElapsed ks tm st =>
    obtain ⟨rfl, rfl, rfl⟩ := hw
    simp only [next] at hn
    split at hn <;> cases hn
    · exact .inr (.inr ⟨rfl, ‹_›⟩)
    · exact .inl ⟨rfl, rfl, rfl⟩
  | waitSleep ks tm st wakeAt =>
    obtain ⟨rfl, rfl, rfl⟩ := hw
    simp only [next] at hn
    split at hn <;> cases hn
    exact .inl ⟨rfl, rfl, rfl⟩
  | _ => cases hw

/-- One event of the system, for a process in the polling loop. -/
theorem waitingSince_step (hw : (s.pc pid).waitingSince keys timeout start)
    (hs : step basePath s e = some s') :
    (s'.pc pid).waitingSince keys timeout start ∨
      s'.pc pid = .done (.wait keys timeout) (.returned .done) ∨
      (s'.pc pid = .done (.wait keys timeout) (.threw (.runtimeError "Timeout waiting for keys")) ∧
        timeout < (((s.clock - start) / 1000000 : Nat) : Int)) := by
  cases e with
  | call q c =>
    obtain ⟨hf, rfl⟩ := step_call_eq hs
    have hq : pid ≠ q := by
      rintro rfl
      rw [Pc.isFree_eq_false_of_waitingSince hw] at hf
      cases hf
    exact .inl (by simpa only [Function.update_noteq hq] using hw)
  | next q =>
    obtain ⟨disk, p, hn, rfl⟩ := step_next_eq hs
    by_cases hq : pid = q
    · subst hq
      simp only [Function.update_same]
      exact next_of_waitingSince hw hn
    · exact .inl (by simpa only [Function.update_noteq hq] using hw)
  | tick ns =>
    obtain rfl := step_tick_eq hs
    exact .inl hw

/-- A `wait` starts its polling loop at the clock of its call. -/
theorem waitingSince_call (h : step basePath s (.call pid (.wait keys timeout)) = some s') :
    (s'.pc pid).waitingSince keys timeout s.clock := by
  obtain ⟨-, rfl⟩ := step_call_eq h
  change (Function.update s.pc pid _ pid).waitingSince keys timeout s.clock
  rw [Function.update_same]
  exact ⟨rfl, rfl, rfl⟩

/-- Readings of the clock stay below `2 ^ 63` nanoseconds. -/
theorem clock_lt_step (h : step basePath s e = some s') (hc : s.clock < 2 ^ 63) :
    s'.clock < 2 ^ 63 := by
  cases e with
  | call q c =>
    obtain ⟨-, rfl⟩ := step_call_eq h
    exact hc
  | next q =>
    obtain ⟨-, -, -, rfl⟩ := step_next_eq h
    exact hc
  | tick ns =>
    simp only [step] at h
    split_ifs at h with hlt
    cases h
    exact hlt

theorem clock_lt_run : ∀ {s s' : System} {es : List Event}, run basePath s es = some s' →
    s.clock < 2 ^ 63 → s'.clock < 2 ^ 63
  | _, _, [], h, hc => by cases h; exact hc
  | _, _, _ :: _, h, hc => by
    obtain ⟨_, h₁, h⟩ := Option.bind_eq_some.1 h
    exact clock_lt_run h (clock_lt_step h₁ hc)

/-- A process in the polling loop of a `wait` that read the clock at `start` throws the timeout
    only when more than `timeout` whole milliseconds have passed since `start`. -/
theorem waitingSince_run :
    ∀ {s s' : System} (es : List Event), (s.pc pid).waitingSince keys timeout start →
      run basePath s es = some s' → (∀ e ∈ es, e.calls pid = false) →
      s'.pc pid = .done (.wait keys timeout) (.threw (.runtimeError "Timeout waiting for keys")) →
      timeout < (((s'.clock - start) / 1000000 : Nat) : Int)
  | _, _, [], hw, h, _, hthrew => by
    cases h
    rw [hthrew] at hw
    cases hw
  | s, s', e :: es, hw, h, hes, hthrew => by
    obtain ⟨s₁, h₁, h⟩ := Option.bind_eq_some.1 h
    have hes' : ∀ e ∈ es, e.calls pid = false := fun e he => hes e (List.mem_cons_of_mem _ he)
    rcases waitingSince_step hw h₁ with hw₁ | hr₁ | ⟨-, hlt⟩
    · exact waitingSince_run es hw₁ h hes' hthrew
    · rw [done_run hr₁ h hes'] at hthrew
      cases hthrew
    · have hle : (s.clock - start) / 1000000 ≤ (s'.clock - start) / 1000000 :=
        Nat.div_le_div_right (Nat.sub_le_sub_right ((clock_le_step h₁).trans (clock_le_run h)) _)
      exact Int.lt_of_lt_of_le hlt (by exact_mod_cast hle)

end Elapsed

/-- **No early timeout.** A `wait(keys, timeout)` that process `pid` calls at clock `c` throws
    `"Timeout waiting for keys"` only when more than `timeout` whole milliseconds have passed
    since `c`, whatever the other processes and the clock do, as long as `pid` makes no other
    call. This holds for every timeout, `std::chrono::milliseconds::max()` included: the loop
    compares milliseconds with milliseconds and computes no deadline. -/
theorem wait_throws_only_after_elapsed (basePath : String) {s s' : System} {pid : Nat}
    {keys : List String} {timeout : Millis} (es : List Event)
    (hr : run basePath s (.call pid (.wait keys timeout) :: es) = some s')
    (hes : ∀ e ∈ es, e.calls pid = false)
    (hthrew : s'.pc pid
      = .done (.wait keys timeout) (.threw (.runtimeError "Timeout waiting for keys"))) :
    timeout < (((s'.clock - s.clock) / 1000000 : Nat) : Int) := by
  obtain ⟨s₁, h₁, hr⟩ := Option.bind_eq_some.1 hr
  exact waitingSince_run es (waitingSince_call h₁) hr hes hthrew

theorem wait_throws_only_after_elapsed_at :
    ∃ s', run "/tmp/gloo" (System.init fun _ => none)
        [.call 0 (.wait ["k"] 0), .next 0, .tick 1000000, .next 0] = some s' ∧
      (∀ e ∈ ([.next 0, .tick 1000000, .next 0] : List Event), e.calls 0 = false) ∧
      s'.pc 0 = .done (.wait ["k"] 0) (.threw (.runtimeError "Timeout waiting for keys")) ∧
      (0 : Millis) < (((s'.clock - (System.init fun _ => none).clock) / 1000000 : Nat) : Int) :=
  ⟨_, rfl, by decide, rfl,
    @wait_throws_only_after_elapsed "/tmp/gloo" (System.init fun _ => none) _ 0 ["k"] 0
      [.next 0, .tick 1000000, .next 0] rfl (by decide) rfl⟩

/-- **A timeout the clock cannot reach.** A `wait(keys, timeout)` that process `pid` calls at
    clock `c` never throws its timeout when `timeout` is at least `maxElapsed c`, the most whole
    milliseconds `steady_clock` can count after `c`, whatever the other processes and the clock
    do, as long as `pid` makes no other call. This is the bound of the model of one call at a
    time, where such a `wait` for a key never set never returns (`FileStore.wait`). -/
theorem wait_never_times_out (basePath : String) {s s' : System} {pid : Nat}
    {keys : List String} {timeout : Millis} (es : List Event) (hclock : s.clock < 2 ^ 63)
    (hr : run basePath s (.call pid (.wait keys timeout) :: es) = some s')
    (hes : ∀ e ∈ es, e.calls pid = false) (hT : (maxElapsed s.clock : Int) ≤ timeout) :
    s'.pc pid ≠ .done (.wait keys timeout) (.threw (.runtimeError "Timeout waiting for keys")) := by
  intro hthrew
  obtain ⟨s₁, h₁, hr'⟩ := Option.bind_eq_some.1 hr
  have hlt := waitingSince_run es (waitingSince_call h₁) hr' hes hthrew
  have hbound : (s'.clock - s.clock) / 1000000 ≤ maxElapsed s.clock :=
    Nat.div_le_div_right (by have := clock_lt_run hr hclock; omega)
  exact lt_irrefl timeout (hlt.trans_le ((Int.ofNat_le.2 hbound).trans hT))

theorem wait_never_times_out_at :
    ∃ s', (System.init fun _ => none).clock < 2 ^ 63 ∧
      run "/tmp/gloo" (System.init fun _ => none)
        [.call 0 (.wait ["k"] 9223372036854), .next 0, .tick 1000000, .next 0] = some s' ∧
      (∀ e ∈ ([.next 0, .tick 1000000, .next 0] : List Event), e.calls 0 = false) ∧
      ((maxElapsed (System.init fun _ => none).clock : Int) ≤ 9223372036854) ∧
      s'.pc 0 ≠ .done (.wait ["k"] 9223372036854)
        (.threw (.runtimeError "Timeout waiting for keys")) :=
  ⟨_, by decide, rfl, by decide, by decide,
    @wait_never_times_out "/tmp/gloo" (System.init fun _ => none) _ 0 ["k"] 9223372036854
      [.next 0, .tick 1000000, .next 0] (by decide) rfl (by decide) (by decide)⟩

end FileStore

end Gloo.Rendezvous
