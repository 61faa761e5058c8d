import Gloo.Rendezvous.HashStore.Basic

set_option autoImplicit false

/-! # `HashStore` under threads

`HashStore::set` takes `mutex_`, writes `map_[key]`, calls `cv_.notify_all()` and releases
`mutex_`. `HashStore::wait` computes `deadline = steady_clock::now() + timeout`, takes `mutex_`
and loops: it returns when every key is in `map_`, and otherwise sleeps on `cv_`, with
`wait_until(lock, deadline)` for a timeout other than `kNoTimeout` and with `wait(lock)` for
`kNoTimeout`. When `wait_until` reports `cv_status::timeout` it throws `"Wait timeout"` without
checking `map_` again.

`Machine` runs any number of threads through these calls, one `Event` at a time (`step`).
`mutex_` is a lock with an owner. `cv_`'s wait set is the set of threads `parked` on it:
`notify_all` empties it, and a thread may leave it at any time, for a spurious wake-up or because
its deadline passed. A timed waiter that takes `mutex_` back when the clock has reached its
deadline sees `cv_status::timeout`, as `wait_until` reports it.

* `reachable_inv`: in every reachable state `mutex_` belongs to the one thread inside a locked
  section. A waiter parked on `cv_` with every key in `map_` exists only while a setter holds
  `mutex_` between its write and its `notify_all`, which will wake the waiter. No wake-up is
  lost, but a parked waiter can have all its keys (`parked_with_keys_present`).
* `waiting_noTimeout_run`: a `wait(keys, kNoTimeout)` whose deadline is defined never throws.
  Whatever the other threads and the clock do, it keeps waiting until it returns, and it returns
  only when every key is in `map_`. A sentinel too large for the deadline makes the call
  undefined.
* `wait_throws_after_set`: a timed `wait` can throw `"Wait timeout"` although the `set` of its
  key completed before the deadline. The waiter was woken in time, and took `mutex_` back only
  after the deadline.
* `wait_throws_only_after_timeout`: a `wait(keys, timeout)` throws `"Wait timeout"` only once the
  clock has reached its deadline, `timeout` milliseconds after the call. The deadline itself can
  overflow: `wait(keys, std::chrono::milliseconds::max())` is undefined behaviour at every clock
  (`wait_max_timeout_overflows`). -/

namespace Gloo.Rendezvous

namespace HashStore

/-- Where a thread is. `setLock`, `setStore`, `setNotify` and `setUnlock` are the points of `set`
    before it takes `mutex_`, before the write, before `notify_all` and before it releases
    `mutex_`. `waitLock` is `wait` with its deadline computed, before it takes `mutex_`, and
    `waitCheck` holds `mutex_` at the top of the loop. `parked` is in `cv_`'s wait set, and
    `woken` is out of it, to take `mutex_` back. -/
inductive Pc
  | idle
  | setLock (key : String) (data : Bytes)
  | setStore (key : String) (data : Bytes)
  | setNotify
  | setUnlock
  | waitLock (keys : List String) (timeout : Millis) (deadline : Int)
  | waitCheck (keys : List String) (timeout : Millis) (deadline : Int)
  | parked (keys : List String) (timeout : Millis) (deadline : Int)
  | woken (keys : List String) (timeout : Millis) (deadline : Int)
  | returned
  | threw (e : StoreError)
  deriving DecidableEq, Repr

namespace Pc

/-- The points inside a locked section: the thread owns `mutex_`. -/
def holdsLock : Pc → Bool
  | setStore _ _ | setNotify | setUnlock | waitCheck _ _ _ => true
  | _ => false

/-- A thread that is in no call can start one. -/
def isFree : Pc → Bool
  | idle | returned | threw _ => true
  | _ => false

/-- What `notify_all` does to a thread: it takes it out of the wait set. -/
def notified : Pc → Pc
  | parked keys timeout deadline => woken keys timeout deadline
  | p => p

/-- Inside `wait(keys, timeout)`, past computing the deadline. -/
def waiting (keys : List String) (timeout : Millis) : Pc → Prop
  | waitLock ks tm _ | waitCheck ks tm _ | parked ks tm _ | woken ks tm _ =>
    ks = keys ∧ tm = timeout
  | _ => False

/-- Inside `wait(keys, timeout)`, with the deadline `deadline` it computed. -/
def waitingUntil (keys : List String) (timeout : Millis) (deadline : Int) : Pc → Prop
  | waitLock ks tm d | waitCheck ks tm d | parked ks tm d | woken ks tm d =>
    ks = keys ∧ tm = timeout ∧ d = deadline
  | _ => False

section Waiting

variable {p : Pc} {keys : List String} {timeout : Millis} {d : Int}

theorem waiting_of_waitingUntil (h : p.waitingUntil keys timeout d) : p.waiting keys timeout := by
  cases p <;> first | exact ⟨h.1, h.2.1⟩ | cases h

theorem exists_waitingUntil (h : p.waiting keys timeout) : ∃ d, p.waitingUntil keys timeout d := by
  cases p <;> first | exact ⟨_, h.1, h.2, rfl⟩ | cases h

theorem isFree_eq_false_of_waitingUntil (h : p.waitingUntil keys timeout d) : p.isFree = false := by
  cases p <;> first | rfl | cases h

theorem waitingUntil_notified (h : p.waitingUntil keys timeout d) :
    p.notified.waitingUntil keys timeout d := by
  cases p <;> exact h

end Waiting

/-- `notify_all` leaves a thread between calls where it is. -/
theorem notified_of_isFree {p : Pc} (h : p.isFree) : p.notified = p := by
  cases p <;> first | rfl | cases h

theorem holdsLock_eq_false_of_isFree {p : Pc} (h : p.isFree = true) : p.holdsLock = false := by
  cases p <;> first | rfl | cases h

@[simp] theorem holdsLock_notified (p : Pc) : p.notified.holdsLock = p.holdsLock := by
  cases p <;> rfl

theorem notified_ne_parked (p : Pc) (keys : List String) (timeout : Millis) (deadline : Int) :
    p.notified ≠ parked keys timeout deadline := by
  cases p <;> simp [notified]

end Pc

/-- Threads sharing one `HashStore`: `map_`, the owner of `mutex_`, where each thread is, and
    `steady_clock` in nanoseconds. -/
structure Machine where
  map : String → Option Bytes
  lock : Option Nat
  pc : Nat → Pc
  clock : Nat

/-- A new `HashStore`, no thread in a call. -/
def Machine.init : Machine := ⟨fun _ => none, none, fun _ => .idle, 0⟩

/-- Move thread `t` to `p`. -/
def Machine.setPc (s : Machine) (t : Nat) (p : Pc) : Machine :=
  { s with pc := Function.update s.pc t p }

theorem Machine.setPc_pc (s : Machine) (t : Nat) (p : Pc) (u : Nat) :
    (s.setPc t p).pc u = if u = t then p else s.pc u :=
  Function.update_apply s.pc t p u

@[simp] theorem Machine.setPc_pc_self (s : Machine) (t : Nat) (p : Pc) : (s.setPc t p).pc t = p :=
  (s.setPc_pc t p t).trans (if_pos rfl)

/-- What can happen next: a thread starts a call or takes the next step of its call, or time
    passes. -/
inductive Event
  | callSet (t : Nat) (key : String) (data : Bytes)
  | callWait (t : Nat) (keys : List String) (timeout : Millis)
  | acquire (t : Nat)
  | store (t : Nat)
  | notify (t : Nat)
  | release (t : Nat)
  | check (t : Nat)
  | wake (t : Nat)
  | tick (ns : Nat)
  deriving DecidableEq, Repr

/-- The thread that takes the step, if any. -/
def Event.thread : Event → Option Nat
  | callSet t _ _ | callWait t _ _ | acquire t | store t | notify t | release t | check t
  | wake t => some t
  | tick _ => none

/-- Whether the event is thread `t` starting a call. -/
def Event.starts (t : Nat) : Event → Bool
  | callSet u _ _ | callWait u _ _ => u = t
  | _ => false

section Step

variable (kNoTimeout : Millis)

/-- One event, when it can happen. `wait` computes its deadline before it takes `mutex_`; taking
    `mutex_` back after `wait_until` throws when the deadline has passed, and the throw releases
    `mutex_` again. -/
def step (s : Machine) : Event → Option Machine
  | .callSet t key data =>
    if (s.pc t).isFree then some (s.setPc t (.setLock key data)) else none
  | .callWait t keys timeout =>
    if (s.pc t).isFree then
      some (s.setPc t (match deadline s.clock timeout with
        | some d => .waitLock keys timeout d
        | none => .threw (.undefinedBehavior "signed overflow in steady_clock::now() + timeout")))
    else none
  | .acquire t =>
    match s.lock, s.pc t with
    | none, .setLock key data => some { s.setPc t (.setStore key data) with lock := some t }
    | none, .waitLock keys timeout d =>
      some { s.setPc t (.waitCheck keys timeout d) with lock := some t }
    | none, .woken keys timeout d =>
      if timeout ≠ kNoTimeout ∧ d ≤ s.clock then
        some (s.setPc t (.threw (.runtimeError "Wait timeout")))
      else some { s.setPc t (.waitCheck keys timeout d) with lock := some t }
    | _, _ => none
  | .store t =>
    match s.pc t with
    | .setStore key data => some { s.setPc t .setNotify with map := insert s.map key data }
    | _ => none
  | .notify t =>
    match s.pc t with
    | .setNotify => some { s with pc := fun u => if u = t then .setUnlock else (s.pc u).notified }
    | _ => none
  | .release t =>
    match s.pc t with
    | .setUnlock => some { s.setPc t .returned with lock := none }
    | _ => none
  | .check t =>
    match s.pc t with
    | .waitCheck keys timeout d =>
      some { s.setPc t (if allFound s.map keys then .returned else .parked keys timeout d) with
        lock := none }
    | _ => none
  | .wake t =>
    match s.pc t with
    | .parked keys timeout d => some (s.setPc t (.woken keys timeout d))
    | _ => none
  | .tick ns => some { s with clock := s.clock + ns }

/-- The events one after another, while each can happen. -/
def run (s : Machine) : List Event → Option Machine
  | [] => some s
  | e :: es => (step kNoTimeout s e).bind fun s' => run s' es

/-- The states a run from `Machine.init` reaches. -/
inductive Reachable : Machine → Prop
  | init : Reachable Machine.init
  | step {s s' : Machine} (e : Event) : Reachable s → step kNoTimeout s e = some s' → Reachable s'

theorem Reachable.run {kNoTimeout : Millis} {s s' : Machine} (h : Reachable kNoTimeout s) :
    ∀ es : List Event, run kNoTimeout s es = some s' → Reachable kNoTimeout s'
  | [], hr => by cases hr; exact h
  | e :: es, hr => by
    simp only [HashStore.run, Option.bind_eq_some] at hr
    obtain ⟨s₁, h₁, hr⟩ := hr
    exact (h.step e h₁).run es hr

@[simp] theorem step_tick {kNoTimeout : Millis} (s : Machine) (ns : Nat) :
    step kNoTimeout s (.tick ns) = some { s with clock := s.clock + ns } := rfl

/-- A timed waiter that takes `mutex_` back at or after its deadline throws. -/
theorem step_acquire_timeout {kNoTimeout : Millis} {s : Machine} {t : Nat} {keys : List String}
    {timeout : Millis} {d : Int} (hl : s.lock = none) (ht : s.pc t = .woken keys timeout d)
    (hT : timeout ≠ kNoTimeout) (hd : d ≤ s.clock) :
    step kNoTimeout s (.acquire t) = some (s.setPc t (.threw (.runtimeError "Wait timeout"))) := by
  simp only [step, hl, ht, if_pos (And.intro hT hd)]

/-- A step of another thread moves `t` at most out of the wait set. -/
theorem pc_of_step_other {kNoTimeout : Millis} {s s' : Machine} {e : Event} {t : Nat}
    (hs : step kNoTimeout s e = some s') (he : e.thread ≠ some t) :
    s'.pc t = s.pc t ∨ s'.pc t = (s.pc t).notified := by
  have ne : ∀ u, some u ≠ some t → ∀ p, (s.setPc u p).pc t = s.pc t := fun u h p => by
    rw [Machine.setPc_pc, if_neg fun e => h (congrArg some e.symm)]
  cases e with
  | tick ns => cases hs; exact .inl rfl
  | notify u =>
    simp only [step] at hs
    split at hs <;> cases hs
    exact .inr (if_neg fun e => he (congrArg some e.symm))
  | acquire u =>
    simp only [step] at hs
    split at hs
    · cases hs; exact .inl (ne u he _)
    · cases hs; exact .inl (ne u he _)
    · split at hs <;> cases hs <;> exact .inl (ne u he _)
    · cases hs
  | callWait u keys timeout =>
    simp only [step] at hs
    split at hs <;> cases hs
    exact .inl (ne u he _)
  | callSet u _ _ | store u | release u | check u | wake u =>
    simp only [step] at hs
    split at hs <;> cases hs
    exact .inl (ne u he _)

end Step

/-! ## No lost wake-up -/

/-- What every reachable state satisfies. `mutex_` belongs to the thread inside a locked
    section. A waiter parked with every key in `map_` is there only while a setter owns
    `mutex_` between its write and its `notify_all`. -/
structure Inv (s : Machine) : Prop where
  owner : ∀ t, (s.pc t).holdsLock → s.lock = some t
  parked : ∀ t keys timeout d, s.pc t = .parked keys timeout d →
    allFound s.map keys = false ∨ ∃ u, s.lock = some u ∧ s.pc u = .setNotify

namespace Inv

variable {s : Machine} {t : Nat} {p : Pc}

theorem init : Inv Machine.init where
  owner _ h := by cases h
  parked _ _ _ _ h := by cases h

/-- A thread outside the locked sections moves to a point outside them, and parks only when a
    key is missing. -/
theorem setPc (h : Inv s) (ht : (s.pc t).holdsLock = false) (hp : p.holdsLock = false)
    (hpark : ∀ keys timeout d, p = .parked keys timeout d → allFound s.map keys = false) :
    Inv (s.setPc t p) where
  owner u hu := by
    rw [Machine.setPc_pc] at hu
    split_ifs at hu
    · rw [hp] at hu; cases hu
    · exact h.owner u hu
  parked u keys timeout d hu := by
    rw [Machine.setPc_pc] at hu
    split_ifs at hu with e
    · exact .inl (hpark _ _ _ hu)
    · refine (h.parked u keys timeout d hu).imp_right fun ⟨v, hv, hn⟩ => ⟨v, hv, ?_⟩
      rw [Machine.setPc_pc, if_neg]
      · exact hn
      · rintro rfl
        rw [hn] at ht
        cases ht

/-- A thread takes the free `mutex_`. -/
theorem lock (h : Inv s) (hl : s.lock = none) (hp : p.holdsLock = true) :
    Inv { s.setPc t p with lock := some t } where
  owner u hu := by
    change ((s.setPc t p).pc u).holdsLock = true at hu
    rw [Machine.setPc_pc] at hu
    split_ifs at hu with e
    · rw [e]
    · rw [h.owner u hu] at hl; cases hl
  parked u keys timeout d hu := by
    change (s.setPc t p).pc u = _ at hu
    rw [Machine.setPc_pc] at hu
    split_ifs at hu
    · rw [hu] at hp; cases hp
    · refine (h.parked u keys timeout d hu).imp_right fun ⟨v, hv, _⟩ => ?_
      rw [hl] at hv; cases hv

/-- The owner of `mutex_` releases it, other than between a write and its `notify_all`, and
    parks only when a key is missing. -/
theorem unlock (h : Inv s) (hl : s.lock = some t) (ht : s.pc t ≠ .setNotify)
    (hp : p.holdsLock = false)
    (hpark : ∀ keys timeout d, p = .parked keys timeout d → allFound s.map keys = false) :
    Inv { s.setPc t p with lock := none } where
  owner u hu := by
    change ((s.setPc t p).pc u).holdsLock = true at hu
    rw [Machine.setPc_pc] at hu
    split_ifs at hu with e
    · rw [hp] at hu; cases hu
    · rw [h.owner u hu] at hl; cases hl; exact absurd rfl e
  parked u keys timeout d hu := by
    change (s.setPc t p).pc u = _ at hu
    rw [Machine.setPc_pc] at hu
    split_ifs at hu with e
    · exact .inl (hpark _ _ _ hu)
    · refine .inl ((h.parked u keys timeout d hu).resolve_right fun ⟨v, hv, hn⟩ => ?_)
      rw [hl] at hv; cases hv
      exact ht hn

/-- A setter writes `map_`: every waiter parked with all its keys now waits on its
    `notify_all`. -/
theorem store (h : Inv s) {key : String} {data : Bytes} (ht : s.pc t = .setStore key data) :
    Inv { s.setPc t .setNotify with map := insert s.map key data } where
  owner u hu := by
    change ((s.setPc t _).pc u).holdsLock = true at hu
    rw [Machine.setPc_pc] at hu
    split_ifs at hu with e
    · exact e ▸ h.owner t (by rw [ht]; rfl)
    · exact h.owner u hu
  parked u keys timeout d hu := .inr ⟨t, h.owner t (by rw [ht]; rfl), by
    change (s.setPc t _).pc t = _
    rw [Machine.setPc_pc, if_pos rfl]⟩

/-- `notify_all` empties the wait set. -/
theorem notify (h : Inv s) (ht : s.pc t = .setNotify) :
    Inv { s with pc := fun u => if u = t then .setUnlock else (s.pc u).notified } where
  owner u hu := by
    change (if u = t then Pc.setUnlock else (s.pc u).notified).holdsLock = true at hu
    split_ifs at hu with e
    · exact e ▸ h.owner t (by rw [ht]; rfl)
    · exact h.owner u (by rwa [Pc.holdsLock_notified] at hu)
  parked u keys timeout d hu := by
    change (if u = t then Pc.setUnlock else (s.pc u).notified) = _ at hu
    by_cases e : u = t
    · rw [if_pos e] at hu; cases hu
    · rw [if_neg e] at hu; exact absurd hu (Pc.notified_ne_parked _ _ _ _)

end Inv

variable {kNoTimeout : Millis}

/-- Every event keeps the invariant. -/
theorem step_inv {s s' : Machine} {e : Event} (h : Inv s) (hs : step kNoTimeout s e = some s') :
    Inv s' := by
  have locked : ∀ {t : Nat} {p : Pc}, s.pc t = p → p.holdsLock = true → s.lock = some t :=
    fun ht hp => h.owner _ (by rw [ht]; exact hp)
  cases e with
  | callSet t key data =>
    simp only [step] at hs
    split_ifs at hs with hf
    cases hs
    exact h.setPc (Pc.holdsLock_eq_false_of_isFree hf) rfl nofun
  | callWait t keys timeout =>
    simp only [step] at hs
    split_ifs at hs with hf
    cases hs
    refine h.setPc (Pc.holdsLock_eq_false_of_isFree hf) ?_ ?_ <;> split <;> first | rfl | nofun
  | acquire t =>
    simp only [step] at hs
    split at hs
    · cases hs; exact h.lock ‹_› rfl
    · cases hs; exact h.lock ‹_› rfl
    · next hl hw =>
      split at hs <;> cases hs
      · exact h.setPc (by rw [hw]; rfl) rfl nofun
      · exact h.lock hl rfl
    · cases hs
  | store t =>
    simp only [step] at hs
    split at hs <;> cases hs
    exact h.store ‹_›
  | notify t =>
    simp only [step] at hs
    split at hs <;> cases hs
    exact h.notify ‹_›
  | release t =>
    simp only [step] at hs
    split at hs <;> cases hs
    next ht => exact h.unlock (locked ht rfl) (by rw [ht]; nofun) rfl nofun
  | check t =>
    simp only [step] at hs
    split at hs <;> cases hs
    next keys timeout d ht =>
    refine h.unlock (locked ht rfl) (by rw [ht]; nofun) (by split <;> rfl) fun _ _ _ hp => ?_
    split at hp
    · cases hp
    · cases hp; exact Bool.eq_false_iff.2 ‹_›
  | wake t =>
    simp only [step] at hs
    split at hs <;> cases hs
    next ht => exact h.setPc (by rw [ht]; rfl) rfl nofun
  | tick ns =>
    cases hs
    exact ⟨h.owner, h.parked⟩

theorem reachable_inv {s : Machine} (h : Reachable kNoTimeout s) : Inv s := by
  induction h with
  | init => exact Inv.init
  | step e _ hs ih => exact step_inv ih hs

/-- **No lost wake-up.** In every reachable state, a thread parked on `cv_` inside
    `wait(keys, ·)` has a key missing from `map_`, or `mutex_` is owned by a setter that has
    written `map_` and not yet called `notify_all`; that call takes every parked thread out of
    the wait set. -/
theorem parked_has_missing_key_or_pending_notify {s : Machine} (h : Reachable kNoTimeout s)
    (t : Nat) (keys : List String) (timeout : Millis) (d : Int)
    (ht : s.pc t = .parked keys timeout d) :
    allFound s.map keys = false ∨ ∃ u, s.lock = some u ∧ s.pc u = .setNotify :=
  (reachable_inv h).parked t keys timeout d ht

theorem parked_has_missing_key_or_pending_notify_at :
    ∃ s, run 0 Machine.init [.callWait 0 ["k"] 1, .acquire 0, .check 0] = some s ∧
      Reachable 0 s ∧ s.pc 0 = .parked ["k"] 1 1000000 ∧
      (allFound s.map ["k"] = false ∨ ∃ u, s.lock = some u ∧ s.pc u = .setNotify) :=
  ⟨_, rfl, Reachable.init.run [.callWait 0 ["k"] 1, .acquire 0, .check 0] rfl, rfl,
    parked_has_missing_key_or_pending_notify
      ((@Reachable.init 0).run [.callWait 0 ["k"] 1, .acquire 0, .check 0] rfl) 0 ["k"] 1 1000000 rfl⟩

/-- A waiter can be parked on `cv_` with every key in `map_`: a setter has written the key and
    not yet called `notify_all`. -/
theorem parked_with_keys_present :
    ∃ s, run 0 Machine.init
        [.callWait 0 ["k"] 1, .acquire 0, .check 0, .callSet 1 "k" [1], .acquire 1, .store 1]
        = some s ∧
      Reachable 0 s ∧ s.pc 0 = .parked ["k"] 1 1000000 ∧ allFound s.map ["k"] = true :=
  ⟨_, rfl,
    Reachable.init.run
      [.callWait 0 ["k"] 1, .acquire 0, .check 0, .callSet 1 "k" [1], .acquire 1, .store 1] rfl,
    rfl, rfl⟩

/-! ## What a `wait` can do -/

/-- **One step of a waiter.** A thread inside `wait(keys, timeout)` with deadline `d` keeps
    waiting with it, returns with every key in `map_`, or, for a timeout other than `kNoTimeout`,
    throws `"Wait timeout"` once the clock has reached `d`, whatever `map_` then holds. -/
theorem waitingUntil_step {s s' : Machine} {e : Event} {t : Nat} {keys : List String}
    {timeout : Millis} {d : Int} (hw : (s.pc t).waitingUntil keys timeout d)
    (hs : step kNoTimeout s e = some s') :
    (s'.pc t).waitingUntil keys timeout d ∨ (s'.pc t = .returned ∧ allFound s.map keys = true) ∨
      (s'.pc t = .threw (.runtimeError "Wait timeout") ∧ timeout ≠ kNoTimeout ∧ d ≤ s.clock) := by
  by_cases he : e.thread = some t
  · have hf := Pc.isFree_eq_false_of_waitingUntil hw
    cases e <;> simp only [Event.thread, Option.some.injEq, reduceCtorEq] at he <;> subst he <;>
      simp only [step] at hs
    · rw [if_neg (by rw [hf]; decide)] at hs; cases hs
    · rw [if_neg (by rw [hf]; decide)] at hs; cases hs
    · split at hs
      · next hp => rw [hp] at hw; cases hw
      · next hp =>
        rw [hp] at hw
        obtain ⟨rfl, rfl, rfl⟩ := hw
        cases hs
        exact .inl (by simp only [Machine.setPc_pc_self]; exact ⟨rfl, rfl, rfl⟩)
      · next hp =>
        rw [hp] at hw
        obtain ⟨rfl, rfl, rfl⟩ := hw
        split at hs <;> cases hs
        · next hd => exact .inr (.inr ⟨Machine.setPc_pc_self _ _ _, hd.1, hd.2⟩)
        · exact .inl (by simp only [Machine.setPc_pc_self]; exact ⟨rfl, rfl, rfl⟩)
      · cases hs
    · split at hs <;> cases hs
      next hp => rw [hp] at hw; cases hw
    · split at hs <;> cases hs
      next hp => rw [hp] at hw; cases hw
    · split at hs <;> cases hs
      next hp => rw [hp] at hw; cases hw
    · split at hs <;> cases hs
      next hp =>
      rw [hp] at hw
      obtain ⟨rfl, rfl, rfl⟩ := hw
      simp only [Machine.setPc_pc_self]
      split
      · exact .inr (.inl ⟨rfl, ‹_›⟩)
      · exact .inl ⟨rfl, rfl, rfl⟩
    · split at hs <;> cases hs
      next hp =>
      rw [hp] at hw
      obtain ⟨rfl, rfl, rfl⟩ := hw
      exact .inl (by simp only [Machine.setPc_pc_self]; exact ⟨rfl, rfl, rfl⟩)
  · rcases pc_of_step_other hs he with h | h <;> rw [h]
    · exact .inl hw
    · exact .inl (Pc.waitingUntil_notified hw)

/-- A step that is not the thread's own is `none` for a thread between calls, other than
    starting a call. -/
theorem step_own_of_isFree {s : Machine} {e : Event} {t : Nat} (hf : (s.pc t).isFree)
    (ht : e.thread = some t) (he : e.starts t = false) : step kNoTimeout s e = none := by
  cases e with
  | tick => cases ht
  | callSet u _ _ | callWait u _ _ =>
    obtain rfl := Option.some.inj ht
    simp [Event.starts] at he
  | acquire u | store u | notify u | release u | check u | wake u =>
    obtain rfl := Option.some.inj ht
    simp only [step]
    split <;> simp_all [Pc.isFree]

/-- A thread between calls stays where it is until it starts another call. -/
theorem free_step {s s' : Machine} {e : Event} {t : Nat} (hf : (s.pc t).isFree)
    (hs : step kNoTimeout s e = some s') (he : e.starts t = false) : s'.pc t = s.pc t := by
  by_cases ht : e.thread = some t
  · rw [step_own_of_isFree hf ht he] at hs
    cases hs
  · rcases pc_of_step_other hs ht with h | h
    · exact h
    · exact h.trans (Pc.notified_of_isFree hf)

theorem free_run {t : Nat} :
    ∀ {s s' : Machine} {es : List Event}, (s.pc t).isFree → run kNoTimeout s es = some s' →
      (∀ e ∈ es, e.starts t = false) → s'.pc t = s.pc t
  | _, _, [], _, hrun, _ => by cases hrun; rfl
  | _, _, e :: es, hf, hrun, hes => by
    obtain ⟨s₁, h₁, hrun⟩ := Option.bind_eq_some.1 hrun
    have hpc := free_step hf h₁ (hes e (List.mem_cons_self _ _))
    exact (free_run (hpc ▸ hf) hrun fun e he => hes e (List.mem_cons_of_mem _ he)).trans hpc

/-- Time never runs backwards. -/
theorem clock_le_step {s s' : Machine} {e : Event} (hs : step kNoTimeout s e = some s') :
    s.clock ≤ s'.clock := by
  cases e with
  | tick ns =>
    cases hs
    exact Nat.le_add_right _ _
  | acquire t =>
    simp only [step] at hs
    split at hs <;> (try split at hs) <;> cases hs <;> exact le_rfl
  | _ =>
    simp only [step] at hs
    split at hs <;> cases hs
    exact le_rfl

theorem clock_le_run : ∀ {s s' : Machine} {es : List Event}, run kNoTimeout s es = some s' →
    s.clock ≤ s'.clock
  | _, _, [], hrun => by cases hrun; exact le_rfl
  | _, _, _ :: _, hrun => by
    obtain ⟨_, h₁, hrun⟩ := Option.bind_eq_some.1 hrun
    exact (clock_le_step h₁).trans (clock_le_run hrun)

/-- `map_` only grows: a key in it stays in it. -/
theorem isSome_map_step {s s' : Machine} {e : Event} (hs : step kNoTimeout s e = some s')
    {k : String} (hk : (s.map k).isSome) : (s'.map k).isSome := by
  cases e with
  | store t =>
    simp only [step] at hs
    split at hs <;> cases hs
    simp only [insert]
    split_ifs <;> simp [hk]
  | tick ns =>
    cases hs
    exact hk
  | acquire t =>
    simp only [step] at hs
    split at hs <;> (try split at hs) <;> cases hs <;> exact hk
  | _ =>
    simp only [step] at hs
    split at hs <;> cases hs
    exact hk

theorem allFound_step {s s' : Machine} {e : Event} {keys : List String}
    (hs : step kNoTimeout s e = some s') (h : allFound s.map keys = true) :
    allFound s'.map keys = true := by
  simp only [allFound, List.all_eq_true] at h ⊢
  exact fun k hk => isSome_map_step hs (h k hk)

theorem allFound_run {keys : List String} :
    ∀ {s s' : Machine} {es : List Event}, run kNoTimeout s es = some s' →
      allFound s.map keys = true → allFound s'.map keys = true
  | _, _, [], hrun, h => by cases hrun; exact h
  | _, _, _ :: _, hrun, h => by
    obtain ⟨_, h₁, hrun⟩ := Option.bind_eq_some.1 hrun
    exact allFound_run hrun (allFound_step h₁ h)

/-- A thread inside `wait(keys, kNoTimeout)` past its deadline is, along every run in which it
    starts no other call, still waiting at the end, or has returned with every key in `map_`. -/
theorem waiting_noTimeout_from {t : Nat} {keys : List String} :
    ∀ {s s' : Machine} (es : List Event), (s.pc t).waiting keys kNoTimeout →
      run kNoTimeout s es = some s' → (∀ e ∈ es, e.starts t = false) →
      (s'.pc t).waiting keys kNoTimeout ∨ (s'.pc t = .returned ∧ allFound s'.map keys = true)
  | _, _, [], hw, hr, _ => by cases hr; exact .inl hw
  | s, s', e :: es, hw, hr, hes => by
    obtain ⟨s₁, h₁, hr⟩ := Option.bind_eq_some.1 hr
    have hes' : ∀ e ∈ es, e.starts t = false := fun e he => hes e (List.mem_cons_of_mem _ he)
    obtain ⟨d, hd⟩ := Pc.exists_waitingUntil hw
    rcases waitingUntil_step hd h₁ with hw₁ | ⟨hr₁, hall⟩ | ⟨-, hne, -⟩
    · exact waiting_noTimeout_from es (Pc.waiting_of_waitingUntil hw₁) hr hes'
    · -- it returned with every key in `map_`, and `map_` only grows
      exact .inr ⟨(free_run (by rw [hr₁]; rfl) hr hes').trans hr₁,
        allFound_run hr (allFound_step h₁ hall)⟩
    · exact absurd rfl hne

/-- **`kNoTimeout` never times out.** Take a `wait(keys, kNoTimeout)` that thread `t` calls at
    clock `c`, and a run in which `t` starts no other call, whatever the other threads and the
    clock do. When the deadline `c + kNoTimeout` milliseconds is an `int64_t` count of
    nanoseconds, the thread is at the end still waiting, or has returned with every key in
    `map_`: it never throws. When the deadline leaves `int64_t`, the call is undefined. -/
theorem waiting_noTimeout_run {s s' : Machine} {t : Nat} {keys : List String} (es : List Event)
    (hr : run kNoTimeout s (.callWait t keys kNoTimeout :: es) = some s')
    (hes : ∀ e ∈ es, e.starts t = false) :
    ((deadline s.clock kNoTimeout).isSome →
      (s'.pc t).waiting keys kNoTimeout ∨ (s'.pc t = .returned ∧ allFound s'.map keys = true)) ∧
    (deadline s.clock kNoTimeout = none →
      s'.pc t =
        .threw (.undefinedBehavior "signed overflow in steady_clock::now() + timeout")) := by
  obtain ⟨s₁, h₁, hr⟩ := Option.bind_eq_some.1 hr
  simp only [step] at h₁
  split_ifs at h₁
  cases h₁
  split at hr
  · next d hd =>
    refine ⟨fun _ => waiting_noTimeout_from es ?_ hr hes, fun h => nomatch hd.symm.trans h⟩
    rw [Machine.setPc_pc_self]
    exact ⟨rfl, rfl⟩
  · next hd =>
    refine ⟨fun h => absurd h (by rw [hd]; decide), fun _ => ?_⟩
    have hpc := free_run (by rw [Machine.setPc_pc_self]; rfl) hr hes
    rwa [Machine.setPc_pc_self] at hpc

theorem waiting_noTimeout_run_at :
    ∃ s', run 0 Machine.init
        [.callWait 0 ["k"] 0, .acquire 0, .check 0, .wake 0, .tick 5, .acquire 0] = some s' ∧
      (∀ e ∈ ([.acquire 0, .check 0, .wake 0, .tick 5, .acquire 0] : List Event),
        e.starts 0 = false) ∧
      ((deadline Machine.init.clock 0).isSome →
        (s'.pc 0).waiting ["k"] 0 ∨ (s'.pc 0 = .returned ∧ allFound s'.map ["k"] = true)) ∧
      (deadline Machine.init.clock 0 = none →
        s'.pc 0 = .threw (.undefinedBehavior "signed overflow in steady_clock::now() + timeout")) :=
  ⟨_, rfl, by decide,
    @waiting_noTimeout_run 0 Machine.init _ 0 ["k"]
      [.acquire 0, .check 0, .wake 0, .tick 5, .acquire 0] rfl (by decide)⟩

/-- A waiter with deadline `d` throws `"Wait timeout"` only at a clock that has reached `d`. -/
theorem waitingUntil_run {t : Nat} {keys : List String} {timeout : Millis} {d : Int} :
    ∀ {s s' : Machine} (es : List Event), (s.pc t).waitingUntil keys timeout d →
      run kNoTimeout s es = some s' → (∀ e ∈ es, e.starts t = false) →
      s'.pc t = .threw (.runtimeError "Wait timeout") → d ≤ s'.clock
  | _, _, [], hw, hr, _, hthrew => by
    cases hr
    rw [hthrew] at hw
    cases hw
  | s, s', e :: es, hw, hr, hes, hthrew => by
    obtain ⟨s₁, h₁, hr⟩ := Option.bind_eq_some.1 hr
    have hes' : ∀ e ∈ es, e.starts t = false := fun e he => hes e (List.mem_cons_of_mem _ he)
    rcases waitingUntil_step hw h₁ with hw₁ | ⟨hr₁, -⟩ | ⟨-, -, hd⟩
    · exact waitingUntil_run es hw₁ hr hes' hthrew
    · rw [free_run (by rw [hr₁]; rfl) hr hes', hr₁] at hthrew
      cases hthrew
    · calc d ≤ s.clock := hd
        _ ≤ s₁.clock := by exact_mod_cast clock_le_step h₁
        _ ≤ s'.clock := by exact_mod_cast clock_le_run hr

/-- **No early timeout.** A `wait(keys, timeout)` that thread `t` calls at clock `c` throws
    `"Wait timeout"` only once the clock has reached `c + timeout` milliseconds, whatever the
    other threads and the clock do, as long as `t` starts no other call. A deadline outside
    `int64_t` makes the call undefined (`wait_max_timeout_overflows`) instead. -/
theorem wait_throws_only_after_timeout {s s' : Machine} {t : Nat} {keys : List String}
    {timeout : Millis} (es : List Event)
    (hr : run kNoTimeout s (.callWait t keys timeout :: es) = some s')
    (hes : ∀ e ∈ es, e.starts t = false)
    (hthrew : s'.pc t = .threw (.runtimeError "Wait timeout")) :
    s.clock + timeout * 1000000 ≤ s'.clock := by
  obtain ⟨s₁, h₁, hr⟩ := Option.bind_eq_some.1 hr
  simp only [step] at h₁
  split_ifs at h₁
  cases h₁
  split at hr
  · next d hd =>
    have hw : ((s.setPc t (.waitLock keys timeout d)).pc t).waitingUntil keys timeout d := by
      rw [Machine.setPc_pc_self]
      exact ⟨rfl, rfl, rfl⟩
    exact eq_of_deadline_eq_some hd ▸ waitingUntil_run es hw hr hes hthrew
  · have hpc := free_run (by rw [Machine.setPc_pc_self]; rfl) hr hes
    rw [hthrew, Machine.setPc_pc_self] at hpc
    cases hpc

theorem wait_throws_only_after_timeout_at :
    ∃ s', run 0 Machine.init
        [.callWait 0 ["k"] 1, .acquire 0, .check 0, .wake 0, .tick 1000000, .acquire 0] = some s' ∧
      (∀ e ∈ ([.acquire 0, .check 0, .wake 0, .tick 1000000, .acquire 0] : List Event),
        e.starts 0 = false) ∧
      s'.pc 0 = .threw (.runtimeError "Wait timeout") ∧
      Machine.init.clock + (1 : Millis) * 1000000 ≤ s'.clock :=
  ⟨_, rfl, by decide, rfl,
    @wait_throws_only_after_timeout 0 Machine.init _ 0 ["k"] 1
      [.acquire 0, .check 0, .wake 0, .tick 1000000, .acquire 0] rfl (by decide) rfl⟩

/-- A timed `wait` throws `"Wait timeout"` with its key in `map_`. Thread 1's `set` of the key
    completed before the deadline, and its `notify_all` took thread 0 out of the wait set; thread 0
    took `mutex_` back only after the deadline, and `wait_until` reported `timeout`. -/
theorem wait_throws_after_set {kNoTimeout : Millis} (hk : (1 : Millis) ≠ kNoTimeout) :
    ∃ s s', run kNoTimeout Machine.init
        [.callWait 0 ["k"] 1, .acquire 0, .check 0, .callSet 1 "k" [1], .acquire 1, .store 1,
          .notify 1, .release 1] = some s ∧
      s.pc 1 = .returned ∧ s.clock < 1000000 ∧ s.pc 0 = .woken ["k"] 1 1000000 ∧
      run kNoTimeout s [.tick 1000000, .acquire 0] = some s' ∧
      s'.pc 0 = .threw (.runtimeError "Wait timeout") ∧ allFound s'.map ["k"] = true := by
  obtain ⟨s, hs, h₁, hc, h₀, hl, hmap⟩ : ∃ s, run kNoTimeout Machine.init
      [.callWait 0 ["k"] 1, .acquire 0, .check 0, .callSet 1 "k" [1], .acquire 1, .store 1,
        .notify 1, .release 1] = some s ∧
      s.pc 1 = .returned ∧ s.clock = 0 ∧ s.pc 0 = .woken ["k"] 1 1000000 ∧ s.lock = none ∧
      allFound s.map ["k"] = true := ⟨_, rfl, rfl, rfl, rfl, rfl, rfl⟩
  have hstep := @step_acquire_timeout kNoTimeout { s with clock := s.clock + 1000000 } 0 ["k"] 1
    1000000 hl h₀ hk (by simp [hc])
  refine ⟨s, { s with clock := s.clock + 1000000 }.setPc 0 (.threw (.runtimeError "Wait timeout")),
    hs, h₁, by omega, h₀, ?_, Machine.setPc_pc_self _ _ _, hmap⟩
  simp only [run, step_tick, Option.some_bind, hstep]

theorem wait_throws_after_set_at :
    (1 : Millis) ≠ 0 ∧
    ∃ s s', run 0 Machine.init
        [.callWait 0 ["k"] 1, .acquire 0, .check 0, .callSet 1 "k" [1], .acquire 1, .store 1,
          .notify 1, .release 1] = some s ∧
      s.pc 1 = .returned ∧ s.clock < 1000000 ∧ s.pc 0 = .woken ["k"] 1 1000000 ∧
      run 0 s [.tick 1000000, .acquire 0] = some s' ∧
      s'.pc 0 = .threw (.runtimeError "Wait timeout") ∧ allFound s'.map ["k"] = true :=
  ⟨by decide, wait_throws_after_set (by decide)⟩

/-- `wait(keys, std::chrono::milliseconds::max())` is undefined behaviour at every clock:
    `steady_clock::now() + timeout` converts `2⁶³ - 1` milliseconds to nanoseconds in `int64_t`,
    which overflows before the deadline exists. -/
theorem wait_max_timeout_overflows {s : Machine} {t : Nat} (keys : List String)
    (hf : (s.pc t).isFree) :
    step kNoTimeout s (.callWait t keys (2 ^ 63 - 1))
      = some (s.setPc t
          (.threw (.undefinedBehavior "signed overflow in steady_clock::now() + timeout"))) := by
  simp only [step, if_pos hf, deadline_max]

theorem wait_max_timeout_overflows_at :
    (Machine.init.pc 0).isFree ∧
    step 0 Machine.init (.callWait 0 ["k"] (2 ^ 63 - 1))
      = some (Machine.init.setPc 0
          (.threw (.undefinedBehavior "signed overflow in steady_clock::now() + timeout"))) :=
  ⟨rfl, wait_max_timeout_overflows ["k"] rfl⟩

end HashStore

end Gloo.Rendezvous
