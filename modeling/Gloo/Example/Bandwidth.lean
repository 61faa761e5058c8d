import Mathlib
import Gloo.Example.Training

set_option autoImplicit false

/-! # The bandwidth matrix

On rank 0, `DistributedTrainer`'s constructor fills `bandwidth_matrix_`, an `n × n` matrix of
zeros, with one measurement for each pair of GPUs `i < j`, in the order of its two loops: it calls
`model_->measureBandwidthTo(j)` and stores the result at `[i][j]` and at `[j][i]`, printing it as
the bandwidth "between GPU i and GPU j". The destructor prints the matrix again.

`measureBandwidthTo` is `AlexNetCUDA::measureBandwidthTo` of `alexnet_cuda.h`
(`Example/AlexNetCuda.lean`): every call times copies within rank 0's own GPU, the same for every
`j` (`AlexNetCUDA.measureBandwidthTo_local`), and what the GPU's clock makes of them may differ
from call to call. The model takes `measure k j`, what the `k`-th call returns when asked for
`j`. The loops are one fold over the pairs they visit (`measuredPairs`), the invariant
`Measured` says what a prefix of them leaves, and `Measured.step` and `Measured.run` carry it
through the loops.

The result (`measureBandwidth_spec`) is that the matrix is symmetric with a zero diagonal, and
that the entry of GPUs `i < j` is the call made for that pair, a measurement towards `j`. The call
does not depend on `i`, so every row repeats the links of rank 0 itself.
-/

namespace Gloo.Example

variable {α : Type}

/-- `bandwidth_matrix_[i][j]`, or `0` outside the matrix. -/
def bandwidthAt [Zero α] (m : List (List α)) (i j : Nat) : α := (m.getD i []).getD j 0

/-- `bandwidth_matrix_[i][j] = bandwidth; bandwidth_matrix_[j][i] = bandwidth;`. -/
def setBandwidth (m : List (List α)) (i j : Nat) (bandwidth : α) : List (List α) :=
  let m := m.set i ((m.getD i []).set j bandwidth)
  m.set j ((m.getD j []).set i bandwidth)

/-- The pairs `(i, j)` of the two loops, `i < j < n`, in the order the loops visit them. -/
def measuredPairs (n : Nat) : List (Nat × Nat) :=
  (List.range n).flatMap fun i => (List.range' (i + 1) (n - (i + 1))).map fun j => (i, j)

/-- One pass of the inner loop's body: the call `measureBandwidthTo(j)`, the `k`-th, and the two
    stores; the second component counts the calls made. -/
def measureStep (measure : Nat → Nat → α) (s : List (List α) × Nat) (p : Nat × Nat) :
    List (List α) × Nat :=
  (setBandwidth s.1 p.1 p.2 (measure s.2 p.2), s.2 + 1)

/-- The measurement in `DistributedTrainer`'s constructor, which only rank 0 runs:
    `bandwidth_matrix_.resize(size_, std::vector<double>(size_, 0.0))`, then the two loops. The
    indices `i` and `j` of the loops are never negative, and are `Nat`s here. -/
def measureBandwidth [Zero α] (size : Int) (measure : Nat → Nat → α) : List (List α) :=
  ((measuredPairs size.toNat).foldl (measureStep measure)
    (List.replicate size.toNat (List.replicate size.toNat 0), 0)).1

theorem mem_measuredPairs {n i j : Nat} : (i, j) ∈ measuredPairs n ↔ i < j ∧ j < n := by
  simp only [measuredPairs, List.mem_flatMap, List.mem_range, List.mem_map, List.mem_range',
    Prod.mk.injEq]
  constructor
  · rintro ⟨i, hi, _, ⟨k, hk, rfl⟩, rfl, rfl⟩; omega
  · rintro ⟨hij, hj⟩
    exact ⟨i, by omega, j, ⟨j - (i + 1), by omega, by omega⟩, rfl, rfl⟩

theorem nodup_measuredPairs (n : Nat) : (measuredPairs n).Nodup := by
  refine List.nodup_flatMap.2 ⟨fun i _ => (List.nodup_range' _ _).map fun _ _ h => by
    simpa using h, (List.nodup_range n).pairwise_of_forall_ne fun i _ i' _ hne => ?_⟩
  simp only [List.Disjoint, List.mem_map]
  rintro _ ⟨j, _, rfl⟩ ⟨j', _, h⟩
  exact hne (congrArg Prod.fst h).symm

theorem length_getD_of_square {n : Nat} {m : List (List α)} (hrows : m.length = n)
    (hcols : ∀ row ∈ m, row.length = n) {k : Nat} (hk : k < n) : (m.getD k []).length = n := by
  rw [List.getD_eq_getElem _ _ (by omega)]
  exact hcols _ (List.getElem_mem _)

section Matrix

variable [Zero α] {n : Nat} {measure : Nat → Nat → α}

/-- What the loops leave after the pairs `done`: an `n × n` matrix, symmetric, with at the pair
    visited `k`-th what the `k`-th call returned, and zero at every pair `i ≤ j` not visited. -/
structure Measured (n : Nat) (measure : Nat → Nat → α) (done : List (Nat × Nat))
    (m : List (List α)) : Prop where
  rows : m.length = n
  cols : ∀ row ∈ m, row.length = n
  symm : ∀ i j, bandwidthAt m i j = bandwidthAt m j i
  visited : ∀ k i j, done[k]? = some (i, j) → bandwidthAt m i j = measure k j
  unvisited : ∀ i j, i ≤ j → (i, j) ∉ done → bandwidthAt m i j = 0

theorem bandwidthAt_zero (n i j : Nat) :
    bandwidthAt (List.replicate n (List.replicate n (0 : α))) i j = 0 := by
  simp only [bandwidthAt, List.getD_eq_getElem?_getD, List.getElem?_replicate]
  split_ifs <;>
    simp only [Option.getD_some, Option.getD_none, List.getElem?_replicate, List.getElem?_nil]
  split_ifs <;> rfl

theorem measured_zero (n : Nat) :
    Measured n measure [] (List.replicate n (List.replicate n 0)) where
  rows := List.length_replicate _ _
  cols row hrow := by rw [List.eq_of_mem_replicate hrow, List.length_replicate]
  symm i j := by rw [bandwidthAt_zero, bandwidthAt_zero]
  visited _ _ _ h := nomatch h
  unvisited i j _ _ := bandwidthAt_zero n i j

/-- The two stores change the entry of the pair and of its mirror, and no other. -/
theorem bandwidthAt_setBandwidth {m : List (List α)} (hrows : m.length = n)
    (hcols : ∀ row ∈ m, row.length = n) {i j : Nat} (hi : i < n) (hj : j < n) (hij : i ≠ j)
    (x : α) (a b : Nat) :
    bandwidthAt (setBandwidth m i j x) a b =
      if (a = i ∧ b = j) ∨ (a = j ∧ b = i) then x else bandwidthAt m a b := by
  have hrow : ∀ k < n, (m.getD k []).length = n := fun _ => length_getD_of_square hrows hcols
  unfold setBandwidth bandwidthAt
  dsimp only
  rw [getD_set (by rw [List.length_set]; omega), getD_set (by omega) _ j, if_neg hij,
    getD_set (by omega)]
  by_cases ha : j = a
  · subst ha
    rw [if_pos rfl, getD_set (by rw [hrow j hj]; omega)]
    by_cases hb : i = b
    · subst hb; simp
    · rw [if_neg hb, if_neg (by omega)]
  · rw [if_neg ha]
    by_cases ha' : i = a
    · subst ha'
      rw [if_pos rfl, getD_set (by rw [hrow i hi]; omega)]
      by_cases hb : j = b
      · subst hb; simp
      · rw [if_neg hb, if_neg (by omega)]
    · rw [if_neg ha', if_neg (by omega)]


/-- One pass of the inner loop's body keeps the invariant, with its pair now visited. -/
theorem Measured.step {done : List (Nat × Nat)} {m : List (List α)}
    (hm : Measured n measure done m) (hdone : ∀ p ∈ done, p.1 < p.2) {i j : Nat} (hij : i < j)
    (hj : j < n) (hnew : (i, j) ∉ done) :
    Measured n measure (done ++ [(i, j)]) (setBandwidth m i j (measure done.length j)) := by
  have hat := bandwidthAt_setBandwidth hm.rows hm.cols (show i < n by omega) hj (by omega)
    (measure done.length j)
  refine ⟨by simp only [setBandwidth, List.length_set, hm.rows], fun row hrow => ?_,
    fun a b => ?_, fun k a b hk => ?_, fun a b hle hab => ?_⟩
  · simp only [setBandwidth] at hrow
    rcases List.mem_or_eq_of_mem_set hrow with hrow | rfl
    · rcases List.mem_or_eq_of_mem_set hrow with hrow | rfl
      · exact hm.cols row hrow
      · rw [List.length_set, length_getD_of_square hm.rows hm.cols (by omega)]
    · rw [List.length_set, getD_set (by rw [hm.rows]; omega), if_neg (by omega),
        length_getD_of_square hm.rows hm.cols hj]
  · rw [hat, hat, hm.symm a b]
    split_ifs <;> first | rfl | omega
  · rw [hat]
    rcases Nat.lt_or_ge k done.length with hlt | hge
    · rw [List.getElem?_append_left hlt] at hk
      have hold : (a, b) ∈ done := List.getElem?_mem hk
      have hne : ¬((a = i ∧ b = j) ∨ (a = j ∧ b = i)) := by
        rintro (⟨rfl, rfl⟩ | ⟨rfl, rfl⟩)
        · exact hnew hold
        · have := hdone _ hold; simp only at this; omega
      rw [if_neg hne, hm.visited k a b hk]
    · rw [List.getElem?_append_right hge] at hk
      obtain ⟨hlt, heq⟩ := List.getElem?_eq_some_iff.1 hk
      obtain rfl : k = done.length := by simp only [List.length_singleton] at hlt; omega
      simp only [Nat.sub_self, List.getElem_cons_zero, Prod.mk.injEq] at heq
      obtain ⟨rfl, rfl⟩ := heq
      rw [if_pos (.inl ⟨rfl, rfl⟩)]
  · rw [hat, if_neg, hm.unvisited a b hle fun h => hab (List.mem_append_left _ h)]
    rintro (⟨rfl, rfl⟩ | ⟨rfl, rfl⟩)
    · exact hab (List.mem_append_right _ (List.mem_singleton_self _))
    · omega

/-- The loops keep the invariant over any run of distinct pairs. -/
theorem Measured.run {done ps : List (Nat × Nat)} {m : List (List α)}
    (hm : Measured n measure done m) (hnd : (done ++ ps).Nodup)
    (hps : ∀ p ∈ done ++ ps, p.1 < p.2 ∧ p.2 < n) :
    ∃ m', ps.foldl (measureStep measure) (m, done.length) = (m', (done ++ ps).length) ∧
      Measured n measure (done ++ ps) m' := by
  induction ps generalizing done m with
  | nil => exact ⟨m, by simp, by simpa using hm⟩
  | cons p ps ih =>
    have hp := hps p (by simp)
    have hnew : p ∉ done := fun h => List.disjoint_of_nodup_append hnd h (List.mem_cons_self _ _)
    have hstep := hm.step (fun q hq => (hps q (List.mem_append_left _ hq)).1) hp.1 hp.2 hnew
    rw [List.append_cons] at hnd hps ⊢
    obtain ⟨m', hrun, hm'⟩ := ih hstep hnd hps
    exact ⟨m', by simpa [measureStep] using hrun, hm'⟩

theorem measureBandwidth_measured (size : Int) (measure : Nat → Nat → α) :
    Measured size.toNat measure (measuredPairs size.toNat) (measureBandwidth size measure) := by
  have hpairs : ∀ p ∈ [] ++ measuredPairs size.toNat, p.1 < p.2 ∧ p.2 < size.toNat :=
    fun _ hp => mem_measuredPairs.1 (by rwa [List.nil_append] at hp)
  obtain ⟨m', hrun, hm'⟩ :=
    (@measured_zero α _ measure size.toNat).run (nodup_measuredPairs _) hpairs
  have hfinal : measureBandwidth size measure = m' := congrArg Prod.fst hrun
  rw [hfinal]
  simpa using hm'

/-- **The bandwidth matrix.** The constructor's loops leave an `n × n` matrix that is symmetric,
    with a zero diagonal, and whose entry for GPUs `i < j` is what `measureBandwidthTo(j)`
    returned at the call `k` the loops made for that pair. -/
theorem measureBandwidth_spec (size : Int) (measure : Nat → Nat → α) :
    (measureBandwidth size measure).length = size.toNat ∧
      (∀ row ∈ measureBandwidth size measure, row.length = size.toNat) ∧
      (∀ i j, bandwidthAt (measureBandwidth size measure) i j =
        bandwidthAt (measureBandwidth size measure) j i) ∧
      (∀ i, bandwidthAt (measureBandwidth size measure) i i = 0) ∧
      ∀ i j, i < j → j < size.toNat → ∃ k, (measuredPairs size.toNat)[k]? = some (i, j) ∧
        bandwidthAt (measureBandwidth size measure) i j = measure k j := by
  have hm := measureBandwidth_measured size measure
  refine ⟨hm.rows, hm.cols, hm.symm, fun i => hm.unvisited i i le_rfl fun h =>
    lt_irrefl i (mem_measuredPairs.1 h).1, fun i j hij hj => ?_⟩
  obtain ⟨k, hk⟩ := List.mem_iff_getElem?.1 (mem_measuredPairs.2 ⟨hij, hj⟩)
  exact ⟨k, hk, hm.visited k i j hk⟩

end Matrix

end Gloo.Example
