import Mathlib
import Gloo.Example.Trainer

set_option autoImplicit false

/-! # The training run's traffic

`DistributedTrainer::train` runs `num_epochs_to_run` epochs (one in first-batch mode, else
`num_epochs`) of `steps_per_epoch` steps, and each step calls `synchronizeParameters`. At the start
of every epoch rank 0, and only rank 0, sets each entry of its `traffic_matrix_` back to zero;
after the epoch rank 0 prints that matrix.

A trainer keeps `DistributedTrainer.Inv` from its constructor through every step of a run: its rank
is a node, its size is the node count, and `traffic_matrix_` is an `n × n` matrix of `size_t`
values. A step adds the same amount at each entry, so a whole run is a count of steps.

* `synchronizeParameters_traffic`: one call adds `2 c ⌊4P / num_rings⌋` bytes modulo `2^64` at
  `traffic_matrix_[i][j]`, where `c` counts the rank's connections from `i` to `j`.
* `train_traffic`: after a whole run from the constructor, each entry holds `K` calls' worth,
  where `K` is the number of steps of the last epoch on rank 0 and of all epochs on every other
  rank. First-batch mode runs a whole epoch, not one step.
* `train_ok_iff`: the run succeeds exactly when `num_epochs_to_run ≥ 0` and it makes no call at
  all or the rank's connections stay in `[0, n)`.
* `ring_epoch_traffic`: in a ring topology the matrix rank 0 prints after each epoch is zero but
  at `[0][1 mod n]`: each process records only what it sends.
* `updateTrafficMatrix_traffic`: the topology's own accounting, which nothing calls, would count
  each connection both ways. -/

namespace Gloo.Example

/-! ## The training loop -/

/-- `ConfigParser::TrainingConfig`, without `learning_rate`, which only the metrics file reads. -/
structure TrainingConfig where
  numEpochs : Int
  stepsPerEpoch : Int
  runFirstBatch : Bool

/-- `num_epochs_to_run`: one epoch in first-batch mode, else `num_epochs`. -/
def TrainingConfig.numEpochsToRun (config : TrainingConfig) : Int :=
  if config.runFirstBatch then 1 else config.numEpochs

/-- The reset at the start of an epoch on rank 0: `traffic_matrix_[i][j] = 0` for every
    `i, j < size_`. -/
def resetTraffic (size : Int) (m : List (List Nat)) : List (List Nat) :=
  m.mapIdx fun i row =>
    if (i : Int) < size then row.mapIdx fun j x => if (j : Int) < size then 0 else x else row

/-- The steps of an epoch: `model_->trainStep()`, which changes no member modelled here, then
    `synchronizeParameters()`, `steps` times. -/
def DistributedTrainer.runSteps : Nat → DistributedTrainer → Except String DistributedTrainer
  | 0, tr => pure tr
  | steps + 1, tr => do runSteps steps (← tr.synchronizeParameters)

/-- One epoch: rank 0 resets its traffic, then the steps run. -/
def DistributedTrainer.runEpoch (steps : Int) (tr : DistributedTrainer) :
    Except String DistributedTrainer :=
  (if tr.rank = 0 then { tr with trafficMatrix := resetTraffic tr.size tr.trafficMatrix }
    else tr).runSteps steps.toNat

/-- The loop over the epochs. -/
def DistributedTrainer.runEpochs (steps : Int) :
    Nat → DistributedTrainer → Except String DistributedTrainer
  | 0, tr => pure tr
  | epochs + 1, tr => do runEpochs steps epochs (← tr.runEpoch steps)

/-- `DistributedTrainer::train`, as far as it changes the members modelled here. Its
    `epoch_times_.resize(num_epochs_to_run)` throws `std::length_error` (libstdc++'s message) for
    a negative count, before any epoch; the timings and the metrics output are left out. -/
def DistributedTrainer.train (config : TrainingConfig) (tr : DistributedTrainer) :
    Except String DistributedTrainer :=
  if config.numEpochsToRun < 0 then .error "vector::_M_default_append"
  else tr.runEpochs config.stepsPerEpoch config.numEpochsToRun.toNat

/-! ## The traffic matrix -/

/-- `traffic_matrix_[i][j]`, or `0` outside the matrix. -/
def trafficAt (m : List (List Nat)) (i j : Nat) : Nat := (m.getD i []).getD j 0

/-- Every entry is a `size_t` value. -/
def SizeT (m : List (List Nat)) : Prop := ∀ row ∈ m, ∀ x ∈ row, x < 2 ^ 64

/-- How many of `conns` go from node `i` to node `j`. -/
def countBetween (conns : List Connection) (i j : Nat) : Nat :=
  conns.countP fun conn => conn.src = (i : Int) ∧ conn.dst = (j : Int)

theorem getD_set {α : Type} {l : List α} {k : Nat} (hk : k < l.length) (a : α) (i : Nat)
    (d : α) : (l.set k a).getD i d = if k = i then a else l.getD i d := by
  simp only [List.getD_eq_getElem?_getD, List.getElem?_set, hk, if_true]
  split <;> rfl

section Matrix

variable {n : Nat} {m m' : List (List Nat)}

theorem square_zero (n : Nat) : Square n (List.replicate n (List.replicate n 0)) :=
  ⟨List.length_replicate _ _, fun row hrow => by
    rw [List.eq_of_mem_replicate hrow, List.length_replicate]⟩

theorem sizeT_zero (n : Nat) : SizeT (List.replicate n (List.replicate n 0)) :=
  fun row hrow x hx => by
    rw [List.eq_of_mem_replicate hrow] at hx
    rw [List.eq_of_mem_replicate hx]
    exact Nat.two_pow_pos 64

@[simp] theorem trafficAt_zero (n i j : Nat) :
    trafficAt (List.replicate n (List.replicate n 0)) i j = 0 := by
  simp only [trafficAt, List.getD_eq_getElem?_getD, List.getElem?_replicate]
  split_ifs <;>
    simp only [Option.getD_some, Option.getD_none, List.getElem?_replicate, List.getElem?_nil]
  split_ifs <;> rfl

theorem trafficAt_lt (hb : SizeT m) (i j : Nat) : trafficAt m i j < 2 ^ 64 := by
  unfold trafficAt
  by_cases hi : i < m.length
  · rw [List.getD_eq_getElem _ _ hi]
    by_cases hj : j < m[i].length
    · rw [List.getD_eq_getElem _ _ hj]
      exact hb _ (List.getElem_mem _) _ (List.getElem_mem _)
    · rw [List.getD_eq_default _ _ (Nat.le_of_not_lt hj)]
      exact Nat.two_pow_pos 64
  · rw [List.getD_eq_default _ _ (Nat.le_of_not_lt hi), List.getD_nil]
    exact Nat.two_pow_pos 64

/-- Rank 0's reset turns an `n × n` matrix into the zero matrix. -/
theorem resetTraffic_eq (hm : Square n m) :
    resetTraffic n m = List.replicate n (List.replicate n 0) := by
  unfold resetTraffic
  refine List.ext_getElem (by rw [List.length_mapIdx, hm.1, List.length_replicate])
    fun i hi _ => ?_
  have hi' : i < n := by rwa [List.length_mapIdx, hm.1] at hi
  have hrow := hm.2 _ (List.getElem_mem (hm.1 ▸ hi' : i < m.length))
  rw [List.getElem_mapIdx, if_pos (Int.ofNat_lt.2 hi'), List.getElem_replicate]
  refine List.ext_getElem (by rw [List.length_mapIdx, hrow, List.length_replicate])
    fun j hj _ => ?_
  rw [List.length_mapIdx, hrow] at hj
  rw [List.getElem_mapIdx, if_pos (Int.ofNat_lt.2 hj), List.getElem_replicate]

/-- One addition: the entry of the connection grows by its data size modulo `2^64`, and no
    other entry changes. -/
theorem trafficAt_addTraffic {conn : Connection} (h : addTraffic m conn = .ok m') (i j : Nat) :
    trafficAt m' i j = if conn.src = i ∧ conn.dst = j
      then (trafficAt m i j + conn.dataSize) % 2 ^ 64 else trafficAt m i j := by
  unfold addTraffic at h
  split at h
  · dsimp only at h
    split at h
    · cases h
      rename_i hs hd
      unfold trafficAt
      rw [getD_set (by omega)]
      by_cases hi : conn.src = i
      · rw [if_pos (by omega), getD_set (by omega)]
        by_cases hj : conn.dst = j
        · rw [if_pos (by omega), if_pos ⟨hi, hj⟩, show conn.src.toNat = i by omega,
            show conn.dst.toNat = j by omega]
        · rw [if_neg (by omega), if_neg fun h => hj h.2, show conn.src.toNat = i by omega]
      · rw [if_neg (by omega), if_neg fun h => hi h.1]
    · cases h
  · cases h

/-- An addition keeps every entry a `size_t` value. -/
theorem addTraffic_sizeT (hb : SizeT m) {conn : Connection} (h : addTraffic m conn = .ok m') :
    SizeT m' := by
  unfold addTraffic at h
  split at h
  · dsimp only at h
    split at h
    · cases h
      rename_i hs _
      have hrow : m.getD conn.src.toNat [] ∈ m := by
        rw [List.getD_eq_getElem _ _ (by omega)]
        exact List.getElem_mem _
      intro row hr x hx
      rcases List.mem_or_eq_of_mem_set hr with hr | rfl
      · exact hb row hr x hx
      rcases List.mem_or_eq_of_mem_set hx with hx | rfl
      · exact hb _ hrow x hx
      · exact Nat.mod_lt _ (Nat.two_pow_pos 64)
    · cases h
  · cases h

/-- A phase over connections that stay in `[0, n)`: each entry grows by the data size once per
    connection between its nodes, modulo `2^64`. -/
theorem foldlM_addTraffic_traffic (conns : List Connection) (d : Nat) (hm : Square n m)
    (hb : SizeT m) (hw : ∀ conn ∈ conns, conn.Within n) :
    ∃ m', (assignDataSize conns d).foldlM addTraffic m = .ok m' ∧ Square n m' ∧ SizeT m' ∧
      ∀ i j, trafficAt m' i j = (trafficAt m i j + countBetween conns i j * d) % 2 ^ 64 := by
  induction conns generalizing m with
  | nil =>
    refine ⟨m, rfl, hm, hb, fun i j => ?_⟩
    rw [countBetween, List.countP_nil, Nat.zero_mul, Nat.add_zero,
      Nat.mod_eq_of_lt (trafficAt_lt hb i j)]
  | cons conn conns ih =>
    obtain ⟨m₁, h₁⟩ := (addTraffic_ok_iff hm { conn with dataSize := d }).2
      (hw conn (List.mem_cons_self _ _))
    obtain ⟨m', h', hm', hb', ht⟩ := ih (addTraffic_square hm h₁) (addTraffic_sizeT hb h₁)
      fun c hc => hw c (List.mem_cons_of_mem _ hc)
    refine ⟨m', bind_eq_ok.2 ⟨m₁, h₁, h'⟩, hm', hb', fun i j => ?_⟩
    rw [ht, trafficAt_addTraffic h₁]
    simp only [countBetween, List.countP_cons, decide_eq_true_eq]
    split_ifs
    · rw [Nat.mod_add_mod, Nat.add_assoc, Nat.add_mul, Nat.one_mul, Nat.add_comm d]
    · rw [Nat.add_zero]

end Matrix

/-! ## One step -/

/-- What every trainer the constructor builds keeps through a training run: its rank is a node,
    its size is the node count, and `traffic_matrix_` is an `n × n` matrix of `size_t` values. -/
structure DistributedTrainer.Inv (tr : DistributedTrainer) : Prop where
  rank_mem : 0 ≤ tr.rank ∧ tr.rank < tr.topology.config.numNodes
  size_eq : tr.size = tr.topology.config.numNodes
  square : Square tr.topology.config.numNodes.toNat tr.trafficMatrix
  sizeT : SizeT tr.trafficMatrix

/-- The constructor establishes the invariant, with the zero matrix. -/
theorem DistributedTrainer.inv_create {rank size : Int} {config : TopologyConfig}
    {parameterSize : Nat} {tr : DistributedTrainer}
    (h : DistributedTrainer.create rank size config parameterSize = .ok tr) :
    tr.Inv ∧ tr.trafficMatrix
      = List.replicate tr.topology.config.numNodes.toNat
          (List.replicate tr.topology.config.numNodes.toNat 0) := by
  unfold DistributedTrainer.create at h
  split at h
  · cases h
  split at h
  · cases h
  rename_i hrank hsize
  obtain ⟨topo, htopo, ⟨⟩⟩ := bind_eq_ok.1 h
  have hn : topo.config.numNodes = size := (Topology.create_config htopo).symm ▸ not_not.1 hsize
  refine ⟨⟨?_, hn.symm, ?_, sizeT_zero _⟩, ?_⟩ <;> dsimp only <;> rw [hn]
  · omega
  · exact square_zero _

/-- A matrix of the same shape keeps the invariant. -/
theorem DistributedTrainer.Inv.withTraffic {tr : DistributedTrainer} (hi : tr.Inv)
    {m : List (List Nat)} (hm : Square tr.topology.config.numNodes.toNat m) (hb : SizeT m) :
    ({ tr with trafficMatrix := m } : DistributedTrainer).Inv :=
  ⟨hi.rank_mem, hi.size_eq, hm, hb⟩

theorem Topology.toNat_numNodes (topo : Topology) :
    ((topo.config.numNodes.toNat : Nat) : Int) = topo.config.numNodes :=
  Int.toNat_of_nonneg topo.valid.numNodes_pos.le

/-- Rank 0's reset leaves the zero matrix. -/
theorem DistributedTrainer.Inv.reset {tr : DistributedTrainer} (hi : tr.Inv) :
    resetTraffic tr.size tr.trafficMatrix
      = List.replicate tr.topology.config.numNodes.toNat
          (List.replicate tr.topology.config.numNodes.toNat 0) := by
  rw [hi.size_eq, ← tr.topology.toNat_numNodes]
  exact resetTraffic_eq hi.square

/-- What one call of `synchronizeParameters` adds at `traffic_matrix_[i][j]`: the data size of
    a ring, twice (reduce-scatter and all-gather) per connection from `i` to `j`. -/
def syncTraffic (tr : DistributedTrainer) (conns : List Connection) (i j : Nat) : Nat :=
  2 * countBetween conns i j * dataSizePerRing tr.topology.getNumRings tr.parameterSize

section Step

variable {tr : DistributedTrainer} {conns : List Connection}

/-- **One call of `synchronizeParameters`.** For a trainer that keeps the invariant and a rank
    whose connections stay in `[0, n)`, the call succeeds, changes only `traffic_matrix_`, keeps
    the invariant, and adds `2 c ⌊4P / num_rings⌋` modulo `2^64` at each entry, where `c` is the
    number of the rank's connections between the entry's nodes. -/
theorem synchronizeParameters_traffic (hi : tr.Inv)
    (hc : tr.topology.getReduceScatterConnections tr.rank = .ok conns)
    (hw : ∀ conn ∈ conns, conn.Within tr.topology.config.numNodes) :
    ∃ m, tr.synchronizeParameters = .ok { tr with trafficMatrix := m } ∧
      ({ tr with trafficMatrix := m } : DistributedTrainer).Inv ∧
      ∀ i j, trafficAt m i j
        = (trafficAt tr.trafficMatrix i j + syncTraffic tr conns i j) % 2 ^ 64 := by
  have hw' : ∀ conn ∈ conns, conn.Within tr.topology.config.numNodes.toNat :=
    tr.topology.toNat_numNodes ▸ hw
  obtain ⟨m₁, h₁, hm₁, hb₁, ht₁⟩ :=
    foldlM_addTraffic_traffic conns (dataSizePerRing tr.topology.getNumRings tr.parameterSize)
      hi.square hi.sizeT hw'
  obtain ⟨m₂, h₂, hm₂, hb₂, ht₂⟩ := foldlM_addTraffic_traffic conns _ hm₁ hb₁ hw'
  refine ⟨m₂, bind_eq_ok.2 ⟨conns, hc, bind_eq_ok.2 ⟨m₁, h₁, bind_eq_ok.2 ⟨conns, hc,
    bind_eq_ok.2 ⟨m₂, h₂, rfl⟩⟩⟩⟩, hi.withTraffic hm₂ hb₂, fun i j => ?_⟩
  rw [ht₂, ht₁, Nat.mod_add_mod, Nat.add_assoc, syncTraffic, Nat.mul_assoc, Nat.two_mul]

/-- A rank whose connections leave `[0, n)`, or are undefined, makes `synchronizeParameters`
    fail. -/
theorem synchronizeParameters_error (hi : tr.Inv)
    (hbad : ¬ tr.topology.ConnectionsWithin tr.rank) (tr' : DistributedTrainer) :
    tr.synchronizeParameters ≠ .ok tr' := by
  intro h
  obtain ⟨conns, hc, h⟩ := bind_eq_ok.1 h
  obtain ⟨m₁, h₁, -⟩ := bind_eq_ok.1 h
  refine hbad ⟨conns, hc, fun conn hconn => ?_⟩
  have hw := (within_assignDataSize _).1 ((foldlM_addTraffic_ok_iff _ hi.square).1 ⟨m₁, h₁⟩)
    conn hconn
  exact tr.topology.toNat_numNodes ▸ hw

end Step

/-! ## Whole runs -/

section Run

variable {tr : DistributedTrainer} {conns : List Connection}

/-- `steps` calls in a row: each entry grows by `steps` calls' worth. -/
theorem runSteps_traffic (hc : tr.topology.getReduceScatterConnections tr.rank = .ok conns)
    (hw : ∀ conn ∈ conns, conn.Within tr.topology.config.numNodes) :
    ∀ (steps : Nat) (m : List (List Nat)),
      ({ tr with trafficMatrix := m } : DistributedTrainer).Inv →
      ∃ m', ({ tr with trafficMatrix := m } : DistributedTrainer).runSteps steps
          = .ok { tr with trafficMatrix := m' } ∧
        ({ tr with trafficMatrix := m' } : DistributedTrainer).Inv ∧
        ∀ i j, trafficAt m' i j = (trafficAt m i j + steps * syncTraffic tr conns i j) % 2 ^ 64
  | 0, m, hi => ⟨m, rfl, hi, fun i j => by
      rw [Nat.zero_mul, Nat.add_zero, Nat.mod_eq_of_lt (trafficAt_lt hi.sizeT i j)]⟩
  | steps + 1, m, hi => by
    obtain ⟨m₁, h₁, hi₁, ht₁⟩ := synchronizeParameters_traffic hi hc hw
    obtain ⟨m', h', hi', ht'⟩ := runSteps_traffic hc hw steps m₁ hi₁
    refine ⟨m', bind_eq_ok.2 ⟨_, h₁, h'⟩, hi', fun i j => ?_⟩
    rw [ht', ht₁, Nat.mod_add_mod, Nat.add_assoc, Nat.succ_mul,
      Nat.add_comm _ (syncTraffic _ _ _ _)]
    rfl

/-- One epoch: rank 0 starts from the zero matrix, every other rank from its own. -/
theorem runEpoch_traffic (hc : tr.topology.getReduceScatterConnections tr.rank = .ok conns)
    (hw : ∀ conn ∈ conns, conn.Within tr.topology.config.numNodes) (steps : Int)
    (m : List (List Nat)) (hi : ({ tr with trafficMatrix := m } : DistributedTrainer).Inv) :
    ∃ m', ({ tr with trafficMatrix := m } : DistributedTrainer).runEpoch steps
        = .ok { tr with trafficMatrix := m' } ∧
      ({ tr with trafficMatrix := m' } : DistributedTrainer).Inv ∧
      ∀ i j, trafficAt m' i j = ((if tr.rank = 0 then 0 else trafficAt m i j)
        + steps.toNat * syncTraffic tr conns i j) % 2 ^ 64 := by
  unfold DistributedTrainer.runEpoch
  dsimp only
  split
  · rw [show resetTraffic tr.size m = _ from hi.reset]
    obtain ⟨m', h', hi', ht'⟩ := runSteps_traffic hc hw steps.toNat _
      (hi.withTraffic (square_zero _) (sizeT_zero _))
    exact ⟨m', h', hi', fun i j => by rw [ht', trafficAt_zero]⟩
  · obtain ⟨m', h', hi', ht'⟩ := runSteps_traffic hc hw steps.toNat m hi
    exact ⟨m', h', hi', fun i j => ht' i j⟩

/-- Whole epochs: rank 0 ends with the last epoch's traffic, every other rank with the sum over
    all of them. -/
theorem runEpochs_traffic (hc : tr.topology.getReduceScatterConnections tr.rank = .ok conns)
    (hw : ∀ conn ∈ conns, conn.Within tr.topology.config.numNodes) (steps : Int) :
    ∀ (epochs : Nat) (m : List (List Nat)),
      ({ tr with trafficMatrix := m } : DistributedTrainer).Inv →
      ∃ m', ({ tr with trafficMatrix := m } : DistributedTrainer).runEpochs steps epochs
          = .ok { tr with trafficMatrix := m' } ∧
        ({ tr with trafficMatrix := m' } : DistributedTrainer).Inv ∧
        ∀ i j, trafficAt m' i j = if tr.rank = 0 ∧ 0 < epochs
          then steps.toNat * syncTraffic tr conns i j % 2 ^ 64
          else (trafficAt m i j + epochs * steps.toNat * syncTraffic tr conns i j) % 2 ^ 64
  | 0, m, hi => ⟨m, rfl, hi, fun i j => by
      rw [if_neg fun h => Nat.lt_irrefl 0 h.2, Nat.zero_mul, Nat.zero_mul, Nat.add_zero,
        Nat.mod_eq_of_lt (trafficAt_lt hi.sizeT i j)]⟩
  | epochs + 1, m, hi => by
    obtain ⟨m₁, h₁, hi₁, ht₁⟩ := runEpoch_traffic hc hw steps m hi
    obtain ⟨m', h', hi', ht'⟩ := runEpochs_traffic hc hw steps epochs m₁ hi₁
    refine ⟨m', bind_eq_ok.2 ⟨_, h₁, h'⟩, hi', fun i j => ?_⟩
    rw [ht', ht₁]
    by_cases hr : tr.rank = 0
    · simp only [hr, true_and, if_true, Nat.succ_pos, Nat.zero_add]
      rcases Nat.eq_zero_or_pos epochs with rfl | he
      · simp only [Nat.lt_irrefl, if_false, Nat.zero_mul, Nat.add_zero, Nat.mod_mod]
      · rw [if_pos he]
    · simp only [hr, false_and, if_false]
      rw [Nat.mod_add_mod, Nat.add_assoc]
      congr 2
      ring

end Run

/-! ## Training -/

/-- **The traffic of a training run.** A trainer the constructor built, whose rank's connections
    stay in `[0, n)`, trains without error for every `num_epochs_to_run ≥ 0`. It ends with
    `traffic_matrix_[i][j]` equal to `K` calls' worth modulo `2^64`: `K` is `steps_per_epoch` on
    rank 0, which resets its matrix at each epoch (none if there is no epoch), and
    `num_epochs_to_run × steps_per_epoch` on every other rank. Nothing else in the trainer
    changes. -/
theorem train_traffic {rank size : Int} {config : TopologyConfig} {parameterSize : Nat}
    {tr : DistributedTrainer}
    (h : DistributedTrainer.create rank size config parameterSize = .ok tr)
    (trainingConfig : TrainingConfig) (hepochs : 0 ≤ trainingConfig.numEpochsToRun)
    {conns : List Connection} (hc : tr.topology.getReduceScatterConnections tr.rank = .ok conns)
    (hw : ∀ conn ∈ conns, conn.Within tr.topology.config.numNodes) :
    ∃ m, tr.train trainingConfig = .ok { tr with trafficMatrix := m } ∧
      ∀ i j, trafficAt m i j
        = (if rank = 0 then min trainingConfig.numEpochsToRun.toNat 1
            else trainingConfig.numEpochsToRun.toNat)
          * trainingConfig.stepsPerEpoch.toNat * syncTraffic tr conns i j % 2 ^ 64 := by
  obtain ⟨hi, hzero⟩ := DistributedTrainer.inv_create h
  have hrank : tr.rank = rank := (DistributedTrainer.create_eq_ok h).1
  obtain ⟨m, hrun, -, ht⟩ :=
    runEpochs_traffic hc hw trainingConfig.stepsPerEpoch trainingConfig.numEpochsToRun.toNat
      tr.trafficMatrix hi
  refine ⟨m, by rw [DistributedTrainer.train, if_neg (Int.not_lt.2 hepochs)]; exact hrun,
    fun i j => ?_⟩
  rw [ht, hzero, trafficAt_zero, Nat.zero_add, ← hrank]
  by_cases hr : tr.rank = 0
  · simp only [hr, true_and, if_true]
    rcases Nat.eq_zero_or_pos trainingConfig.numEpochsToRun.toNat with he | he
    · simp only [he, Nat.lt_irrefl, if_false, Nat.zero_min, Nat.zero_mul]
    · rw [if_pos he, Nat.min_eq_right he, Nat.one_mul]
  · simp only [hr, false_and, if_false]

theorem train_traffic_at :
    ∃ tr conns, DistributedTrainer.create 2 4 ⟨"ring", 4, [0, 1, 3]⟩ 1000 = .ok tr ∧
      0 ≤ (⟨2, 3, false⟩ : TrainingConfig).numEpochsToRun ∧
      tr.topology.getReduceScatterConnections tr.rank = .ok conns ∧
      (∀ conn ∈ conns, conn.Within tr.topology.config.numNodes) ∧
      ∃ m, tr.train ⟨2, 3, false⟩ = .ok { tr with trafficMatrix := m } ∧
        ∀ i j, trafficAt m i j
          = (if (2 : Int) = 0 then min (⟨2, 3, false⟩ : TrainingConfig).numEpochsToRun.toNat 1
              else (⟨2, 3, false⟩ : TrainingConfig).numEpochsToRun.toNat)
            * (⟨2, 3, false⟩ : TrainingConfig).stepsPerEpoch.toNat * syncTraffic tr conns i j
            % 2 ^ 64 :=
  ⟨_, _, rfl, by decide, rfl, by decide,
    @train_traffic 2 4 ⟨"ring", 4, [0, 1, 3]⟩ 1000 _ rfl ⟨2, 3, false⟩ (by decide) _ rfl
      (by decide)⟩

/-! ## When a run fails -/

section Failure

variable {tr : DistributedTrainer}

/-- With no step per epoch, every epoch succeeds. -/
theorem runEpochs_of_noSteps {steps : Int} (hs : steps.toNat = 0) :
    ∀ (epochs : Nat) (tr : DistributedTrainer), ∃ tr', tr.runEpochs steps epochs = .ok tr'
  | 0, tr => ⟨tr, rfl⟩
  | epochs + 1, tr => by
    obtain ⟨tr', h'⟩ := runEpochs_of_noSteps hs epochs
      (if tr.rank = 0 then { tr with trafficMatrix := resetTraffic tr.size tr.trafficMatrix }
        else tr)
    refine ⟨tr', bind_eq_ok.2 ⟨_, ?_, h'⟩⟩
    rw [DistributedTrainer.runEpoch, hs]
    rfl

/-- A rank whose connections leave `[0, n)` fails at its first step. -/
theorem runSteps_error (hi : tr.Inv) (hbad : ¬ tr.topology.ConnectionsWithin tr.rank)
    (steps : Nat) (tr' : DistributedTrainer) : tr.runSteps (steps + 1) ≠ .ok tr' := fun h => by
  obtain ⟨tr₁, h₁, -⟩ := bind_eq_ok.1 h
  exact synchronizeParameters_error hi hbad tr₁ h₁

/-- ... and so does its first epoch with a step. -/
theorem runEpochs_error (hi : tr.Inv) (hbad : ¬ tr.topology.ConnectionsWithin tr.rank)
    {steps : Int} (hs : 0 < steps.toNat) (epochs : Nat) (tr' : DistributedTrainer) :
    tr.runEpochs steps (epochs + 1) ≠ .ok tr' := fun h => by
  obtain ⟨tr₁, h₁, -⟩ := bind_eq_ok.1 h
  obtain ⟨k, hk⟩ := Nat.exists_eq_succ_of_ne_zero (Nat.pos_iff_ne_zero.1 hs)
  unfold DistributedTrainer.runEpoch at h₁
  rw [hk] at h₁
  split at h₁
  · rw [hi.reset] at h₁
    exact runSteps_error (hi.withTraffic (square_zero _) (sizeT_zero _)) hbad k tr₁ h₁
  · exact runSteps_error hi hbad k tr₁ h₁

end Failure

/-- **When a training run succeeds.** For a trainer its constructor accepted, `train` returns
    exactly when `num_epochs_to_run ≥ 0` and either the run makes no call of
    `synchronizeParameters` (no epoch, or no step per epoch) or the rank's connections are defined
    and stay in `[0, n)`. -/
theorem train_ok_iff {rank size : Int} {config : TopologyConfig} {parameterSize : Nat}
    {tr : DistributedTrainer}
    (h : DistributedTrainer.create rank size config parameterSize = .ok tr)
    (trainingConfig : TrainingConfig) :
    (∃ tr', tr.train trainingConfig = .ok tr') ↔
      0 ≤ trainingConfig.numEpochsToRun ∧
        (trainingConfig.numEpochsToRun.toNat * trainingConfig.stepsPerEpoch.toNat = 0 ∨
          tr.topology.ConnectionsWithin tr.rank) := by
  have hi := (DistributedTrainer.inv_create h).1
  unfold DistributedTrainer.train
  constructor
  · rintro ⟨tr', h'⟩
    split at h'
    · cases h'
    rename_i hepochs
    refine ⟨Int.not_lt.1 hepochs, Decidable.or_iff_not_imp_left.2 fun hcalls => ?_⟩
    refine Classical.by_contradiction fun hbad => ?_
    obtain ⟨e, he⟩ := Nat.exists_eq_succ_of_ne_zero (left_ne_zero_of_mul hcalls)
    rw [he] at h'
    exact runEpochs_error hi hbad (Nat.pos_of_ne_zero (right_ne_zero_of_mul hcalls)) e tr' h'
  · rintro ⟨hepochs, hcalls | ⟨conns, hc, hw⟩⟩
    · rw [if_neg (Int.not_lt.2 hepochs)]
      rcases Nat.mul_eq_zero.1 hcalls with he | hs
      · rw [he]
        exact ⟨tr, rfl⟩
      · exact runEpochs_of_noSteps hs _ tr
    · obtain ⟨m, hrun, -⟩ := runEpochs_traffic hc hw trainingConfig.stepsPerEpoch
        trainingConfig.numEpochsToRun.toNat tr.trafficMatrix hi
      rw [if_neg (Int.not_lt.2 hepochs)]
      exact ⟨_, hrun⟩

theorem train_ok_iff_at :
    ∃ tr, DistributedTrainer.create 4 5 ⟨"hierarchical", 5, [0]⟩ 1000 = .ok tr ∧
      ((∃ tr', tr.train ⟨1, 1, false⟩ = .ok tr') ↔
        0 ≤ (⟨1, 1, false⟩ : TrainingConfig).numEpochsToRun ∧
          ((⟨1, 1, false⟩ : TrainingConfig).numEpochsToRun.toNat
              * (⟨1, 1, false⟩ : TrainingConfig).stepsPerEpoch.toNat = 0 ∨
            tr.topology.ConnectionsWithin tr.rank)) :=
  ⟨_, rfl, @train_ok_iff 4 5 ⟨"hierarchical", 5, [0]⟩ 1000 _ rfl ⟨1, 1, false⟩⟩

/-! ## Ring topologies -/

/-- In a ring topology every connection of a rank goes to the next node: one per ring. -/
theorem countBetween_ring (rank numNodes : Int) (rings i j : Nat) :
    countBetween ((List.range rings).map fun k : Nat =>
        (⟨rank, (rank + 1) % numNodes, 0, k⟩ : Connection)) i j
      = if rank = i ∧ (rank + 1) % numNodes = j then rings else 0 := by
  unfold countBetween
  rw [List.countP_map]
  split
  · rw [List.countP_eq_length.2 fun _ _ => by simpa, List.length_range]
  · next hne =>
    exact List.countP_eq_zero.2 fun _ _ => by
      simpa only [Function.comp_apply, decide_eq_true_eq] using hne

/-- **What rank 0 logs in a ring.** In a ring topology of `n` nodes with `m` rings, every epoch
    leaves rank 0's matrix, the one it prints after the epoch, zero everywhere but at
    `[0][1 mod n]`, which holds `steps_per_epoch × 2m⌊4P/m⌋` bytes modulo `2^64`. Each process
    records only what it sends, and rank 0 sends only to node 1. -/
theorem ring_epoch_traffic {tr : DistributedTrainer} (hi : tr.Inv)
    (htype : tr.topology.config.type = "ring") (hr : tr.rank = 0) (steps : Int) :
    ∃ m, tr.runEpoch steps = .ok { tr with trafficMatrix := m } ∧
      ∀ i j, trafficAt m i j = if i = 0 ∧ (j : Int) = 1 % tr.topology.config.numNodes
        then steps.toNat * (2 * tr.topology.getNumRings
          * dataSizePerRing tr.topology.getNumRings tr.parameterSize) % 2 ^ 64
        else 0 := by
  have hc := getReduceScatterConnections_ring htype hi.rank_mem
  have hw : ∀ conn ∈ (List.range tr.topology.config.permutations.length).map fun k : Nat =>
      (⟨tr.rank, (tr.rank + 1) % tr.topology.config.numNodes, 0, k⟩ : Connection),
      conn.Within tr.topology.config.numNodes := by
    obtain ⟨conns, hc', hw⟩ := ring_connectionsWithin htype hi.rank_mem
    rw [hc] at hc'
    cases hc'
    exact hw
  have hrings : tr.topology.getNumRings = tr.topology.config.permutations.length := by
    rw [Topology.getNumRings, (initializeConnections_eq_ok.1 tr.topology.initialized).2,
      if_pos htype]
  obtain ⟨m, h, -, ht⟩ := runEpoch_traffic hc hw steps tr.trafficMatrix hi
  refine ⟨m, h, fun i j => ?_⟩
  rw [ht, if_pos hr, Nat.zero_add, syncTraffic, countBetween_ring, hr, Int.zero_add, hrings]
  by_cases hij : i = 0 ∧ (j : Int) = 1 % tr.topology.config.numNodes
  · rw [if_pos ⟨by rw [hij.1]; rfl, hij.2.symm⟩, if_pos hij]
  · rw [if_neg fun h => hij ⟨by omega, h.2.symm⟩, if_neg hij, Nat.mul_zero, Nat.zero_mul,
      Nat.mul_zero, Nat.zero_mod]

theorem ring_epoch_traffic_at :
    ∃ tr, DistributedTrainer.create 0 4 ⟨"ring", 4, [0, 1, 3]⟩ 1000 = .ok tr ∧ tr.Inv ∧
      tr.topology.config.type = "ring" ∧ tr.rank = 0 ∧
      ∃ m, tr.runEpoch 3 = .ok { tr with trafficMatrix := m } ∧
        ∀ i j, trafficAt m i j = if i = 0 ∧ (j : Int) = 1 % tr.topology.config.numNodes
          then (3 : Int).toNat * (2 * tr.topology.getNumRings
            * dataSizePerRing tr.topology.getNumRings tr.parameterSize) % 2 ^ 64
          else 0 :=
  ⟨_, rfl, (@DistributedTrainer.inv_create 0 4 ⟨"ring", 4, [0, 1, 3]⟩ 1000 _ rfl).1, rfl, rfl,
    ring_epoch_traffic (@DistributedTrainer.inv_create 0 4 ⟨"ring", 4, [0, 1, 3]⟩ 1000 _ rfl).1
      rfl rfl 3⟩

/-! ## The topology's own accounting -/

/-- `Topology::updateTrafficMatrix`, which nothing calls: for each connection,
    `traffic_matrix[conn.src][conn.dst]` and `traffic_matrix[conn.dst][conn.src]` grow by
    `data_size`, with the index checks and the `size_t` wrap of `addTraffic`. -/
def Topology.updateTrafficMatrix (m : List (List Nat)) (conns : List Connection)
    (dataSize : Nat) : Except String (List (List Nat)) :=
  conns.foldlM (fun m conn => do
    let m ← addTraffic m { conn with dataSize := dataSize }
    addTraffic m { conn with src := conn.dst, dst := conn.src, dataSize := dataSize }) m

section UpdateTrafficMatrix

variable {n : Nat} {m : List (List Nat)}

/-- **Both directions.** Over connections inside `[0, n)`, `updateTrafficMatrix` keeps an `n × n`
    matrix of `size_t` values, and each entry grows by `data_size` for every connection between
    its two nodes, either way: a symmetric matrix stays symmetric. `synchronizeParameters` counts
    each connection once, from `src` to `dst`. -/
theorem updateTrafficMatrix_traffic (conns : List Connection) (d : Nat) (hm : Square n m)
    (hb : SizeT m) (hw : ∀ conn ∈ conns, conn.Within n) :
    ∃ m', Topology.updateTrafficMatrix m conns d = .ok m' ∧ Square n m' ∧ SizeT m' ∧
      ∀ i j, trafficAt m' i j =
        (trafficAt m i j + (countBetween conns i j + countBetween conns j i) * d) % 2 ^ 64 := by
  induction conns generalizing m with
  | nil =>
    refine ⟨m, rfl, hm, hb, fun i j => ?_⟩
    simp only [countBetween, List.countP_nil, Nat.add_zero, Nat.zero_mul]
    exact (Nat.mod_eq_of_lt (trafficAt_lt hb i j)).symm
  | cons conn conns ih =>
    have hc := hw conn (List.mem_cons_self _ _)
    obtain ⟨m₁, h₁⟩ := (addTraffic_ok_iff hm { conn with dataSize := d }).2 hc
    obtain ⟨m₂, h₂⟩ := (addTraffic_ok_iff (addTraffic_square hm h₁)
      { conn with src := conn.dst, dst := conn.src, dataSize := d }).2 ⟨hc.2, hc.1⟩
    obtain ⟨m', h', hm', hb', ht⟩ := ih (addTraffic_square (addTraffic_square hm h₁) h₂)
      (addTraffic_sizeT (addTraffic_sizeT hb h₁) h₂)
      fun c hc => hw c (List.mem_cons_of_mem _ hc)
    refine ⟨m', bind_eq_ok.2 ⟨m₂, bind_eq_ok.2 ⟨m₁, h₁, h₂⟩, h'⟩, hm', hb',
      fun i j => ?_⟩
    rw [ht, trafficAt_addTraffic h₂, trafficAt_addTraffic h₁]
    simp only [countBetween, List.countP_cons, decide_eq_true_eq]
    -- the second addition is the connection read backwards: its test is the count from `j` to `i`
    split_ifs
    all_goals first
      | (exfalso; omega)
      | ((try simp only [Nat.mod_add_mod]); ring_nf)

theorem updateTrafficMatrix_traffic_at :
    Square 4 (List.replicate 4 (List.replicate 4 0)) ∧
      SizeT (List.replicate 4 (List.replicate 4 0)) ∧
      (∀ conn ∈ [(⟨0, 1, 0, 0⟩ : Connection)], conn.Within ((4 : Nat) : Int)) ∧
      ∃ m', Topology.updateTrafficMatrix (List.replicate 4 (List.replicate 4 0))
          [⟨0, 1, 0, 0⟩] 5 = .ok m' ∧ Square 4 m' ∧ SizeT m' ∧
        ∀ i j, trafficAt m' i j = (trafficAt (List.replicate 4 (List.replicate 4 0)) i j +
          (countBetween [⟨0, 1, 0, 0⟩] i j + countBetween [⟨0, 1, 0, 0⟩] j i) * 5) % 2 ^ 64 :=
  ⟨square_zero 4, sizeT_zero 4, by decide,
    updateTrafficMatrix_traffic _ 5 (square_zero 4) (sizeT_zero 4) (by decide)⟩

end UpdateTrafficMatrix

end Gloo.Example
