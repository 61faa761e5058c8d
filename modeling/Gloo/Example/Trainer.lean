import Mathlib
import Gloo.Example.Topology
import Gloo.Example.AlexNetCuda

set_option autoImplicit false

/-! # The training example's traffic accounting

`example/alexnet/alexnet_trainer.cpp`'s `DistributedTrainer` keeps an `n × n` matrix of the bytes
each rank sends to each other rank. Its constructor checks the rank against the process count and
the topology's `num_nodes` against that count. `synchronizeParameters` gives each reduce-scatter
connection of its rank `parameter_size_ * sizeof(float) / num_rings` bytes and adds them at
`traffic_matrix_[src][dst]`, then does the same for the all-gather connections.

Only the members this accounting reads are modelled: the rank, the size, the topology,
`parameter_size_` and `traffic_matrix_`. `size_t` arithmetic is `Nat` modulo `2^64`, and an index
outside the matrix is undefined behaviour, reported as an error.

* `synchronizeParameters_ok_iff`: for a trainer its constructor accepted, `synchronizeParameters`
  stays inside the matrix exactly when its rank's connections are defined and join nodes of
  `[0, n)`. `connectionsWithin_iff` says when that is the case.
* `hierarchical_writes_out_of_range`: a hierarchy of five nodes sends rank 4 to node 5, past the
  end of the matrix, and a hierarchy of one node divides by zero.
* `sum_dataSizes`: a rank's connections carry `⌊4P / num_rings⌋` bytes each, where `P` is the
  parameter count. So the remainder of the division is lost, and an upper-level rank of a
  hierarchy, with one connection for two rings, sends half the parameters. -/

namespace Gloo.Example

/-! ## The trainer -/

/-- `sizeof(float)`. -/
def sizeofFloat : Nat := 4

/-- The members of `DistributedTrainer` that `synchronizeParameters` reads or writes. -/
structure DistributedTrainer where
  rank : Int
  size : Int
  topology : Topology
  parameterSize : Nat
  trafficMatrix : List (List Nat)

/-- `DistributedTrainer`'s constructor, as far as it sets those members. The parsed topology
    configuration and the model's parameter count are its arguments. -/
def DistributedTrainer.create (rank size : Int) (topologyConfig : TopologyConfig)
    (parameterSize : Nat) : Except String DistributedTrainer :=
  if rank < 0 ∨ size ≤ 0 ∨ rank ≥ size then .error "Invalid rank or size"
  else if topologyConfig.numNodes ≠ size then
    .error "Topology num_nodes does not match process count"
  else do
    let topology ← Topology.create topologyConfig
    pure ⟨rank, size, topology, parameterSize,
      List.replicate size.toNat (List.replicate size.toNat 0)⟩

/-- `data_size_per_ring`: the parameters' bytes, divided among the rings if there are any. -/
def dataSizePerRing (numRings parameterSize : Nat) : Nat :=
  let dataSize := parameterSize * sizeofFloat % 2 ^ 64
  if numRings > 0 then dataSize / numRings else dataSize

/-- The loop that sets `conn.data_size = data_size_per_ring` for every connection of a phase. -/
def assignDataSize (conns : List Connection) (dataSize : Nat) : List Connection :=
  conns.map fun conn => { conn with dataSize := dataSize }

/-- `traffic_matrix_[conn.src][conn.dst] += conn.data_size`, where an index out of range is
    undefined behaviour. -/
def addTraffic (m : List (List Nat)) (conn : Connection) : Except String (List (List Nat)) :=
  if 0 ≤ conn.src ∧ conn.src < m.length then
    let row := m.getD conn.src.toNat []
    if 0 ≤ conn.dst ∧ conn.dst < row.length then
      pure (m.set conn.src.toNat
        (row.set conn.dst.toNat ((row.getD conn.dst.toNat 0 + conn.dataSize) % 2 ^ 64)))
    else .error "vector index out of range"
  else .error "vector index out of range"

/-- `DistributedTrainer::synchronizeParameters`: the reduce-scatter phase, then the all-gather
    phase. The overflow warning and the unused `transfer_time` change nothing. -/
def DistributedTrainer.synchronizeParameters (tr : DistributedTrainer) :
    Except String DistributedTrainer := do
  let dataSize := dataSizePerRing tr.topology.getNumRings tr.parameterSize
  let connections ← tr.topology.getReduceScatterConnections tr.rank
  let m ← (assignDataSize connections dataSize).foldlM addTraffic tr.trafficMatrix
  let connections ← tr.topology.getAllGatherConnections tr.rank
  let m ← (assignDataSize connections dataSize).foldlM addTraffic m
  pure { tr with trafficMatrix := m }

/-! ## The constructor -/

/-- An `n × n` matrix. -/
def Square (n : Nat) (m : List (List Nat)) : Prop :=
  m.length = n ∧ ∀ row ∈ m, row.length = n

/-- What a trainer built by the constructor holds: a rank of `[0, n)`, a topology of `n` nodes and
    an `n × n` traffic matrix, where `n` is the process count. -/
theorem DistributedTrainer.create_eq_ok {rank size : Int} {config : TopologyConfig}
    {parameterSize : Nat} {tr : DistributedTrainer}
    (h : DistributedTrainer.create rank size config parameterSize = .ok tr) :
    tr.rank = rank ∧ (0 ≤ tr.rank ∧ tr.rank < tr.topology.config.numNodes) ∧
      Square tr.topology.config.numNodes.toNat tr.trafficMatrix := by
  unfold DistributedTrainer.create at h
  split at h
  · cases h
  split at h
  · cases h
  rename_i hrank hsize
  obtain ⟨topo, htopo, ⟨⟩⟩ := bind_eq_ok.1 h
  dsimp only
  rw [Topology.create_config htopo, not_not.1 hsize]
  exact ⟨rfl, by omega, List.length_replicate _ _, fun row hrow => by
    rw [List.eq_of_mem_replicate hrow, List.length_replicate]⟩

/-! ## Staying inside the matrix -/

section Square

variable {n : Nat} {m : List (List Nat)}

/-- In an `n × n` matrix, the row of a node of `[0, n)` has `n` entries. -/
theorem Square.length_getD (hm : Square n m) {i : Int} (hi : 0 ≤ i ∧ i < n) :
    (m.getD i.toNat []).length = n := by
  have hlt : i.toNat < m.length := by rw [hm.1]; omega
  rw [List.getD_eq_getElem _ _ hlt]
  exact hm.2 _ (List.getElem_mem hlt)

/-- One addition succeeds exactly when the connection joins nodes of `[0, n)`. -/
theorem addTraffic_ok_iff (hm : Square n m) (conn : Connection) :
    (∃ m', addTraffic m conn = .ok m') ↔ conn.Within n := by
  unfold addTraffic Connection.Within
  rw [hm.1]
  by_cases hs : 0 ≤ conn.src ∧ conn.src < n
  · dsimp only
    rw [if_pos hs, hm.length_getD hs]
    by_cases hd : 0 ≤ conn.dst ∧ conn.dst < n
    · exact iff_of_true ⟨_, by rw [if_pos hd]; rfl⟩ ⟨hs, hd⟩
    · rw [if_neg hd]
      exact iff_of_false (fun ⟨_, h⟩ => nomatch h) fun h => hd h.2
  · rw [if_neg hs]
    exact iff_of_false (fun ⟨_, h⟩ => nomatch h) fun h => hs h.1

/-- An addition keeps the matrix `n × n`. -/
theorem addTraffic_square (hm : Square n m) {conn : Connection} {m' : List (List Nat)}
    (h : addTraffic m conn = .ok m') : Square n m' := by
  unfold addTraffic at h
  split at h
  · dsimp only at h
    split at h
    · cases h
      refine ⟨(List.length_set _ _ _).trans hm.1, fun row hrow => ?_⟩
      rcases List.mem_or_eq_of_mem_set hrow with hrow | rfl
      · exact hm.2 row hrow
      · rename_i hs _
        rw [List.length_set, hm.length_getD (by rwa [hm.1] at hs)]
    · cases h
  · cases h

/-- A phase succeeds exactly when all its connections join nodes of `[0, n)`. -/
theorem foldlM_addTraffic_ok_iff (conns : List Connection) (hm : Square n m) :
    (∃ m', conns.foldlM addTraffic m = .ok m') ↔ ∀ conn ∈ conns, conn.Within n := by
  induction conns generalizing m with
  | nil => exact iff_of_true ⟨m, rfl⟩ fun _ h => nomatch h
  | cons conn conns ih =>
    rw [List.forall_mem_cons, List.foldlM_cons, ← addTraffic_ok_iff hm conn]
    constructor
    · rintro ⟨_, h⟩
      obtain ⟨m₁, h₁, h⟩ := bind_eq_ok.1 h
      exact ⟨⟨m₁, h₁⟩, (ih (addTraffic_square hm h₁)).1 ⟨_, h⟩⟩
    · rintro ⟨⟨m₁, h₁⟩, hw⟩
      obtain ⟨_, h⟩ := (ih (addTraffic_square hm h₁)).2 hw
      exact ⟨_, bind_eq_ok.2 ⟨m₁, h₁, h⟩⟩

/-- A phase keeps the matrix `n × n`. -/
theorem foldlM_addTraffic_square (conns : List Connection) (hm : Square n m)
    {m' : List (List Nat)} (h : conns.foldlM addTraffic m = .ok m') : Square n m' := by
  induction conns generalizing m with
  | nil => cases h; exact hm
  | cons conn conns ih =>
    obtain ⟨m₁, h₁, h⟩ := bind_eq_ok.1 h
    exact ih (addTraffic_square hm h₁) h

end Square

/-- Setting the data size keeps each connection's ends. -/
theorem within_assignDataSize {n : Int} {conns : List Connection} (dataSize : Nat) :
    (∀ conn ∈ assignDataSize conns dataSize, conn.Within n) ↔ ∀ conn ∈ conns, conn.Within n :=
  List.forall_mem_map

/-- **When `synchronizeParameters` stays inside the traffic matrix.** For a trainer its constructor
    accepted, `synchronizeParameters` succeeds exactly when its rank's connections are defined and
    join nodes of `[0, n)`: then every `traffic_matrix_[src][dst]` it adds to exists. -/
theorem synchronizeParameters_ok_iff {rank size : Int} {config : TopologyConfig}
    {parameterSize : Nat} {tr : DistributedTrainer}
    (h : DistributedTrainer.create rank size config parameterSize = .ok tr) :
    (∃ tr', tr.synchronizeParameters = .ok tr') ↔ tr.topology.ConnectionsWithin tr.rank := by
  obtain ⟨-, -, hm⟩ := DistributedTrainer.create_eq_ok h
  have hn : ((tr.topology.config.numNodes.toNat : Nat) : Int) = tr.topology.config.numNodes :=
    Int.toNat_of_nonneg tr.topology.valid.numNodes_pos.le
  -- a phase from an `n × n` matrix succeeds exactly when its connections stay in `[0, n)`
  have hphase : ∀ {m} conns d, Square tr.topology.config.numNodes.toNat m →
      ((∃ m', (assignDataSize conns d).foldlM addTraffic m = .ok m') ↔
        ∀ conn ∈ conns, conn.Within tr.topology.config.numNodes) := fun conns d hm =>
    hn ▸ (foldlM_addTraffic_ok_iff _ hm).trans (within_assignDataSize d)
  unfold DistributedTrainer.synchronizeParameters Topology.ConnectionsWithin
  constructor
  · rintro ⟨_, h⟩
    obtain ⟨conns, hc, h⟩ := bind_eq_ok.1 h
    obtain ⟨m₁, h₁, -⟩ := bind_eq_ok.1 h
    exact ⟨conns, hc, (hphase conns _ hm).1 ⟨m₁, h₁⟩⟩
  · rintro ⟨conns, hc, hw⟩
    obtain ⟨m₁, h₁⟩ :=
      (hphase conns (dataSizePerRing tr.topology.getNumRings tr.parameterSize) hm).2 hw
    obtain ⟨m₂, h₂⟩ := (hphase conns _ (foldlM_addTraffic_square _ hm h₁)).2 hw
    exact ⟨_, bind_eq_ok.2 ⟨conns, hc, bind_eq_ok.2 ⟨m₁, h₁, bind_eq_ok.2 ⟨conns, hc,
      bind_eq_ok.2 ⟨m₂, h₂, rfl⟩⟩⟩⟩⟩

theorem synchronizeParameters_ok_iff_at :
    ∃ tr, DistributedTrainer.create 2 4 ⟨"ring", 4, [0, 1, 3]⟩ 1000 = .ok tr ∧
      ((∃ tr', tr.synchronizeParameters = .ok tr') ↔ tr.topology.ConnectionsWithin tr.rank) :=
  ⟨_, rfl, @synchronizeParameters_ok_iff 2 4 ⟨"ring", 4, [0, 1, 3]⟩ 1000 _ rfl⟩

/-- Five nodes in a hierarchy: rank 4 is sent to node 5, and `synchronizeParameters` indexes past
    the end of the `5 × 5` matrix. One node: `rank / level_size` divides by zero. -/
theorem hierarchical_writes_out_of_range :
    (∃ tr, DistributedTrainer.create 4 5 ⟨"hierarchical", 5, [0]⟩ 1000 = .ok tr ∧
      tr.topology.getReduceScatterConnections 4 = .ok [⟨4, 5, 0, 0⟩] ∧
      tr.synchronizeParameters = .error "vector index out of range") ∧
    (∃ tr, DistributedTrainer.create 0 1 ⟨"hierarchical", 1, [0]⟩ 1000 = .ok tr ∧
      tr.topology.getReduceScatterConnections 0 = .error "integer division by zero" ∧
      tr.synchronizeParameters = .error "integer division by zero") :=
  ⟨⟨_, rfl, rfl, rfl⟩, ⟨_, rfl, rfl, rfl⟩⟩

/-! ## How many bytes a rank sends -/

/-- A topology has a ring: one per rotation, or two in a hierarchy. -/
theorem Topology.getNumRings_pos (topo : Topology) : 0 < topo.getNumRings := by
  rw [Topology.getNumRings, (initializeConnections_eq_ok.1 topo.initialized).2]
  split
  · exact List.length_pos.2 topo.valid.permutations_ne_nil
  · exact Nat.two_pos

/-- Every connection of a phase gets the same data size. -/
theorem sum_map_dataSize_assignDataSize (conns : List Connection) (dataSize : Nat) :
    ((assignDataSize conns dataSize).map Connection.dataSize).sum = conns.length * dataSize := by
  rw [assignDataSize, List.map_map, Function.comp_def, List.map_const', List.sum_const_nat]

/-- **The bytes a rank's connections carry.** Each of them carries `⌊4P / num_rings⌋` bytes, with
    `4P` taken modulo `2^64`; a ring topology gives a rank one connection per ring, and a hierarchy
    gives it two on the first level and one above it. The all-gather phase has the same
    connections as the reduce-scatter phase. -/
theorem sum_dataSizes (topo : Topology) (rank : Int)
    (hrank : 0 ≤ rank ∧ rank < topo.config.numNodes) (parameterSize : Nat)
    (conns : List Connection) (hconns : topo.getReduceScatterConnections rank = .ok conns) :
    topo.getAllGatherConnections rank = .ok conns ∧
      ((assignDataSize conns (dataSizePerRing topo.getNumRings parameterSize)).map
          Connection.dataSize).sum
        = (if topo.config.type = "ring" then topo.getNumRings
            else if rank < topo.config.numNodes.tdiv 2 then 2 else 1)
          * (parameterSize * sizeofFloat % 2 ^ 64 / topo.getNumRings) := by
  refine ⟨hconns, ?_⟩
  rw [sum_map_dataSize_assignDataSize, length_connections hrank hconns, dataSizePerRing,
    if_pos topo.getNumRings_pos]

theorem sum_dataSizes_at :
    ∃ topo conns, Topology.create ⟨"ring", 4, [0, 1, 3]⟩ = .ok topo ∧
      (0 ≤ (2 : Int) ∧ (2 : Int) < topo.config.numNodes) ∧
      topo.getReduceScatterConnections 2 = .ok conns ∧
      topo.getAllGatherConnections 2 = .ok conns ∧
      ((assignDataSize conns (dataSizePerRing topo.getNumRings 1000)).map
          Connection.dataSize).sum = 3 * (1000 * sizeofFloat % 2 ^ 64 / 3) :=
  ⟨_, _, rfl, by decide, rfl,
    sum_dataSizes ⟨⟨"ring", 4, [0, 1, 3]⟩, 3, rfl⟩ 2 (by decide) 1000 _ rfl⟩

/-- The trainer's `parameter_size_` is `AlexNetCUDA`'s `151882` floats, `607528` bytes: three
    rings of two nodes carry `607527` of them, and the upper-level rank of a hierarchy of two
    nodes sends `303764`. -/
theorem dataSizes_drop_bytes :
    AlexNetCUDA.totalParameters * sizeofFloat = 607528 ∧
    (∃ topo conns, Topology.create ⟨"ring", 2, [0, 0, 0]⟩ = .ok topo ∧
      topo.getReduceScatterConnections 0 = .ok conns ∧
      ((assignDataSize conns (dataSizePerRing topo.getNumRings AlexNetCUDA.totalParameters)).map
          Connection.dataSize).sum = 607527) ∧
    (∃ topo conns, Topology.create ⟨"hierarchical", 2, [0]⟩ = .ok topo ∧
      topo.getReduceScatterConnections 1 = .ok conns ∧
      ((assignDataSize conns (dataSizePerRing topo.getNumRings AlexNetCUDA.totalParameters)).map
          Connection.dataSize).sum = 303764) :=
  ⟨rfl, ⟨_, _, rfl, rfl, rfl⟩, ⟨_, _, rfl, rfl, rfl⟩⟩

end Gloo.Example
