import Mathlib

set_option autoImplicit false

/-! # The training example's topology

`example/alexnet/topology.h` lays out the connections a rank of the AlexNet trainer uses to
reduce-scatter and all-gather its parameters. A `"ring"` topology has one ring per entry of the
configuration's `permutations`: the nodes `0, …, n-1` rotated left by that entry with
`std::rotate`, where a rank connects to the node after it. A `"hierarchical"` topology cuts the
nodes into levels of `num_nodes / 2`, with a ring inside each level and a link from each node of
the first level to the node above it.

The C++ `int` arithmetic is `Int` with truncating division (`Int.tdiv`, `Int.tmod`). A division
by zero, a `std::rotate` past the end and a vector index out of range are undefined behaviour,
which the functions report as errors. On the configurations the constructor accepts, no value
they compute exceeds `num_nodes`, so none leaves `int`.

* `ring_connections`: in a ring topology, rank `r`'s connection in ring `j` goes to `(r + 1) mod n`
  whatever the rotation. Finding `r` in the rotated order and stepping one further undoes the
  rotation, so every ring is the cycle `0 → 1 → … → n-1 → 0`.
* `length_connections`: a rank has one connection per ring in a ring topology, and in a hierarchy
  two on the first level and one above it.
* `connectionsWithin_iff`: every rank's connections are defined and join nodes of `[0, n)`
  exactly when the topology is a ring, or `n` is even, or `n = 3`. A hierarchy of one node divides
  by zero, and one of an odd `n ≥ 5` sends rank `n - 1` to node `n`. -/

namespace Gloo.Example

/-! ## Configuration and construction -/

/-- `ConfigParser::TopologyConfig`: the kind of topology, `num_nodes`, and the rotations of the
    rings (`permutations`). -/
structure TopologyConfig where
  type : String
  numNodes : Int
  permutations : List Int
  deriving DecidableEq, Repr

/-- `Topology::initializeConnections`: the checks of the configuration in the source's order,
    each throwing `std::runtime_error`, then `num_rings_`. The last branch is the hierarchical
    one, since the first check rules out every other type. -/
def initializeConnections (config : TopologyConfig) : Except String Nat :=
  if config.type ≠ "ring" ∧ config.type ≠ "hierarchical" then
    .error ("Unsupported topology type: " ++ config.type)
  else if config.numNodes ≤ 0 then .error "Number of nodes must be positive"
  else if config.permutations.isEmpty then .error "At least one permutation must be specified"
  else if config.permutations.any fun rotation => rotation < 0 || rotation ≥ config.numNodes then
    .error "Permutation rotations must be between 0 and num_nodes-1"
  else if config.type = "ring" then
    .ok (if config.permutations.isEmpty then 1 else config.permutations.length)
  else .ok 2

/-- What the constructor checks. -/
structure TopologyConfig.Valid (config : TopologyConfig) : Prop where
  type : config.type = "ring" ∨ config.type = "hierarchical"
  numNodes_pos : 0 < config.numNodes
  permutations_ne_nil : config.permutations ≠ []
  rotation_lt : ∀ rotation ∈ config.permutations, 0 ≤ rotation ∧ rotation < config.numNodes

/-- A `Topology`: a configuration its constructor accepted, and the `num_rings_` it set. -/
structure Topology where
  config : TopologyConfig
  numRings : Nat
  initialized : initializeConnections config = .ok numRings

/-- `Topology::create`, that is the constructor, which throws what `initializeConnections`
    throws. -/
def Topology.create (config : TopologyConfig) : Except String Topology :=
  match h : initializeConnections config with
  | .ok numRings => .ok ⟨config, numRings, h⟩
  | .error e => .error e

/-- `Topology::getNumRings`. -/
def Topology.getNumRings (topo : Topology) : Nat := topo.numRings

/-- **The constructor's checks.** `initializeConnections` accepts exactly the configurations with
    a known type, a positive `num_nodes` and at least one rotation, each in `[0, num_nodes)`.
    `num_rings_` is then the number of rotations for a ring and `2` for a hierarchy. -/
theorem initializeConnections_eq_ok {config : TopologyConfig} {numRings : Nat} :
    initializeConnections config = .ok numRings ↔
      config.Valid ∧ numRings = if config.type = "ring" then config.permutations.length else 2 := by
  have hrot : (config.permutations.any fun rotation =>
      decide (rotation < 0) || decide (rotation ≥ config.numNodes)) = false ↔
      ∀ rotation ∈ config.permutations, 0 ≤ rotation ∧ rotation < config.numNodes := by
    simp only [Bool.eq_false_iff, ne_eq, List.any_eq_true, Bool.or_eq_true, decide_eq_true_eq,
      not_exists, not_and, not_or, Int.not_lt, Int.not_le]
  unfold initializeConnections
  split
  · next htype => exact iff_of_false nofun fun ⟨hv, _⟩ => hv.type.elim htype.1 htype.2
  split
  · next hn => exact iff_of_false nofun fun ⟨hv, _⟩ => absurd hv.numNodes_pos (Int.not_lt.2 hn)
  split
  · next hp =>
    exact iff_of_false nofun fun ⟨hv, _⟩ => hv.permutations_ne_nil (List.isEmpty_iff.1 hp)
  split
  · next hr =>
    exact iff_of_false nofun fun ⟨hv, _⟩ => absurd (hrot.2 hv.rotation_lt) (by rw [hr]; decide)
  rename_i htype hn hp hr
  have hv : config.Valid :=
    ⟨(Decidable.em (config.type = "ring")).imp_right fun h =>
        Decidable.by_contra fun h' => htype ⟨h, h'⟩,
      Int.not_le.1 hn, fun h => hp (List.isEmpty_iff.2 h), hrot.1 (Bool.eq_false_iff.2 hr)⟩
  split
  · next hring =>
    simp only [Bool.eq_false_iff.2 hp, Bool.false_eq_true, if_false, Except.ok.injEq, hv, true_and,
      hring, if_true]
    exact eq_comm
  · next hring =>
    simp only [Except.ok.injEq, hv, true_and, if_neg hring]
    exact eq_comm

/-- The constructor keeps the configuration it was given. -/
theorem Topology.create_config {config : TopologyConfig} {topo : Topology}
    (h : Topology.create config = .ok topo) : topo.config = config := by
  unfold Topology.create at h
  split at h
  · cases h
    rfl
  · cases h

/-- The invariant of a `Topology`: its constructor's checks. -/
theorem Topology.valid (topo : Topology) : topo.config.Valid :=
  (initializeConnections_eq_ok.1 topo.initialized).1

/-! ## Connections -/

/-- `Topology::Connection`. The topology leaves `data_size` at `0`, for the trainer to set. -/
structure Connection where
  src : Int
  dst : Int
  dataSize : Nat
  ringId : Int
  deriving DecidableEq, Repr

/-- A `do` block in `Except` succeeds exactly when its first step does and the rest does from
    that step's value. -/
theorem bind_eq_ok {ε α β : Type} {x : Except ε α} {f : α → Except ε β} {b : β} :
    x >>= f = .ok b ↔ ∃ a, x = .ok a ∧ f a = .ok b := by
  cases x with
  | error e => exact iff_of_false nofun fun ⟨_, h, _⟩ => nomatch h
  | ok a => exact ⟨fun h => ⟨a, rfl, h⟩, fun ⟨_, h, hf⟩ => by cases h; exact hf⟩

/-- `a / b` on `int`: truncating, and undefined when `b = 0`. -/
def intDiv (a b : Int) : Except String Int :=
  if b = 0 then .error "integer division by zero" else .ok (a.tdiv b)

theorem intDiv_of_ne {a b : Int} (hb : b ≠ 0) : intDiv a b = pure (a.tdiv b) := by
  simp only [intDiv, if_neg hb]; rfl

/-- `a % b` on `int`: the remainder of the truncating division, undefined when `b = 0`. -/
def intMod (a b : Int) : Except String Int :=
  if b = 0 then .error "integer modulo by zero" else .ok (a.tmod b)

theorem intMod_of_ne {a b : Int} (hb : b ≠ 0) : intMod a b = pure (a.tmod b) := by
  simp only [intMod, if_neg hb]; rfl

/-- `std::rotate(v.begin(), v.begin() + k, v.end())`: the elements from position `k` on, then
    those before it; undefined unless `0 ≤ k ≤ v.size()`. -/
def rotate (v : List Int) (k : Int) : Except String (List Int) :=
  if 0 ≤ k ∧ k ≤ v.length then .ok (v.drop k.toNat ++ v.take k.toNat)
  else .error "std::rotate middle out of range"

/-- `v[i]` on a `std::vector<int>`, undefined unless `0 ≤ i < v.size()`. -/
def vecAt (v : List Int) (i : Int) : Except String Int :=
  if h : 0 ≤ i ∧ i.toNat < v.length then .ok (v.get ⟨i.toNat, h.2⟩)
  else .error "vector index out of range"

theorem vecAt_of_lt (v : List Int) (i : Nat) (h : i < v.length) :
    vecAt v i = pure (v.get ⟨i, h⟩) := by
  simp only [vecAt, Int.toNat_ofNat, dif_pos (And.intro (Int.ofNat_nonneg i) h)]
  rfl

/-- The vector `permutation` as the loop fills it: `0, …, n-1`. -/
def nodes (n : Nat) : List Int := (List.range n).map fun i : Nat => (i : Int)

@[simp] theorem length_nodes (m : Nat) : (nodes m).length = m := by
  simp only [nodes, List.length_map, List.length_range]

theorem rotate_nodes {m r : Nat} (hr : r ≤ m) : rotate (nodes m) r = pure ((nodes m).rotate r) := by
  simp only [rotate, length_nodes, Int.ofNat_nonneg, Int.ofNat_le, hr, and_self, if_true,
    Int.toNat_ofNat, List.rotate_eq_drop_append_take ((length_nodes m).symm ▸ hr)]
  rfl

theorem getElem_rotate_nodes {m r i : Nat} (hi : i < ((nodes m).rotate r).length) :
    ((nodes m).rotate r)[i] = ((i + r) % m : Nat) := by
  simp only [List.getElem_rotate, nodes, List.getElem_map, List.getElem_range, List.length_map,
    List.length_range]

theorem indexOf_rotate_nodes {m r k : Nat} (hr : r < m) (hk : k < m) :
    ((nodes m).rotate r).indexOf (k : Int) = (k + m - r) % m := by
  have hinj : Function.Injective fun i : Nat => (i : Int) := fun _ _ h => Int.ofNat.inj h
  have hnodup : ((nodes m).rotate r).Nodup := List.nodup_rotate.2 ((List.nodup_range m).map hinj)
  have hlt : (k + m - r) % m < ((nodes m).rotate r).length := by
    rw [List.length_rotate, length_nodes]
    exact Nat.mod_lt _ (by omega)
  have helem : ((nodes m).rotate r)[(k + m - r) % m] = (k : Int) := by
    rw [getElem_rotate_nodes, Nat.mod_add_mod, Nat.sub_add_cancel (by omega), Nat.add_mod_right,
      Nat.mod_eq_of_lt hk]
  rw [← helem, List.indexOf_getElem hnodup]

/-- One pass of the ring branch's loop: the forward connection of `rank` in ring `ringId`, whose
    rotation is `rotation`. `std::find` gives the first position of `rank`, or `num_nodes` when
    it is absent. -/
def ringConnection (numNodes rank : Int) (ringId : Nat) (rotation : Int) :
    Except String Connection := do
  let permutation ← rotate (nodes numNodes.toNat) rotation
  let pos : Int := permutation.indexOf rank
  let nextPos ← intMod (pos + 1) numNodes
  let next ← vecAt permutation nextPos
  pure ⟨rank, next, 0, ringId⟩

/-- The ring branch's loop over the rotations, from ring `ringId` on. -/
def ringConnections (numNodes rank : Int) : Nat → List Int → Except String (List Connection)
  | _, [] => .ok []
  | ringId, rotation :: rotations => do
    let conn ← ringConnection numNodes rank ringId rotation
    let conns ← ringConnections numNodes rank (ringId + 1) rotations
    pure (conn :: conns)

/-- The hierarchical branch: levels of `num_nodes / 2` nodes, the next node of the rank's level,
    and for the first level the node above. -/
def hierarchicalConnections (numNodes rank : Int) : Except String (List Connection) := do
  let levelSize := numNodes.tdiv 2
  let level ← intDiv rank levelSize
  let posInLevel ← intMod rank levelSize
  let nextInLevel := level * levelSize + (← intMod (posInLevel + 1) levelSize)
  pure (⟨rank, nextInLevel, 0, 0⟩ ::
    if level < 1 then [⟨rank, (level + 1) * levelSize + posInLevel, 0, 1⟩] else [])

/-- `Topology::getReduceScatterConnections`. -/
def Topology.getReduceScatterConnections (topo : Topology) (rank : Int) :
    Except String (List Connection) :=
  if topo.config.type = "ring" then
    ringConnections topo.config.numNodes rank 0 topo.config.permutations
  else if topo.config.type = "hierarchical" then hierarchicalConnections topo.config.numNodes rank
  else .ok []

/-- `Topology::getAllGatherConnections`: the reduce-scatter connections again. -/
def Topology.getAllGatherConnections (topo : Topology) (rank : Int) :
    Except String (List Connection) :=
  topo.getReduceScatterConnections rank

/-! ## Rings -/

/-- One pass of the ring loop, for a rank and a rotation in `[0, n)`: the connection goes to
    `(rank + 1) mod n`. -/
theorem ringConnection_eq {numNodes rank rotation : Int} (ringId : Nat)
    (hrank : 0 ≤ rank ∧ rank < numNodes) (hrot : 0 ≤ rotation ∧ rotation < numNodes) :
    ringConnection numNodes rank ringId rotation
      = pure ⟨rank, (rank + 1) % numNodes, 0, ringId⟩ := by
  obtain ⟨m, rfl⟩ := Int.eq_ofNat_of_zero_le (hrank.1.trans hrank.2.le)
  obtain ⟨k, rfl⟩ := Int.eq_ofNat_of_zero_le hrank.1
  obtain ⟨r, rfl⟩ := Int.eq_ofNat_of_zero_le hrot.1
  have hk : k < m := Int.ofNat_lt.1 hrank.2
  have hr : r < m := Int.ofNat_lt.1 hrot.2
  have hnext : ((k + m - r) % m + 1) % m < ((nodes m).rotate r).length := by
    rw [List.length_rotate, length_nodes]
    exact Nat.mod_lt _ (by omega)
  have hval : (((k + m - r) % m + 1) % m + r) % m = (k + 1) % m := by
    rw [Nat.mod_add_mod, Nat.add_assoc, Nat.mod_add_mod,
      show k + m - r + (1 + r) = k + 1 + m by omega, Nat.add_mod_right]
  simp only [ringConnection, Int.toNat_ofNat, rotate_nodes hr.le, pure_bind,
    indexOf_rotate_nodes hr hk, intMod_of_ne (Int.ofNat_ne_zero.2 (by omega : m ≠ 0)),
    show ((((k + m - r) % m : Nat) : Int) + 1) = (((k + m - r) % m + 1 : Nat) : Int) from rfl,
    ← Int.ofNat_tmod, vecAt_of_lt _ _ hnext, List.get_eq_getElem, getElem_rotate_nodes, hval]
  rfl

/-- The ring loop over rotations in `[0, n)`: one connection to `(rank + 1) mod n` per rotation,
    numbered from `ringId` on. -/
theorem ringConnections_eq {numNodes rank : Int} (hrank : 0 ≤ rank ∧ rank < numNodes) :
    ∀ (ringId : Nat) (rotations : List Int),
      (∀ rotation ∈ rotations, 0 ≤ rotation ∧ rotation < numNodes) →
      ringConnections numNodes rank ringId rotations
        = pure ((List.range' ringId rotations.length).map fun j : Nat =>
            ⟨rank, (rank + 1) % numNodes, 0, j⟩)
  | _, [], _ => rfl
  | ringId, rotation :: rotations, hrot => by
    simp only [ringConnections, pure_bind,
      ringConnection_eq ringId hrank (hrot rotation (List.mem_cons_self _ _)),
      ringConnections_eq hrank (ringId + 1) rotations fun r hr =>
        hrot r (List.mem_cons_of_mem _ hr)]
    rfl

/-- The connections of a rank of a ring topology. -/
theorem getReduceScatterConnections_ring {topo : Topology} (htype : topo.config.type = "ring")
    {rank : Int} (hrank : 0 ≤ rank ∧ rank < topo.config.numNodes) :
    topo.getReduceScatterConnections rank
      = .ok ((List.range topo.config.permutations.length).map fun j : Nat =>
          ⟨rank, (rank + 1) % topo.config.numNodes, 0, j⟩) := by
  rw [Topology.getReduceScatterConnections, if_pos htype, List.range_eq_range']
  exact ringConnections_eq hrank 0 _ topo.valid.rotation_lt

/-- **Every ring is the same cycle.** In a topology of type `"ring"` over `n` nodes, the
    connections of a rank `r` in `[0, n)` are, for reduce-scatter and all-gather alike, one per
    configured rotation, in order: the `j`-th goes from `r` to `(r + 1) mod n`, in ring `j`, with
    `data_size` `0`. The rotations change nothing. -/
theorem ring_connections (topo : Topology) (htype : topo.config.type = "ring") (rank : Int)
    (hrank : 0 ≤ rank ∧ rank < topo.config.numNodes) :
    topo.getReduceScatterConnections rank
        = .ok ((List.range topo.config.permutations.length).map fun j : Nat =>
            ⟨rank, (rank + 1) % topo.config.numNodes, 0, j⟩) ∧
      topo.getAllGatherConnections rank
        = .ok ((List.range topo.config.permutations.length).map fun j : Nat =>
            ⟨rank, (rank + 1) % topo.config.numNodes, 0, j⟩) := by
  have h := getReduceScatterConnections_ring htype hrank
  exact ⟨h, h⟩

theorem ring_connections_at :
    ∃ topo, Topology.create ⟨"ring", 4, [0, 1, 3]⟩ = .ok topo ∧ topo.config.type = "ring" ∧
      (0 ≤ (2 : Int) ∧ (2 : Int) < topo.config.numNodes) ∧
      topo.getReduceScatterConnections 2
          = .ok ((List.range topo.config.permutations.length).map fun j : Nat =>
              ⟨2, (2 + 1) % topo.config.numNodes, 0, j⟩) ∧
        topo.getAllGatherConnections 2
          = .ok ((List.range topo.config.permutations.length).map fun j : Nat =>
              ⟨2, (2 + 1) % topo.config.numNodes, 0, j⟩) :=
  ⟨_, rfl, rfl, by decide, ring_connections ⟨⟨"ring", 4, [0, 1, 3]⟩, 3, rfl⟩ rfl 2 (by decide)⟩

/-! ## Hierarchies -/

/-- `num_nodes / 2` on a natural number of nodes. -/
theorem tdiv_two_ofNat (N : Nat) : (N : Int).tdiv 2 = ((N / 2 : Nat) : Int) := rfl

/-- A rank is on the first level exactly when it is below the level size. -/
theorem level_lt_one_iff {N k : Nat} (hls : N / 2 ≠ 0) :
    ((k / (N / 2) : Nat) : Int) < 1 ↔ k < N / 2 := by
  rw [show (1 : Int) = ((1 : Nat) : Int) from rfl, Int.ofNat_lt, Nat.lt_one_iff,
    Nat.div_eq_zero_iff (Nat.pos_of_ne_zero hls)]

/-- The hierarchical branch over `N` nodes when a level is not empty: the rank's level and its
    place in it, computed on naturals. -/
theorem hierarchicalConnections_eq {N k : Nat} (hls : N / 2 ≠ 0) :
    hierarchicalConnections N k
      = pure (⟨k, ((k / (N / 2) : Nat) : Int) * ((N / 2 : Nat) : Int)
            + (((k % (N / 2) + 1) % (N / 2) : Nat) : Int), 0, 0⟩ ::
          if ((k / (N / 2) : Nat) : Int) < 1 then
            [⟨k, (((k / (N / 2) : Nat) : Int) + 1) * ((N / 2 : Nat) : Int)
              + ((k % (N / 2) : Nat) : Int), 0, 1⟩]
          else []) := by
  have hne : ((N / 2 : Nat) : Int) ≠ 0 := Int.ofNat_ne_zero.2 hls
  simp only [hierarchicalConnections, tdiv_two_ofNat, intDiv_of_ne hne, intMod_of_ne hne, pure_bind,
    ← Int.ofNat_tdiv, ← Int.ofNat_tmod,
    show ((k % (N / 2) : Nat) : Int) + 1 = ((k % (N / 2) + 1 : Nat) : Int) from rfl]

/-- With fewer than two nodes the levels are empty, and `rank / level_size` divides by zero. -/
theorem hierarchicalConnections_of_levelSize {N : Nat} (hls : N / 2 = 0) (rank : Int) :
    hierarchicalConnections N rank = .error "integer division by zero" := by
  simp only [hierarchicalConnections, tdiv_two_ofNat, hls, intDiv, if_true]
  rfl

/-- A hierarchical topology runs its hierarchical branch. -/
theorem getReduceScatterConnections_hierarchical {topo : Topology}
    (htype : topo.config.type = "hierarchical") (rank : Int) :
    topo.getReduceScatterConnections rank = hierarchicalConnections topo.config.numNodes rank := by
  rw [Topology.getReduceScatterConnections, if_neg (by rw [htype]; decide), if_pos htype]

/-- **How many connections a rank has.** One per ring in a ring topology; in a hierarchy, two
    for a rank of the first level (below `num_nodes / 2`) and one above it. -/
theorem length_connections {topo : Topology} {rank : Int}
    (hrank : 0 ≤ rank ∧ rank < topo.config.numNodes) {conns : List Connection}
    (h : topo.getReduceScatterConnections rank = .ok conns) :
    conns.length = if topo.config.type = "ring" then topo.getNumRings
      else if rank < topo.config.numNodes.tdiv 2 then 2 else 1 := by
  have hrings := (initializeConnections_eq_ok.1 topo.initialized).2
  by_cases hring : topo.config.type = "ring"
  · rw [getReduceScatterConnections_ring hring hrank] at h
    cases h
    rw [if_pos hring, List.length_map, List.length_range, Topology.getNumRings, hrings,
      if_pos hring]
  have htype := topo.valid.type.resolve_left hring
  obtain ⟨N, hNeq⟩ := Int.eq_ofNat_of_zero_le topo.valid.numNodes_pos.le
  obtain ⟨k, rfl⟩ := Int.eq_ofNat_of_zero_le hrank.1
  rw [getReduceScatterConnections_hierarchical htype, hNeq] at h
  rw [if_neg hring, hNeq, tdiv_two_ofNat]
  by_cases hls : N / 2 = 0
  · rw [hierarchicalConnections_of_levelSize hls] at h
    cases h
  rw [hierarchicalConnections_eq hls] at h
  cases h
  by_cases hk : k < N / 2
  · rw [if_pos (Int.ofNat_lt.2 hk), if_pos ((level_lt_one_iff hls).2 hk)]
    rfl
  · rw [if_neg (mt Int.ofNat_lt.1 hk), if_neg (mt (level_lt_one_iff hls).1 hk)]
    rfl

/-! ## Staying inside the topology -/

/-- A connection between two nodes of `[0, n)`. -/
def Connection.Within (n : Int) (conn : Connection) : Prop :=
  (0 ≤ conn.src ∧ conn.src < n) ∧ 0 ≤ conn.dst ∧ conn.dst < n

instance (n : Int) (conn : Connection) : Decidable (conn.Within n) :=
  inferInstanceAs (Decidable (_ ∧ _))

/-- The connections of `rank` are defined, and join nodes of the topology. -/
def Topology.ConnectionsWithin (topo : Topology) (rank : Int) : Prop :=
  ∃ conns, topo.getReduceScatterConnections rank = .ok conns ∧
    ∀ conn ∈ conns, conn.Within topo.config.numNodes

/-- In a hierarchy of an even number of nodes, or of three, the next node of a level is a node. -/
theorem nextInLevel_lt {N k : Nat} (hk : k < N) (hN : N % 2 = 0 ∨ N = 3) (hls : N / 2 ≠ 0) :
    k / (N / 2) * (N / 2) + (k % (N / 2) + 1) % (N / 2) < N := by
  rcases hN with hN | rfl
  · have hq : k / (N / 2) < 2 := (Nat.div_lt_iff_lt_mul (by omega)).2 (by omega)
    have hr := Nat.mod_lt (k % (N / 2) + 1) (Nat.pos_of_ne_zero hls)
    have hmul : k / (N / 2) * (N / 2) ≤ 1 * (N / 2) := Nat.mul_le_mul_right _ (by omega)
    omega
  · simp only [show 3 / 2 = 1 from rfl, Nat.div_one, Nat.mul_one, Nat.mod_one, Nat.add_zero]
    exact hk

/-- A ring topology's connections join nodes of `[0, n)`. -/
theorem ring_connectionsWithin {topo : Topology} (htype : topo.config.type = "ring") {rank : Int}
    (hrank : 0 ≤ rank ∧ rank < topo.config.numNodes) : topo.ConnectionsWithin rank :=
  ⟨_, getReduceScatterConnections_ring htype hrank, fun conn hconn => by
    obtain ⟨j, -, rfl⟩ := List.mem_map.1 hconn
    have hn := topo.valid.numNodes_pos
    exact ⟨hrank, Int.emod_nonneg _ (by omega), Int.emod_lt_of_pos _ hn⟩⟩

/-- A hierarchy's connections join nodes of `[0, n)` when `n` is even or three. -/
theorem hierarchical_connectionsWithin {topo : Topology} (htype : topo.config.type = "hierarchical")
    (hN : topo.config.numNodes % 2 = 0 ∨ topo.config.numNodes = 3) {rank : Int}
    (hrank : 0 ≤ rank ∧ rank < topo.config.numNodes) : topo.ConnectionsWithin rank := by
  have hpos := topo.valid.numNodes_pos
  obtain ⟨N, hNeq⟩ := Int.eq_ofNat_of_zero_le hpos.le
  obtain ⟨k, rfl⟩ := Int.eq_ofNat_of_zero_le hrank.1
  rw [hNeq] at hN hrank hpos
  have hk : k < N := Int.ofNat_lt.1 hrank.2
  have hN' : N % 2 = 0 ∨ N = 3 := by omega
  have hls : N / 2 ≠ 0 := by omega
  have hc : topo.getReduceScatterConnections k = hierarchicalConnections N k := by
    rw [getReduceScatterConnections_hierarchical htype, hNeq]
  rw [hierarchicalConnections_eq hls] at hc
  refine ⟨_, hc, fun conn hconn => ?_⟩
  rw [hNeq]
  rcases List.mem_cons.1 hconn with rfl | hconn
  · have hlt := nextInLevel_lt hk hN' hls
    refine ⟨⟨Int.ofNat_nonneg k, hrank.2⟩, ?_⟩
    rw [← Int.ofNat_mul, ← Int.ofNat_add]
    exact ⟨Int.ofNat_nonneg _, Int.ofNat_lt.2 hlt⟩
  · split at hconn
    · next hq =>
      rw [List.mem_singleton] at hconn
      subst hconn
      have hq0 : k / (N / 2) = 0 := Nat.div_eq_of_lt ((level_lt_one_iff hls).1 hq)
      have hr := Nat.mod_lt k (Nat.pos_of_ne_zero hls)
      refine ⟨⟨Int.ofNat_nonneg k, hrank.2⟩, ?_⟩
      dsimp only
      rw [hq0]
      constructor <;> omega
    · cases hconn

/-- **When the connections stay in the topology.** For a topology its constructor accepted, the
    connections of every rank `r` in `[0, n)` are defined and join nodes of `[0, n)` exactly when
    the topology is a ring, or `n` is even, or `n = 3`. Otherwise it is hierarchical with one node,
    where `r / level_size` divides by zero, or with an odd `n ≥ 5`, where rank `n - 1` is sent
    to node `n`. -/
theorem connectionsWithin_iff (topo : Topology) :
    (∀ rank, 0 ≤ rank → rank < topo.config.numNodes → topo.ConnectionsWithin rank) ↔
      topo.config.type = "ring" ∨ topo.config.numNodes % 2 = 0 ∨ topo.config.numNodes = 3 := by
  constructor
  · intro h
    refine Decidable.by_contra fun hbad => ?_
    rw [not_or, not_or] at hbad
    have htype := topo.valid.type.resolve_left hbad.1
    have hpos := topo.valid.numNodes_pos
    obtain ⟨N, hNeq⟩ := Int.eq_ofNat_of_zero_le hpos.le
    rw [hNeq] at hbad hpos
    rcases (by omega : N = 1 ∨ (5 ≤ N ∧ N % 2 = 1)) with rfl | ⟨h5, hodd⟩
    · obtain ⟨conns, hc, -⟩ := h 0 le_rfl (by rw [hNeq]; decide)
      rw [getReduceScatterConnections_hierarchical htype, hNeq] at hc
      cases hc
    · obtain ⟨conns, hc, hw⟩ := h ((N - 1 : Nat) : Int) (Int.ofNat_nonneg _) (by rw [hNeq]; omega)
      rw [getReduceScatterConnections_hierarchical htype, hNeq,
        hierarchicalConnections_eq (by omega)] at hc
      have hdiv : (N - 1) / (N / 2) = 2 := by
        rw [show N - 1 = 2 * (N / 2) by omega, Nat.mul_div_cancel _ (by omega)]
      have hmod : (N - 1) % (N / 2) = 0 := by
        rw [show N - 1 = 2 * (N / 2) by omega, Nat.mul_mod_left]
      have hone : (0 + 1) % (N / 2) = 1 := Nat.mod_eq_of_lt (by omega)
      cases hc
      have hdst := (hw _ (List.mem_cons_self _ _)).2.2
      dsimp only at hdst
      rw [hdiv, hmod, hone, hNeq] at hdst
      omega
  · intro hsafe rank h0 hlt
    by_cases hring : topo.config.type = "ring"
    · exact ring_connectionsWithin hring ⟨h0, hlt⟩
    · exact hierarchical_connectionsWithin (topo.valid.type.resolve_left hring)
        (hsafe.resolve_left hring) ⟨h0, hlt⟩

end Gloo.Example
