import Mathlib
import Gloo.Example.Topology

set_option autoImplicit false

/-! # The example's network and its flat vectors

`example/alexnet/alexnet.h` keeps a network as a list of layers, each with its weights and biases
and a gradient for each of them. Synchronization works on flat vectors: `getParameters` lays out
every layer's weights, then its biases, layer after layer, and `setParameters` copies a flat
vector back into the layers, advancing an offset the same way; `getGradients` and `setGradients`
do the same with the gradients. `applyGradients` takes `learning_rate` times each gradient from
the parameter it belongs to.

The scalar type is a parameter `α` (the source's `float`): the functions only copy scalars, and
`applyGradients` uses `-` and `*` and nothing else about them. What a random number generator
yields is an argument, `draw k` being its `k`-th value. A `std::copy` from a range that leaves the
flat vector, and a gradient read past the end of its vector, are undefined; the functions report
them as errors.

* `set_get_roundtrip`: copying back the flat vectors `getParameters` and `getGradients` return
  leaves the network as it was.
* `set_flat_ok_iff`: `setParameters(params)` is defined exactly when `params` holds at least
  `getTotalParameters()` values. It then makes the first of them the network's parameters, in
  order, and changes neither the gradients nor the size of any vector; `setGradients` does the
  same for the gradients.
* `trainStep_getGradients`: `trainStep` draws the gradients in the order of the flat vector.
* `applyGradients_flat`: after any sequence of calls from the constructor, `applyGradients(lr)`
  is defined, and it is the step `p - lr * g` taken position by position on the flat vectors. -/

namespace Gloo.Example

variable {α : Type}

/-! ## The network -/

/-- `AlexNet::Layer`. The shape `in_channels`, `out_channels`, `kernel_size` is read only by the
    constructor, which sizes the vectors from it. -/
structure Layer (α : Type) where
  weights : List α
  biases : List α
  gradients : List α
  biasGradients : List α
  deriving DecidableEq, Repr

/-- `Layer::Layer(in_c, out_c, k_size)`: `in_c * out_c * k_size * k_size` weights drawn from the
    layer's own generator and as many zero gradients, and `out_c` zero biases and bias gradients.
    Every call passes positive constants whose products fit in `int`. -/
def Layer.create [Zero α] (inC outC kSize : Nat) (draw : Nat → α) : Layer α :=
  let weightSize := inC * outC * kSize * kSize
  { weights := (List.range weightSize).map draw
    biases := List.replicate outC 0
    gradients := List.replicate weightSize 0
    biasGradients := List.replicate outC 0 }

/-- `AlexNet`: its layers. The constructor stores `batch_size_`, which nothing reads. -/
structure AlexNet (α : Type) where
  layers : List (Layer α)
  deriving DecidableEq, Repr

/-- `AlexNet::AlexNet`: five convolutions and three fully connected layers, layer `i` drawing
    its weights from `draw i`. -/
def AlexNet.create [Zero α] (draw : Nat → Nat → α) : AlexNet α :=
  ⟨[Layer.create 3 64 11 (draw 0), Layer.create 64 192 5 (draw 1),
    Layer.create 192 384 3 (draw 2), Layer.create 384 256 3 (draw 3),
    Layer.create 256 256 3 (draw 4), Layer.create 256 4096 1 (draw 5),
    Layer.create 4096 4096 1 (draw 6), Layer.create 4096 1000 1 (draw 7)]⟩

/-- `AlexNet::getTotalParameters`: the weights and biases of all layers. -/
def AlexNet.getTotalParameters (net : AlexNet α) : Nat :=
  (net.layers.map fun layer => layer.weights.length + layer.biases.length).sum

/-! ## Flat vectors

`getParameters`/`getGradients` and `setParameters`/`setGradients` are two instances of one
layout, which `Slot` selects. -/

/-- The pair of vectors of a layer that a flat vector holds: the parameters, or their
    gradients. -/
inductive Slot
  | parameters
  | gradients
  deriving DecidableEq, Repr

/-- The slot a flat vector of `slot` leaves alone. -/
def Slot.other : Slot → Slot
  | .parameters => .gradients
  | .gradients => .parameters

/-- The pair of vectors of `slot`, in the order the flat vector holds them. -/
def Layer.get (layer : Layer α) : Slot → List α × List α
  | .parameters => (layer.weights, layer.biases)
  | .gradients => (layer.gradients, layer.biasGradients)

/-- `layer` with the pair of vectors of `slot` replaced. -/
def Layer.put (layer : Layer α) : Slot → List α × List α → Layer α
  | .parameters, (weights, biases) => { layer with weights, biases }
  | .gradients, (gradients, biasGradients) => { layer with gradients, biasGradients }

/-- The loop of `getParameters`/`getGradients`: each layer's first vector, then its second,
    appended layer after layer. -/
def flatten (slot : Slot) (layers : List (Layer α)) : List α :=
  layers.flatMap fun layer => (layer.get slot).1 ++ (layer.get slot).2

/-- `std::copy(src.begin() + offset, src.begin() + offset + len, dst.begin())` into a vector of
    `len` values: the `len` values of `src` from `offset` on, undefined past its end. -/
def copyRange (src : List α) (offset len : Nat) : Except String (List α) :=
  if offset + len ≤ src.length then .ok ((src.drop offset).take len)
  else .error "std::copy past the end of the vector"

/-- The loop of `setParameters`/`setGradients` from `offset` on: each layer's first vector, then
    its second, is copied from the flat vector, and the offset advances by its size. -/
def unflattenFrom (slot : Slot) (src : List α) :
    Nat → List (Layer α) → Except String (List (Layer α))
  | _, [] => .ok []
  | offset, layer :: layers => do
    let first ← copyRange src offset (layer.get slot).1.length
    let second ← copyRange src (offset + (layer.get slot).1.length) (layer.get slot).2.length
    let layers ← unflattenFrom slot src
      (offset + (layer.get slot).1.length + (layer.get slot).2.length) layers
    pure (layer.put slot (first, second) :: layers)

/-- `AlexNet::getParameters`. -/
def AlexNet.getParameters (net : AlexNet α) : List α := flatten .parameters net.layers

/-- `AlexNet::getGradients`. -/
def AlexNet.getGradients (net : AlexNet α) : List α := flatten .gradients net.layers

/-- `AlexNet::setParameters(params)`. -/
def AlexNet.setParameters (net : AlexNet α) (params : List α) : Except String (AlexNet α) :=
  AlexNet.mk <$> unflattenFrom .parameters params 0 net.layers

/-- `AlexNet::setGradients(grads)`. -/
def AlexNet.setGradients (net : AlexNet α) (grads : List α) : Except String (AlexNet α) :=
  AlexNet.mk <$> unflattenFrom .gradients grads 0 net.layers

/-! ## Training -/

/-- The loop of `trainStep` from the generator's `k`-th value on: every gradient of a layer, then
    every bias gradient, takes the next value. -/
def redrawFrom (draw : Nat → α) : Nat → List (Layer α) → List (Layer α)
  | _, [] => []
  | k, layer :: layers =>
    { layer with
      gradients := (List.range layer.gradients.length).map fun i => draw (k + i)
      biasGradients := (List.range layer.biasGradients.length).map fun i =>
        draw (k + layer.gradients.length + i) } ::
    redrawFrom draw (k + layer.gradients.length + layer.biasGradients.length) layers

/-- `AlexNet::trainStep()`, whose fresh generator yields `draw`. -/
def AlexNet.trainStep (draw : Nat → α) (net : AlexNet α) : AlexNet α :=
  ⟨redrawFrom draw 0 net.layers⟩

section Arithmetic

variable [Sub α] [Mul α]

/-- `for (size_t i = 0; i < v.size(); ++i) v[i] -= lr * g[i];`, undefined when `g` is the
    shorter. -/
def subScaled (lr : α) (v g : List α) : Except String (List α) :=
  if v.length ≤ g.length then .ok (List.zipWith (fun x d => x - lr * d) v g)
  else .error "vector index out of range"

/-- One layer of `applyGradients`: the weights, then the biases. -/
def Layer.applyGradients (lr : α) (layer : Layer α) : Except String (Layer α) := do
  let weights ← subScaled lr layer.weights layer.gradients
  let biases ← subScaled lr layer.biases layer.biasGradients
  pure { layer with weights, biases }

/-- `AlexNet::applyGradients(learning_rate)`. -/
def AlexNet.applyGradients (lr : α) (net : AlexNet α) : Except String (AlexNet α) :=
  AlexNet.mk <$> net.layers.mapM (Layer.applyGradients lr)

/-- A call on the network. -/
inductive NetOp (α : Type)
  | setParameters (params : List α)
  | setGradients (grads : List α)
  | trainStep (draw : Nat → α)
  | applyGradients (lr : α)

/-- What a call does to the network. -/
def NetOp.apply : NetOp α → AlexNet α → Except String (AlexNet α)
  | .setParameters params, net => net.setParameters params
  | .setGradients grads, net => net.setGradients grads
  | .trainStep draw, net => .ok (net.trainStep draw)
  | .applyGradients lr, net => net.applyGradients lr

/-- A sequence of calls, undefined from the first undefined one on. -/
def AlexNet.run : List (NetOp α) → AlexNet α → Except String (AlexNet α)
  | [], net => .ok net
  | op :: ops, net => do AlexNet.run ops (← op.apply net)

end Arithmetic

/-! ## Sizes -/

/-- The sizes of a layer's four vectors. -/
def Layer.sizes (layer : Layer α) : List Nat :=
  [layer.weights.length, layer.biases.length, layer.gradients.length, layer.biasGradients.length]

/-- The sizes of every vector of the network. -/
def AlexNet.shape (net : AlexNet α) : List (List Nat) := net.layers.map Layer.sizes

/-- Each gradient vector of a layer is as long as the vector it is the gradient of. -/
structure Layer.Sized (layer : Layer α) : Prop where
  gradients : layer.gradients.length = layer.weights.length
  biasGradients : layer.biasGradients.length = layer.biases.length

/-- Every layer of the network is `Sized`. -/
def AlexNet.Sized (net : AlexNet α) : Prop := ∀ layer ∈ net.layers, layer.Sized

theorem Layer.sized_of_sizes {layer layer' : Layer α} (h : layer'.sizes = layer.sizes)
    (hs : layer.Sized) : layer'.Sized := by
  simp only [Layer.sizes, List.cons.injEq, and_true] at h
  exact ⟨by rw [h.2.2.1, h.1, hs.1], by rw [h.2.2.2, h.2.1, hs.2]⟩

/-- Being `Sized` depends on the sizes of the vectors only. -/
theorem AlexNet.sized_of_shape {net net' : AlexNet α} (h : net'.shape = net.shape)
    (hs : net.Sized) : net'.Sized := by
  intro layer' hl'
  have hmem : layer'.sizes ∈ net.shape := by rw [← h]; exact List.mem_map_of_mem _ hl'
  obtain ⟨layer, hl, hsz⟩ := List.mem_map.1 hmem
  exact Layer.sized_of_sizes hsz.symm (hs layer hl)

theorem Layer.create_sized [Zero α] (inC outC kSize : Nat) (draw : Nat → α) :
    (Layer.create inC outC kSize draw).Sized :=
  ⟨by simp [Layer.create], by simp [Layer.create]⟩

theorem AlexNet.create_sized [Zero α] (draw : Nat → Nat → α) :
    (AlexNet.create draw).Sized := by
  simp only [AlexNet.Sized, AlexNet.create, List.forall_mem_cons, Layer.create_sized,
    List.not_mem_nil, false_implies, implies_true, and_self]

/-! ## Layers and slots -/

@[simp] theorem Layer.get_put (layer : Layer α) (slot : Slot) (p : List α × List α) :
    (layer.put slot p).get slot = p := by
  obtain ⟨a, b⟩ := p; cases slot <;> rfl

@[simp] theorem Layer.get_put_other (layer : Layer α) (slot : Slot) (p : List α × List α) :
    (layer.put slot p).get slot.other = layer.get slot.other := by
  obtain ⟨a, b⟩ := p; cases slot <;> rfl

@[simp] theorem Layer.put_get (layer : Layer α) (slot : Slot) :
    layer.put slot (layer.get slot) = layer := by
  cases slot <;> rfl

/-- Replacing a pair by vectors of the same sizes keeps every size. -/
theorem Layer.sizes_put {layer : Layer α} {slot : Slot} {p : List α × List α}
    (h₁ : p.1.length = (layer.get slot).1.length)
    (h₂ : p.2.length = (layer.get slot).2.length) :
    (layer.put slot p).sizes = layer.sizes := by
  obtain ⟨a, b⟩ := p
  cases slot <;> simp_all [Layer.put, Layer.get, Layer.sizes]

@[simp] theorem flatten_nil (slot : Slot) : flatten slot ([] : List (Layer α)) = [] := rfl

@[simp] theorem flatten_cons (slot : Slot) (layer : Layer α) (layers : List (Layer α)) :
    flatten slot (layer :: layers)
      = (layer.get slot).1 ++ ((layer.get slot).2 ++ flatten slot layers) := by
  simp [flatten]

theorem AlexNet.length_getParameters (net : AlexNet α) :
    net.getParameters.length = net.getTotalParameters := by
  simp [AlexNet.getParameters, AlexNet.getTotalParameters, flatten, List.length_flatMap, Layer.get,
    Function.comp_def]

/-! ## Copying a flat vector back -/

theorem copyRange_of_le {src : List α} {offset len : Nat} (h : offset + len ≤ src.length) :
    copyRange src offset len = .ok ((src.drop offset).take len) := if_pos h

theorem le_of_copyRange_eq_ok {src dst : List α} {offset len : Nat}
    (h : copyRange src offset len = .ok dst) : offset + len ≤ src.length := by
  by_contra hlt
  rw [copyRange, if_neg hlt] at h
  cases h

/-- **Round trip.** Copying back the flat vector of `layers`, wherever it stands in `src`, gives
    back `layers`. -/
theorem unflattenFrom_flatten (slot : Slot) (rest : List α) :
    ∀ (layers : List (Layer α)) (src : List α) (offset : Nat), offset ≤ src.length →
      src.drop offset = flatten slot layers ++ rest →
      unflattenFrom slot src offset layers = .ok layers
  | [], _, _, _, _ => rfl
  | layer :: layers, src, offset, h₀, h => by
    have hlen := congrArg List.length h
    simp only [List.length_drop, flatten_cons, List.length_append] at hlen
    have h₁ : (src.drop offset).take (layer.get slot).1.length = (layer.get slot).1 := by
      simp [h]
    have h₂ : (src.drop (offset + (layer.get slot).1.length)).take (layer.get slot).2.length
        = (layer.get slot).2 := by
      simp [← List.drop_drop, h]
    have h₃ : src.drop (offset + (layer.get slot).1.length + (layer.get slot).2.length)
        = flatten slot layers ++ rest := by
      simp [← List.drop_drop, h]
    rw [unflattenFrom, copyRange_of_le (by omega), h₁, copyRange_of_le (by omega), h₂,
      unflattenFrom_flatten slot rest layers src _ (by omega) h₃]
    exact congrArg (fun layer => Except.ok (layer :: layers)) (Layer.put_get layer slot)

/-- **Copying back.** With enough values from `offset` on, the copy is defined: the slot's flat
    vector becomes the values from `offset` on, and the other slot and every size stay. -/
theorem unflattenFrom_eq_ok (slot : Slot) (src : List α) :
    ∀ (layers : List (Layer α)) (offset : Nat),
      offset + (flatten slot layers).length ≤ src.length →
      ∃ layers', unflattenFrom slot src offset layers = .ok layers' ∧
        flatten slot layers' = (src.drop offset).take (flatten slot layers).length ∧
        flatten slot.other layers' = flatten slot.other layers ∧
        layers'.map Layer.sizes = layers.map Layer.sizes
  | [], _, _ => ⟨[], rfl, by simp, rfl, rfl⟩
  | layer :: layers, offset, h => by
    simp only [flatten_cons, List.length_append] at h
    obtain ⟨layers', hrest, hflat, hother, hsizes⟩ := unflattenFrom_eq_ok slot src layers
      (offset + (layer.get slot).1.length + (layer.get slot).2.length) (by omega)
    refine ⟨layer.put slot ((src.drop offset).take (layer.get slot).1.length,
      (src.drop (offset + (layer.get slot).1.length)).take (layer.get slot).2.length) :: layers',
      ?_, ?_, ?_, ?_⟩
    · rw [unflattenFrom, copyRange_of_le (by omega), copyRange_of_le (by omega), hrest]
      rfl
    · simp only [flatten_cons, Layer.get_put, hflat, List.length_append, List.take_add,
        List.drop_drop, Nat.add_assoc]
    · simp only [flatten_cons, Layer.get_put_other, hother]
    · rw [List.map_cons, List.map_cons, hsizes,
        Layer.sizes_put (by simp; omega) (by simp; omega)]

/-- Too few values from `offset` on leave some copy past the end of `src`. -/
theorem unflattenFrom_ne_ok (slot : Slot) (src : List α) :
    ∀ (layers : List (Layer α)) (offset : Nat), offset ≤ src.length →
      src.length < offset + (flatten slot layers).length →
      ∀ layers', unflattenFrom slot src offset layers ≠ .ok layers'
  | [], _, h₀, h, _, _ => by simp at h; omega
  | layer :: layers, offset, _, h, _, hok => by
    rw [unflattenFrom] at hok
    obtain ⟨_, -, hok⟩ := bind_eq_ok.1 hok
    obtain ⟨_, h₂, hok⟩ := bind_eq_ok.1 hok
    obtain ⟨rest, h₃, -⟩ := bind_eq_ok.1 hok
    have hle := le_of_copyRange_eq_ok h₂
    simp only [flatten_cons, List.length_append] at h
    exact unflattenFrom_ne_ok slot src layers _ hle (by omega) rest h₃

/-- `setParameters` and `setGradients` as one: the copy of `slot` from `src` is defined exactly
    when `src` holds the slot's flat vector, and then sets it to the first values of `src`. -/
theorem unflatten_ok_iff (slot : Slot) (net : AlexNet α) (src : List α) :
    (∃ net' : AlexNet α, AlexNet.mk <$> unflattenFrom slot src 0 net.layers = .ok net' ∧
      flatten slot net'.layers = src.take (flatten slot net.layers).length ∧
      flatten slot.other net'.layers = flatten slot.other net.layers ∧ net'.shape = net.shape) ↔
      (flatten slot net.layers).length ≤ src.length := by
  constructor
  · rintro ⟨net', hok, -⟩
    by_contra hlt
    obtain ⟨layers', hlayers, -⟩ := bind_eq_ok.1 hok
    exact unflattenFrom_ne_ok slot src net.layers 0 (Nat.zero_le _) (by omega) layers' hlayers
  · intro hle
    obtain ⟨layers', hok, hflat, hother, hsizes⟩ :=
      unflattenFrom_eq_ok slot src net.layers 0 (by omega)
    exact ⟨⟨layers'⟩, by rw [hok]; rfl, by simpa using hflat, hother, hsizes⟩

theorem unflatten_shape {slot : Slot} {net net' : AlexNet α} {src : List α}
    (h : AlexNet.mk <$> unflattenFrom slot src 0 net.layers = .ok net') :
    net'.shape = net.shape := by
  obtain ⟨net'', hok, -, -, hshape⟩ := (unflatten_ok_iff slot net src).2 <| by
    by_contra hlt
    obtain ⟨layers', hlayers, -⟩ := bind_eq_ok.1 h
    exact unflattenFrom_ne_ok slot src net.layers 0 (Nat.zero_le _) (by omega) layers' hlayers
  rw [h] at hok
  cases hok
  exact hshape

/-- **Writing the flat vectors.** `setParameters(params)` is defined exactly when `params` holds
    at least `getTotalParameters()` values. The network it leaves returns the first of them from
    `getParameters()`, the gradients it had from `getGradients()`, and has every vector of the size
    it had. `setGradients(grads)` is the same for the gradients. -/
theorem set_flat_ok_iff (net : AlexNet α) (params grads : List α) :
    ((∃ net', net.setParameters params = .ok net' ∧
        net'.getParameters = params.take net.getTotalParameters ∧
        net'.getGradients = net.getGradients ∧ net'.shape = net.shape) ↔
      net.getTotalParameters ≤ params.length) ∧
    ((∃ net', net.setGradients grads = .ok net' ∧
        net'.getGradients = grads.take net.getGradients.length ∧
        net'.getParameters = net.getParameters ∧ net'.shape = net.shape) ↔
      net.getGradients.length ≤ grads.length) := by
  rw [← AlexNet.length_getParameters]
  exact ⟨unflatten_ok_iff .parameters net params, unflatten_ok_iff .gradients net grads⟩

/-- **Reading back.** Copying back the flat vectors `getParameters()` and `getGradients()`
    return leaves the network as it was. -/
theorem set_get_roundtrip (net : AlexNet α) :
    net.setParameters net.getParameters = .ok net ∧
      net.setGradients net.getGradients = .ok net := by
  have h (slot : Slot) :
      unflattenFrom slot (flatten slot net.layers) 0 net.layers = .ok net.layers :=
    unflattenFrom_flatten slot [] net.layers _ 0 (Nat.zero_le _) (by simp)
  exact ⟨by rw [AlexNet.setParameters, AlexNet.getParameters, h]; rfl,
    by rw [AlexNet.setGradients, AlexNet.getGradients, h]; rfl⟩

/-! ## Training steps -/

theorem redrawFrom_sizes (draw : Nat → α) :
    ∀ (k : Nat) (layers : List (Layer α)),
      (redrawFrom draw k layers).map Layer.sizes = layers.map Layer.sizes
  | _, [] => rfl
  | k, layer :: layers => by
    rw [redrawFrom, List.map_cons, List.map_cons, redrawFrom_sizes]
    simp [Layer.sizes]

/-- The loop of `trainStep` fills the flat gradient vector with the generator's values from the
    `k`-th on, in order, and keeps the parameters. -/
theorem redrawFrom_flatten (draw : Nat → α) :
    ∀ (k : Nat) (layers : List (Layer α)),
      flatten .gradients (redrawFrom draw k layers)
          = (List.range (flatten .gradients layers).length).map (fun i => draw (k + i)) ∧
        flatten .parameters (redrawFrom draw k layers) = flatten .parameters layers
  | _, [] => ⟨rfl, rfl⟩
  | k, layer :: layers => by
    obtain ⟨hg, hp⟩ := redrawFrom_flatten draw
      (k + layer.gradients.length + layer.biasGradients.length) layers
    refine ⟨?_, ?_⟩
    · rw [redrawFrom, flatten_cons, flatten_cons, hg]
      simp only [Layer.get, List.length_append, List.range_add, List.map_append, List.map_map,
        Function.comp_def, List.length_map, List.length_range, Nat.add_assoc]
    · rw [redrawFrom, flatten_cons, flatten_cons, hp]
      rfl

/-- **A training step fills the flat gradients in order.** `trainStep` draws the gradients in the
    order `getGradients` lays them out: after a step whose generator yields `draw 0`, `draw 1`,
    and so on, `getGradients()` returns the generator's first values, as many as it held before.
    The parameters and the size of every vector stay. -/
theorem trainStep_getGradients (draw : Nat → α) (net : AlexNet α) :
    (net.trainStep draw).getGradients = (List.range net.getGradients.length).map draw ∧
      (net.trainStep draw).getParameters = net.getParameters ∧
      (net.trainStep draw).shape = net.shape := by
  obtain ⟨hg, hp⟩ := redrawFrom_flatten draw 0 net.layers
  refine ⟨?_, hp, redrawFrom_sizes draw 0 net.layers⟩
  show flatten .gradients (redrawFrom draw 0 net.layers) = _
  simpa using hg

section Arithmetic

variable [Sub α] [Mul α]

theorem subScaled_of_le (lr : α) {v g : List α} (h : v.length ≤ g.length) :
    subScaled lr v g = .ok (List.zipWith (fun x d => x - lr * d) v g) := if_pos h

/-- The step on one layer whose gradients are as long as its parameters. -/
theorem Layer.applyGradients_of_sized (lr : α) {layer : Layer α} (h : layer.Sized) :
    layer.applyGradients lr = .ok (layer.put .parameters
      (List.zipWith (fun x d => x - lr * d) layer.weights layer.gradients,
        List.zipWith (fun x d => x - lr * d) layer.biases layer.biasGradients)) := by
  rw [Layer.applyGradients, subScaled_of_le lr h.gradients.ge,
    subScaled_of_le lr h.biasGradients.ge]
  rfl

/-- **The step on the flat vectors.** On layers whose gradients are as long as their parameters,
    the loop of `applyGradients` is defined and takes `lr` times the flat gradient vector from the
    flat parameter vector, position by position. -/
theorem mapM_applyGradients (lr : α) :
    ∀ layers : List (Layer α), (∀ layer ∈ layers, layer.Sized) →
      ∃ layers', layers.mapM (Layer.applyGradients lr) = .ok layers' ∧
        flatten .parameters layers' = List.zipWith (fun p g => p - lr * g)
          (flatten .parameters layers) (flatten .gradients layers) ∧
        flatten .gradients layers' = flatten .gradients layers ∧
        layers'.map Layer.sizes = layers.map Layer.sizes
  | [], _ => ⟨[], rfl, rfl, rfl, rfl⟩
  | layer :: layers, hs => by
    have hl : layer.Sized := hs layer (List.mem_cons_self _ _)
    obtain ⟨layers', hok, hparams, hgrads, hsizes⟩ :=
      mapM_applyGradients lr layers fun l hl => hs l (List.mem_cons_of_mem _ hl)
    refine ⟨_ :: layers', by rw [List.mapM_cons, Layer.applyGradients_of_sized lr hl, hok]; rfl,
      ?_, ?_, ?_⟩
    · simp only [flatten_cons, Layer.get_put, hparams, Layer.get]
      rw [List.zipWith_append _ _ _ _ _ hl.gradients.symm,
        List.zipWith_append _ _ _ _ _ hl.biasGradients.symm]
      rfl
    · rw [flatten_cons, flatten_cons, hgrads]
      rfl
    · rw [List.map_cons, List.map_cons, hsizes, Layer.sizes_put] <;>
        simp [Layer.get, hl.gradients, hl.biasGradients]

/-- Every call on a `Sized` network keeps the size of every vector. -/
theorem NetOp.apply_shape {op : NetOp α} {net net' : AlexNet α} (hs : net.Sized)
    (h : op.apply net = .ok net') : net'.shape = net.shape := by
  cases op with
  | setParameters params => exact unflatten_shape h
  | setGradients grads => exact unflatten_shape h
  | trainStep draw => cases h; exact redrawFrom_sizes draw 0 net.layers
  | applyGradients lr =>
    obtain ⟨layers', hok, -, -, hsizes⟩ := mapM_applyGradients lr net.layers hs
    rw [NetOp.apply, AlexNet.applyGradients, hok] at h
    cases h
    exact hsizes

/-- **Runs.** A sequence of calls on a `Sized` network keeps the size of every vector. -/
theorem AlexNet.run_shape :
    ∀ (ops : List (NetOp α)) {net net' : AlexNet α}, net.Sized →
      AlexNet.run ops net = .ok net' → net'.shape = net.shape
  | [], _, _, _, h => by cases h; rfl
  | op :: ops, net, net', hs, h => by
    obtain ⟨net₁, h₁, h⟩ := bind_eq_ok.1 h
    have hshape₁ := NetOp.apply_shape hs h₁
    rw [AlexNet.run_shape ops (AlexNet.sized_of_shape hshape₁ hs) h, hshape₁]

/-- **Applying the gradients.** After any sequence of calls from the constructor that is defined,
    `applyGradients(lr)` is defined too: it takes `lr` times each gradient from its parameter,
    position by position in the flat vectors, and keeps the gradients and every size. -/
theorem applyGradients_flat [Zero α] (draw : Nat → Nat → α) (ops : List (NetOp α))
    {net : AlexNet α} (h : (AlexNet.create draw).run ops = .ok net) (lr : α) :
    ∃ net', net.applyGradients lr = .ok net' ∧
      net'.getParameters
        = List.zipWith (fun p g => p - lr * g) net.getParameters net.getGradients ∧
      net'.getGradients = net.getGradients ∧ net'.shape = (AlexNet.create draw).shape := by
  have hshape := AlexNet.run_shape ops (AlexNet.create_sized draw) h
  obtain ⟨layers', hok, hparams, hgrads, hsizes⟩ :=
    mapM_applyGradients lr net.layers (AlexNet.sized_of_shape hshape (AlexNet.create_sized draw))
  exact ⟨⟨layers'⟩, by rw [AlexNet.applyGradients, hok]; rfl, hparams, hgrads,
    hsizes.trans hshape⟩

theorem applyGradients_flat_at :
    ∃ net, (AlexNet.create fun _ _ => (0 : Int)).run [.trainStep fun _ => 1] = .ok net ∧
      ∃ net', net.applyGradients 1 = .ok net' ∧
        net'.getParameters
          = List.zipWith (fun p g => p - 1 * g) net.getParameters net.getGradients ∧
        net'.getGradients = net.getGradients ∧
        net'.shape = (AlexNet.create fun _ _ => (0 : Int)).shape :=
  ⟨_, rfl, applyGradients_flat (fun _ _ => (0 : Int)) [.trainStep fun _ => 1] rfl 1⟩

end Arithmetic

end Gloo.Example
