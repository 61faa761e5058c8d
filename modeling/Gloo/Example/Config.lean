import Mathlib
import Gloo.Example.Training

set_option autoImplicit false

/-! # The example's configuration files

The trainer reads its settings with `ConfigParser` (`config_parser.h`), from an `nlohmann::json`
document. The constructor runs `validate_config`, a row of `if (!…contains(key)) throw` checks
over the `training`, `distributed` and `logging` sections. When `distributed` names a
`topology_config_file`, it opens that file and checks it with `validate_topology_config`. The
getters then read values with `operator[]` and convert them with nlohmann's `get`.

What the model keeps of nlohmann: `contains` (false on anything but an object), the `const`
`operator[]`, and the conversions `get<int>`, `get<float>`, `get<bool>`, `get<std::string>` and
`get<std::vector<int>>`. A conversion of the wrong type throws `type_error` 302, and `operator[]`
on anything but an object throws `type_error` 305. `operator[]` on an object without the key is
undefined behaviour (an assertion in nlohmann), and so is `static_cast<int>` of a double outside
`int`. Reading the files into JSON is not modelled: the configuration is given as a `Json`, and a
file system as the JSON each path holds.

With a topology file, `get_distributed_config` never assigns `DistributedConfig::num_nodes`, an
`int` of a local that was default-initialized: its value is indeterminate. The constructor's
`distributed_config_ = config_parser.get_distributed_config()` copies the struct member by member,
and copying an indeterminate `int` is undefined (C++17, [basic.indet]). So no configuration that
names a topology file reads (`readConfig_topology_file`).

* `parser_reads`: on every parser the constructor builds, `get_training_config`,
  `get_logging_config`, and `get_distributed_config` with a topology file fail only in a
  conversion. Without a topology file, `get_distributed_config` reads `distributed.num_nodes` and
  `distributed.topology.type`, which nothing validated, and may reach `operator[]` on a missing
  key there.
* `fromConfig_single_ring`: a trainer built from a configuration without a topology file has the
  rotations `{0}`: one ring (or a hierarchy), whatever else the file says.
* `readConfig_topology_file`: a configuration that names a topology file never reads. -/

namespace Gloo.Example

/-! ## JSON values -/

/-- An `nlohmann::json` value. `numberInteger` stands for both `number_integer` and
    `number_unsigned`. A `numberFloat` holds the double it was parsed to, a rational. An object
    lists its members, one per key, as the `std::map` behind it holds them. -/
inductive Json
  | null
  | boolean (b : Bool)
  | numberInteger (n : Int)
  | numberFloat (x : Rat)
  | string (s : String)
  | array (elements : List Json)
  | object (members : List (String × Json))
  deriving Repr

/-- How reading the configuration can end other than with a value: a `std::runtime_error` of the
    parser, an `nlohmann::json::type_error` with its id, or undefined behaviour (`operator[]` on a
    missing key, `static_cast<int>` of a double outside `int`, or a copy of a member that holds an
    indeterminate value). -/
inductive ConfigError
  | runtimeError (what : String)
  | typeError (id : Nat) (what : String)
  | missingKey (key : String)
  | outOfRange
  | indeterminate (member : String)
  deriving DecidableEq, Repr

/-- The text of an error: the exception's `what()`, or what the undefined behaviour is. -/
def ConfigError.what : ConfigError → String
  | .runtimeError what => what
  | .typeError id what => "[json.exception.type_error." ++ toString id ++ "] " ++ what
  | .missingKey key => "json::operator[] on the missing key " ++ key
  | .outOfRange => "static_cast<int> of a double outside int"
  | .indeterminate member => "copy of the indeterminate " ++ member

/-- An error of a conversion `get`: a value of the wrong type, or a double outside `int`. -/
def ConfigError.IsConversion : ConfigError → Prop
  | .typeError id _ => id = 302
  | .outOfRange => True
  | _ => False

/-- `json::type_name()`. -/
def Json.typeName : Json → String
  | .null => "null"
  | .boolean _ => "boolean"
  | .numberInteger _ => "number"
  | .numberFloat _ => "number"
  | .string _ => "string"
  | .array _ => "array"
  | .object _ => "object"

/-- `json::contains(key)`: false on anything but an object. -/
def Json.contains (j : Json) (key : String) : Bool :=
  match j with
  | .object members => (members.lookup key).isSome
  | _ => false

/-- `json::operator[](key) const`. -/
def Json.at (j : Json) (key : String) : Except ConfigError Json :=
  match j with
  | .object members =>
    match members.lookup key with
    | some value => .ok value
    | none => .error (.missingKey key)
  | j => .error (.typeError 305
      ("cannot use operator[] with a string argument with " ++ j.typeName))

/-- `j[k₁][k₂]…[kₙ]`. -/
def Json.atPath (j : Json) : List String → Except ConfigError Json
  | [] => .ok j
  | key :: path => do (← j.at key).atPath path

/-- `j[k₁]…[kₙ].contains(key)`, false when `j[k₁]…[kₙ]` does not exist. -/
def Json.containsAt (j : Json) (path : List String) (key : String) : Bool :=
  match j.atPath path with
  | .ok value => value.contains key
  | .error _ => false

/-- The value at `path`, converted by `get`. -/
def Json.read {β : Type} (j : Json) (path : List String) (get : Json → Except ConfigError β) :
    Except ConfigError β :=
  j.atPath path >>= get

/-- nlohmann's `type_error` 302. -/
def conversionError (expected : String) (j : Json) : ConfigError :=
  .typeError 302 ("type must be " ++ expected ++ ", but is " ++ j.typeName)

/-- `static_cast<int>` of a 64-bit integer: its low 32 bits, in two's complement. -/
def toInt32 (n : Int) : Int := (n + 2 ^ 31) % 2 ^ 32 - 2 ^ 31

/-- `get<int>()`: numbers and booleans convert with `static_cast<int>`, doubles truncated. -/
def Json.getInt : Json → Except ConfigError Int
  | .numberInteger n => .ok (toInt32 n)
  | .numberFloat x =>
    let t := x.num.tdiv x.den
    if -2 ^ 31 ≤ t ∧ t < 2 ^ 31 then .ok t else .error .outOfRange
  | .boolean b => .ok (if b then 1 else 0)
  | j => .error (conversionError "number" j)

/-- `get<float>()`, whose value nothing the model covers reads: numbers and booleans convert. -/
def Json.getFloat : Json → Except ConfigError Unit
  | .numberInteger _ | .numberFloat _ | .boolean _ => .ok ()
  | j => .error (conversionError "number" j)

/-- `get<bool>()`. -/
def Json.getBool : Json → Except ConfigError Bool
  | .boolean b => .ok b
  | j => .error (conversionError "boolean" j)

/-- `get<std::string>()`. -/
def Json.getString : Json → Except ConfigError String
  | .string s => .ok s
  | j => .error (conversionError "string" j)

/-- `get<std::vector<int>>()`: each element with `get<int>`. -/
def Json.getIntVector : Json → Except ConfigError (List Int)
  | .array elements => elements.mapM Json.getInt
  | j => .error (conversionError "array" j)

/-! ## Validation -/

/-- A run of `if (!j[k₁]…[kₙ].contains(key)) throw std::runtime_error(message);`, in order;
    each check is `([k₁, …, kₙ], key, message)`. -/
def validateKeys (checks : List (List String × String × String)) (j : Json) :
    Except ConfigError Unit :=
  checks.forM fun check =>
    if j.containsAt check.1 check.2.1 then pure () else throw (.runtimeError check.2.2)

/-- The checks of `validate_config`. -/
def configChecks : List (List String × String × String) :=
  [([], "training", "Missing training config"),
   (["training"], "num_epochs", "Missing num_epochs"),
   (["training"], "steps_per_epoch", "Missing steps_per_epoch"),
   (["training"], "learning_rate", "Missing learning_rate"),
   (["training"], "run_first_batch", "Missing run_first_batch"),
   ([], "distributed", "Missing distributed config"),
   (["distributed"], "use_localhost", "Missing use_localhost"),
   (["distributed"], "host", "Missing host"),
   (["distributed"], "port", "Missing port"),
   (["distributed"], "bandwidth_limit", "Missing bandwidth_limit"),
   ([], "logging", "Missing logging config"),
   (["logging"], "level", "Missing logging level"),
   (["logging"], "output_dir", "Missing output_dir")]

/-- The checks of `validate_topology_config`. -/
def topologyChecks : List (List String × String × String) :=
  [([], "num_nodes", "Missing num_nodes in topology config"),
   ([], "topology_type", "Missing topology_type in topology config"),
   ([], "permutations", "Missing permutations in topology config")]

/-- `ConfigParser::validate_config`. -/
def validateConfig (j : Json) : Except ConfigError Unit := validateKeys configChecks j

/-- `ConfigParser::validate_topology_config`. -/
def validateTopologyConfig (j : Json) : Except ConfigError Unit := validateKeys topologyChecks j

/-! ## The parser -/

/-- `ConfigParser`: the configuration `json_`, and `topology_json_`, the topology file's JSON when
    the configuration names one (`null` otherwise). The constructor validated both. -/
structure ConfigParser where
  json : Json
  topologyJson : Json
  valid : validateConfig json = .ok ()
  topologyValid : json.containsAt ["distributed"] "topology_config_file" = true →
    validateTopologyConfig topologyJson = .ok ()

/-- `ConfigParser::ConfigParser` from the parsed configuration on; `files` gives the JSON each
    path holds, `none` for a file that does not open. -/
def ConfigParser.create (json : Json) (files : String → Option Json) :
    Except ConfigError ConfigParser :=
  match hv : validateConfig json with
  | .error e => .error e
  | .ok () =>
    if hf : json.containsAt ["distributed"] "topology_config_file" = true then
      json.read ["distributed", "topology_config_file"] Json.getString >>= fun path =>
        match files path with
        | none => .error (.runtimeError ("Failed to open topology config file: " ++ path))
        | some topologyJson =>
          match ht : validateTopologyConfig topologyJson with
          | .ok () => .ok ⟨json, topologyJson, hv, fun _ => ht⟩
          | .error e => .error e
    else .ok ⟨json, .null, hv, fun h => absurd h hf⟩

/-- `ConfigParser::DistributedConfig`, without `bandwidth_limit`, which only the simulated
    transfer time reads. `num_nodes` is `none` where the getter never assigns it: its value is then
    indeterminate. -/
structure DistributedConfig where
  numNodes : Option Int
  useLocalhost : Bool
  host : String
  port : Int
  topology : TopologyConfig

/-- `ConfigParser::LoggingConfig`. -/
structure LoggingConfig where
  level : String
  outputDir : String

/-- `ConfigParser::get_training_config`; `learning_rate` is converted, and left out. -/
def ConfigParser.getTrainingConfig (p : ConfigParser) : Except ConfigError TrainingConfig := do
  let numEpochs ← p.json.read ["training", "num_epochs"] Json.getInt
  let stepsPerEpoch ← p.json.read ["training", "steps_per_epoch"] Json.getInt
  p.json.read ["training", "learning_rate"] Json.getFloat
  let runFirstBatch ← p.json.read ["training", "run_first_batch"] Json.getBool
  pure ⟨numEpochs, stepsPerEpoch, runFirstBatch⟩

/-- `ConfigParser::get_distributed_config`: the topology from the topology file, leaving
    `num_nodes` unassigned, or else from `distributed.num_nodes` and `distributed.topology.type`
    with the single rotation `0`. -/
def ConfigParser.getDistributedConfig (p : ConfigParser) :
    Except ConfigError DistributedConfig := do
  let useLocalhost ← p.json.read ["distributed", "use_localhost"] Json.getBool
  let host ← p.json.read ["distributed", "host"] Json.getString
  let port ← p.json.read ["distributed", "port"] Json.getInt
  p.json.read ["distributed", "bandwidth_limit"] Json.getFloat
  if p.json.containsAt ["distributed"] "topology_config_file" then
    let numNodes ← p.topologyJson.read ["num_nodes"] Json.getInt
    let type ← p.topologyJson.read ["topology_type"] Json.getString
    let permutations ← p.topologyJson.read ["permutations"] Json.getIntVector
    pure ⟨none, useLocalhost, host, port, ⟨type, numNodes, permutations⟩⟩
  else
    let numNodes ← p.json.read ["distributed", "num_nodes"] Json.getInt
    let type ← p.json.read ["distributed", "topology", "type"] Json.getString
    pure ⟨some numNodes, useLocalhost, host, port, ⟨type, numNodes, [0]⟩⟩

/-- `ConfigParser::get_logging_config`. -/
def ConfigParser.getLoggingConfig (p : ConfigParser) : Except ConfigError LoggingConfig := do
  let level ← p.json.read ["logging", "level"] Json.getString
  let outputDir ← p.json.read ["logging", "output_dir"] Json.getString
  pure ⟨level, outputDir⟩

/-- `distributed_config_ = …`, a copy member by member, which reads `num_nodes`. -/
def DistributedConfig.copy (d : DistributedConfig) : Except ConfigError DistributedConfig :=
  match d.numNodes with
  | some _ => .ok d
  | none => .error (.indeterminate "DistributedConfig::num_nodes")

/-- The configuration part of `DistributedTrainer`'s constructor: the parser, then its three
    getters in the source's order, each result copied into a member of the trainer. -/
def readConfig (config : Json) (files : String → Option Json) :
    Except ConfigError (TrainingConfig × DistributedConfig × LoggingConfig) := do
  let parser ← ConfigParser.create config files
  let training ← parser.getTrainingConfig
  let distributed ← (← parser.getDistributedConfig).copy
  let logging ← parser.getLoggingConfig
  pure (training, distributed, logging)

/-- `DistributedTrainer(rank, size, config_path)` up to the topology, with the training and
    logging settings it keeps. The rank check comes before the configuration is read;
    `DistributedTrainer.create` repeats it, and then checks `num_nodes` against `size` and builds
    the topology. -/
def DistributedTrainer.fromSettings (rank size : Int) (config : Json)
    (files : String → Option Json) (parameterSize : Nat) :
    Except String (DistributedTrainer × TrainingConfig × LoggingConfig) :=
  if rank < 0 ∨ size ≤ 0 ∨ rank ≥ size then .error "Invalid rank or size"
  else do
    let (training, distributed, logging) ← (readConfig config files).mapError ConfigError.what
    let tr ← DistributedTrainer.create rank size distributed.topology parameterSize
    pure (tr, training, logging)

/-- The trainer and the training settings of `DistributedTrainer.fromSettings`. -/
def DistributedTrainer.fromConfig (rank size : Int) (config : Json)
    (files : String → Option Json) (parameterSize : Nat) :
    Except String (DistributedTrainer × TrainingConfig) :=
  (DistributedTrainer.fromSettings rank size config files parameterSize).map fun b => (b.1, b.2.1)

/-! ## Errors -/

section Errors

variable {ε α β : Type}

/-- Every error `x` can end in satisfies `P`. -/
def ErrorsIn (P : ε → Prop) (x : Except ε α) : Prop := ∀ e, x = .error e → P e

theorem ErrorsIn.of_ok {P : ε → Prop} {x : Except ε α} {a : α} (h : x = .ok a) :
    ErrorsIn P x :=
  fun _ he => nomatch h.symm.trans he

theorem ErrorsIn.mono {P Q : ε → Prop} {x : Except ε α} (hx : ErrorsIn P x)
    (hPQ : ∀ e, P e → Q e) : ErrorsIn Q x :=
  fun e he => hPQ e (hx e he)

theorem ErrorsIn.bind {P : ε → Prop} {x : Except ε α} {f : α → Except ε β}
    (hx : ErrorsIn P x) (hf : ∀ a, ErrorsIn P (f a)) : ErrorsIn P (x >>= f) := by
  intro e h
  cases hx' : x with
  | error e' => rw [hx'] at h; cases h; exact hx _ hx'
  | ok a => rw [hx'] at h; exact hf a e h

theorem mapError_eq_ok {ε' : Type} {f : ε → ε'} {x : Except ε α} {a : α} :
    x.mapError f = .ok a ↔ x = .ok a := by
  cases x <;> simp [Except.mapError]

end Errors

/-! ## Reading JSON -/

theorem Json.atPath_cons_of {j value : Json} {key : String} (h : j.at key = .ok value)
    (path : List String) : j.atPath (key :: path) = value.atPath path := by
  rw [Json.atPath, h]
  rfl

/-- `operator[]` fails only on a missing key or on a value that is not an object. -/
theorem Json.at_errors (j : Json) (key : String) :
    ErrorsIn (fun e => e = .missingKey key ∨ ∃ w, e = .typeError 305 w) (j.at key) := by
  intro e h
  cases j
  case object members =>
    cases hl : members.lookup key <;> simp only [Json.at, hl] at h <;> cases h
    exact .inl rfl
  all_goals cases h; exact .inr ⟨_, rfl⟩

/-- A chain of `operator[]` fails only on a key of the chain or on a value that is not an
    object. -/
theorem Json.atPath_errors :
    ∀ (j : Json) (path : List String), ErrorsIn
      (fun e => (∃ key ∈ path, e = .missingKey key) ∨ ∃ w, e = .typeError 305 w)
      (j.atPath path)
  | _, [] => .of_ok rfl
  | j, key :: path =>
    .bind ((j.at_errors key).mono fun _ h =>
        h.imp_left fun h => ⟨key, List.mem_cons_self _ _, h⟩)
      fun value => (value.atPath_errors path).mono fun _ h =>
        h.imp_left fun ⟨k, hk, h⟩ => ⟨k, List.mem_cons_of_mem _ hk, h⟩

/-- A key that `contains` finds can be read. -/
theorem Json.atPath_of_containsAt :
    ∀ {j : Json} {path : List String} {key : String}, j.containsAt path key = true →
      ∃ value, j.atPath (path ++ [key]) = .ok value
  | .object members, [], key, h => by
    simp only [Json.containsAt, Json.atPath, Json.contains, Option.isSome_iff_exists] at h
    obtain ⟨value, hv⟩ := h
    exact ⟨value, by simp only [List.nil_append, Json.atPath, Json.at, hv]; rfl⟩
  | j, k :: path, key, h => by
    cases hk : j.at k with
    | error e =>
      simp only [Json.containsAt, Json.atPath, hk] at h
      cases h
    | ok value =>
      have h' : value.containsAt path key = true := by
        simpa only [Json.containsAt, Json.atPath_cons_of hk] using h
      rw [List.cons_append, Json.atPath_cons_of hk]
      exact Json.atPath_of_containsAt h'
  | .null, [], _, h | .boolean _, [], _, h | .numberInteger _, [], _, h
  | .numberFloat _, [], _, h | .string _, [], _, h | .array _, [], _, h => by cases h

theorem Json.read_errors {β : Type} {P : ConfigError → Prop} {j value : Json}
    {path : List String} {get : Json → Except ConfigError β} (h : j.atPath path = .ok value)
    (hget : ErrorsIn P (get value)) : ErrorsIn P (j.read path get) := by
  rw [Json.read, h]
  exact hget

theorem Json.getInt_errors (j : Json) : ErrorsIn ConfigError.IsConversion j.getInt := by
  intro e h
  cases j
  case numberFloat x =>
    simp only [Json.getInt] at h
    split at h
    · cases h
    · cases h; trivial
  all_goals cases h <;> exact rfl

theorem Json.getFloat_errors (j : Json) : ErrorsIn ConfigError.IsConversion j.getFloat := by
  intro e h
  cases j <;> cases h <;> exact rfl

theorem Json.getBool_errors (j : Json) : ErrorsIn ConfigError.IsConversion j.getBool := by
  intro e h
  cases j <;> cases h <;> exact rfl

theorem Json.getString_errors (j : Json) : ErrorsIn ConfigError.IsConversion j.getString := by
  intro e h
  cases j <;> cases h <;> exact rfl

theorem mapM_getInt_errors :
    ∀ elements : List Json, ErrorsIn ConfigError.IsConversion (elements.mapM Json.getInt)
  | [] => .of_ok rfl
  | j :: elements => by
    rw [List.mapM_cons]
    exact .bind j.getInt_errors fun _ => .bind (mapM_getInt_errors elements) fun _ => .of_ok rfl

theorem Json.getIntVector_errors (j : Json) :
    ErrorsIn ConfigError.IsConversion j.getIntVector := by
  cases j
  case array elements => exact mapM_getInt_errors elements
  all_goals exact fun _ h => by cases h; exact rfl

/-- The value at a key whose `contains` held fails only as its conversion does. -/
theorem Json.read_errors_of_containsAt {β : Type} {P : ConfigError → Prop} {j : Json}
    {path : List String} {key : String} {get : Json → Except ConfigError β}
    (h : j.containsAt path key = true) (hget : ∀ value, ErrorsIn P (get value)) :
    ErrorsIn P (j.read (path ++ [key]) get) :=
  let ⟨_, hv⟩ := Json.atPath_of_containsAt h
  Json.read_errors hv (hget _)

/-! ## Validation -/

theorem validateKeys_cons (j : Json) (check : List String × String × String)
    (checks : List (List String × String × String)) :
    validateKeys (check :: checks) j
      = (if j.containsAt check.1 check.2.1 then pure () else throw (.runtimeError check.2.2)) >>=
          fun _ => validateKeys checks j :=
  rfl

/-- A row of checks passes exactly when every key it checks is there. -/
theorem validateKeys_eq_ok {j : Json} :
    ∀ {checks : List (List String × String × String)},
      validateKeys checks j = .ok () ↔ ∀ c ∈ checks, j.containsAt c.1 c.2.1 = true
  | [] => iff_of_true rfl fun _ h => nomatch h
  | c :: checks => by
    rw [validateKeys_cons, List.forall_mem_cons]
    by_cases hc : j.containsAt c.1 c.2.1 = true
    · rw [if_pos hc]
      exact ⟨fun h => ⟨hc, validateKeys_eq_ok.1 h⟩, fun h => validateKeys_eq_ok.2 h.2⟩
    · rw [if_neg hc]
      exact iff_of_false nofun fun h => hc h.1

/-- **Every error names the key it checks.** A row of checks fails with the message of its first
    check whose key is missing. -/
theorem validateKeys_eq_error {j : Json} {e : ConfigError} :
    ∀ {checks : List (List String × String × String)},
      validateKeys checks j = .error e ↔
        ∃ before path key message after, checks = before ++ (path, key, message) :: after ∧
          (∀ c ∈ before, j.containsAt c.1 c.2.1 = true) ∧ j.containsAt path key = false ∧
          e = .runtimeError message
  | [] => iff_of_false nofun fun ⟨before, _, _, _, _, h, _⟩ => by simp at h
  | c :: checks => by
    rw [validateKeys_cons]
    by_cases hc : j.containsAt c.1 c.2.1 = true
    · -- the first key is there: the rest of the row decides
      rw [if_pos hc, pure_bind, validateKeys_eq_error]
      constructor
      · rintro ⟨before, p, k, m, after, rfl, hb, hf, he⟩
        exact ⟨c :: before, p, k, m, after, rfl, List.forall_mem_cons.2 ⟨hc, hb⟩, hf, he⟩
      · rintro ⟨_ | ⟨c', before⟩, p, k, m, after, h, hb, hf, he⟩
        · cases h
          exact absurd hc (by rw [hf]; decide)
        · cases h
          exact ⟨before, p, k, m, after, rfl, (List.forall_mem_cons.1 hb).2, hf, he⟩
    · -- the first key is missing: its message
      rw [if_neg hc]
      constructor
      · rintro ⟨⟩
        exact ⟨[], c.1, c.2.1, c.2.2, checks, rfl, nofun, by simpa using hc, rfl⟩
      · rintro ⟨_ | ⟨c', before⟩, p, k, m, after, h, hb, hf, rfl⟩
        · cases h
          rfl
        · cases h
          exact absurd (hb _ (List.mem_cons_self _ _)) hc

example :
    validateConfig (.object [
      ("model", .object [("input_channels", .numberInteger 3), ("num_classes", .numberInteger 10)]),
      ("training", .object [("batch_size", .numberInteger 32), ("num_epochs", .numberInteger 5),
        ("steps_per_epoch", .numberInteger 100), ("learning_rate", .numberFloat (1 / 1000))]),
      ("distributed", .object [("num_nodes", .numberInteger 10), ("use_localhost", .boolean true),
        ("host", .string "127.0.0.1"), ("port", .numberInteger 29500),
        ("bandwidth_limit", .numberFloat 10)]),
      ("topology", .object [("type", .string "ring"), ("num_nodes", .numberInteger 10),
        ("permutations", .array [.numberInteger 0, .numberInteger 5])]),
      ("logging", .object [("log_dir", .string "results"), ("enable_metrics", .boolean true)])])
      = .error (.runtimeError "Missing run_first_batch") := rfl

/-! ## Reading a validated configuration -/

/-- What `validate_config` found in the configuration of every parser. -/
theorem ConfigParser.checked (p : ConfigParser) :
    ∀ c ∈ configChecks, p.json.containsAt c.1 c.2.1 = true :=
  validateKeys_eq_ok.1 p.valid

theorem ConfigParser.getTrainingConfig_errors (p : ConfigParser) :
    ErrorsIn ConfigError.IsConversion p.getTrainingConfig := by
  have hc := p.checked
  simp only [configChecks, List.forall_mem_cons] at hc
  obtain ⟨-, h₁, h₂, h₃, h₄, -⟩ := hc
  exact .bind (Json.read_errors_of_containsAt h₁ Json.getInt_errors) fun _ =>
    .bind (Json.read_errors_of_containsAt h₂ Json.getInt_errors) fun _ =>
    .bind (Json.read_errors_of_containsAt h₃ Json.getFloat_errors) fun _ =>
    .bind (Json.read_errors_of_containsAt h₄ Json.getBool_errors) fun _ => .of_ok rfl

theorem ConfigParser.getLoggingConfig_errors (p : ConfigParser) :
    ErrorsIn ConfigError.IsConversion p.getLoggingConfig := by
  have hc := p.checked
  simp only [configChecks, List.forall_mem_cons] at hc
  obtain ⟨-, -, -, -, -, -, -, -, -, -, -, h₁, h₂, -⟩ := hc
  exact .bind (Json.read_errors_of_containsAt h₁ Json.getString_errors) fun _ =>
    .bind (Json.read_errors_of_containsAt h₂ Json.getString_errors) fun _ => .of_ok rfl

theorem ConfigParser.getDistributedConfig_errors (p : ConfigParser) :
    ErrorsIn (fun e => e.IsConversion ∨
        p.json.containsAt ["distributed"] "topology_config_file" = false ∧
          ((∃ key ∈ ["num_nodes", "topology", "type"], e = .missingKey key) ∨
            ∃ what, e = .typeError 305 what))
      p.getDistributedConfig := by
  have hc := p.checked
  simp only [configChecks, List.forall_mem_cons] at hc
  obtain ⟨-, -, -, -, -, h₅, h₆, h₇, h₈, h₉, -⟩ := hc
  refine .bind ((Json.read_errors_of_containsAt h₆ Json.getBool_errors).mono fun _ => .inl)
    fun _ => .bind ((Json.read_errors_of_containsAt h₇ Json.getString_errors).mono fun _ => .inl)
    fun _ => .bind ((Json.read_errors_of_containsAt h₈ Json.getInt_errors).mono fun _ => .inl)
    fun _ => .bind ((Json.read_errors_of_containsAt h₉ Json.getFloat_errors).mono fun _ => .inl)
    fun _ => ?_
  split
  · -- a topology file, which `validate_topology_config` checked
    next hf =>
    have ht := validateKeys_eq_ok.1 (p.topologyValid hf)
    simp only [topologyChecks, List.forall_mem_cons] at ht
    obtain ⟨t₁, t₂, t₃, -⟩ := ht
    exact .bind ((Json.read_errors_of_containsAt t₁ Json.getInt_errors).mono fun _ => .inl)
      fun _ => .bind ((Json.read_errors_of_containsAt t₂ Json.getString_errors).mono
        fun _ => .inl)
      fun _ => .bind ((Json.read_errors_of_containsAt t₃ Json.getIntVector_errors).mono
        fun _ => .inl) fun _ => .of_ok rfl
  · -- no topology file: `distributed.num_nodes` and `distributed.topology.type`, unchecked
    next hf =>
    obtain ⟨d, hd⟩ := Json.atPath_of_containsAt h₅
    have hat : p.json.at "distributed" = .ok d := by
      rw [← hd]
      exact (bind_pure _).symm
    have unchecked {β : Type} (path : List String) {get : Json → Except ConfigError β}
        (hpath : ∀ key ∈ path, key ∈ ["num_nodes", "topology", "type"])
        (hget : ∀ value, ErrorsIn ConfigError.IsConversion (get value)) :
        ErrorsIn (fun e => e.IsConversion ∨
            p.json.containsAt ["distributed"] "topology_config_file" = false ∧
              ((∃ key ∈ ["num_nodes", "topology", "type"], e = .missingKey key) ∨
                ∃ what, e = .typeError 305 what))
          (p.json.read ("distributed" :: path) get) := by
      rw [Json.read, Json.atPath_cons_of hat]
      exact .bind ((d.atPath_errors path).mono fun _ h => .inr ⟨Bool.eq_false_iff.2 hf,
          h.imp_left fun ⟨key, hk, h⟩ => ⟨key, hpath key hk, h⟩⟩)
        fun value => (hget value).mono fun _ => .inl
    exact .bind (unchecked ["num_nodes"] (by simp) Json.getInt_errors) fun _ =>
      .bind (unchecked ["topology", "type"] (by simp) Json.getString_errors) fun _ => .of_ok rfl

/-- **What reading the configuration can fail on.** On every parser the constructor builds,
    `get_training_config`, `get_logging_config`, and `get_distributed_config` when the
    configuration names a topology file, fail only in a conversion: `operator[]` finds every key
    they read. Without a topology file, `get_distributed_config` also reads
    `distributed.num_nodes` and `distributed.topology.type`, which no check covers; there it can
    reach `operator[]` on a missing key, or on a `topology` that is not an object. -/
theorem parser_reads (p : ConfigParser) :
    ErrorsIn ConfigError.IsConversion p.getTrainingConfig ∧
      ErrorsIn ConfigError.IsConversion p.getLoggingConfig ∧
      ErrorsIn (fun e => e.IsConversion ∨
          p.json.containsAt ["distributed"] "topology_config_file" = false ∧
            ((∃ key ∈ ["num_nodes", "topology", "type"], e = .missingKey key) ∨
              ∃ what, e = .typeError 305 what))
        p.getDistributedConfig :=
  ⟨p.getTrainingConfig_errors, p.getLoggingConfig_errors, p.getDistributedConfig_errors⟩

theorem parser_reads_at :
    ∃ p : ConfigParser, ConfigParser.create (.object [
        ("training", .object [("num_epochs", .numberInteger 5),
          ("steps_per_epoch", .numberInteger 100), ("learning_rate", .numberFloat (1 / 1000)),
          ("run_first_batch", .boolean false)]),
        ("distributed", .object [("use_localhost", .boolean true),
          ("host", .string "127.0.0.1"), ("port", .numberInteger 29500),
          ("bandwidth_limit", .numberFloat 10), ("topology", .object [("type", .string "ring")])]),
        ("logging", .object [("level", .string "info"), ("output_dir", .string "results")])])
        (fun _ => none) = .ok p ∧
      p.getDistributedConfig = .error (.missingKey "num_nodes") ∧
      ((ConfigError.missingKey "num_nodes").IsConversion ∨
        p.json.containsAt ["distributed"] "topology_config_file" = false ∧
          ((∃ key ∈ ["num_nodes", "topology", "type"],
              ConfigError.missingKey "num_nodes" = .missingKey key) ∨
            ∃ what, ConfigError.missingKey "num_nodes" = .typeError 305 what)) :=
  ⟨_, rfl, rfl, (parser_reads _).2.2 _ rfl⟩

/-! ## The trainer's constructor -/

theorem ConfigParser.create_json {json : Json} {files : String → Option Json} {p : ConfigParser}
    (h : ConfigParser.create json files = .ok p) : p.json = json := by
  unfold ConfigParser.create at h
  split at h
  · cases h
  split at h
  · obtain ⟨path, -, h⟩ := bind_eq_ok.1 h
    split at h
    · cases h
    split at h
    · cases h
      rfl
    · cases h
  · cases h
    rfl

/-- Without a topology file, the topology is `distributed.topology.type` over
    `distributed.num_nodes` nodes, with the single rotation `0`. -/
theorem ConfigParser.getDistributedConfig_main {p : ConfigParser} {d : DistributedConfig}
    (hno : p.json.containsAt ["distributed"] "topology_config_file" = false)
    (h : p.getDistributedConfig = .ok d) :
    d.topology.permutations = [0] ∧
      p.json.read ["distributed", "num_nodes"] Json.getInt = .ok d.topology.numNodes ∧
      p.json.read ["distributed", "topology", "type"] Json.getString = .ok d.topology.type := by
  unfold ConfigParser.getDistributedConfig at h
  obtain ⟨_, -, h⟩ := bind_eq_ok.1 h
  obtain ⟨_, -, h⟩ := bind_eq_ok.1 h
  obtain ⟨_, -, h⟩ := bind_eq_ok.1 h
  obtain ⟨_, -, h⟩ := bind_eq_ok.1 h
  rw [hno, if_neg Bool.false_ne_true] at h
  obtain ⟨numNodes, hn, h⟩ := bind_eq_ok.1 h
  obtain ⟨type, htype, h⟩ := bind_eq_ok.1 h
  cases h
  exact ⟨rfl, hn, htype⟩

theorem DistributedConfig.eq_of_copy {d d' : DistributedConfig} (h : d.copy = .ok d') : d' = d := by
  unfold DistributedConfig.copy at h
  split at h <;> cases h
  rfl

/-- `fromConfig` keeps what `fromSettings` builds. -/
theorem DistributedTrainer.fromConfig_eq_ok {rank size : Int} {config : Json}
    {files : String → Option Json} {parameterSize : Nat} {tr : DistributedTrainer}
    {training : TrainingConfig}
    (h : DistributedTrainer.fromConfig rank size config files parameterSize = .ok (tr, training)) :
    ∃ logging, DistributedTrainer.fromSettings rank size config files parameterSize
      = .ok (tr, training, logging) := by
  unfold DistributedTrainer.fromConfig at h
  rcases hs : DistributedTrainer.fromSettings rank size config files parameterSize with
    _ | ⟨tr', training', logging⟩ <;> rw [hs] at h <;> cases h
  exact ⟨logging, rfl⟩

/-- With a topology file, `num_nodes` is never assigned. -/
theorem ConfigParser.getDistributedConfig_file {p : ConfigParser} {d : DistributedConfig}
    (hfile : p.json.containsAt ["distributed"] "topology_config_file" = true)
    (h : p.getDistributedConfig = .ok d) : d.numNodes = none := by
  unfold ConfigParser.getDistributedConfig at h
  obtain ⟨_, -, h⟩ := bind_eq_ok.1 h
  obtain ⟨_, -, h⟩ := bind_eq_ok.1 h
  obtain ⟨_, -, h⟩ := bind_eq_ok.1 h
  obtain ⟨_, -, h⟩ := bind_eq_ok.1 h
  rw [hfile, if_pos rfl] at h
  obtain ⟨_, -, h⟩ := bind_eq_ok.1 h
  obtain ⟨_, -, h⟩ := bind_eq_ok.1 h
  obtain ⟨_, -, ⟨⟩⟩ := bind_eq_ok.1 h
  rfl

/-- **A topology file makes the constructor undefined.** No configuration that names a topology
    file reads: the parser or a getter fails, or `get_distributed_config` returns a `num_nodes` it
    never assigned, and copying it into `distributed_config_` is undefined. -/
theorem readConfig_topology_file {config : Json} {files : String → Option Json}
    (hfile : config.containsAt ["distributed"] "topology_config_file" = true)
    (r : TrainingConfig × DistributedConfig × LoggingConfig) : readConfig config files ≠ .ok r := by
  intro h
  obtain ⟨p, hp, h⟩ := bind_eq_ok.1 h
  obtain ⟨_, -, h⟩ := bind_eq_ok.1 h
  obtain ⟨d, hd, h⟩ := bind_eq_ok.1 h
  obtain ⟨_, hcopy, -⟩ := bind_eq_ok.1 h
  simp only [DistributedConfig.copy,
    ConfigParser.getDistributedConfig_file (ConfigParser.create_json hp ▸ hfile) hd] at hcopy
  cases hcopy

theorem readConfig_topology_file_at :
    ∃ config : Json, config = .object [
        ("training", .object [("num_epochs", .numberInteger 5),
          ("steps_per_epoch", .numberInteger 100), ("learning_rate", .numberFloat (1 / 1000)),
          ("run_first_batch", .boolean false)]),
        ("distributed", .object [("use_localhost", .boolean true),
          ("host", .string "127.0.0.1"), ("port", .numberInteger 29500),
          ("bandwidth_limit", .numberFloat 10),
          ("topology_config_file", .string "topology_config.json")]),
        ("logging", .object [("level", .string "info"), ("output_dir", .string "results")])] ∧
      config.containsAt ["distributed"] "topology_config_file" = true ∧
      (∀ r, readConfig config (fun _ => some (.object [("num_nodes", .numberInteger 4),
          ("topology_type", .string "ring"), ("permutations", .array [.numberInteger 0])]))
        ≠ .ok r) ∧
      readConfig config (fun _ => some (.object [("num_nodes", .numberInteger 4),
          ("topology_type", .string "ring"), ("permutations", .array [.numberInteger 0])]))
        = .error (.indeterminate "DistributedConfig::num_nodes") :=
  ⟨_, rfl, rfl, readConfig_topology_file rfl, rfl⟩

/-- The constructor keeps the topology configuration it was given, which has `size` nodes. -/
theorem DistributedTrainer.create_topology {rank size : Int} {config : TopologyConfig}
    {parameterSize : Nat} {tr : DistributedTrainer}
    (h : DistributedTrainer.create rank size config parameterSize = .ok tr) :
    tr.topology.config = config ∧ config.numNodes = size := by
  unfold DistributedTrainer.create at h
  split at h
  · cases h
  split at h
  · cases h
  rename_i hsize
  obtain ⟨topo, htopo, ⟨⟩⟩ := bind_eq_ok.1 h
  exact ⟨Topology.create_config htopo, not_not.1 hsize⟩

/-- **A configuration without a topology file makes one ring.** Every trainer the constructor
    builds from a configuration that names no topology file has the rotations `{0}`, over as many
    nodes as `distributed.num_nodes` says, which is the process count, and of the type
    `distributed.topology.type`: a ring topology has one ring, whatever else the file holds. -/
theorem fromConfig_single_ring {rank size : Int} {config : Json} {files : String → Option Json}
    {parameterSize : Nat} {tr : DistributedTrainer} {training : TrainingConfig}
    (h : DistributedTrainer.fromConfig rank size config files parameterSize = .ok (tr, training))
    (hno : config.containsAt ["distributed"] "topology_config_file" = false) :
    tr.topology.config.permutations = [0] ∧
      config.read ["distributed", "num_nodes"] Json.getInt = .ok size ∧
      config.read ["distributed", "topology", "type"] Json.getString
        = .ok tr.topology.config.type ∧
      tr.topology.getNumRings = if tr.topology.config.type = "ring" then 1 else 2 := by
  obtain ⟨_, h⟩ := DistributedTrainer.fromConfig_eq_ok h
  unfold DistributedTrainer.fromSettings at h
  split at h
  · cases h
  obtain ⟨⟨_, d, _⟩, hread, h⟩ := bind_eq_ok.1 h
  obtain ⟨tr', hcreate, ⟨⟩⟩ := bind_eq_ok.1 h
  obtain ⟨p, hp, hread⟩ := bind_eq_ok.1 (mapError_eq_ok.1 hread)
  obtain ⟨_, -, hread⟩ := bind_eq_ok.1 hread
  obtain ⟨d', hd, hread⟩ := bind_eq_ok.1 hread
  obtain ⟨_, hcopy, hread⟩ := bind_eq_ok.1 hread
  obtain ⟨_, -, ⟨⟩⟩ := bind_eq_ok.1 hread
  obtain rfl := DistributedConfig.eq_of_copy hcopy
  rw [← ConfigParser.create_json hp] at hno ⊢
  obtain ⟨hperm, hn, htype⟩ := ConfigParser.getDistributedConfig_main hno hd
  obtain ⟨hconfig, hsize⟩ := DistributedTrainer.create_topology hcreate
  have hrings := (initializeConnections_eq_ok.1 tr.topology.initialized).2
  rw [hconfig, hperm] at hrings
  rw [hconfig]
  exact ⟨hperm, hsize ▸ hn, htype, hrings⟩

theorem fromConfig_single_ring_at :
    ∃ config : Json, config = .object [
        ("training", .object [("num_epochs", .numberInteger 5),
          ("steps_per_epoch", .numberInteger 100), ("learning_rate", .numberFloat (1 / 1000)),
          ("run_first_batch", .boolean false)]),
        ("distributed", .object [("num_nodes", .numberInteger 4), ("use_localhost", .boolean true),
          ("host", .string "127.0.0.1"), ("port", .numberInteger 29500),
          ("bandwidth_limit", .numberFloat 10), ("topology", .object [("type", .string "ring")])]),
        ("logging", .object [("level", .string "info"), ("output_dir", .string "results")])] ∧
      ∃ tr training,
        DistributedTrainer.fromConfig 1 4 config (fun _ => none) 1000 = .ok (tr, training) ∧
        config.containsAt ["distributed"] "topology_config_file" = false ∧
        tr.topology.config.permutations = [0] ∧
        config.read ["distributed", "num_nodes"] Json.getInt = .ok 4 ∧
        config.read ["distributed", "topology", "type"] Json.getString
          = .ok tr.topology.config.type ∧
        tr.topology.getNumRings = if tr.topology.config.type = "ring" then 1 else 2 :=
  ⟨_, rfl, _, _, rfl, rfl,
    @fromConfig_single_ring 1 4 _ (fun _ => none) 1000 _ _ (by rfl) (by rfl)⟩

end Gloo.Example
