import Mathlib
import Udma.Transition.Raises

/-!
# The topology compiler

`compile_topology` takes a JSON value to a launch plan or refuses it with a `TopologyError`.
A JSON value is what `json.loads` returns, so that its objects are dictionaries, and an
operation on a value of another type raises the exception that Python raises.
-/

namespace Udma.Lab

open Udma.Transition

/-! ## Values and exceptions -/

/-- A JSON value.  Of the entries of an object under one name the first is meant. -/
inductive Json where
  | null
  | bool (value : Bool)
  | int (value : Int)
  | float (digits : String)
  | str (text : String)
  | arr (items : List Json)
  | obj (entries : List (String × Json))

abbrev Fields := List (String × Json)

/-- The text that the value compares equal to. -/
def Json.string? : Json → Option String
  | .str text => some text
  | _ => none

/-- A list and a dictionary have no `__hash__`. -/
def Json.hashable : Json → Bool
  | .arr _ | .obj _ => false
  | _ => true

/-- What a `TopologyError` says. -/
inductive Diagnostic where
  | text (message : String)
  /-- `{place}: unknown fields {sorted(extra)}; missing fields {sorted(missing)}`. -/
  | fields (place : String) (extra missing : List String)

inductive Raised where
  | topologyError (diagnostic : Diagnostic)
  | typeError
  | keyError
  | indexError

/-- `raise TopologyError(message)`. -/
abbrev refusal (message : String) : Raised := .topologyError (.text message)

/-- `fields[name]`. -/
def item (fields : Fields) (name : String) : Except Raised Json :=
  match fields.lookup name with
  | some value => .ok value
  | none => .error .keyError

/-- `table[key]`. -/
def entry {Key Value : Type} [DecidableEq Key] (table : List (Key × Value)) (key : Key) :
    Except Raised Value :=
  match table.lookup key with
  | some value => .ok value
  | none => .error .keyError

/-- `items[0]`, or `items.pop()` of a set: what is raised where there is none differs. -/
def first {Value : Type} (missing : Raised) : List Value → Except Raised Value
  | value :: _ => .ok value
  | [] => .error missing

/-! ## The checks -/

namespace Check

def sorted (names : List String) : List String := names.dedup.mergeSort

/-- `_fields`. -/
def fields (value : Json) (allowed required : List String) (place : String) :
    Except Raised Fields :=
  match value with
  | .obj entries =>
      let extra := (entries.map Prod.fst).filter (· ∉ allowed)
      let missing := required.filter (· ∉ entries.map Prod.fst)
      if extra ≠ [] ∨ missing ≠ [] then
        .error (.topologyError (.fields place (sorted extra) (sorted missing)))
      else .ok entries
  | _ => .error (refusal s!"{place} must be an object")

/-- `_list`. -/
def list (value : Json) (place : String) : Except Raised (List Json) :=
  match value with
  | .arr (first :: rest) => .ok (first :: rest)
  | _ => .error (refusal s!"{place} must be a non-empty array")

/-- `_integer`. -/
def integer (value : Json) (place : String) (minimum : Nat) : Except Raised Nat :=
  match value with
  | .int number =>
      if number < minimum then .error (refusal s!"{place} must be an integer >= {minimum}")
      else .ok number.toNat
  | _ => .error (refusal s!"{place} must be an integer >= {minimum}")

def nameChar (char : Char) : Bool := char.isAlphanum || char == '_' || char == '-'

/-- `_name`. -/
def name (value : Json) (place : String) : Except Raised String :=
  match value with
  | .str text =>
      if text = "" ∨ ¬ text.toList.all nameChar then
        .error (refusal s!"{place} must use letters, digits, '_' or '-'")
      else .ok text
  | _ => .error (refusal s!"{place} must use letters, digits, '_' or '-'")

/-- `_choice`. -/
def choice (value : Json) (choices : List String) (place : String) : Except Raised String :=
  let message := place ++ " must be one of " ++ ", ".intercalate (sorted choices)
  match value with
  | .str text => if text ∈ choices then .ok text else .error (refusal message)
  | _ => .error (refusal message)

end Check

/-! ## Nodes -/

def qemuCpus : List String :=
  ["cortex-a53", "cortex-a57", "cortex-a72", "cortex-a76", "cortex-a710", "neoverse-n1",
    "neoverse-n2", "neoverse-v1", "max"]

structure Machine where
  cpu : String
  cores : Nat
  memoryMib : Nat
  deriving DecidableEq

/-- What the loop over the nodes has collected; a list stands for a set where elements are
added with `insert`. -/
structure Nodes where
  names : List String := []
  simulators : List String := []
  profiles : List String := []
  /-- `node["profile"]` of every gem5 node. -/
  gem5 : List String := []
  qemu : List Machine := []
  deriving DecidableEq

def compileGem5Node (name : String) (node : Fields) (nodes : Nodes) : Except Raised Nodes := do
  raiseIf (["cpu", "cores", "memory_mib"].any fun field => (node.lookup field).isSome)
    (refusal s!"{name}: gem5 per-node CPU and memory settings are not supported yet")
  let profile ← Check.choice ((node.lookup "profile").getD .null)
    ["fast", "kvm", "server", "modern", "udma400"] s!"{name}.profile"
  return { nodes with
    profiles := nodes.profiles.insert profile
    gem5 := nodes.gem5 ++ [profile] }

def compileQemuNode (name : String) (node : Fields) (nodes : Nodes) : Except Raised Nodes := do
  raiseIf ((node.lookup "profile").isSome)
    (refusal s!"{name}: QEMU uses cpu, cores and memory_mib, not profile")
  let cpu ← Check.choice ((node.lookup "cpu").getD (.str "cortex-a72")) qemuCpus s!"{name}.cpu"
  let cores ← Check.integer ((node.lookup "cores").getD (.int 1)) s!"{name}.cores" 1
  let memoryMib ←
    Check.integer ((node.lookup "memory_mib").getD (.int 1024)) s!"{name}.memory_mib" 512
  raiseIf (16 < cores ∨ 8192 < memoryMib)
    (refusal s!"{name}: QEMU limit is 16 cores and 8192 MiB per node")
  return { nodes with qemu := nodes.qemu ++ [⟨cpu, cores, memoryMib⟩] }

def compileNode (index : Nat) (raw : Json) (nodes : Nodes) : Except Raised Nodes := do
  let node ← Check.fields raw ["id", "simulator", "profile", "cpu", "cores", "memory_mib"]
    ["id", "simulator"] s!"nodes[{index}]"
  let name ← Check.name (← item node "id") s!"nodes[{index}].id"
  raiseIf (name ∈ nodes.names) (refusal s!"duplicate node id {name}")
  let simulator ← Check.choice (← item node "simulator") ["gem5", "qemu"] s!"{name}.simulator"
  let nodes := { nodes with
    names := nodes.names ++ [name]
    simulators := nodes.simulators.insert simulator }
  if simulator = "gem5" then compileGem5Node name node nodes
  else compileQemuNode name node nodes

def compileNodes : Nat → List Json → Nodes → Except Raised Nodes
  | _, [], nodes => .ok nodes
  | index, raw :: rest, nodes => do
      compileNodes (index + 1) rest (← compileNode index raw nodes)

/-! ## Machine and switch -/

/-- `_integer`, where the field is there, and a limit. -/
def checkLimit (machine : Fields) (field message : String) (minimum limit : Nat) :
    Except Raised Unit :=
  match machine.lookup field with
  | none => .ok ()
  | some value => do
      let number ← Check.integer value s!"machine.{field}" minimum
      raiseIf (limit < number) (refusal message)

def compileMachine (simulator : String) (spec : Fields) : Except Raised Fields :=
  match spec.lookup "machine" with
  | none => .ok []
  | some raw => do
      raiseIf (simulator ≠ "gem5")
        (refusal "machine CPU tuning is currently supported only for gem5")
      let machine ← Check.fields raw
        ["o3_lq_entries", "o3_sq_entries", "l1d_prefetcher", "memory_size_gb"] [] "machine"
      checkLimit machine "memory_size_gb" "machine.memory_size_gb exceeds 128" 4 128
      checkLimit machine "o3_lq_entries" "machine.o3_lq_entries exceeds gem5 launcher limit" 1 1024
      checkLimit machine "o3_sq_entries" "machine.o3_sq_entries exceeds gem5 launcher limit" 1 1024
      match machine.lookup "l1d_prefetcher" with
      | none => .ok machine
      | some value => do
          let _ ← Check.choice value
            ["none", "stride", "stride_exclusive", "stride_exclusive_d4", "stride_exclusive_xpage"]
            "machine.l1d_prefetcher"
          return machine

structure Switch where
  name : String
  delayNs : Nat
  deriving DecidableEq

/-- The switch, or none for a direct link. -/
def compileSwitch : List Json → Except Raised (Option Switch)
  | [] => .ok none
  | raw :: _ => do
      let switch ← Check.fields raw ["id", "type", "delay_ns"] ["id", "type", "delay_ns"]
        "switches[0]"
      let name ← Check.name (← item switch "id") "switches[0].id"
      raiseIf ((← item switch "type").string? ≠ some "ns3ub")
        (refusal "switches[0].type must be ns3ub")
      let delayNs ← Check.integer (← item switch "delay_ns") "switches[0].delay_ns" 0
      return some ⟨name, delayNs⟩

/-! ## Devices -/

/-- What the loop over the devices has collected.  Of the objects in `by_node` and `by_device`
only the device and the node are read again. -/
structure Devices where
  byNode : List (String × String) := []
  byDevice : List (String × String) := []
  counts : List Nat := []
  limits : List Nat := []
  specifiedLimits : Nat := 0
  deriving DecidableEq

/-- The node of a device: one of the names, and still without a device. -/
def nodeOf (nodes : Nodes) (devices : Devices) (name : String) (value : Json) :
    Except Raised String :=
  let message := s!"{name}: node must exist and have exactly one UDMA device"
  match value.string? with
  | none => .error (refusal message)
  | some node =>
      if node ∉ nodes.names ∨ node ∈ devices.byNode.map Prod.fst then .error (refusal message)
      else .ok node

def compileDevice (simulator : String) (nodes : Nodes) (switch : Option Switch) (index : Nat)
    (raw : Json) (devices : Devices) : Except Raised Devices := do
  let device ← Check.fields raw ["id", "node", "type", "eid", "ports", "max_jettys"]
    ["id", "node", "type", "eid", "ports"] s!"devices[{index}]"
  let name ← Check.name (← item device "id") s!"devices[{index}].id"
  raiseIf (name ∈ devices.byDevice.map Prod.fst ∨ switch.map Switch.name = some name)
    (refusal s!"duplicate component id {name}")
  let node ← nodeOf nodes devices name (← item device "node")
  raiseIf ((← item device "type").string? ≠ some "udma")
    (refusal s!"{name}: only UDMA devices are supported")
  let eid := 0x100 + nodes.names.idxOf node
  raiseIf ((← Check.integer (← item device "eid") s!"{name}.eid" 0) ≠ eid)
    (refusal s!"{name}: current launcher requires EID {eid}")
  let count ← Check.integer (← item device "ports") s!"{name}.ports" 1
  raiseIf ((if simulator = "gem5" then 16 else 8) < count)
    (refusal s!"{name}: port count exceeds current {simulator} limit")
  let devices := { devices with
    byNode := devices.byNode ++ [(node, name)]
    byDevice := devices.byDevice ++ [(name, node)]
    counts := devices.counts.insert count }
  match device.lookup "max_jettys" with
  | none => return devices
  | some value => do
      let limit ← Check.integer value s!"{name}.max_jettys" 2
      raiseIf (65535 < limit) (refusal s!"{name}.max_jettys exceeds the device limit 65535")
      return { devices with
        limits := devices.limits.insert limit
        specifiedLimits := devices.specifiedLimits + 1 }

def compileDevices (simulator : String) (nodes : Nodes) (switch : Option Switch) :
    Nat → List Json → Devices → Except Raised Devices
  | _, [], devices => .ok devices
  | index, raw :: rest, devices => do
      compileDevices simulator nodes switch (index + 1) rest
        (← compileDevice simulator nodes switch index raw devices)

/-! ## Everything before the links -/

structure Prepared where
  name : String
  sync : String
  checkpoint : String
  simulator : String
  nodes : Nodes
  machine : Fields
  switch : Option Switch
  devices : Devices
  portCount : Nat
  links : List Json

/-- `switches`, which may be empty. -/
def switchList : Json → Except Raised (List Json)
  | .arr switches => .ok switches
  | _ => .error (refusal "switches must be an array")

/-- `schema_version` is the integer 1. -/
def schemaVersion : Json → Except Raised Unit
  | .int 1 => .ok ()
  | _ => .error (refusal "only schema_version 1 is supported")

/-- The simulator of all nodes. -/
def compileSimulator (nodes : Nodes) (checkpoint : String) : Except Raised String := do
  raiseIf (nodes.simulators.length ≠ 1)
    (refusal "mixed gem5/QEMU nodes need a new synchronized launcher")
  let simulator ← first .keyError nodes.simulators
  raiseIf (simulator = "gem5" ∧ ¬ (2 ≤ nodes.names.length ∧ nodes.names.length ≤ 8))
    (refusal "current gem5 launcher supports 2..8 nodes")
  raiseIf (simulator = "qemu" ∧ ¬ (2 ≤ nodes.names.length ∧ nodes.names.length ≤ 8))
    (refusal "current QEMU launcher supports 2..8 nodes")
  raiseIf (1 < nodes.profiles.length)
    (refusal "current gem5 launcher requires one shared machine profile")
  raiseIf (simulator = "qemu" ∧ checkpoint ≠ "none")
    (refusal "current QEMU launcher does not support checkpoint restore")
  return simulator

/-- The port count of all devices, which are one for each node. -/
def compilePortCount (nodes : Nodes) (devices : Devices) (deviceCount : Nat) :
    Except Raised Nat := do
  raiseIf (devices.byNode.length ≠ nodes.names.length ∨ deviceCount ≠ nodes.names.length)
    (refusal "current launcher requires exactly one UDMA device per node")
  raiseIf (devices.counts.length ≠ 1 ∨ 1 < devices.limits.length ∨
      ¬ (devices.specifiedLimits = 0 ∨ devices.specifiedLimits = deviceCount))
    (refusal "current launcher requires equal port and Jetty limits on all devices")
  first .keyError devices.counts

def prepare (raw : Json) : Except Raised Prepared := do
  let spec ← Check.fields raw
    ["schema_version", "name", "nodes", "devices", "switches", "links", "execution", "machine"]
    ["schema_version", "name", "nodes", "devices", "switches", "links", "execution"] "topology"
  schemaVersion (← item spec "schema_version")
  let name ← Check.name (← item spec "name") "name"
  let rawNodes ← Check.list (← item spec "nodes") "nodes"
  let rawDevices ← Check.list (← item spec "devices") "devices"
  let switches ← switchList (← item spec "switches")
  let links ← Check.list (← item spec "links") "links"
  let execution ← Check.fields (← item spec "execution") ["sync", "checkpoint"]
    ["sync", "checkpoint"] "execution"
  let sync ← Check.choice (← item execution "sync") ["off", "required"] "execution.sync"
  let checkpoint ←
    Check.choice (← item execution "checkpoint") ["none", "auto"] "execution.checkpoint"
  let nodes ← compileNodes 0 rawNodes {}
  let simulator ← compileSimulator nodes checkpoint
  let machine ← compileMachine simulator spec
  raiseIf (1 < switches.length) (refusal "current ns-3 adapter supports at most one switch")
  let switch ← compileSwitch switches
  let devices ← compileDevices simulator nodes switch 0 rawDevices {}
  let portCount ← compilePortCount nodes devices rawDevices.length
  return ⟨name, sync, checkpoint, simulator, nodes, machine, switch, devices, portCount, links⟩

/-! ## Links -/

structure NodeLink where
  rateGbps : Nat
  latencyNs : Nat
  deriving DecidableEq

/-- `{device, peer} == set(by_device)`, of which neither may be a list or a dictionary. -/
def joins (device peer : Json) (names : List String) : Except Raised Bool := do
  raiseIf (¬ (device.hashable ∧ peer.hashable)) .typeError
  let ends := [device.string?, peer.string?]
  return ends.all (fun text => text.any (· ∈ names)) && names.all (fun name => some name ∈ ends)

def directFields : List String :=
  ["device", "device_port", "peer_device", "peer_port", "rate_gbps", "latency_ns"]

def directLink (prepared : Prepared) : Except Raised (List NodeLink) := do
  raiseIf (prepared.nodes.names.length ≠ 2 ∨ prepared.portCount ≠ 1 ∨ prepared.links.length ≠ 1)
    (refusal "direct UB link requires two nodes, one port each and one link")
  let raw ← first .indexError prepared.links
  let link ← Check.fields raw directFields directFields "links[0]"
  let joined ← joins (← item link "device") (← item link "peer_device")
    (prepared.devices.byDevice.map Prod.fst)
  raiseIf (¬ joined) (refusal "direct UB link must connect the two distinct UDMA devices")
  -- The port of the peer is not looked at when the first one is wrong.
  let devicePort ← Check.integer (← item link "device_port") "links[0].device_port" 0
  raiseIf (devicePort ≠ 0) (refusal "direct UB link must use port 0 on both devices")
  let peerPort ← Check.integer (← item link "peer_port") "links[0].peer_port" 0
  raiseIf (peerPort ≠ 0) (refusal "direct UB link must use port 0 on both devices")
  let rate ← Check.integer (← item link "rate_gbps") "links[0].rate_gbps" 1
  let latency ← Check.integer (← item link "latency_ns") "links[0].latency_ns" 2
  raiseIf (100000 < rate ∨ 1000000000 < latency)
    (refusal "direct UB link rate or delay exceeds launcher limit")
  return [⟨rate, latency / 2⟩, ⟨rate, latency - latency / 2⟩]

/-- What the loop over the links has collected. -/
structure Links where
  devicePorts : List (String × Nat) := []
  switchPorts : List Nat := []
  byDevice : List (String × NodeLink) := []
  deriving DecidableEq

/-- The device of a link: `link["device"] not in by_device or link["switch"] != switch_name`,
of which the first hashes its value. -/
def linkDevice (prepared : Prepared) (place : String) (link : Fields) : Except Raised String := do
  let device ← item link "device"
  raiseIf (¬ device.hashable) .typeError
  match device.string? with
  | none => .error (refusal s!"{place}: unknown device or switch")
  | some name => do
      raiseIf (name ∉ prepared.devices.byDevice.map Prod.fst)
        (refusal s!"{place}: unknown device or switch")
      raiseIf ((← item link "switch").string? ≠ prepared.switch.map Switch.name)
        (refusal s!"{place}: unknown device or switch")
      return name

def linkFields : List String :=
  ["device", "device_port", "switch", "switch_port", "rate_gbps", "latency_ns"]

def compileLink (prepared : Prepared) (index : Nat) (raw : Json) (links : Links) :
    Except Raised Links := do
  let place := s!"links[{index}]"
  let link ← Check.fields raw linkFields linkFields place
  let name ← linkDevice prepared place link
  let devicePort ← Check.integer (← item link "device_port") s!"{place}.device_port" 0
  let switchPort ← Check.integer (← item link "switch_port") s!"{place}.switch_port" 0
  raiseIf (prepared.portCount ≤ devicePort) (refusal s!"{place}: device port out of range")
  let node ← entry prepared.devices.byDevice name
  let requiredPort := prepared.nodes.names.idxOf node * prepared.portCount + devicePort
  raiseIf (switchPort ≠ requiredPort)
    (refusal s!"{place}: current adapter maps this port to switch port {requiredPort}")
  raiseIf ((name, devicePort) ∈ links.devicePorts ∨ switchPort ∈ links.switchPorts)
    (refusal s!"{place}: port is connected more than once")
  let rate ← Check.integer (← item link "rate_gbps") s!"{place}.rate_gbps" 1
  let latency ← Check.integer (← item link "latency_ns") s!"{place}.latency_ns" 1
  raiseIf (100000 < rate ∨ 1000000000 < latency)
    (refusal s!"{place}: rate or propagation delay exceeds launcher limit")
  let links := { links with
    devicePorts := links.devicePorts ++ [(name, devicePort)]
    switchPorts := links.switchPorts ++ [switchPort] }
  match links.byDevice.lookup name with
  | none => return { links with byDevice := links.byDevice ++ [(name, ⟨rate, latency⟩)] }
  | some previous => do
      raiseIf (previous ≠ ⟨rate, latency⟩)
        (refusal s!"{place}: all ports of one device currently need the same rate and delay")
      return links

def compileLinks (prepared : Prepared) : Nat → List Json → Links → Except Raised Links
  | _, [], links => .ok links
  | index, raw :: rest, links => do
      compileLinks prepared (index + 1) rest (← compileLink prepared index raw links)

def switchLinks (prepared : Prepared) : Except Raised (List NodeLink) := do
  raiseIf (prepared.links.length ≠ prepared.nodes.names.length * prepared.portCount)
    (refusal "every device port needs one dedicated switch link")
  let links ← compileLinks prepared 0 prepared.links {}
  prepared.nodes.names.mapM fun node => do
    entry links.byDevice (← entry prepared.devices.byNode node)

/-- The rate and the latency of each node. -/
def compileNodeLinks (prepared : Prepared) : Except Raised (List NodeLink) :=
  if prepared.switch.isNone then directLink prepared else switchLinks prepared

/-! ## The plan -/

inductive Machines where
  | qemu (machines : List Machine)
  /-- The profile of each node, and the machine that they share. -/
  | gem5 (profiles : List String) (machine : Fields)

structure Plan where
  name : String
  simulator : String
  nodeIds : List String
  deviceIds : List String
  switchId : Option String
  fabricLayout : String
  backend : String
  portCount : Nat
  maxJettys : Nat
  jettyLimitExplicit : Bool
  switchDelayNs : Nat
  sync : String
  checkpoint : String
  nodeLinks : List NodeLink
  machines : Machines

/-- `compile_topology`. -/
def compileTopology (raw : Json) : Except Raised Plan := do
  let prepared ← prepare raw
  let nodeLinks ← compileNodeLinks prepared
  let deviceIds ← prepared.nodes.names.mapM (entry prepared.devices.byNode)
  return {
    name := prepared.name
    simulator := prepared.simulator
    nodeIds := prepared.nodes.names
    deviceIds
    switchId := prepared.switch.map Switch.name
    fabricLayout := if prepared.switch.isNone then "direct" else "switch"
    backend := "native-json"
    portCount := prepared.portCount
    maxJettys := prepared.devices.limits.headD
      (if prepared.simulator = "qemu" ∨ "modern" ∈ prepared.nodes.profiles then 47 else 1152)
    jettyLimitExplicit := !prepared.devices.limits.isEmpty
    switchDelayNs := (prepared.switch.map Switch.delayNs).getD 0
    sync := prepared.sync
    checkpoint := prepared.checkpoint
    nodeLinks
    machines := if prepared.simulator = "qemu" then .qemu prepared.nodes.qemu
      else .gem5 prepared.nodes.gem5 prepared.machine }

/-- How `./lab topology validate` ends on the value of a file. -/
inductive Ending where
  | valid
  | diagnostic (diagnostic : Diagnostic)
  | traceback (raised : Raised)

def validate (raw : Json) : Ending :=
  match compileTopology raw with
  | .ok _ => .valid
  | .error (.topologyError diagnostic) => .diagnostic diagnostic
  | .error raised => .traceback raised

end Udma.Lab
