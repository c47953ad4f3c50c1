import Mathlib
import Udma.Lab.Topology

/-!
# What the topology compiler has checked

For each loop and each phase of `compile_topology`, what is known where it returns.
-/

namespace Udma.Lab

open Udma.Transition

/-! ## The checks -/

section Checks

variable {value : Json} {place name : String} {choices allowed required : List String}
  {fields : Fields}

/-- A required field is there. -/
theorem item_of_fields (checked : Check.fields value allowed required place = .ok fields)
    (needed : name ∈ required) : ∃ found, item fields name = .ok found := by
  unfold Check.fields at checked
  split at checked
  next entries =>
    dsimp only at checked
    split at checked
    · cases checked
    next complete =>
      obtain rfl := Except.ok.inj checked
      have present : name ∈ entries.map Prod.fst := by
        by_contra absent
        exact complete (.inr (List.ne_nil_of_mem
          (List.mem_filter.mpr ⟨needed, by simpa using absent⟩)))
      unfold item
      cases found : entries.lookup name with
      | some value => exact ⟨value, rfl⟩
      | none =>
          obtain ⟨⟨other, value⟩, listed, rfl⟩ := List.mem_map.mp present
          have missing := List.lookup_eq_none_iff.mp found (other, value) listed
          simp at missing
  · cases checked

theorem le_of_integer {minimum number : Nat}
    (checked : Check.integer value place minimum = .ok number) : minimum ≤ number := by
  unfold Check.integer at checked
  split at checked
  next read =>
    split at checked
    · cases checked
    · obtain rfl := Except.ok.inj checked
      omega
  · cases checked

theorem mem_of_choice {text : String} (checked : Check.choice value choices place = .ok text) :
    text ∈ choices := by
  unfold Check.choice at checked
  simp only at checked
  split at checked
  next read =>
    split at checked
    next listed => exact Except.ok.inj checked ▸ listed
    · cases checked
  · cases checked

theorem entry_eq_ok {Key Value : Type} [DecidableEq Key] {table : List (Key × Value)} {key : Key}
    {found : Value} : entry table key = .ok found ↔ table.lookup key = some found := by
  unfold entry
  cases table.lookup key <;> simp

theorem exists_entry {Key Value : Type} [DecidableEq Key] {table : List (Key × Value)} {key : Key}
    (listed : key ∈ table.map Prod.fst) : ∃ found, entry table key = .ok found := by
  cases found : table.lookup key with
  | some value => exact ⟨value, entry_eq_ok.mpr found⟩
  | none =>
      obtain ⟨⟨other, value⟩, within, rfl⟩ := List.mem_map.mp listed
      have missing := List.lookup_eq_none_iff.mp found (other, value) within
      simp at missing

theorem mem_of_lookup {Key Value : Type} [DecidableEq Key] {table : List (Key × Value)} {key : Key}
    {found : Value} (held : table.lookup key = some found) : (key, found) ∈ table := by
  obtain ⟨before, after, rfl, _⟩ := List.lookup_eq_some_iff.mp held
  simp

theorem first_eq_ok {Value : Type} {missing : Raised} {items : List Value} {value : Value} :
    first missing items = .ok value ↔ ∃ rest, items = value :: rest := by
  cases items with
  | nil => simp [first]
  | cons head rest => simp [first]

end Checks

/-! ## Nodes -/

section Nodes

variable {nodes after : Nodes}

/-- The names of the nodes differ, and the simulators are known. -/
structure Nodes.Sound (nodes : Nodes) : Prop where
  nodup : nodes.names.Nodup
  simulators : ∀ simulator ∈ nodes.simulators, simulator ∈ ["gem5", "qemu"]

theorem compileGem5Node_kept {name : String} {node : Fields}
    (compiled : compileGem5Node name node nodes = .ok after) :
    after.names = nodes.names ∧ after.simulators = nodes.simulators := by
  simp only [compileGem5Node, bind_eq_ok, raiseIf_eq_ok, pure, Except.pure,
    Except.ok.injEq] at compiled
  obtain ⟨_, _, profile, _, rfl⟩ := compiled
  exact ⟨rfl, rfl⟩

theorem compileQemuNode_kept {name : String} {node : Fields}
    (compiled : compileQemuNode name node nodes = .ok after) :
    after.names = nodes.names ∧ after.simulators = nodes.simulators := by
  simp only [compileQemuNode, bind_eq_ok, raiseIf_eq_ok, pure, Except.pure,
    Except.ok.injEq] at compiled
  obtain ⟨_, _, _, _, _, _, _, _, _, _, rfl⟩ := compiled
  exact ⟨rfl, rfl⟩

theorem compileNode_spec {index : Nat} {raw : Json} (sound : nodes.Sound)
    (compiled : compileNode index raw nodes = .ok after) :
    after.Sound ∧ after.names.length = nodes.names.length + 1 := by
  simp only [compileNode, bind_eq_ok, raiseIf_eq_ok] at compiled
  obtain ⟨node, _, _, _, name, _, _, fresh, _, _, simulator, known, chosen⟩ := compiled
  have kept : after.names = nodes.names ++ [name] ∧
      after.simulators = nodes.simulators.insert simulator := by
    split at chosen
    · exact compileGem5Node_kept chosen
    · exact compileQemuNode_kept chosen
  refine ⟨⟨?_, fun other listed => ?_⟩, by rw [kept.1, List.length_append, List.length_singleton]⟩
  · rw [kept.1, ← List.concat_eq_append]
    exact sound.nodup.concat fresh
  · rw [kept.2] at listed
    rcases List.mem_insert_iff.mp listed with rfl | earlier
    · exact mem_of_choice known
    · exact sound.simulators other earlier

theorem compileNodes_spec {raws : List Json} {index : Nat} (sound : nodes.Sound)
    (compiled : compileNodes index raws nodes = .ok after) :
    after.Sound ∧ after.names.length = nodes.names.length + raws.length := by
  induction raws generalizing index nodes with
  | nil =>
      obtain rfl := Except.ok.inj compiled
      exact ⟨sound, rfl⟩
  | cons raw rest inductionHypothesis =>
      rw [compileNodes, bind_eq_ok] at compiled
      obtain ⟨next, one, others⟩ := compiled
      obtain ⟨grown, longer⟩ := compileNode_spec sound one
      obtain ⟨last, counted⟩ := inductionHypothesis grown others
      refine ⟨last, ?_⟩
      rw [counted, longer, List.length_cons]
      omega

theorem compileSimulator_spec {checkpoint simulator : String} (sound : nodes.Sound)
    (compiled : compileSimulator nodes checkpoint = .ok simulator) :
    simulator ∈ ["gem5", "qemu"] ∧ 2 ≤ nodes.names.length ∧ nodes.names.length ≤ 8 := by
  simp only [compileSimulator, bind_eq_ok, raiseIf_eq_ok, first_eq_ok] at compiled
  obtain ⟨_, _, _, ⟨rest, only⟩, _, gem5, _, qemu, _, _, _, _, returned⟩ := compiled
  obtain rfl := Except.ok.inj returned
  have known := sound.simulators _ (only ▸ List.mem_cons_self)
  refine ⟨known, ?_⟩
  rcases List.mem_cons.mp known with named | named
  · exact not_not.mp (not_and.mp gem5 named)
  · exact not_not.mp (not_and.mp qemu (List.mem_singleton.mp named))

end Nodes

/-! ## Devices -/

/-- Every device has a node of its own. -/
structure Devices.Sound (nodes : Nodes) (devices : Devices) : Prop where
  nodup : (devices.byNode.map Prod.fst).Nodup
  known : ∀ node ∈ devices.byNode.map Prod.fst, node ∈ nodes.names
  named : (devices.byDevice.map Prod.fst).Nodup
  paired : devices.byDevice = devices.byNode.map Prod.swap
  counts : ∀ count ∈ devices.counts, 1 ≤ count ∧ count ≤ 16
  limits : ∀ limit ∈ devices.limits, 2 ≤ limit ∧ limit ≤ 65535

section Devices

variable {simulator : String} {nodes : Nodes} {switch : Option Switch} {devices after : Devices}

theorem nodeOf_spec {name node : String} {value : Json}
    (checked : nodeOf nodes devices name value = .ok node) :
    node ∈ nodes.names ∧ node ∉ devices.byNode.map Prod.fst := by
  unfold nodeOf at checked
  simp only at checked
  split at checked
  · cases checked
  next text _ =>
    split at checked
    · cases checked
    next free =>
      obtain rfl := Except.ok.inj checked
      exact not_or.mp free |>.imp not_not.mp id

theorem Devices.Sound.add (sound : Devices.Sound nodes devices) {node name : String} {count : Nat}
    (known : node ∈ nodes.names) (free : node ∉ devices.byNode.map Prod.fst)
    (fresh : name ∉ devices.byDevice.map Prod.fst) (range : 1 ≤ count ∧ count ≤ 16) :
    Devices.Sound nodes { devices with
      byNode := devices.byNode ++ [(node, name)]
      byDevice := devices.byDevice ++ [(name, node)]
      counts := devices.counts.insert count } where
  nodup := by
    rw [List.map_append, List.map_singleton, ← List.concat_eq_append]
    exact sound.nodup.concat free
  known := by
    intro other listed
    rw [List.map_append, List.mem_append] at listed
    rcases listed with earlier | new
    · exact sound.known other earlier
    · exact List.mem_singleton.mp new ▸ known
  named := by
    rw [List.map_append, List.map_singleton, ← List.concat_eq_append]
    exact sound.named.concat fresh
  paired := by
    rw [List.map_append, ← sound.paired]
    rfl
  counts := by
    intro other listed
    rcases List.mem_insert_iff.mp listed with rfl | earlier
    · exact range
    · exact sound.counts other earlier
  limits := sound.limits

theorem compileDevice_spec {index : Nat} {raw : Json} (sound : Devices.Sound nodes devices)
    (compiled : compileDevice simulator nodes switch index raw devices = .ok after) :
    Devices.Sound nodes after ∧ after.byNode.length = devices.byNode.length + 1 := by
  simp only [compileDevice, bind_eq_ok, raiseIf_eq_ok] at compiled
  obtain ⟨device, _, _, _, name, _, _, fresh, _, _, node, placed, _, _, _, _, _, _, _, _, _, _,
    _, _, count, counted, _, limited, rest⟩ := compiled
  obtain ⟨known, free⟩ := nodeOf_spec placed
  have range : 1 ≤ count ∧ count ≤ 16 := by
    refine ⟨le_of_integer counted, ?_⟩
    split at limited <;> omega
  have grown := sound.add known free (not_or.mp fresh).1 range
  split at rest
  · obtain rfl := Except.ok.inj rest
    exact ⟨grown, by simp⟩
  · simp only [bind_eq_ok, raiseIf_eq_ok] at rest
    obtain ⟨limit, read, _, small, rest⟩ := rest
    obtain rfl := Except.ok.inj rest
    refine ⟨{ grown with limits := ?_ }, by simp⟩
    intro other listed
    rcases List.mem_insert_iff.mp listed with rfl | earlier
    · exact ⟨le_of_integer read, Nat.le_of_not_lt small⟩
    · exact sound.limits other earlier

theorem compileDevices_spec {raws : List Json} {index : Nat} (sound : Devices.Sound nodes devices)
    (compiled : compileDevices simulator nodes switch index raws devices = .ok after) :
    Devices.Sound nodes after := by
  induction raws generalizing index devices with
  | nil => exact Except.ok.inj compiled ▸ sound
  | cons raw rest inductionHypothesis =>
      rw [compileDevices, bind_eq_ok] at compiled
      obtain ⟨next, one, others⟩ := compiled
      exact inductionHypothesis (compileDevice_spec sound one).1 others

end Devices

/-! ## Everything before the links -/

structure Prepared.Sound (prepared : Prepared) : Prop where
  sync : prepared.sync ∈ ["off", "required"]
  nodes : prepared.nodes.Sound
  simulator : prepared.simulator ∈ ["gem5", "qemu"]
  size : 2 ≤ prepared.nodes.names.length ∧ prepared.nodes.names.length ≤ 8
  devices : Devices.Sound prepared.nodes prepared.devices
  every : prepared.devices.byNode.length = prepared.nodes.names.length
  ports : 1 ≤ prepared.portCount ∧ prepared.portCount ≤ 16

theorem prepare_spec {raw : Json} {prepared : Prepared} (returned : prepare raw = .ok prepared) :
    prepared.Sound := by
  simp only [prepare, bind_eq_ok, raiseIf_eq_ok] at returned
  obtain ⟨spec, _, _, _, _, _, _, _, name, _, _, _, rawNodes, _, _, _, rawDevices, _, _, _,
    switches, _, _, _, links, _, _, _, execution, _, _, _, sync, synced, _, _, checkpoint, _,
    nodes, nodesCompiled, simulator, simulated, machine, _, _, _, switch, _, devices,
    devicesCompiled, portCount, counted, returned⟩ := returned
  obtain rfl := Except.ok.inj returned
  have nodesSound := (compileNodes_spec ⟨by simp, by simp⟩ nodesCompiled).1
  have devicesSound := compileDevices_spec
    (⟨by simp, by simp, by simp, rfl, by simp, by simp⟩ : Devices.Sound nodes {}) devicesCompiled
  obtain ⟨known, size⟩ := compileSimulator_spec nodesSound simulated
  simp only [compilePortCount, bind_eq_ok, raiseIf_eq_ok, first_eq_ok] at counted
  obtain ⟨_, every, _, _, ⟨rest, counts⟩⟩ := counted
  exact {
    sync := mem_of_choice synced
    nodes := nodesSound
    simulator := known
    size := size
    devices := devicesSound
    every := not_not.mp (not_or.mp every).1
    ports := devicesSound.counts portCount (counts ▸ List.mem_cons_self) }

/-! ## Links -/

/-- The ids of the devices. -/
def Prepared.deviceNames (prepared : Prepared) : List String :=
  prepared.devices.byDevice.map Prod.fst

/-- The port of the switch for a port of a device. -/
def Prepared.switchPort (prepared : Prepared) (port : String × Nat) : Nat :=
  prepared.nodes.names.idxOf ((prepared.devices.byDevice.lookup port.1).getD "") *
    prepared.portCount + port.2

def NodeLink.InRange (link : NodeLink) : Prop :=
  1 ≤ link.rateGbps ∧ link.rateGbps ≤ 100000 ∧ 1 ≤ link.latencyNs ∧ link.latencyNs ≤ 1000000000

structure Links.Sound (prepared : Prepared) (links : Links) : Prop where
  nodup : links.devicePorts.Nodup
  known : ∀ port ∈ links.devicePorts, port.1 ∈ prepared.deviceNames ∧ port.2 < prepared.portCount
  linked : ∀ port ∈ links.devicePorts, port.1 ∈ links.byDevice.map Prod.fst
  switched : links.switchPorts = links.devicePorts.map prepared.switchPort
  ranges : ∀ link ∈ links.byDevice.map Prod.snd, link.InRange

section Links

variable {prepared : Prepared} {links after : Links}

theorem linkDevice_spec {place name : String} {link : Fields}
    (checked : linkDevice prepared place link = .ok name) : name ∈ prepared.deviceNames := by
  simp only [linkDevice, bind_eq_ok, raiseIf_eq_ok] at checked
  obtain ⟨device, _, _, _, checked⟩ := checked
  split at checked
  · cases checked
  next text _ =>
    simp only [bind_eq_ok, raiseIf_eq_ok, not_not] at checked
    obtain ⟨_, listed, _, _, _, _, returned⟩ := checked
    exact Except.ok.inj returned ▸ listed

/-- A link that is accepted is of a port that had none. -/
theorem compileLink_spec {index : Nat} {raw : Json} (sound : Links.Sound prepared links)
    (compiled : compileLink prepared index raw links = .ok after) :
    Links.Sound prepared after ∧
      after.devicePorts.length = links.devicePorts.length + 1 := by
  simp only [compileLink, bind_eq_ok, raiseIf_eq_ok] at compiled
  obtain ⟨link, _, name, device, _, _, port, _, _, _, switchPort, _, _, inside, node, found, _,
    required, _, fresh, _, _, rate, rated, _, _, latency, delayed, _, ranged, rest⟩ := compiled
  have known := linkDevice_spec device
  have place : switchPort = prepared.switchPort (name, port) := by
    rw [Prepared.switchPort, entry_eq_ok.mp found]
    exact not_not.mp required
  have range : NodeLink.InRange ⟨rate, latency⟩ := by
    obtain ⟨slow, near⟩ := not_or.mp ranged
    exact ⟨le_of_integer rated, Nat.le_of_not_lt slow, le_of_integer delayed, Nat.le_of_not_lt near⟩
  have grown : ∀ byDevice : List (String × NodeLink),
      links.byDevice.map Prod.fst ⊆ byDevice.map Prod.fst → name ∈ byDevice.map Prod.fst →
      (∀ link ∈ byDevice.map Prod.snd, link.InRange) →
      Links.Sound prepared
        ⟨links.devicePorts ++ [(name, port)], links.switchPorts ++ [switchPort], byDevice⟩ := by
    intro byDevice wider here ranges
    refine ⟨?_, ?_, ?_, ?_, ranges⟩
    · rw [← List.concat_eq_append]
      exact sound.nodup.concat (not_or.mp fresh).1
    · intro other listed
      rcases List.mem_append.mp listed with earlier | new
      · exact sound.known other earlier
      · obtain rfl := List.mem_singleton.mp new
        exact ⟨known, Nat.lt_of_not_le inside⟩
    · intro other listed
      rcases List.mem_append.mp listed with earlier | new
      · exact wider (sound.linked other earlier)
      · obtain rfl := List.mem_singleton.mp new
        exact here
    · rw [List.map_append, ← sound.switched, place]
      rfl
  split at rest
  · obtain rfl := Except.ok.inj rest
    refine ⟨grown _ ?_ ?_ ?_, by simp⟩
    · intro other listed
      rw [List.map_append]
      exact List.mem_append_left _ listed
    · simp
    · intro other listed
      rw [List.map_append] at listed
      rcases List.mem_append.mp listed with earlier | new
      · exact sound.ranges other earlier
      · exact List.mem_singleton.mp new ▸ range
  next previous held =>
    simp only [bind_eq_ok, raiseIf_eq_ok] at rest
    obtain ⟨_, _, returned⟩ := rest
    obtain rfl := Except.ok.inj returned
    refine ⟨grown _ (List.Subset.refl _) ?_ sound.ranges, by simp⟩
    exact List.mem_map.mpr ⟨(name, previous), mem_of_lookup held, rfl⟩

theorem compileLinks_spec {raws : List Json} {index : Nat} (sound : Links.Sound prepared links)
    (compiled : compileLinks prepared index raws links = .ok after) :
    Links.Sound prepared after ∧
      after.devicePorts.length = links.devicePorts.length + raws.length := by
  induction raws generalizing index links with
  | nil =>
      obtain rfl := Except.ok.inj compiled
      exact ⟨sound, rfl⟩
  | cons raw rest inductionHypothesis =>
      rw [compileLinks, bind_eq_ok] at compiled
      obtain ⟨next, one, others⟩ := compiled
      obtain ⟨grown, longer⟩ := compileLink_spec sound one
      obtain ⟨last, counted⟩ := inductionHypothesis grown others
      refine ⟨last, ?_⟩
      rw [counted, longer, List.length_cons]
      omega

theorem Links.Sound.initial (prepared : Prepared) : Links.Sound prepared {} :=
  ⟨List.nodup_nil, by simp, by simp, rfl, by simp⟩

/-- As many links as there are ports reach every port. -/
theorem Links.Sound.complete (ready : prepared.Sound) (sound : Links.Sound prepared links)
    (full : links.devicePorts.length = prepared.nodes.names.length * prepared.portCount) :
    links.devicePorts.Perm (prepared.deviceNames ×ˢ List.range prepared.portCount) := by
  have size : prepared.deviceNames.length = prepared.nodes.names.length := by
    rw [Prepared.deviceNames, List.length_map, ready.devices.paired, List.length_map, ready.every]
  refine (List.subperm_of_subset sound.nodup fun port listed => ?_).perm_of_length_le ?_
  · obtain ⟨known, inside⟩ := sound.known port listed
    exact List.mem_product.mpr ⟨known, List.mem_range.mpr inside⟩
  · have area : (prepared.deviceNames ×ˢ List.range prepared.portCount).length =
        prepared.nodes.names.length * prepared.portCount := by
      rw [List.length_product, List.length_range, size]
    exact Nat.le_of_eq (area.trans full.symm)

theorem Links.Sound.every_device (ready : prepared.Sound) (sound : Links.Sound prepared links)
    (full : links.devicePorts.length = prepared.nodes.names.length * prepared.portCount)
    {name : String} (known : name ∈ prepared.deviceNames) :
    name ∈ links.byDevice.map Prod.fst := by
  have ports := sound.complete ready full
  exact sound.linked (name, 0) (ports.mem_iff.mpr
    (List.mem_product.mpr ⟨known, List.mem_range.mpr ready.ports.1⟩))

/-- Every node has a device. -/
theorem Prepared.Sound.node_listed (ready : prepared.Sound) {node : String}
    (known : node ∈ prepared.nodes.names) : node ∈ prepared.devices.byNode.map Prod.fst := by
  have all := (List.subperm_of_subset ready.devices.nodup ready.devices.known).perm_of_length_le
    (Nat.le_of_eq ((List.length_map _).trans ready.every).symm)
  exact all.mem_iff.mpr known

theorem Prepared.Sound.device_listed (ready : prepared.Sound) {node name : String}
    (paired : entry prepared.devices.byNode node = .ok name) : name ∈ prepared.deviceNames := by
  have listed := mem_of_lookup (entry_eq_ok.mp paired)
  rw [Prepared.deviceNames, ready.devices.paired, List.map_map]
  exact List.mem_map.mpr ⟨(node, name), listed, rfl⟩

end Links

end Udma.Lab
