import Udma.Lab.Accepted

/-!
# How the topology compiler ends

Whether `compile_topology` returns a plan or raises a `TopologyError` on every value.  What a
link gives as its device is hashed before its type is looked at.
-/

namespace Udma.Lab

open Udma.Transition

/-- The exceptions that `run` catches. -/
def Diagnosed : Raised → Prop
  | .topologyError _ => True
  | _ => False

/-! ## The checks -/

namespace Diagnosed

section Checks

variable {value : Json} {place : String} {choices allowed required : List String}
  {entries : Fields}

theorem refuse {condition : Prop} [Decidable condition] {message : String} :
    Raises Diagnosed (raiseIf condition (refusal message)) :=
  .raiseIf trivial

theorem fields : Raises Diagnosed (Check.fields value allowed required place) := by
  unfold Check.fields
  split
  · exact .ite (fun _ => .error trivial) fun _ => .ok _
  · exact .error trivial

theorem list : Raises Diagnosed (Check.list value place) := by
  unfold Check.list
  split
  · exact .ok _
  · exact .error trivial

theorem integer {minimum : Nat} : Raises Diagnosed (Check.integer value place minimum) := by
  unfold Check.integer
  split
  · exact .ite (fun _ => .error trivial) fun _ => .ok _
  · exact .error trivial

theorem name : Raises Diagnosed (Check.name value place) := by
  unfold Check.name
  split
  · exact .ite (fun _ => .error trivial) fun _ => .ok _
  · exact .error trivial

theorem choice : Raises Diagnosed (Check.choice value choices place) := by
  unfold Check.choice
  dsimp only
  split
  · exact .ite (fun _ => .ok _) fun _ => .error trivial
  · exact .error trivial

/-- A required field can be subscripted. -/
theorem item {field : String} (checked : Check.fields value allowed required place = .ok entries)
    (needed : field ∈ required) : Raises Diagnosed (item entries field) :=
  .of_exists (item_of_fields checked needed)

theorem switchList : Raises Diagnosed (switchList value) := by
  unfold Lab.switchList
  split
  · exact .ok _
  · exact .error trivial

theorem schemaVersion : Raises Diagnosed (schemaVersion value) := by
  unfold Lab.schemaVersion
  split
  · exact .ok _
  · exact .error trivial

end Checks

/-! ## Everything before the links -/

section Phases

theorem compileGem5Node {name : String} {node : Fields} {nodes : Nodes} :
    Raises Diagnosed (compileGem5Node name node nodes) :=
  .bind refuse fun _ _ => .bind choice fun _ _ => .pure _

theorem compileQemuNode {name : String} {node : Fields} {nodes : Nodes} :
    Raises Diagnosed (compileQemuNode name node nodes) :=
  .bind refuse fun _ _ => .bind choice fun _ _ => .bind integer fun _ _ =>
    .bind integer fun _ _ => .bind refuse fun _ _ => .pure _

theorem compileNode {index : Nat} {raw : Json} {nodes : Nodes} :
    Raises Diagnosed (compileNode index raw nodes) := by
  refine .bind fields fun node checked => ?_
  refine .bind (item checked (by simp)) fun _ _ => .bind Diagnosed.name fun name _ => ?_
  refine .bind refuse fun _ _ => .bind (item checked (by simp)) fun _ _ => ?_
  refine .bind choice fun simulator _ => ?_
  exact .ite (fun _ => compileGem5Node) fun _ => compileQemuNode

theorem compileNodes {raws : List Json} {index : Nat} {nodes : Nodes} :
    Raises Diagnosed (compileNodes index raws nodes) := by
  induction raws generalizing index nodes with
  | nil => exact .ok _
  | cons raw rest inductionHypothesis =>
      exact .bind compileNode fun _ _ => inductionHypothesis

theorem compileSimulator {nodes : Nodes} {checkpoint : String} :
    Raises Diagnosed (compileSimulator nodes checkpoint) := by
  refine .bind refuse fun _ one => .bind (.of_exists ?_) fun _ _ => ?_
  · obtain ⟨simulator, only⟩ := List.length_eq_one_iff.mp (not_not.mp (raiseIf_eq_ok.mp one))
    exact ⟨simulator, first_eq_ok.mpr ⟨[], only⟩⟩
  · exact .bind refuse fun _ _ => .bind refuse fun _ _ => .bind refuse fun _ _ =>
      .bind refuse fun _ _ => .pure _

theorem checkLimit {machine : Fields} {field message : String} {minimum limit : Nat} :
    Raises Diagnosed (checkLimit machine field message minimum limit) := by
  unfold Lab.checkLimit
  split
  · exact .ok _
  · exact .bind integer fun _ _ => refuse

theorem compileMachine {simulator : String} {spec : Fields} :
    Raises Diagnosed (compileMachine simulator spec) := by
  unfold Lab.compileMachine
  split
  · exact .ok _
  · refine .bind refuse fun _ _ => .bind fields fun machine _ => .bind checkLimit fun _ _ =>
      .bind checkLimit fun _ _ => .bind checkLimit fun _ _ => ?_
    split
    · exact .ok _
    · exact .bind choice fun _ _ => .pure _

theorem compileSwitch {switches : List Json} : Raises Diagnosed (compileSwitch switches) := by
  cases switches with
  | nil => exact .ok _
  | cons raw rest =>
      refine .bind fields fun switch checked => .bind (item checked (by simp)) fun _ _ => ?_
      refine .bind name fun _ _ => .bind (item checked (by simp)) fun _ _ => ?_
      refine .bind refuse fun _ _ => .bind (item checked (by simp)) fun _ _ => ?_
      exact .bind integer fun _ _ => .pure _

theorem nodeOf {nodes : Nodes} {devices : Devices} {name : String} {value : Json} :
    Raises Diagnosed (nodeOf nodes devices name value) := by
  unfold Lab.nodeOf
  dsimp only
  split
  · exact .error trivial
  · exact .ite (fun _ => .error trivial) fun _ => .ok _

theorem compileDevice {simulator : String} {nodes : Nodes} {switch : Option Switch} {index : Nat}
    {raw : Json} {devices : Devices} :
    Raises Diagnosed (compileDevice simulator nodes switch index raw devices) := by
  refine .bind fields fun device checked => .bind (item checked (by simp)) fun _ _ => ?_
  refine .bind Diagnosed.name fun name _ => .bind refuse fun _ _ => ?_
  refine .bind (item checked (by simp)) fun _ _ => .bind nodeOf fun node _ => ?_
  refine .bind (item checked (by simp)) fun _ _ => .bind refuse fun _ _ => ?_
  refine .bind (item checked (by simp)) fun _ _ => .bind integer fun _ _ => ?_
  refine .bind refuse fun _ _ => .bind (item checked (by simp)) fun _ _ => ?_
  refine .bind integer fun count _ => .bind refuse fun _ _ => ?_
  dsimp only
  split
  · exact .pure _
  · exact .bind integer fun _ _ => .bind refuse fun _ _ => .pure _

theorem compileDevices {simulator : String} {nodes : Nodes} {switch : Option Switch}
    {raws : List Json} {index : Nat} {devices : Devices} :
    Raises Diagnosed (compileDevices simulator nodes switch index raws devices) := by
  induction raws generalizing index devices with
  | nil => exact .ok _
  | cons raw rest inductionHypothesis =>
      exact .bind compileDevice fun _ _ => inductionHypothesis

theorem compilePortCount {nodes : Nodes} {devices : Devices} {deviceCount : Nat} :
    Raises Diagnosed (compilePortCount nodes devices deviceCount) := by
  refine .bind refuse fun _ _ => .bind refuse fun _ one => .of_exists ?_
  obtain ⟨count, only⟩ :=
    List.length_eq_one_iff.mp (not_not.mp (not_or.mp (raiseIf_eq_ok.mp one)).1)
  exact ⟨count, first_eq_ok.mpr ⟨[], only⟩⟩

/-- Nothing but a `TopologyError` is raised before the links. -/
theorem prepare {raw : Json} : Raises Diagnosed (prepare raw) := by
  refine .bind fields fun spec checked => .bind (item checked (by simp)) fun _ _ => ?_
  refine .bind schemaVersion fun _ _ => .bind (item checked (by simp)) fun _ _ => ?_
  refine .bind Diagnosed.name fun _ _ => .bind (item checked (by simp)) fun _ _ => ?_
  refine .bind list fun _ _ => .bind (item checked (by simp)) fun _ _ => ?_
  refine .bind list fun _ _ => .bind (item checked (by simp)) fun _ _ => ?_
  refine .bind switchList fun _ _ => .bind (item checked (by simp)) fun _ _ => ?_
  refine .bind list fun _ _ => .bind (item checked (by simp)) fun _ _ => ?_
  refine .bind fields fun execution given => .bind (item given (by simp)) fun _ _ => ?_
  refine .bind choice fun _ _ => .bind (item given (by simp)) fun _ _ => ?_
  refine .bind choice fun _ _ => .bind compileNodes fun _ _ => ?_
  refine .bind compileSimulator fun _ _ => .bind compileMachine fun _ _ => ?_
  refine .bind refuse fun _ _ => .bind compileSwitch fun _ _ => ?_
  exact .bind compileDevices fun _ _ => .bind compilePortCount fun _ _ => .pure _

end Phases

end Diagnosed

/-! ## Links -/

/-- The field is given, and cannot be hashed. -/
def Unhashable (link : Fields) (field : String) : Prop :=
  ∃ value, link.lookup field = some value ∧ value.hashable = false

instance (link : Fields) (field : String) : Decidable (Unhashable link field) :=
  match found : link.lookup field with
  | none => isFalse fun ⟨_, held, _⟩ => by simp [found] at held
  | some value =>
      if hashed : value.hashable = false then isTrue ⟨value, found, hashed⟩
      else isFalse fun ⟨_, held, unhashed⟩ => by
        rw [found, Option.some.injEq] at held
        exact hashed (held ▸ unhashed)

theorem item_eq_ok {fields : Fields} {name : String} {value : Json} :
    item fields name = .ok value ↔ fields.lookup name = some value := by
  unfold item
  cases fields.lookup name <;> simp

theorem not_unhashable {link : Fields} {field : String} {value : Json}
    (found : item link field = .ok value) : ¬ Unhashable link field ↔ value.hashable = true := by
  have held := item_eq_ok.mp found
  constructor
  · intro hashable
    by_contra unhashed
    exact hashable ⟨value, held, Bool.eq_false_iff.mpr unhashed⟩
  · rintro hashed ⟨other, given, unhashed⟩
    rw [held, Option.some.injEq] at given
    rw [← given, hashed] at unhashed
    exact Bool.noConfusion unhashed

theorem not_diagnosed_typeError {condition : Prop} [Decidable condition] :
    Raises Diagnosed (raiseIf condition .typeError) ↔ ¬ condition := by
  unfold raiseIf
  by_cases holds : condition
  · rw [if_pos holds]
    exact ⟨fun raises => (raises _ rfl).elim, fun fails => absurd holds fails⟩
  · rw [if_neg holds]
    exact ⟨fun _ => holds, fun _ => .ok ()⟩

/-- The one link of a direct layout gives an array or an object for one of its ends. -/
def DirectStuck (prepared : Prepared) : Prop :=
  ¬ (prepared.nodes.names.length ≠ 2 ∨ prepared.portCount ≠ 1 ∨ prepared.links.length ≠ 1) ∧
    ∃ raw link, raw ∈ prepared.links ∧
      Check.fields raw directFields directFields "links[0]" = .ok link ∧
      (Unhashable link "device" ∨ Unhashable link "peer_device")

theorem directLink_diagnosed_iff (prepared : Prepared) :
    Raises Diagnosed (directLink prepared) ↔ ¬ DirectStuck prepared := by
  constructor
  · rintro raises ⟨sizes, raw, link, listed, checked, unhashable⟩
    obtain ⟨other, only⟩ :=
      List.length_eq_one_iff.mp (not_not.mp (not_or.mp (not_or.mp sizes).2).2)
    obtain rfl := List.mem_singleton.mp (only ▸ listed)
    have one := (Raises.bind_iff.mp raises).2 () (raiseIf_eq_ok.mpr sizes)
    have two := (Raises.bind_iff.mp one).2 raw (first_eq_ok.mpr ⟨[], only⟩)
    have three := (Raises.bind_iff.mp two).2 link checked
    obtain ⟨device, near⟩ : ∃ device, item link "device" = .ok device :=
      item_of_fields checked (by simp [directFields])
    obtain ⟨peer, far⟩ : ∃ peer, item link "peer_device" = .ok peer :=
      item_of_fields checked (by simp [directFields])
    have four := (Raises.bind_iff.mp three).2 device near
    have five := (Raises.bind_iff.mp four).2 peer far
    have joined := (Raises.bind_iff.mp five).1
    have hashed := not_not.mp (not_diagnosed_typeError.mp (Raises.bind_iff.mp joined).1)
    rcases unhashable with device | peer
    · exact (not_unhashable near).mpr hashed.1 device
    · exact (not_unhashable far).mpr hashed.2 peer
  · intro free
    refine .bind Diagnosed.refuse fun _ counted => ?_
    have sizes := raiseIf_eq_ok.mp counted
    obtain ⟨only, single⟩ :=
      List.length_eq_one_iff.mp (not_not.mp (not_or.mp (not_or.mp sizes).2).2)
    refine .bind (.of_exists ⟨only, first_eq_ok.mpr ⟨[], single⟩⟩) fun raw taken => ?_
    refine .bind Diagnosed.fields fun link checked => ?_
    have hashable : ∀ field, field = "device" ∨ field = "peer_device" →
        ¬ Unhashable link field := by
      rintro field named unhashable
      obtain ⟨rest, listed⟩ := first_eq_ok.mp taken
      refine free ⟨sizes, raw, link, listed ▸ List.mem_cons_self, checked, ?_⟩
      rcases named with rfl | rfl
      · exact .inl unhashable
      · exact .inr unhashable
    refine .bind (Diagnosed.item checked (by simp [directFields])) fun device near => ?_
    refine .bind (Diagnosed.item checked (by simp [directFields])) fun peer far => ?_
    have hashed := And.intro ((not_unhashable near).mp (hashable _ (.inl rfl)))
      ((not_unhashable far).mp (hashable _ (.inr rfl)))
    refine .bind (.bind (not_diagnosed_typeError.mpr (not_not.mpr hashed)) fun _ _ => .pure _)
      fun _ _ => .bind Diagnosed.refuse fun _ _ => ?_
    refine .bind (Diagnosed.item checked (by simp [directFields])) fun _ _ => ?_
    refine .bind Diagnosed.integer fun _ _ => .bind Diagnosed.refuse fun _ _ => ?_
    refine .bind (Diagnosed.item checked (by simp [directFields])) fun _ _ => ?_
    refine .bind Diagnosed.integer fun _ _ => .bind Diagnosed.refuse fun _ _ => ?_
    refine .bind (Diagnosed.item checked (by simp [directFields])) fun _ _ => ?_
    refine .bind Diagnosed.integer fun _ _ => ?_
    refine .bind (Diagnosed.item checked (by simp [directFields])) fun _ _ => ?_
    exact .bind Diagnosed.integer fun _ _ => .bind Diagnosed.refuse fun _ _ => .pure _

/-- A link of a switch gives an array or an object for its device. -/
def LinkStuck (index : Nat) (raw : Json) : Prop :=
  ∃ link, Check.fields raw linkFields linkFields s!"links[{index}]" = .ok link ∧
    Unhashable link "device"

/-- The links before it are accepted. -/
def SwitchStuck (prepared : Prepared) : Prop :=
  prepared.links.length = prepared.nodes.names.length * prepared.portCount ∧
    ∃ before raw after links, prepared.links = before ++ raw :: after ∧
      compileLinks prepared 0 before {} = .ok links ∧ LinkStuck before.length raw

theorem linkDevice_diagnosed_iff {prepared : Prepared} {place : String} {link : Fields}
    {raw : Json} {index : Nat}
    (checked : Check.fields raw linkFields linkFields s!"links[{index}]" = .ok link) :
    Raises Diagnosed (linkDevice prepared place link) ↔ ¬ Unhashable link "device" := by
  obtain ⟨device, found⟩ : ∃ device, item link "device" = .ok device :=
    item_of_fields checked (by simp [linkFields])
  rw [not_unhashable found]
  constructor
  · intro raises
    have behind := (Raises.bind_iff.mp raises).2 device found
    exact not_not.mp (not_diagnosed_typeError.mp (Raises.bind_iff.mp behind).1)
  · intro hashed
    refine .bind (Diagnosed.item checked (by simp [linkFields])) fun value read => ?_
    obtain rfl := Except.ok.inj (found.symm.trans read)
    refine .bind (not_diagnosed_typeError.mpr (not_not.mpr hashed)) fun _ _ => ?_
    split
    · exact .error trivial
    · exact .bind Diagnosed.refuse fun _ _ =>
        .bind (Diagnosed.item checked (by simp [linkFields])) fun _ _ =>
          .bind Diagnosed.refuse fun _ _ => .pure _

theorem compileLink_diagnosed_iff {prepared : Prepared} {index : Nat} {raw : Json}
    {links : Links} :
    Raises Diagnosed (compileLink prepared index raw links) ↔ ¬ LinkStuck index raw := by
  constructor
  · rintro raises ⟨link, checked, unhashable⟩
    have rest := (Raises.bind_iff.mp raises).2 link checked
    exact (linkDevice_diagnosed_iff checked).mp (Raises.bind_iff.mp rest).1 unhashable
  · intro free
    refine .bind Diagnosed.fields fun link checked => ?_
    refine .bind ((linkDevice_diagnosed_iff checked).mpr fun unhashable =>
      free ⟨link, checked, unhashable⟩) fun name device => ?_
    refine .bind (Diagnosed.item checked (by simp [linkFields])) fun _ _ => ?_
    refine .bind Diagnosed.integer fun port _ => ?_
    refine .bind (Diagnosed.item checked (by simp [linkFields])) fun _ _ => ?_
    refine .bind Diagnosed.integer fun _ _ => .bind Diagnosed.refuse fun _ _ => ?_
    refine .bind (.of_exists (exists_entry (linkDevice_spec device))) fun node _ => ?_
    refine .bind Diagnosed.refuse fun _ _ => .bind Diagnosed.refuse fun _ _ => ?_
    refine .bind (Diagnosed.item checked (by simp [linkFields])) fun _ _ => ?_
    refine .bind Diagnosed.integer fun rate _ => ?_
    refine .bind (Diagnosed.item checked (by simp [linkFields])) fun _ _ => ?_
    refine .bind Diagnosed.integer fun latency _ => .bind Diagnosed.refuse fun _ _ => ?_
    dsimp only
    split
    · exact .pure _
    · exact .bind Diagnosed.refuse fun _ _ => .pure _

theorem compileLinks_diagnosed_iff {prepared : Prepared} {raws : List Json} {index : Nat}
    {links : Links} :
    Raises Diagnosed (compileLinks prepared index raws links) ↔
      ¬ ∃ before raw after reached, raws = before ++ raw :: after ∧
        compileLinks prepared index before links = .ok reached ∧
        LinkStuck (index + before.length) raw := by
  induction raws generalizing index links with
  | nil =>
      refine ⟨fun _ => ?_, fun _ => .ok _⟩
      rintro ⟨before, raw, after, reached, shape, _⟩
      simp at shape
  | cons raw rest inductionHypothesis =>
      rw [compileLinks, Raises.bind_iff, compileLink_diagnosed_iff]
      constructor
      · rintro ⟨free, others⟩ ⟨before, stuckRaw, after, reached, shape, accepted, stuck⟩
        cases before with
        | nil =>
            obtain rfl := (List.cons.inj shape).1
            exact free stuck
        | cons head before =>
            obtain ⟨rfl, same⟩ := List.cons.inj shape
            rw [compileLinks, bind_eq_ok] at accepted
            obtain ⟨next, one, accepted⟩ := accepted
            refine inductionHypothesis.mp (others next one)
              ⟨before, stuckRaw, after, reached, same, accepted, ?_⟩
            rw [List.length_cons] at stuck
            rwa [Nat.add_assoc, Nat.add_comm 1]
      · intro free
        refine ⟨fun stuck => free ⟨[], raw, rest, links, rfl, rfl, stuck⟩, fun next one => ?_⟩
        refine inductionHypothesis.mpr ?_
        rintro ⟨before, stuckRaw, after, reached, rfl, accepted, stuck⟩
        refine free ⟨raw :: before, stuckRaw, after, reached, rfl, ?_, ?_⟩
        · rw [compileLinks, bind_eq_ok]
          exact ⟨next, one, accepted⟩
        · rw [List.length_cons]
          rwa [Nat.add_assoc, Nat.add_comm 1] at stuck

theorem raises_mapM {Item Value : Type} {compute : Item → Except Raised Value}
    {items : List Item} (each : ∀ item ∈ items, Raises Diagnosed (compute item)) :
    Raises Diagnosed (items.mapM compute) := by
  induction items with
  | nil => exact .pure _
  | cons item rest inductionHypothesis =>
      rw [List.mapM_cons]
      exact .bind (each item List.mem_cons_self) fun _ _ =>
        .bind (inductionHypothesis fun other listed => each other (List.mem_cons_of_mem _ listed))
          fun _ _ => .pure _

theorem deviceIds_diagnosed {prepared : Prepared} (ready : prepared.Sound) :
    Raises Diagnosed (prepared.nodes.names.mapM (entry prepared.devices.byNode)) :=
  raises_mapM fun _ listed => .of_exists (exists_entry (ready.node_listed listed))

theorem switchLinks_diagnosed_iff {prepared : Prepared} (ready : prepared.Sound) :
    Raises Diagnosed (switchLinks prepared) ↔ ¬ SwitchStuck prepared := by
  constructor
  · rintro raises ⟨counted, before, raw, after, links, shape, accepted, stuck⟩
    have one := (Raises.bind_iff.mp raises).2 () (raiseIf_eq_ok.mpr (not_not.mpr counted))
    exact compileLinks_diagnosed_iff.mp (Raises.bind_iff.mp one).1
      ⟨before, raw, after, links, shape, accepted, by rwa [Nat.zero_add]⟩
  · intro free
    refine .bind Diagnosed.refuse fun _ counted => ?_
    have size := not_not.mp (raiseIf_eq_ok.mp counted)
    refine .bind (compileLinks_diagnosed_iff.mpr ?_) fun links compiled => ?_
    · rintro ⟨before, raw, after, links, shape, accepted, stuck⟩
      exact free ⟨size, before, raw, after, links, shape, accepted, by rwa [Nat.zero_add] at stuck⟩
    · obtain ⟨sound, reached⟩ := compileLinks_spec (.initial prepared) compiled
      have full : links.devicePorts.length =
          prepared.nodes.names.length * prepared.portCount := by
        rw [reached, size, List.length_nil, Nat.zero_add]
      refine raises_mapM fun node listed => ?_
      refine .bind (.of_exists (exists_entry (ready.node_listed listed))) fun name paired => ?_
      exact .of_exists (exists_entry (sound.every_device ready full (ready.device_listed paired)))

/-! ## The compiler -/

/-- The value passes every check up to a link that gives an array or an object for a device. -/
def Stuck (raw : Json) : Prop :=
  ∃ prepared, prepare raw = .ok prepared ∧
    if prepared.switch.isNone then DirectStuck prepared else SwitchStuck prepared

theorem compileTopology_diagnosed_iff (raw : Json) :
    Raises Diagnosed (compileTopology raw) ↔ ¬ Stuck raw := by
  constructor
  · rintro raises ⟨prepared, returned, stuck⟩
    have links := (Raises.bind_iff.mp ((Raises.bind_iff.mp raises).2 prepared returned)).1
    unfold compileNodeLinks at links
    by_cases direct : prepared.switch.isNone = true
    · rw [if_pos direct] at links stuck
      exact (directLink_diagnosed_iff prepared).mp links stuck
    · rw [if_neg direct] at links stuck
      exact (switchLinks_diagnosed_iff (prepare_spec returned)).mp links stuck
  · intro free
    refine .bind Diagnosed.prepare fun prepared returned => ?_
    have ready := prepare_spec returned
    refine .bind (.ite (fun direct => ?_) fun switched => ?_) fun _ _ =>
      .bind (deviceIds_diagnosed ready) fun _ _ => .pure _
    · exact (directLink_diagnosed_iff prepared).mpr fun stuck =>
        free ⟨prepared, returned, (if_pos direct).mpr stuck⟩
    · exact (switchLinks_diagnosed_iff ready).mpr fun stuck =>
        free ⟨prepared, returned, (if_neg switched).mpr stuck⟩

section Pair

def pairNode (id : String) : Json := .obj [("id", .str id), ("simulator", .str "qemu")]

def pairDevice (id node : String) (eid : Int) : Json :=
  .obj [("id", .str id), ("node", .str node), ("type", .str "udma"), ("eid", .int eid),
    ("ports", .int 1)]

/-- Two QEMU nodes with a direct link between `device` and `dev1`. -/
def pairTopology (device : Json) : Json :=
  .obj [("schema_version", .int 1), ("name", .str "pair"),
    ("nodes", .arr [pairNode "node0", pairNode "node1"]),
    ("devices", .arr [pairDevice "dev0" "node0" 256, pairDevice "dev1" "node1" 257]),
    ("switches", .arr []),
    ("links", .arr [.obj [("device", device), ("device_port", .int 0),
      ("peer_device", .str "dev1"), ("peer_port", .int 0), ("rate_gbps", .int 400),
      ("latency_ns", .int 1000)]]),
    ("execution", .obj [("sync", .str "off"), ("checkpoint", .str "none")])]

end Pair

end Udma.Lab
