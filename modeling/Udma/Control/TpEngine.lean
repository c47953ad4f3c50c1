import Udma.Control.Machine
import Udma.Control.TpTable

/-!
# The TP table of the control engine

The control engine keeps the routes as a list and reads requests without a check.  Its answers
to CtrlQ requests, and what they and link events do to its routes, are those of the TP table.
-/

namespace Udma.Control.Tp

open Udma.Abi Udma.Collections
open Udma.Sq (TpRoute findRoute)

def Route.view (route : Route) : TpRoute :=
  ⟨route.id, route.localEid, route.remoteEid, route.port, route.active⟩

/-- The device holds the routes of the table, in some order. -/
structure Mirrors (device : Device) (table : Table) : Prop where
  routes : device.tpRoutes.Perm (table.routes.entries.map fun entry => entry.2.view)
  nextId : device.nextTpId = table.nextTpId
  nextPort : device.nextTpPort = table.nextTpPort

section Routes

variable {config : Config} {device : Device} {table : Table}

theorem Mirrors.length (mirrors : Mirrors device table) :
    device.tpRoutes.length = table.routes.keys.length := by
  rw [mirrors.routes.length_eq, List.length_map]
  exact (List.length_map _).symm

theorem Table.Sound.entry (sound : table.Sound config) {entry : Sigma fun _ : Nat => Route}
    (listed : entry ∈ table.routes.entries) : entry.2.Sound table.linkUp entry.1 :=
  sound.routes entry.1 entry.2 (AList.mem_lookup_iff.mpr listed)

theorem Mirrors.findRoute (mirrors : Mirrors device table) (sound : table.Sound config)
    (id : Nat) : findRoute device.tpRoutes id = (table.routes.lookup id).map Route.view := by
  have listed {route : TpRoute} (member : route ∈ device.tpRoutes) :
      ∃ entry, table.routes.lookup route.id = some entry ∧ entry.view = route := by
    obtain ⟨entry, held, rfl⟩ := List.mem_map.mp (mirrors.routes.mem_iff.mp member)
    refine ⟨entry.2, ?_, rfl⟩
    change table.routes.lookup entry.2.id = _
    rw [(sound.entry held).id]
    exact AList.mem_lookup_iff.mpr held
  unfold Sq.findRoute
  cases found : List.find? (fun route => route.id == id) device.tpRoutes with
  | none =>
      cases held : table.routes.lookup id with
      | none => rfl
      | some route =>
          have member : route.view ∈ device.tpRoutes :=
            mirrors.routes.mem_iff.mpr (List.mem_map_of_mem (AList.mem_lookup_iff.mp held))
          have named : route.id = id := (sound.routes id route held).id
          simpa [Route.view, named] using List.find?_eq_none.mp found _ member
  | some route =>
      have named : route.id = id := by simpa using List.find?_some found
      obtain ⟨entry, held, rfl⟩ := listed (List.mem_of_find?_eq_some found)
      rw [named] at held
      rw [held]
      rfl

/-- The routes under other keys have other numbers. -/
theorem Table.Sound.rest (sound : table.Sound config) {id : Nat}
    {entry : Sigma fun _ : Nat => Route} (listed : entry ∈ (table.routes.erase id).entries) :
    entry.2.id ≠ id := by
  have held : (table.routes.erase id).lookup entry.1 = some entry.2 :=
    AList.mem_lookup_iff.mpr listed
  by_cases same : entry.1 = id
  · rw [same, AList.lookup_erase] at held
    simp at held
  · rw [AList.lookup_erase_ne same] at held
    rwa [(sound.routes entry.1 entry.2 held).id]

/-- A change of the route of one number. -/
theorem Mirrors.switch (mirrors : Mirrors device table) (sound : table.Sound config) {id : Nat}
    {route : Route} (found : table.routes.lookup id = some route) (active : Bool) :
    Mirrors
      { device with
        tpRoutes := device.tpRoutes.map fun other =>
          if other.id = id then { other with active := active } else other }
      { table with routes := table.routes.insert id { route with active := active } } := by
  refine ⟨?_, mirrors.nextId, mirrors.nextPort⟩
  have named : route.id = id := (sound.routes id route found).id
  refine (mirrors.routes.map _).trans ?_
  rw [List.map_map]
  refine ((entries_perm_of_lookup found).map _).trans (List.Perm.of_eq ?_)
  rw [AList.entries_insert, List.map_cons, List.map_cons]
  refine congrArg₂ List.cons (by simp [Route.view, named]) (List.map_congr_left fun entry held => ?_)
  have other : entry.2.view.id ≠ id := sound.rest held
  rw [Function.comp_apply, if_neg other]

theorem Mirrors.remove (mirrors : Mirrors device table) (sound : table.Sound config) {tpn : Nat}
    {route : Route} (found : table.routes.lookup tpn = some route) :
    Mirrors
      { device with tpRoutes := device.tpRoutes.filter fun other => !(other.id == tpn) }
      { table with routes := table.routes.erase tpn } := by
  refine ⟨?_, mirrors.nextId, mirrors.nextPort⟩
  have named : route.view.id = tpn := (sound.routes tpn route found).id
  refine (mirrors.routes.filter _).trans ?_
  refine (((entries_perm_of_lookup found).map _).filter _).trans (List.Perm.of_eq ?_)
  rw [List.map_cons, List.filter_cons_of_neg (by simp [named]), List.filter_eq_self]
  intro view held
  obtain ⟨entry, listed, rfl⟩ := List.mem_map.mp held
  have other : entry.2.view.id ≠ tpn := sound.rest listed
  simpa using other

theorem Mirrors.add (mirrors : Mirrors device table) (route : Route)
    (free : table.routes.lookup route.id = none) (nextId nextPort : Nat) :
    Mirrors
      { device with
        tpRoutes := device.tpRoutes ++ [route.view], nextTpId := nextId, nextTpPort := nextPort }
      { table with
        routes := table.routes.insert route.id route, nextTpId := nextId, nextTpPort := nextPort } := by
  refine ⟨?_, rfl, rfl⟩
  change (device.tpRoutes ++ [route.view]).Perm
    ((table.routes.insert route.id route).entries.map fun entry => entry.2.view)
  rw [AList.entries_insert_of_notMem (AList.lookup_eq_none.mp free), List.map_cons]
  exact List.perm_append_comm.trans (mirrors.routes.cons _)

theorem setLinkState_mirrors (mirrors : Mirrors device table) (port : Nat) (linkUp : List Bool) :
    Mirrors { device with tpRoutes := device.tpRoutes.map (·.rebind linkUp port) }
      { table with routes := mapTable (·.rebind linkUp port) table.routes } := by
  refine ⟨(mirrors.routes.map _).trans (List.Perm.of_eq ?_), mirrors.nextId, mirrors.nextPort⟩
  simp only [mapTable, List.map_map]
  refine List.map_congr_left fun entry _ => ?_
  simp only [Function.comp_apply, TpRoute.rebind, Route.rebind, Route.view, Sigma.map, id]
  split
  next => rfl
  next => cases linkUp.findIdx? (fun up => up) <;> rfl

theorem allocateTpId_eq (mirrors : Mirrors device table) (sound : table.Sound config)
    (attempts candidate next : Nat) : Sq.allocateTpId device.tpRoutes attempts candidate next =
      searchId table.routes attempts candidate next := by
  induction attempts generalizing candidate next with
  | zero => rfl
  | succ attempts inductionHypothesis =>
      simp only [Sq.allocateTpId, searchId, mirrors.findRoute sound, Option.isNone_map,
        inductionHypothesis]

end Routes

/-! ## Requests -/

/-- The engine and the table give the same answer and keep the same routes. -/
def Agrees (own : Device × Except Nat Bytes) (answer : Option Answer) : Prop :=
  ∃ after, answer = some (after, own.2) ∧ Mirrors own.1 after

section Requests

variable {config : Config} {device : Device} {table : Table} {request event : Bytes}

theorem getTp_agrees (mirrors : Mirrors device table) (sound : table.Sound config)
    (input : headerBytes + 36 ≤ request.length) (output : headerBytes + 44 ≤ event.length) :
    Agrees (Control.getTp config device table.linkUp request event)
      (getTp config table request event) := by
  unfold getTp Control.getTp
  rw [← mirrors.length, loadWord_inside (by omega), loadWord_inside (by omega)]
  simp only [Option.bind_eq_bind, Option.bind_some, mirrors.nextId, mirrors.nextPort,
    allocateTpId_eq mirrors sound, mirrors.findRoute sound, Option.isSome_map]
  split
  next => exact ⟨table, rfl, mirrors⟩
  next =>
    split
    next => exact ⟨table, rfl, mirrors⟩
    next eids =>
      cases (Sq.allocateTpPort table.linkUp config.portCount config.portCount
        table.nextTpPort).1 with
      | none => exact ⟨_, rfl, mirrors.routes, rfl, rfl⟩
      | some port =>
          dsimp only
          split
          next used =>
            rw [if_pos (.inr (.inr used))]
            exact ⟨_, rfl, mirrors.routes, rfl, rfl⟩
          next free =>
            rw [if_neg (by tauto), (storeAll_inside (by simp [store32]; omega)).1]
            exact ⟨_, rfl, mirrors.add ⟨_, _, _, _, port, false⟩ (by simpa using free) _ _⟩

theorem setTpActive_agrees (mirrors : Mirrors device table) (sound : table.Sound config)
    (active : Bool) (input : headerBytes + 8 ≤ request.length)
    (output : active = true → headerBytes + 8 ≤ event.length) :
    Agrees (Control.setTpActive device table.linkUp active request event)
      (setTpActive table active request event) := by
  unfold setTpActive Control.setTpActive
  rw [loadWord_inside (by omega)]
  simp only [Option.bind_eq_bind, Option.bind_some, mirrors.findRoute sound]
  cases found : table.routes.lookup (load32 request headerBytes &&& 0xffffff) with
  | none => exact ⟨table, rfl, mirrors⟩
  | some route =>
      have inside : table.linkUp.length ≤ route.port ∨ ¬ table.linkUp.getD route.port false ↔
          ¬ table.linkUp.getD route.view.port false := by
        refine ⟨fun down => ?_, .inr⟩
        rcases down with outside | down
        · rw [show table.linkUp.getD route.view.port false = false from
            List.getD_eq_default _ _ outside]
          decide
        · exact down
      simp only [Option.map_some, inside]
      split
      next => exact ⟨table, rfl, mirrors⟩
      next =>
        have switched := mirrors.switch sound found active
        split
        next isActive =>
          have room := output isActive
          have width : ((request.drop headerBytes).take 8).length ≤ 8 := List.length_take_le _ _
          rw [slice_inside input, Option.bind_some, store_inside (by dsimp only; omega)]
          exact ⟨_, rfl, switched⟩
        next => exact ⟨_, rfl, switched⟩

theorem removeTp_agrees (mirrors : Mirrors device table) (sound : table.Sound config)
    (pendingRma : Bool) (input : headerBytes + 4 ≤ request.length) :
    Agrees (Control.removeTp device pendingRma request event)
      (removeTp table pendingRma request event) := by
  unfold removeTp Control.removeTp
  rw [loadWord_inside input]
  simp only [Option.bind_eq_bind, Option.bind_some, mirrors.findRoute sound]
  cases found : table.routes.lookup (load32 request headerBytes &&& 0xffffff) with
  | none => exact ⟨table, rfl, mirrors⟩
  | some route =>
      simp only [Option.map_some]
      change Agrees (if route.active = true ∨ pendingRma = true then _ else _) _
      split
      next => exact ⟨table, rfl, mirrors⟩
      next => exact ⟨_, rfl, mirrors.remove sound found⟩

theorem startEvent_blank (output : Nat) (long : headerBytes ≤ request.length) :
    startEvent request output = some (blankEvent request output) := by
  have header : (request.take headerBytes).length = headerBytes := by simpa using long
  have first : patch (List.replicate (headerBytes + output) 0) (0, request.take headerBytes) =
      request.take headerBytes ++ List.replicate output 0 := by
    simp [patch, header]
  obtain ⟨event, started, _⟩ := startEvent_inside output long
  have room : ∀ field ∈ [(0, (request.drop 0).take headerBytes), (10, store16 output),
      (12, store16 0), (14, [2])],
      field.1 + field.2.length ≤ (List.replicate (headerBytes + output) (0 : UInt8)).length := by
    simp [store16, headerBytes]
    omega
  rw [startEvent, slice_inside (by omega)]
  refine (storeAll_inside room).1.trans ?_
  rw [List.foldl_cons, List.drop_zero, first]
  rfl

end Requests

/-- `BuildCtrlqResponse` of the control engine is that of the table. -/
theorem buildCtrlqResponse_agrees {config : Config} {device : Device} {table : Table}
    (mirrors : Mirrors device table) (sound : table.Sound config) (pendingRma : Bool)
    (crqDepth : Nat) (request : Bytes) :
    Agrees (Control.buildCtrlqResponse config device table.linkUp pendingRma crqDepth request)
      (buildCtrlqResponse config table pendingRma crqDepth request) := by
  have kept (status : Nat) : Agrees (device, .error status) (some (table, .error status)) :=
    ⟨table, rfl, mirrors⟩
  unfold Control.buildCtrlqResponse buildCtrlqResponse
  by_cases long : request.length < headerBytes
  · rw [if_pos (.inl long), if_pos long]
    exact kept 22
  have headers : 28 ≤ request.length := Nat.not_lt.mp long
  rw [if_neg long, loadHalf_inside (by omega), loadHalf_inside (by omega),
    loadHalf_inside (by omega), loadByte_inside (by omega), loadByte_inside (by omega)]
  simp only [Option.bind_eq_bind, Option.bind_some, long, false_or]
  by_cases version : load16 request 4 ≠ 3
  · rw [if_pos version, if_pos (.inl version)]
    exact kept 22
  rw [if_neg version]
  by_cases fits : request.length - headerBytes < load16 request 10
  · rw [if_pos fits, if_pos (.inr fits)]
    exact kept 22
  rw [if_neg fits, if_neg (not_or.mpr ⟨version, fits⟩)]
  cases CtrlqOpcode.decode (byteAt request 17) (byteAt request 19) with
  | none => exact kept 95
  | some kind =>
      dsimp only
      by_cases sizes : load16 request 10 < kind.minInput ∨ load16 request 12 < kind.minOutput
      · rw [if_pos sizes, if_pos sizes]
        exact kept 22
      rw [if_neg sizes, if_neg sizes]
      split
      next => exact kept 90
      next =>
        obtain ⟨event, started, width⟩ := startEvent_inside (load16 request 12) headers
        have blank := startEvent_blank (load16 request 12) headers
        rw [blank] at started
        obtain rfl := Option.some.inj started
        rw [blank, Option.bind_some]
        simp only [not_or, Nat.not_lt] at sizes
        have parameters : request.length - headerBytes = request.length - 28 := rfl
        have input : headerBytes + kind.minInput ≤ request.length := by
          change 28 + kind.minInput ≤ request.length
          omega
        have output : headerBytes + kind.minOutput ≤
            (blankEvent request (load16 request 12)).length := by omega
        cases kind with
        | querySl =>
            unfold serve
            rw [querySl_inside output]
            exact ⟨table, rfl, mirrors⟩
        | queryVl =>
            simp only [CtrlqOpcode.minOutput] at output
            unfold serve
            rw [store_inside (by simp; omega)]
            exact ⟨table, rfl, mirrors⟩
        | init => exact ⟨table, rfl, mirrors⟩
        | querySeid =>
            unfold serve
            rw [querySeid_inside config output]
            exact ⟨table, rfl, mirrors⟩
        | getTp => exact getTp_agrees mirrors sound input output
        | activate =>
            simp only [CtrlqOpcode.minInput] at input
            exact setTpActive_agrees mirrors sound true (by omega) fun _ => output
        | deactivate =>
            simp only [CtrlqOpcode.minInput] at input
            exact setTpActive_agrees mirrors sound false (by omega) (by simp)
        | remove => exact removeTp_agrees mirrors sound pendingRma input

/-- A link event changes the routes of the engine as it changes those of the table. -/
theorem setLinkState_agrees {state : State} {table : Table} (mirrors : Mirrors state.device table)
    (links : state.linkUp = table.linkUp) (port : Nat) (up : Bool) :
    Mirrors (Control.setLinkState state port up).device (setLinkState table port up) ∧
      (Control.setLinkState state port up).linkUp = (setLinkState table port up).linkUp := by
  unfold Control.setLinkState setLinkState
  rw [links]
  split
  next => exact ⟨mirrors, links⟩
  next =>
    cases up with
    | true => exact ⟨⟨mirrors.routes, mirrors.nextId, mirrors.nextPort⟩, rfl⟩
    | false =>
        have lowered := setLinkState_mirrors mirrors port (table.linkUp.set port false)
        exact ⟨⟨lowered.routes, lowered.nextId, lowered.nextPort⟩, rfl⟩

end Udma.Control.Tp
