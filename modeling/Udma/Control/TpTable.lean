import Mathlib
import Udma.Abi.Words
import Udma.Control.Responses
import Udma.Collections.Table
import Udma.Transition.Run

/-!
# The TP table

CtrlQ requests and link events change the table of TP routes.  Here the table is kept with the
keys and all fields of its routes, and every access to the request and to the event is checked
against the length of its vector: an access outside gives `none`.  What a request answers is
what the control engine answers.
-/

namespace Udma.Control.Tp

open Udma.Abi Udma.Collections Udma.Transition

/-- `TpRoute` with all its fields. -/
structure Route where
  id : Nat
  tpn : Nat
  localEid : Nat
  remoteEid : Nat
  port : Nat
  active : Bool
  deriving DecidableEq, Repr

abbrev Routes := AList fun _ : Nat => Route

structure Table where
  routes : Routes := ∅
  nextTpId : Nat := 1
  nextTpPort : Nat := 0
  linkUp : List Bool

def Table.initial (config : Config) : Table := { linkUp := List.replicate config.portCount true }

/-! ## Checked accesses -/

def loadByte (bytes : Bytes) (offset : Nat) : Option Nat :=
  if offset + 1 ≤ bytes.length then some (byteAt bytes offset) else none

def loadHalf (bytes : Bytes) (offset : Nat) : Option Nat :=
  if offset + 2 ≤ bytes.length then some (load16 bytes offset) else none

def loadWord (bytes : Bytes) (offset : Nat) : Option Nat :=
  if offset + 4 ≤ bytes.length then some (load32 bytes offset) else none

def slice (bytes : Bytes) (offset size : Nat) : Option Bytes :=
  if offset + size ≤ bytes.length then some ((bytes.drop offset).take size) else none

def store (event : Bytes) (field : Nat × Bytes) : Option Bytes :=
  if field.1 + field.2.length ≤ event.length then some (patch event field) else none

def storeAll (fields : List (Nat × Bytes)) (event : Bytes) : Option Bytes :=
  fields.foldlM store event

/-! ## Requests -/

/-- The status or the event that answers a request, with the table after it. -/
abbrev Answer := Table × Except Nat Bytes

/-- `get_tp`'s search for a free number: the candidate and the next one to try. -/
def searchId (routes : Routes) : Nat → Nat → Nat → Nat × Nat
  | 0, candidate, next => (candidate, next)
  | attempts + 1, candidate, next =>
      let following := if 1024 ≤ next + 1 then 1 else next + 1
      if (routes.lookup candidate).isNone then (candidate, following)
      else searchId routes attempts following following

def getTp (config : Config) (table : Table) (request event : Bytes) : Option Answer :=
  if 1023 ≤ table.routes.keys.length then some (table, .error 28)
  else do
    let localWord ← loadWord request headerBytes
    let remoteWord ← loadWord request (headerBytes + 16)
    let localEid := localWord &&& 0xfffff
    let remoteEid := remoteWord &&& 0xfffff
    if localEid = 0 ∨ remoteEid = 0 then some (table, .error 22)
    else
      let chosen := searchId table.routes 1023 table.nextTpId table.nextTpId
      let found := Sq.allocateTpPort table.linkUp config.portCount config.portCount table.nextTpPort
      let advanced := { table with nextTpId := chosen.2, nextTpPort := found.2 }
      match found.1 with
      | none => some (advanced, .error 100)
      | some port =>
          let route : Route := ⟨chosen.1, chosen.1, localEid, remoteEid, port, false⟩
          if route.localEid = 0 ∨ route.remoteEid = 0 ∨ (table.routes.lookup chosen.1).isSome then
            some (advanced, .error 28)
          else do
            let filled ← storeAll [(headerBytes, store32 1),
              (headerBytes + 4, store32 (chosen.1 ||| (1 <<< 24))),
              (headerBytes + 8, store32 chosen.1)] event
            some ({ advanced with routes := table.routes.insert chosen.1 route }, .ok filled)

/-- `activate` and `deactivate`. -/
def setTpActive (table : Table) (active : Bool) (request event : Bytes) : Option Answer := do
  let word ← loadWord request headerBytes
  let id := word &&& 0xffffff
  match table.routes.lookup id with
  | none => some (table, .error 2)
  | some route =>
      if active ∧ (table.linkUp.length ≤ route.port ∨ ¬ table.linkUp.getD route.port false) then
        some (table, .error 100)
      else
        let switched :=
          { table with routes := table.routes.insert id { route with active := active } }
        if active then do
          let config ← slice request headerBytes 8
          let filled ← store event (headerBytes, config)
          some (switched, .ok filled)
        else some (switched, .ok event)

/-- `remove`: not while the TP is active or an RMA request is pending. -/
def removeTp (table : Table) (pendingRma : Bool) (request event : Bytes) : Option Answer := do
  let word ← loadWord request headerBytes
  let tpn := word &&& 0xffffff
  match table.routes.lookup tpn with
  | none => some (table, .error 2)
  | some route =>
      if route.active ∨ pendingRma then some (table, .error 16)
      else some ({ table with routes := table.routes.erase tpn }, .ok event)

/-- The event with the headers of the request, the output size and the response mark. -/
def startEvent (request : Bytes) (output : Nat) : Option Bytes := do
  let header ← slice request 0 headerBytes
  storeAll [(0, header), (10, store16 output), (12, store16 0), (14, [2])]
    (List.replicate (headerBytes + output) 0)

def serve (config : Config) (table : Table) (pendingRma : Bool) (request event : Bytes) :
    CtrlqOpcode → Option Answer
  | .querySl => do
      let filled ← storeAll [(headerBytes, [1]), (headerBytes + 4, [1]), (headerBytes + 6, [1]),
        (headerBytes + 3, [4])] event
      some (table, .ok filled)
  | .queryVl => do
      let filled ← store event (headerBytes, [1])
      some (table, .ok filled)
  | .init => some (table, .ok event)
  | .querySeid => do
      let filled ← storeAll ((headerBytes, [4]) :: (List.range 4).flatMap (seidEntry config)) event
      some (table, .ok filled)
  | .getTp => getTp config table request event
  | .activate => setTpActive table true request event
  | .deactivate => setTpActive table false request event
  | .remove => removeTp table pendingRma request event

/-- `BuildCtrlqResponse`; `crqDepth` is the depth of the response ring. -/
def buildCtrlqResponse (config : Config) (table : Table) (pendingRma : Bool) (crqDepth : Nat)
    (request : Bytes) : Option Answer :=
  if request.length < headerBytes then some (table, .error 22)
  else do
    let version ← loadHalf request 4
    let input ← loadHalf request 10
    let output ← loadHalf request 12
    let service ← loadByte request 17
    let opcode ← loadByte request 19
    if version ≠ 3 ∨ request.length - headerBytes < input then some (table, .error 22)
    else
      match CtrlqOpcode.decode service opcode with
      | none => some (table, .error 95)
      | some opcode =>
          if input < opcode.minInput ∨ output < opcode.minOutput then some (table, .error 22)
          else if crqDepth * 32 ≤ headerBytes + output + 8 then some (table, .error 90)
          else do
            let event ← startEvent request output
            serve config table pendingRma request event opcode

/-! ## Link events -/

/-- The first port with its link up takes over a route whose port went down. -/
def Route.rebind (linkUp : List Bool) (port : Nat) (route : Route) : Route :=
  if route.port ≠ port then route
  else
    match linkUp.findIdx? (fun up => up) with
    | some candidate => { route with port := candidate }
    | none => { route with active := false }

def setLinkState (table : Table) (port : Nat) (up : Bool) : Table :=
  if table.linkUp.length ≤ port then table
  else
    let linkUp := table.linkUp.set port up
    if up then { table with linkUp := linkUp }
    else { table with linkUp := linkUp, routes := mapTable (·.rebind linkUp port) table.routes }

inductive Event where
  | request (bytes : Bytes) (pendingRma : Bool) (crqDepth : Nat)
  | setLinkState (port : Nat) (up : Bool)

def step (config : Config) (table : Table) : Event → Option Table
  | .request bytes pendingRma crqDepth =>
      (buildCtrlqResponse config table pendingRma crqDepth bytes).map Prod.fst
  | .setLinkState port up => some (setLinkState table port up)

/-! ## Accesses that are inside -/

section Accesses

variable {bytes event : Bytes} {offset size : Nat}

theorem loadByte_inside (inside : offset + 1 ≤ bytes.length) :
    loadByte bytes offset = some (byteAt bytes offset) := if_pos inside

theorem loadHalf_inside (inside : offset + 2 ≤ bytes.length) :
    loadHalf bytes offset = some (load16 bytes offset) := if_pos inside

theorem loadWord_inside (inside : offset + 4 ≤ bytes.length) :
    loadWord bytes offset = some (load32 bytes offset) := if_pos inside

theorem slice_inside (inside : offset + size ≤ bytes.length) :
    slice bytes offset size = some ((bytes.drop offset).take size) := if_pos inside

theorem patch_eq_overwrite {field : Nat × Bytes}
    (inside : field.1 + field.2.length ≤ event.length) :
    patch event field = overwrite event field.1 field.2 := (overwrite_eq_splice inside).symm

theorem store_inside {field : Nat × Bytes} (inside : field.1 + field.2.length ≤ event.length) :
    store event field = some (patch event field) := if_pos inside

theorem storeAll_inside {fields : List (Nat × Bytes)}
    (inside : ∀ field ∈ fields, field.1 + field.2.length ≤ event.length) :
    storeAll fields event = some (fields.foldl patch event) ∧
      (fields.foldl patch event).length = event.length := by
  induction fields generalizing event with
  | nil => exact ⟨rfl, rfl⟩
  | cons field rest inductionHypothesis =>
      have first := inside field List.mem_cons_self
      have width := patch_length first
      have later := @inductionHypothesis (patch event field) fun other listed => by
        rw [width]
        exact inside other (List.mem_cons_of_mem _ listed)
      refine ⟨?_, by rw [List.foldl_cons, later.2, width]⟩
      rw [storeAll, List.foldlM_cons, store_inside first]
      exact later.1

end Accesses

/-! ## The search for a free number -/

def Table.Full (table : Table) : Prop :=
  ∀ id, 1 ≤ id → id ≤ 1023 → (table.routes.lookup id).isSome

/-- The number that is `count` numbers behind `id`. -/
def advance (id count : Nat) : Nat := (id - 1 + count) % 1023 + 1

theorem following_eq {id : Nat} (positive : 1 ≤ id) (small : id ≤ 1023) :
    (if 1024 ≤ id + 1 then 1 else id + 1) = advance id 1 := by
  unfold advance
  split <;> omega

theorem advance_range (id count : Nat) : 1 ≤ advance id count ∧ advance id count ≤ 1023 := by
  unfold advance
  omega

theorem advance_advance {id : Nat} (count : Nat) : advance (advance id 1) count =
    advance id (count + 1) := by
  unfold advance
  omega

section Search

variable {routes : Routes}

theorem searchId_free {id : Nat} (attempts : Nat) (positive : 1 ≤ id) (small : id ≤ 1023)
    (free : routes.lookup id = none) :
    searchId routes (attempts + 1) id id = (id, advance id 1) := by
  simp only [searchId, following_eq positive small]
  simp [free]

theorem searchId_taken {id : Nat} (attempts : Nat) (positive : 1 ≤ id) (small : id ≤ 1023)
    (taken : routes.lookup id ≠ none) :
    searchId routes (attempts + 1) id id =
      searchId routes attempts (advance id 1) (advance id 1) := by
  simp only [searchId, following_eq positive small]
  simp [taken]

theorem searchId_range {id : Nat} (attempts : Nat) (positive : 1 ≤ id) (small : id ≤ 1023) :
    (1 ≤ (searchId routes attempts id id).1 ∧ (searchId routes attempts id id).1 ≤ 1023) ∧
      1 ≤ (searchId routes attempts id id).2 ∧ (searchId routes attempts id id).2 ≤ 1023 := by
  induction attempts generalizing id with
  | zero => exact ⟨⟨positive, small⟩, positive, small⟩
  | succ attempts inductionHypothesis =>
      have next := advance_range id 1
      by_cases free : routes.lookup id = none
      · rw [searchId_free attempts positive small free]
        exact ⟨⟨positive, small⟩, next⟩
      · rw [searchId_taken attempts positive small free]
        exact inductionHypothesis next.1 next.2

/-- The search ends at a number in use only when it has seen no free one. -/
theorem searchId_used {id attempts : Nat} (positive : 1 ≤ id) (small : id ≤ 1023)
    (used : (routes.lookup (searchId routes attempts id id).1).isSome = true) :
    ∀ count < attempts, (routes.lookup (advance id count)).isSome = true := by
  induction attempts generalizing id with
  | zero => exact fun count impossible => absurd impossible (Nat.not_lt_zero count)
  | succ attempts inductionHypothesis =>
      have next := advance_range id 1
      by_cases free : routes.lookup id = none
      · rw [searchId_free attempts positive small free] at used
        simp [free] at used
      · rw [searchId_taken attempts positive small free] at used
        have later := inductionHypothesis next.1 next.2 used
        intro count before
        cases count with
        | zero =>
            have same : advance id 0 = id := by
              unfold advance
              omega
            rw [same]
            exact Option.isSome_iff_ne_none.mpr free
        | succ count =>
            rw [← advance_advance]
            exact later count (Nat.lt_of_succ_lt_succ before)

/-- The search covers all numbers. -/
theorem searchId_full {id : Nat} (positive : 1 ≤ id) (small : id ≤ 1023)
    (used : (routes.lookup (searchId routes 1023 id id).1).isSome = true) (other : Nat)
    (lower : 1 ≤ other) (upper : other ≤ 1023) : (routes.lookup other).isSome = true := by
  have seen := searchId_used positive small used ((other + 1023 - id) % 1023)
    (Nat.mod_lt _ (by decide))
  have same : advance id ((other + 1023 - id) % 1023) = other := by
    unfold advance
    omega
  rwa [same] at seen

end Search

theorem allocateTpPort_up {linkUp : List Bool} {portCount attempts cursor port : Nat}
    (found : (Sq.allocateTpPort linkUp portCount attempts cursor).1 = some port) :
    linkUp.getD port false = true := by
  induction attempts generalizing cursor with
  | zero => simp [Sq.allocateTpPort] at found
  | succ attempts inductionHypothesis =>
      simp only [Sq.allocateTpPort] at found
      split at found
      next up =>
        obtain rfl := Option.some.inj found
        exact up
      next => exact inductionHypothesis found

/-! ## Sound tables -/

structure Route.Sound (linkUp : List Bool) (key : Nat) (route : Route) : Prop where
  id : route.id = key
  tpn : route.tpn = key
  range : 1 ≤ key ∧ key ≤ 1023
  eids : route.localEid ≠ 0 ∧ route.remoteEid ≠ 0
  port : route.port < linkUp.length
  up : route.active = true → linkUp.getD route.port false = true

structure Table.Sound (config : Config) (table : Table) : Prop where
  next : 1 ≤ table.nextTpId ∧ table.nextTpId ≤ 1023
  ports : table.linkUp.length = config.portCount
  routes : ∀ key route, table.routes.lookup key = some route → route.Sound table.linkUp key

theorem Table.initial_sound (config : Config) : (Table.initial config).Sound config where
  next := ⟨Nat.le_refl 1, Nat.le_of_ble_eq_true rfl⟩
  ports := List.length_replicate
  routes := by simp [Table.initial]

theorem lookup_of_mem_keys {routes : Routes} {key : Nat} (listed : key ∈ routes.keys) :
    (routes.lookup key).isSome = true := by
  rw [AList.lookup_isSome]
  exact listed

/-- A table with 1023 routes has no free number. -/
theorem Table.Sound.full {config : Config} {table : Table} (sound : table.Sound config)
    (many : 1023 ≤ table.routes.keys.length) : table.Full := by
  have listed : table.routes.keys.toFinset ⊆ Finset.Icc 1 1023 := by
    intro key member
    obtain ⟨route, found⟩ := Option.isSome_iff_exists.mp
      (lookup_of_mem_keys (List.mem_toFinset.mp member))
    exact Finset.mem_Icc.mpr (sound.routes key route found).range
  have distinct : table.routes.keys.toFinset.card = table.routes.keys.length :=
    List.toFinset_card_of_nodup table.routes.keys_nodup
  have whole : table.routes.keys.toFinset = Finset.Icc 1 1023 :=
    Finset.eq_of_subset_of_card_le listed (by rw [distinct, Nat.card_Icc]; exact many)
  intro id lower upper
  have member : id ∈ table.routes.keys.toFinset := by
    rw [whole]
    exact Finset.mem_Icc.mpr ⟨lower, upper⟩
  exact lookup_of_mem_keys (List.mem_toFinset.mp member)

/-! ## What a request does -/

/-- The results of a request of a kind; one that is not understood has no kind. -/
inductive Outcome (table : Table) : Option CtrlqOpcode → Answer → Prop where
  | refused {kind : Option CtrlqOpcode} (status nextId nextPort : Nat) (failed : status ≠ 0)
      (full : status = 28 → table.Full) (range : 1 ≤ nextId ∧ nextId ≤ 1023) :
      Outcome table kind ({ table with nextTpId := nextId, nextTpPort := nextPort }, .error status)
  | answered {kind : Option CtrlqOpcode} (event : Bytes) (other : kind ≠ some .getTp) :
      Outcome table kind (table, .ok event)
  | added (route : Route) (nextId nextPort : Nat) (event : Bytes)
      (free : table.routes.lookup route.id = none) (range : 1 ≤ nextId ∧ nextId ≤ 1023)
      (sound : route.Sound table.linkUp route.id)
      (returned : load32 event (headerBytes + 8) = route.id) :
      Outcome table (some .getTp)
        ({ table with
            routes := table.routes.insert route.id route
            nextTpId := nextId
            nextTpPort := nextPort }, .ok event)
  | switched {kind : Option CtrlqOpcode} (id : Nat) (route : Route) (active : Bool) (event : Bytes)
      (other : kind ≠ some .getTp) (found : table.routes.lookup id = some route)
      (up : active = true → table.linkUp.getD route.port false = true) :
      Outcome table kind
        ({ table with routes := table.routes.insert id { route with active := active } }, .ok event)
  | removed {kind : Option CtrlqOpcode} (tpn : Nat) (event : Bytes)
      (other : kind ≠ some .getTp) :
      Outcome table kind ({ table with routes := table.routes.erase tpn }, .ok event)

section Requests

variable {config : Config} {table : Table} {request event : Bytes}

/-- A request that is refused before anything is done. -/
theorem Table.Sound.refuse (sound : table.Sound config) {kind : Option CtrlqOpcode} {status : Nat}
    (failed : status ≠ 0) (full : status = 28 → table.Full) :
    Outcome table kind (table, .error status) :=
  .refused status table.nextTpId table.nextTpPort failed full sound.next

theorem load32_store32_patch {offset value : Nat} (small : value < 2 ^ 32)
    (inside : offset + 4 ≤ event.length) :
    load32 (patch event (offset, store32 value)) offset = value := by
  rw [patch_eq_overwrite (by simpa [store32] using inside), load32_overwrite inside,
    Nat.mod_eq_of_lt small]

theorem getTp_outcome (sound : table.Sound config) (input : headerBytes + 36 ≤ request.length)
    (output : headerBytes + 44 ≤ event.length) :
    ∃ answer, getTp config table request event = some answer ∧
      Outcome table (some .getTp) answer := by
  unfold getTp
  split
  next many => exact ⟨_, rfl, sound.refuse (by decide) fun _ => sound.full many⟩
  next few =>
    rw [loadWord_inside (by omega), loadWord_inside (by omega)]
    simp only [Option.bind_eq_bind, Option.bind_some]
    split
    next => exact ⟨_, rfl, sound.refuse (by decide) (by simp)⟩
    next eids =>
      have ranges := @searchId_range table.routes table.nextTpId 1023 sound.next.1 sound.next.2
      split
      next => exact ⟨_, rfl, .refused 100 _ _ (by decide) (by simp) ranges.2⟩
      next port found =>
        split
        next used =>
          refine ⟨_, rfl, .refused 28 _ _ (by decide) (fun _ => ?_) ranges.2⟩
          have taken := used.resolve_left (by tauto) |>.resolve_left (by tauto)
          exact searchId_full sound.next.1 sound.next.2 taken
        next free =>
          have room : ∀ field ∈ [(headerBytes, store32 1),
              (headerBytes + 4, store32
                ((searchId table.routes 1023 table.nextTpId table.nextTpId).1 ||| (1 <<< 24))),
              (headerBytes + 8, store32
                (searchId table.routes 1023 table.nextTpId table.nextTpId).1)],
              field.1 + field.2.length ≤ event.length := by
            simp [store32]
            omega
          have filled := storeAll_inside room
          rw [filled.1]
          refine ⟨_, rfl, .added
            ⟨_, _, load32 request headerBytes &&& 0xfffff,
              load32 request (headerBytes + 16) &&& 0xfffff, port, false⟩ _ _ _ ?_ ranges.2 ?_ ?_⟩
          · simpa using fun taken => free (.inr (.inr taken))
          · have up := allocateTpPort_up found
            refine ⟨rfl, rfl, ranges.1, by tauto, ?_, fun _ => up⟩
            by_contra outside
            rw [List.getD_eq_default _ _ (Nat.not_lt.mp outside)] at up
            simp at up
          · have first : headerBytes + (store32 1).length ≤ event.length := by
              change headerBytes + 4 ≤ event.length
              omega
            have second (value : Nat) : headerBytes + 4 + (store32 value).length ≤
                (patch event (headerBytes, store32 1)).length := by
              rw [patch_length first]
              change headerBytes + 4 + 4 ≤ event.length
              omega
            refine load32_store32_patch (by omega) ?_
            rw [patch_length (second _), patch_length first]
            omega

theorem setTpActive_outcome (sound : table.Sound config) (active : Bool)
    {kind : Option CtrlqOpcode} (other : kind ≠ some .getTp)
    (input : headerBytes + 8 ≤ request.length)
    (output : active = true → headerBytes + 8 ≤ event.length) :
    ∃ answer, setTpActive table active request event = some answer ∧
      Outcome table kind answer := by
  unfold setTpActive
  rw [loadWord_inside (by omega)]
  simp only [Option.bind_eq_bind, Option.bind_some]
  split
  next => exact ⟨_, rfl, sound.refuse (by decide) (by simp)⟩
  next route found =>
    split
    next => exact ⟨_, rfl, sound.refuse (by decide) (by simp)⟩
    next up =>
      have switch (filled : Bytes) : Outcome table kind _ :=
        .switched _ route active filled other found fun isActive => by
          by_contra down
          exact up ⟨isActive, .inr (by simpa using down)⟩
      split
      next isActive =>
        have room := output isActive
        have width : ((request.drop headerBytes).take 8).length ≤ 8 := List.length_take_le _ _
        have inside : headerBytes + ((request.drop headerBytes).take 8).length ≤ event.length := by
          omega
        rw [slice_inside input, Option.bind_some, store_inside inside, Option.bind_some]
        exact ⟨_, rfl, switch _⟩
      next => exact ⟨_, rfl, switch event⟩

theorem removeTp_outcome (sound : table.Sound config) (pendingRma : Bool)
    {kind : Option CtrlqOpcode} (other : kind ≠ some .getTp)
    (input : headerBytes + 4 ≤ request.length) :
    ∃ answer, removeTp table pendingRma request event = some answer ∧
      Outcome table kind answer := by
  unfold removeTp
  rw [loadWord_inside input]
  simp only [Option.bind_eq_bind, Option.bind_some]
  split
  next => exact ⟨_, rfl, sound.refuse (by decide) (by simp)⟩
  next route found =>
    split
    next => exact ⟨_, rfl, sound.refuse (by decide) (by simp)⟩
    next => exact ⟨_, rfl, .removed _ event other⟩

theorem startEvent_inside (output : Nat) (long : headerBytes ≤ request.length) :
    ∃ event, startEvent request output = some event ∧ event.length = headerBytes + output := by
  have header : ((request.drop 0).take headerBytes).length = headerBytes := by
    simpa using long
  have blank : (List.replicate (headerBytes + output) (0 : UInt8)).length =
      headerBytes + output := List.length_replicate
  have room : ∀ field ∈ [(0, (request.drop 0).take headerBytes), (10, store16 output),
      (12, store16 0), (14, [2])],
      field.1 + field.2.length ≤ (List.replicate (headerBytes + output) (0 : UInt8)).length := by
    simp [store16, headerBytes]
    omega
  have filled := storeAll_inside room
  refine ⟨_, ?_, by rw [filled.2, blank]⟩
  rw [startEvent, slice_inside (by omega)]
  exact filled.1

theorem querySl_inside (output : headerBytes + 20 ≤ event.length) :
    storeAll [(headerBytes, [1]), (headerBytes + 4, [1]), (headerBytes + 6, [1]),
      (headerBytes + 3, [4])] event =
      some ([(headerBytes, [1]), (headerBytes + 4, [1]), (headerBytes + 6, [1]),
        (headerBytes + 3, [4])].foldl patch event) := by
  refine (storeAll_inside ?_).1
  simp
  omega

theorem querySeid_inside (config : Config) (output : headerBytes + 100 ≤ event.length) :
    storeAll ((headerBytes, [4]) :: (List.range 4).flatMap (seidEntry config)) event =
      some (((headerBytes, [4]) :: (List.range 4).flatMap (seidEntry config)).foldl patch event) := by
  refine (storeAll_inside ?_).1
  simp [List.range_succ, seidEntry, store32]
  omega

theorem serve_outcome (sound : table.Sound config) (pendingRma : Bool) (kind : CtrlqOpcode)
    (input : headerBytes + kind.minInput ≤ request.length)
    (output : headerBytes + kind.minOutput ≤ event.length) :
    ∃ answer, serve config table pendingRma request event kind = some answer ∧
      Outcome table (some kind) answer := by
  cases kind with
  | querySl =>
      unfold serve
      rw [querySl_inside output]
      exact ⟨_, rfl, .answered _ (by decide)⟩
  | queryVl =>
      simp only [CtrlqOpcode.minOutput] at output
      unfold serve
      rw [store_inside (by simp; omega)]
      exact ⟨_, rfl, .answered _ (by decide)⟩
  | init => exact ⟨_, rfl, .answered event (by decide)⟩
  | querySeid =>
      unfold serve
      rw [querySeid_inside config output]
      exact ⟨_, rfl, .answered _ (by decide)⟩
  | getTp => exact getTp_outcome sound input output
  | activate =>
      simp only [CtrlqOpcode.minInput] at input
      exact setTpActive_outcome sound true (by decide) (by omega) fun _ => output
  | deactivate =>
      simp only [CtrlqOpcode.minInput] at input
      exact setTpActive_outcome sound false (by decide) (by omega) (by simp)
  | remove => exact removeTp_outcome sound pendingRma (by decide) input

/-- The kind of a request that has its headers. -/
def kindOf (request : Bytes) : Option CtrlqOpcode :=
  CtrlqOpcode.decode (byteAt request 17) (byteAt request 19)

/-- No access to a request or to its event is outside. -/
theorem buildCtrlqResponse_outcome (sound : table.Sound config) (pendingRma : Bool)
    (crqDepth : Nat) (request : Bytes) :
    ∃ answer, buildCtrlqResponse config table pendingRma crqDepth request = some answer ∧
      Outcome table (kindOf request) answer := by
  unfold buildCtrlqResponse
  split
  next => exact ⟨_, rfl, sound.refuse (by decide) (by simp)⟩
  next long =>
    have headers : 28 ≤ request.length := Nat.not_lt.mp long
    rw [loadHalf_inside (by omega), loadHalf_inside (by omega), loadHalf_inside (by omega),
      loadByte_inside (by omega), loadByte_inside (by omega)]
    simp only [Option.bind_eq_bind, Option.bind_some]
    split
    next => exact ⟨_, rfl, sound.refuse (by decide) (by simp)⟩
    next fits =>
      split
      next => exact ⟨_, rfl, sound.refuse (by decide) (by simp)⟩
      next kind decoded =>
        rw [kindOf, decoded]
        split
        next => exact ⟨_, rfl, sound.refuse (by decide) (by simp)⟩
        next sizes =>
          split
          next => exact ⟨_, rfl, sound.refuse (by decide) (by simp)⟩
          next =>
            obtain ⟨event, started, width⟩ := startEvent_inside (load16 request 12) headers
            rw [started, Option.bind_some]
            simp only [not_or, Nat.not_lt] at fits sizes
            have parameters : request.length - headerBytes = request.length - 28 := rfl
            refine serve_outcome sound pendingRma kind ?_ ?_
            · change 28 + kind.minInput ≤ request.length
              omega
            · omega

theorem Outcome.sound (sound : table.Sound config) {kind : Option CtrlqOpcode} {answer : Answer}
    (outcome : Outcome table kind answer) : answer.1.Sound config := by
  cases outcome with
  | refused status nextId nextPort failed full range => exact ⟨range, sound.ports, sound.routes⟩
  | answered event other => exact sound
  | added route nextId nextPort event free range good returned =>
      refine ⟨range, sound.ports, fun key found held => ?_⟩
      by_cases same : key = route.id
      · subst same
        rw [AList.lookup_insert] at held
        obtain rfl := Option.some.inj held
        exact good
      · rw [AList.lookup_insert_ne same] at held
        exact sound.routes key found held
  | switched id route active event other present up =>
      refine ⟨sound.next, sound.ports, fun key found held => ?_⟩
      by_cases same : key = id
      · subst same
        rw [AList.lookup_insert] at held
        obtain rfl := Option.some.inj held
        exact { sound.routes key route present with up := up }
      · rw [AList.lookup_insert_ne same] at held
        exact sound.routes key found held
  | removed tpn event other =>
      refine ⟨sound.next, sound.ports, fun key found held => ?_⟩
      by_cases same : key = tpn
      · subst same
        rw [AList.lookup_erase] at held
        simp at held
      · rw [AList.lookup_erase_ne same] at held
        exact sound.routes key found held

theorem Outcome.failed {kind : Option CtrlqOpcode} {after : Table} {status : Nat}
    (outcome : Outcome table kind (after, .error status)) :
    status ≠ 0 ∧ after.routes = table.routes ∧ (status = 28 → table.Full) := by
  cases outcome with
  | refused _ nextId nextPort failed full => exact ⟨failed, rfl, full⟩

theorem Outcome.granted {after : Table}
    (outcome : Outcome table (some .getTp) (after, .ok event)) : ∃ route,
      route.id = load32 event (headerBytes + 8) ∧ table.routes.lookup route.id = none ∧
        after.routes = table.routes.insert route.id route := by
  cases outcome with
  | answered _ other => exact absurd rfl other
  | added route nextId nextPort _ free range good returned => exact ⟨route, returned.symm, free, rfl⟩
  | switched _ _ _ _ other => exact absurd rfl other
  | removed _ _ other => exact absurd rfl other

end Requests

section Links

variable {config : Config} {table after : Table}

/-- A link that goes up takes no route down. -/
theorem Route.Sound.raised {linkUp : List Bool} {key : Nat} {route : Route}
    (sound : route.Sound linkUp key) (port : Nat) : route.Sound (linkUp.set port true) key where
  id := sound.id
  tpn := sound.tpn
  range := sound.range
  eids := sound.eids
  port := by simpa using sound.port
  up := fun active => by
    have before := sound.up active
    by_cases same : port = route.port
    · subst same
      simp [List.getD_eq_getElem?_getD, List.getElem?_set_self sound.port]
    · simpa [List.getD_eq_getElem?_getD, List.getElem?_set_ne same] using before

theorem Route.Sound.lowered {linkUp : List Bool} {key : Nat} {route : Route}
    (sound : route.Sound linkUp key) (port : Nat) :
    (route.rebind (linkUp.set port false) port).Sound (linkUp.set port false) key := by
  unfold Route.rebind
  split
  next elsewhere =>
    refine { sound with port := by simpa using sound.port, up := fun active => ?_ }
    have apart : ¬ port = route.port := fun same => elsewhere same.symm
    simpa [List.getD_eq_getElem?_getD, List.getElem?_set_ne apart] using sound.up active
  next here =>
    split
    next candidate found =>
      obtain ⟨inside, up, _⟩ := List.findIdx?_eq_some_iff_getElem.mp found
      refine { sound with port := inside, up := fun _ => ?_ }
      simpa [List.getD_eq_getElem?_getD, List.getElem?_eq_getElem inside] using up
    next => exact { sound with port := by simpa using sound.port, up := by simp }

theorem setLinkState_sound (sound : table.Sound config) (port : Nat) (up : Bool) :
    (setLinkState table port up).Sound config := by
  unfold setLinkState
  split
  next => exact sound
  next =>
    have width : (table.linkUp.set port up).length = config.portCount := by
      rw [List.length_set, sound.ports]
    split
    next raised =>
      subst raised
      exact ⟨sound.next, width, fun key route found => (sound.routes key route found).raised port⟩
    next lowered =>
      obtain rfl := Bool.eq_false_iff.mpr lowered
      refine ⟨sound.next, width, fun key route found => ?_⟩
      rw [lookup_mapTable] at found
      obtain ⟨old, held, rfl⟩ := Option.map_eq_some_iff.mp found
      exact (sound.routes key old held).lowered port

theorem step_sound (sound : table.Sound config) {event : Event}
    (taken : step config table event = some after) : after.Sound config := by
  cases event with
  | request bytes pendingRma crqDepth =>
      obtain ⟨answer, built, outcome⟩ :=
        buildCtrlqResponse_outcome sound pendingRma crqDepth bytes
      rw [step, built] at taken
      obtain rfl := Option.some.inj taken
      exact outcome.sound sound
  | setLinkState port up =>
      obtain rfl := Option.some.inj taken
      exact setLinkState_sound sound port up

theorem sound_of_reaches (reached : Reaches (step config) always (.initial config) table) :
    table.Sound config :=
  reached.induction_on (fun table => table.Sound config) (Table.initial_sound config)
    fun _ _ _ _ known taken _ => step_sound known taken

end Links

/-- After any requests and link events the table is sound and every request is answered
without an access outside the request or the event.  A request that fails leaves the routes
alone, and fails with 28 only when all numbers are in use; `get_tp` returns a free number. -/
theorem tp_table_sound {config : Config} {table : Table}
    (reached : Reaches (step config) always (.initial config) table) :
    table.Sound config ∧ ∀ pendingRma crqDepth request, ∃ after result,
      buildCtrlqResponse config table pendingRma crqDepth request = some (after, result) ∧
      (∀ status, result = .error status →
        status ≠ 0 ∧ after.routes = table.routes ∧ (status = 28 → table.Full)) ∧
      ∀ event, result = .ok event → kindOf request = some .getTp → ∃ route,
        route.id = load32 event (headerBytes + 8) ∧ table.routes.lookup route.id = none ∧
          after.routes = table.routes.insert route.id route := by
  have sound := sound_of_reaches reached
  refine ⟨sound, fun pendingRma crqDepth request => ?_⟩
  obtain ⟨⟨after, result⟩, built, outcome⟩ :=
    buildCtrlqResponse_outcome sound pendingRma crqDepth request
  refine ⟨after, result, built, fun status failed => ?_, fun event answered kind => ?_⟩
  · subst failed
    exact outcome.failed
  · subst answered
    rw [kind] at outcome
    exact outcome.granted

def twoPorts : Config where
  portCount := 2
  endpointEid := 1
  maxJettys := 64
  publicJettys := 8
  maxJfsDepth := 64
  maxJfrDepth := 64
  maxJfcDepth := 64
  buildUbiosResponse := fun _ _ _ _ => none

/-- A `get_tp` request for a TP from endpoint 1 to endpoint 2. -/
def firstRequest : Bytes :=
  image 64 [(4, store16 3), (10, store16 36), (12, store16 44), (17, [1]), (19, [0x21]),
    (28, store32 1), (44, store32 2)]

/-- The first TP takes number 1, and the second one another. -/
theorem tp_table_sound_for_second_tp :
    ∃ table, Reaches (step twoPorts) always (.initial twoPorts) table ∧ table.Sound twoPorts ∧
      (table.routes.lookup 1).isSome ∧
      ∃ after event, buildCtrlqResponse twoPorts table false 64 firstRequest =
          some (after, .ok event) ∧ load32 event (headerBytes + 8) ≠ 1 := by
  obtain ⟨table, reached, seen⟩ := exists_of_execute
    (show (execute (step twoPorts) always [.request firstRequest false 64] (.initial twoPorts)).map
      (fun table => ((table.routes.lookup 1).isSome,
        (buildCtrlqResponse twoPorts table false 64 firstRequest).map (·.2.toBool))) =
        some (true, some true) by decide +kernel)
  simp only [Prod.mk.injEq] at seen
  obtain ⟨sound, answers⟩ := tp_table_sound reached
  obtain ⟨after, result, built, _, granted⟩ := answers false 64 firstRequest
  refine ⟨table, reached, sound, seen.1, ?_⟩
  cases result with
  | error status => simp [built, Except.toBool] at seen
  | ok event =>
      obtain ⟨route, named, free, _⟩ := granted event rfl (by decide)
      refine ⟨after, event, built, fun same => ?_⟩
      rw [named, same] at free
      simp [free] at seen

end Udma.Control.Tp
