import Mathlib
import Udma.Transition.Run

/-!
# The functional switch

`ub-switch-sim` joins the UB-NET endpoints without a timing model.  Its loop polls every
endpoint, puts what it reads into the queue of the endpoint that it is for, and flushes the
queues as far as the rings of the peers have room.  Here a poll and a flush take one message,
in any order of the endpoints.

The time stamp of a message is that of the ring and is left out, as is the owner byte.
-/

namespace Udma.Switch

open Udma.Transition

abbrev Bytes := List UInt8

structure Frame where
  sequence : UInt64 := 0
  length : UInt32
  sourceEid : UInt32
  destinationEid : UInt32
  sourcePort : UInt16 := 0
  destinationPort : UInt16 := 0
  trafficClass : UInt16 := 0
  flags : UInt16 := 0
  deriving DecidableEq

structure LinkControl where
  sequence : UInt64 := 0
  value : UInt32 := 0
  port : UInt16
  state : UInt8
  deriving DecidableEq

/-- A message in a ring; of a frame, with the bytes behind its header. -/
inductive Message where
  | frame (header : Frame) (payload : Bytes)
  | linkState (control : LinkControl)
  /-- Credit and lifecycle messages. -/
  | other
  deriving DecidableEq

/-- An endpoint as its peer has introduced it.  The loop that announces the ports counts them in
16 bits and does not end for more. -/
structure Endpoint where
  eid : UInt32
  portCount : UInt16
  maxFrameBytes : UInt32

/-- What `ParseOptions` accepts: two endpoints or more, and no EID twice. -/
structure Options where
  endpoints : List Endpoint
  several : 2 ≤ endpoints.length
  eids : (endpoints.map Endpoint.eid).Nodup

/-- `routes[endpoints[i].eid] = i`, from `start` on. -/
def routesFrom (routes : UInt32 → Option Nat) : Nat → List Endpoint → UInt32 → Option Nat
  | _, [] => routes
  | start, endpoint :: rest =>
      routesFrom (Function.update routes endpoint.eid (some start)) (start + 1) rest

def routes (options : Options) : UInt32 → Option Nat :=
  routesFrom (fun _ => none) 0 options.endpoints

/-- A message of a queue; where it comes from is history. -/
structure QueuedMessage where
  origin : Option Nat
  message : Message
  deriving DecidableEq

structure State where
  incoming : Nat → List Message := fun _ => []
  outgoing : Nat → List QueuedMessage
  /-- History: what the peer of an endpoint has sent. -/
  sent : Nat → List Message := fun _ => []
  /-- History: what has been polled. -/
  polled : Nat → List Message := fun _ => []
  /-- History: what has been flushed to a peer. -/
  flushed : Nat → List QueuedMessage := fun _ => []

/-- The links of an endpoint are up. -/
def announcements (endpoint : Endpoint) : List QueuedMessage :=
  (List.range endpoint.portCount.toNat).map fun port =>
    ⟨none, .linkState { port := UInt16.ofNat port, state := 1 }⟩

def State.initial (options : Options) : State where
  outgoing index := (options.endpoints[index]?).elim [] announcements

/-- Into which queue a message goes, and as what. -/
def forward (options : Options) (source : Nat) : Message → Option (Nat × Message)
  | .frame header payload =>
      match routes options header.destinationEid, options.endpoints[source]? with
      | some destination, some endpoint =>
          if destination ≠ source ∧ header.length ≤ endpoint.maxFrameBytes then
            some (destination, .frame header (payload.take header.length.toNat))
          else none
      | _, _ => none
  | .linkState control => some (source, .linkState control)
  | .other => none

def State.enqueue (state : State) (source : Nat) (target : Option (Nat × Message)) : State :=
  match target with
  | none => state
  | some (destination, message) => { state with
      outgoing := Function.update state.outgoing destination
        (state.outgoing destination ++ [⟨some source, message⟩]) }

section

variable (state : State) (source : Nat) (target : Option (Nat × Message))

@[simp]
theorem enqueue_incoming : (state.enqueue source target).incoming = state.incoming := by
  cases target <;> rfl

@[simp]
theorem enqueue_sent : (state.enqueue source target).sent = state.sent := by
  cases target <;> rfl

@[simp]
theorem enqueue_polled : (state.enqueue source target).polled = state.polled := by
  cases target <;> rfl

end

inductive Event where
  | send (source : Nat) (message : Message)
  | poll (source : Nat)
  | flush (destination : Nat)

def step (options : Options) (state : State) : Event → Option State
  | .send source message =>
      if source < options.endpoints.length then
        some { state with
          incoming := Function.update state.incoming source (state.incoming source ++ [message])
          sent := Function.update state.sent source (state.sent source ++ [message]) }
      else none
  | .poll source =>
      match state.incoming source with
      | [] => none
      | message :: rest =>
          some (State.enqueue { state with
            incoming := Function.update state.incoming source rest
            polled := Function.update state.polled source (state.polled source ++ [message]) }
            source (forward options source message))
  | .flush destination =>
      match state.outgoing destination with
      | [] => none
      | queued :: rest => some { state with
          outgoing := Function.update state.outgoing destination rest
          flushed := Function.update state.flushed destination
            (state.flushed destination ++ [queued]) }

/-! ## Routes -/

theorem routesFrom_eq (routes : UInt32 → Option Nat) (start : Nat) (endpoints : List Endpoint)
    (eids : (endpoints.map Endpoint.eid).Nodup) (eid : UInt32) (index : Nat) :
    routesFrom routes start endpoints eid = some index ↔
      (∃ place, index = start + place ∧ (endpoints[place]?).map Endpoint.eid = some eid) ∨
        eid ∉ endpoints.map Endpoint.eid ∧ routes eid = some index := by
  induction endpoints generalizing routes start with
  | nil => simp [routesFrom]
  | cons endpoint rest inductionHypothesis =>
      obtain ⟨fresh, others⟩ := List.nodup_cons.mp eids
      rw [routesFrom, inductionHypothesis _ _ others]
      constructor
      · rintro (⟨place, rfl, found⟩ | ⟨absent, found⟩)
        · exact .inl ⟨place + 1, by omega, found⟩
        · by_cases own : eid = endpoint.eid
          · subst own
            rw [Function.update_self, Option.some.injEq] at found
            exact .inl ⟨0, by omega, rfl⟩
          · rw [Function.update_of_ne own] at found
            exact .inr ⟨by simpa using ⟨own, by simpa using absent⟩, found⟩
      · rintro (⟨place, rfl, found⟩ | ⟨absent, found⟩)
        · cases place with
          | zero =>
              obtain rfl : endpoint.eid = eid := by simpa using found
              exact .inr ⟨fresh, by rw [Function.update_self, Nat.add_zero]⟩
          | succ place => exact .inl ⟨place, by omega, found⟩
        · rw [List.map_cons, List.mem_cons, not_or] at absent
          exact .inr ⟨absent.2, by rw [Function.update_of_ne absent.1]; exact found⟩

/-- An EID leads to the endpoint that has it. -/
theorem routes_eq_some {options : Options} {eid : UInt32} {index : Nat} :
    routes options eid = some index ↔
      (options.endpoints[index]?).map Endpoint.eid = some eid := by
  rw [routes, routesFrom_eq _ _ _ options.eids]
  simp

/-! ## What an endpoint is sent -/

/-- The length of a frame that an endpoint may send. -/
def admits (options : Options) (source : Nat) (length : UInt32) : Bool :=
  (options.endpoints[source]?).any fun endpoint => length ≤ endpoint.maxFrameBytes

/-- What the endpoint `destination` is to be sent of a message of the endpoint `source`: frames
with its EID that are not its own and not too long, and its own link messages. -/
def delivery (options : Options) (source destination : Nat) : Message → Option Message
  | .frame header payload =>
      if (options.endpoints[destination]?).map Endpoint.eid = some header.destinationEid ∧
          destination ≠ source ∧ admits options source header.length = true then
        some (.frame header (payload.take header.length.toNat))
      else none
  | .linkState control => if destination = source then some (.linkState control) else none
  | .other => none

theorem delivery_eq (options : Options) (source destination : Nat) (message : Message) :
    delivery options source destination message =
      ((forward options source message).filter fun target => target.1 = destination).map
        Prod.snd := by
  cases message with
  | frame header payload =>
      simp only [delivery, forward, ← routes_eq_some, admits]
      cases found : routes options header.destinationEid with
      | none => simp
      | some place =>
          cases known : options.endpoints[source]? with
          | none => simp
          | some endpoint =>
              by_cases here : place = destination
              · subst here
                by_cases taken : place ≠ source ∧ header.length ≤ endpoint.maxFrameBytes
                · simp [taken]
                · dsimp only
                  rw [if_neg taken, if_neg (by simpa using taken)]
                  rfl
              · dsimp only
                rw [if_neg (by simp [here])]
                split
                · simp [here]
                · rfl
  | linkState control =>
      by_cases own : destination = source
      · simp [delivery, forward, own]
      · simp [delivery, forward, own, Ne.symm own]
  | other => rfl

/-- The messages of one endpoint in a row. -/
def messagesOf (row : List QueuedMessage) (source : Nat) : List Message :=
  (row.filter fun queued => queued.origin = some source).map QueuedMessage.message

theorem messagesOf_append (row more : List QueuedMessage) (source : Nat) :
    messagesOf (row ++ more) source = messagesOf row source ++ messagesOf more source := by
  simp [messagesOf]

theorem messagesOf_announcements (place : Option Endpoint) (source : Nat) :
    messagesOf (place.elim [] announcements) source = [] := by
  cases place with
  | none => rfl
  | some endpoint => simp [messagesOf, announcements]

/-- One more message is polled. -/
theorem polled_snoc (options : Options) (polled : Nat → List Message)
    (source other destination : Nat) (message : Message) :
    (Function.update polled source (polled source ++ [message]) other).filterMap
        (delivery options other destination) =
      (polled other).filterMap (delivery options other destination) ++
        if other = source then (delivery options source destination message).toList else [] := by
  by_cases own : other = source
  · subst own
    rw [Function.update_self, List.filterMap_append, if_pos rfl]
    cases taken : delivery options other destination message with
    | none => simp [taken]
    | some copy => simp [taken]
  · rw [Function.update_of_ne own, if_neg own, List.append_nil]

/-- Rings, queues and histories agree: of the row of an endpoint, flushed or not, the messages
of each endpoint are those polled from there that are for it. -/
structure Ordered (options : Options) (state : State) : Prop where
  arrived : ∀ source, state.sent source = state.polled source ++ state.incoming source
  rows : ∀ destination, ∃ row,
    state.flushed destination ++ state.outgoing destination =
        (options.endpoints[destination]?).elim [] announcements ++ row ∧
      (∀ queued ∈ row, queued.origin.isSome) ∧
        ∀ source, messagesOf row source =
          (state.polled source).filterMap (delivery options source destination)

namespace Ordered

variable {options : Options} {state after : State}

theorem initial : Ordered options (.initial options) where
  arrived := fun _ => rfl
  rows := fun _ => ⟨[], (List.append_nil _).symm, by simp, fun _ => rfl⟩

/-- A message is polled, and goes into the queue it is for. -/
theorem poll (ordered : Ordered options state) {source : Nat} {message : Message}
    {rest : List Message} (head : state.incoming source = message :: rest) :
    Ordered options (State.enqueue { state with
      incoming := Function.update state.incoming source rest
      polled := Function.update state.polled source (state.polled source ++ [message]) }
      source (forward options source message)) where
  arrived := by
    intro other
    simp only [enqueue_sent, enqueue_polled, enqueue_incoming]
    by_cases own : other = source
    · subst own
      simp only [Function.update_self]
      rw [ordered.arrived, head, List.append_assoc]
      rfl
    · simp only [Function.update_of_ne own]
      exact ordered.arrived other
  rows := by
    intro destination
    obtain ⟨row, shape, origins, each⟩ := ordered.rows destination
    have delivered := delivery_eq options source destination message
    cases target : forward options source message with
    | none =>
        rw [target] at delivered
        refine ⟨row, shape, origins, fun other => ?_⟩
        rw [State.enqueue, polled_snoc, each, delivered]
        simp
    | some pair =>
        obtain ⟨place, copy⟩ := pair
        rw [target] at delivered
        by_cases here : place = destination
        · subst here
          refine ⟨row ++ [⟨some source, copy⟩], ?_, ?_, fun other => ?_⟩
          · change state.flushed place ++ Function.update state.outgoing place _ place = _
            rw [Function.update_self, ← List.append_assoc, shape, List.append_assoc]
          · intro queued listed
            rcases List.mem_append.mp listed with earlier | new
            · exact origins queued earlier
            · obtain rfl := List.mem_singleton.mp new
              rfl
          · have taken : delivery options source place message = some copy := by
              rw [delivered]
              simp [Option.filter]
            rw [State.enqueue, polled_snoc, messagesOf_append, each, taken]
            by_cases own : other = source
            · simp [messagesOf, own]
            · simp [messagesOf, own, Ne.symm own]
        · refine ⟨row, ?_, origins, fun other => ?_⟩
          · change state.flushed destination ++
              Function.update state.outgoing place _ destination = _
            rw [Function.update_of_ne (Ne.symm here), shape]
          · rw [State.enqueue, polled_snoc, each, delivered]
            simp [Option.filter, here]

theorem step (ordered : Ordered options state) {event : Event}
    (taken : Switch.step options state event = some after) : Ordered options after := by
  cases event with
  | send source message =>
      simp only [Switch.step] at taken
      split at taken
      · obtain rfl := Option.some.inj taken
        refine ⟨fun other => ?_, ordered.rows⟩
        by_cases own : other = source
        · subst own
          simp only [Function.update_self]
          rw [ordered.arrived, List.append_assoc]
        · simp only [Function.update_of_ne own]
          exact ordered.arrived other
      · cases taken
  | poll source =>
      simp only [Switch.step] at taken
      split at taken
      · cases taken
      next message rest head =>
        obtain rfl := Option.some.inj taken
        exact ordered.poll head
  | flush destination =>
      simp only [Switch.step] at taken
      split at taken
      · cases taken
      next queued rest head =>
        obtain rfl := Option.some.inj taken
        refine ⟨ordered.arrived, fun other => ?_⟩
        obtain ⟨row, shape, same⟩ := ordered.rows other
        refine ⟨row, ?_, same⟩
        by_cases own : other = destination
        · subst own
          simp only [Function.update_self]
          rw [← shape, head, List.append_assoc]
          rfl
        · simp only [Function.update_of_ne own]
          exact shape

end Ordered

theorem ordered_of_reaches {options : Options} {state : State}
    (reached : Reaches (step options) always (.initial options) state) : Ordered options state :=
  reached.invariant .initial fun _ _ _ ordered taken _ => ordered.step taken

/-- The switch loses, repeats and reorders nothing: after the announcement of its links, an
endpoint is sent messages of the endpoints only, and those of each endpoint are, in their order
and each once, what it has sent and is for this endpoint; and all of it once nothing waits. -/
theorem switch_forwards {options : Options} {state : State}
    (reached : Reaches (step options) always (.initial options) state) (destination : Nat) :
    (∃ row, state.flushed destination ++ state.outgoing destination =
        (options.endpoints[destination]?).elim [] announcements ++ row ∧
      ∀ queued ∈ row, queued.origin.isSome) ∧
    ∀ source,
      messagesOf (state.flushed destination) source <+:
          (state.sent source).filterMap (delivery options source destination) ∧
        (state.incoming source = [] → state.outgoing destination = [] →
          messagesOf (state.flushed destination) source =
            (state.sent source).filterMap (delivery options source destination)) := by
  have ordered := ordered_of_reaches reached
  obtain ⟨row, shape, origins, each⟩ := ordered.rows destination
  refine ⟨⟨row, shape, origins⟩, fun source => ?_⟩
  have whole : messagesOf (state.flushed destination) source ++
      messagesOf (state.outgoing destination) source =
        (state.polled source).filterMap (delivery options source destination) := by
    rw [← messagesOf_append, shape, messagesOf_append, messagesOf_announcements, each,
      List.nil_append]
  rw [ordered.arrived source, List.filterMap_append, ← whole]
  constructor
  · rw [List.append_assoc]
    exact List.prefix_append _ _
  · intro polled flushed
    simp [polled, flushed, messagesOf]

/-! ## Two endpoints -/

def twoEndpoints : Options :=
  ⟨[⟨0x100, 1, 4096⟩, ⟨0x101, 1, 4096⟩], by decide, by decide⟩

def shortFrame (destinationEid : UInt32) : Message :=
  .frame { length := 2, sourceEid := 0x100, destinationEid := destinationEid } [7, 8, 9]

theorem switch_forwards_one :
    ∃ state, Reaches (step twoEndpoints) always (.initial twoEndpoints) state ∧
      messagesOf (state.flushed 1) 0 =
        [.frame { length := 2, sourceEid := 0x100, destinationEid := 0x101 } [7, 8]] := by
  obtain ⟨state, reached, seen⟩ := exists_of_execute
    (show (execute (step twoEndpoints) always
      [.send 0 (shortFrame 0x101), .send 0 (shortFrame 0x100), .poll 0, .flush 1, .poll 0,
        .flush 1] (.initial twoEndpoints)).map (fun state =>
          (state.incoming 0, state.outgoing 1, state.sent 0)) =
        some ([], [], [shortFrame 0x101, shortFrame 0x100]) by decide +kernel)
  obtain ⟨polled, flushed, sent⟩ := by simpa only [Prod.mk.injEq] using seen
  refine ⟨state, reached, ?_⟩
  rw [((switch_forwards reached 1).2 0).2 polled flushed, sent]
  decide +kernel

end Udma.Switch
