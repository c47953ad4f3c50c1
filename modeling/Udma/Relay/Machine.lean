import Mathlib
import Udma.Arithmetic.LittleEndian
import Udma.Collections.Prefixed
import Udma.Transition.Run

/-!
# The Ethernet relay

`ethernet_relay.py` joins the Ethernet taps of the nodes.  One thread for each socket runs
`receive_port`: it reads packets, learns where stations are, and writes each packet to the
sockets it is for.  The threads share the table of the stations under one lock and every
socket under a lock of its own; the sockets carry byte streams that arrive and leave in pieces.
-/

namespace Udma.Relay

open Udma.Arithmetic Udma.Collections Udma.Transition

abbrev Port := Nat

abbrev Frame := List UInt8

def maxFrame : Nat := 65536

/-- `struct.pack("!I", length)`. -/
def header (length : Nat) : List UInt8 := (toLittleEndian 4 length).reverse

/-- `struct.unpack("!I", header)`. -/
def frameLength (header : List UInt8) : Nat := ofLittleEndian header.reverse

/-- `not (length < 14 or length > MAX_FRAME)`. -/
def validLength (length : Nat) : Bool := 14 ≤ length && length ≤ maxFrame

def destinationMac (frame : Frame) : List UInt8 := frame.take 6

def sourceMac (frame : Frame) : List UInt8 := (frame.drop 6).take 6

/-- `mac[0] & 1`. -/
def group (mac : List UInt8) : Bool := mac.headD 0 &&& 1 != 0

/-! ## The threads -/

/-- Where `receive_port` is. -/
inductive Phase where
  /-- `recv_exact(source, 4)`. -/
  | header (data : List UInt8)
  /-- `recv_exact(source, length)`. -/
  | body (header : List UInt8) (length : Nat) (data : List UInt8)
  /-- Before `table_lock`. -/
  | routing (header : List UInt8) (frame : Frame)
  /-- Before the lock of the first of the destinations. -/
  | sending (packet : List UInt8) (destinations : List Port)
  /-- Inside `sendall`, under the lock of the destination. -/
  | writing (packet : List UInt8) (destination : Port) (others : List Port) (written : Nat)
  | ended
  deriving DecidableEq

/-- History: a frame that was routed, and to where. -/
structure Handling where
  source : Port
  frame : Frame
  destinations : List Port
  deriving DecidableEq

structure State where
  phase : Port → Phase := fun _ => .header []
  /-- What has arrived at a socket and is not received yet. -/
  incoming : Port → List UInt8 := fun _ => []
  outgoing : Port → List UInt8 := fun _ => []
  macTable : List UInt8 → Option Port := fun _ => none
  sendLock : Port → Option Port := fun _ => none
  stopped : Bool := false
  /-- The socket is shut down, or its peer has closed it. -/
  shut : Port → Bool := fun _ => false
  /-- History: everything that has arrived at a socket. -/
  received : Port → List UInt8 := fun _ => []
  /-- History: what the threads have routed, in the order of `table_lock`. -/
  log : List Handling := []
  /-- History: the frames wholly written to a socket, and who wrote them. -/
  written : Port → List (Port × Frame) := fun _ => []
  /-- History: a thread has failed inside a packet to this socket. -/
  torn : Port → Bool := fun _ => false

namespace State

def setPhase (state : State) (port : Port) (phase : Phase) : State :=
  { state with phase := Function.update state.phase port phase }

/-- The head of the loop. -/
def next (state : State) (port : Port) : State :=
  state.setPhase port (if state.stopped then .ended else .header [])

/-- An exception ends the thread; `finally` stops the others. -/
def fail (state : State) (port : Port) : State :=
  { state.setPhase port .ended with stopped := true }

/-- The first of the destinations, or the next packet. -/
def send (state : State) (port : Port) (packet : List UInt8) (destinations : List Port) : State :=
  if destinations.isEmpty then state.next port
  else state.setPhase port (.sending packet destinations)

/-- `source.recv(missing)` returns `size` bytes. -/
def take (state : State) (port : Port) (size : Nat) : State :=
  { state with incoming := Function.update state.incoming port ((state.incoming port).drop size) }

/-- A chunk of a `recv_exact`, which loops until it has all. -/
def receive (state : State) (port : Port) (size : Nat) : Option State :=
  let chunk := (state.incoming port).take size
  if size = 0 ∨ (state.incoming port).length < size then none
  else match state.phase port with
    | .header data =>
        if 4 - data.length < size then none
        else if data.length + size < 4 then
          some ((state.take port size).setPhase port (.header (data ++ chunk)))
        else if validLength (frameLength (data ++ chunk)) then
          some ((state.take port size).setPhase port
            (.body (data ++ chunk) (frameLength (data ++ chunk)) []))
        else some ((state.take port size).fail port)
    | .body header length data =>
        if length - data.length < size then none
        else if data.length + size < length then
          some ((state.take port size).setPhase port (.body header length (data ++ chunk)))
        else some ((state.take port size).setPhase port (.routing header (data ++ chunk)))
    | _ => none

/-- `mac_table[source_mac] = source_index`. -/
def learn (state : State) (source : Port) (frame : Frame) : State :=
  if group (sourceMac frame) then state
  else { state with macTable := Function.update state.macTable (sourceMac frame) (some source) }

/-- The destinations of a frame. -/
def destinations (count : Nat) (macTable : List UInt8 → Option Port) (source : Port)
    (frame : Frame) : List Port :=
  match macTable (destinationMac frame) with
  | none => (List.range count).filter (· ≠ source)
  | some destination =>
      if group (destinationMac frame) then (List.range count).filter (· ≠ source)
      else if destination = source then []
      else [destination]

/-- What is done under `table_lock`. -/
def route (count : Nat) (state : State) (port : Port) : Option State :=
  match state.phase port with
  | .routing header frame =>
      let learned := state.learn port frame
      let chosen := destinations count learned.macTable port frame
      let routed : State := { learned with log := state.log ++ [⟨port, frame, chosen⟩] }
      some (routed.send port (header ++ frame) chosen)
  | _ => none

/-- `with send_locks[index]`. -/
def lock (state : State) (port : Port) : Option State :=
  match state.phase port with
  | .sending packet (destination :: others) =>
      if state.sendLock destination = none then
        some { state.setPhase port (.writing packet destination others 0) with
          sendLock := Function.update state.sendLock destination (some port) }
      else none
  | _ => none

/-- A piece of `sendall` goes out. -/
def write (state : State) (port : Port) (size : Nat) : Option State :=
  match state.phase port with
  | .writing packet destination others written =>
      if state.shut destination ∨ size = 0 ∨ packet.length < written + size then none
      else some { state.setPhase port (.writing packet destination others (written + size)) with
        outgoing := Function.update state.outgoing destination
          (state.outgoing destination ++ (packet.drop written).take size) }
  | _ => none

/-- `sendall` returns, and the lock is released. -/
def unlock (state : State) (port : Port) : Option State :=
  match state.phase port with
  | .writing packet destination others written =>
      if written = packet.length then
        let released : State := { state with
          sendLock := Function.update state.sendLock destination none
          written := Function.update state.written destination
            (state.written destination ++ [(port, packet.drop 4)]) }
        some (released.send port packet others)
      else none
  | _ => none

/-- `recv` or `sendall` raises; `with` releases the lock. -/
def raise (state : State) (port : Port) : Option State :=
  match state.phase port with
  | .header _ | .body .. => if state.shut port then some (state.fail port) else none
  | .writing packet destination _ written =>
      if state.shut destination ∧ written < packet.length then
        some { state.fail port with
          sendLock := Function.update state.sendLock destination none
          torn := Function.update state.torn destination true }
      else none
  | _ => none

end State

inductive Event where
  | arrive (port : Port) (bytes : List UInt8)
  | receive (port : Port) (size : Nat)
  | route (port : Port)
  | lock (port : Port)
  | write (port : Port) (size : Nat)
  | unlock (port : Port)
  | raise (port : Port)
  /-- A peer closes its socket, or `finally` shuts one down. -/
  | shut (port : Port)

/-- One step of one of the threads, or of a peer. -/
def step (count : Nat) (state : State) : Event → Option State
  | .arrive port bytes => some { state with
      incoming := Function.update state.incoming port (state.incoming port ++ bytes)
      received := Function.update state.received port (state.received port ++ bytes) }
  | .receive port size => if port < count then state.receive port size else none
  | .route port => state.route count port
  | .lock port => state.lock port
  | .write port size => state.write port size
  | .unlock port => state.unlock port
  | .raise port => state.raise port
  | .shut port => some { state with shut := Function.update state.shut port true }

end Udma.Relay
