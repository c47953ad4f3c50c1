import Mathlib
import Udma.Collections.Overwrite
import Udma.Control.Responses

/-!
# Answers to UBIOS messages

`BuildUbiosResponse` with every access to the two byte vectors it makes.  A read
past the end of the request returns whatever lies there, a write past the end of the
response is dropped; both are remembered.
-/

namespace Udma.Control.Ubios

open Udma.Abi Udma.Collections

/-! ## The state -/

/-- A port count that `--ports` admits. -/
structure Ports where
  count : Nat
  admitted : count ≤ 255

/-- The CNAs and the configuration words that were written. -/
structure Device where
  rootCna : Nat := 0
  endpointCna : Nat := 0
  rootConfig : Nat → Option Nat := fun _ => none
  endpointConfig : Nat → Option Nat := fun _ => none

namespace Device

def config (device : Device) (endpoint : Bool) : Nat → Option Nat :=
  if endpoint then device.endpointConfig else device.rootConfig

def configRead (device : Device) (address : Nat) (endpoint : Bool) : Nat :=
  let aligned := address &&& 0xfffffffc
  match device.config endpoint aligned with
  | some saved => saved
  | none =>
      match aligned with
      | 0x04 => 0x00010001
      | 0x38 => if endpoint then 2 else 1
      | 0x40 => if endpoint then 0x11000000 else 0x12000000
      | 0x44 => if endpoint then 0xcc08a001 else 0xcc080000
      | 0x40004 => if endpoint then 8 else 0
      | 0x40024 => if endpoint then 0x1c0 else 0
      | 0x40034 | 0x40038 | 0x4003c => if endpoint then 0x100 else 0
      | 0x40048 => if endpoint then 0x100000 else 0
      | 0x40050 => if endpoint then 0x200000 else 0
      | 0x40090 => if endpoint then 0 else 256
      | 0x40404 => if endpoint then 0 else 0x4040
      | 0x40c08 => if endpoint then 3 else 0
      | _ => 0

def mergeByte (byteEnable value merged byte : Nat) : Nat :=
  if byteEnable.testBit byte then
    let mask := 0xff <<< (byte * 8)
    (merged &&& (0xffffffff ^^^ mask)) ||| (value &&& mask)
  else merged

def configWrite (device : Device) (address byteEnable value : Nat) (endpoint : Bool) : Device :=
  let aligned := address &&& 0xfffffffc
  let merged := (List.range 4).foldl (mergeByte byteEnable value)
    (device.configRead aligned endpoint)
  if endpoint then
    { device with endpointConfig := Function.update device.endpointConfig aligned (some merged) }
  else { device with rootConfig := Function.update device.rootConfig aligned (some merged) }

def setCna (device : Device) (endpoint : Bool) (cna : Nat) : Device :=
  if endpoint then { device with endpointCna := cna } else { device with rootCna := cna }

end Device

/-! ## Accesses to the vectors -/

/-- The vector of a request, and the memory behind it. -/
structure Request where
  bytes : Bytes
  beyond : Nat → UInt8

namespace Request

def size (request : Request) : Nat := request.bytes.length

def cell (request : Request) (offset : Nat) : UInt8 :=
  request.bytes.getD offset (request.beyond offset)

def byte (request : Request) (offset : Nat) : Nat := (request.cell offset).toNat

def word (request : Request) (offset : Nat) : Nat :=
  request.byte offset ||| (request.byte (offset + 1) <<< 8) |||
    (request.byte (offset + 2) <<< 16) ||| (request.byte (offset + 3) <<< 24)

end Request

/-- What `BuildUbiosResponse` works on. -/
structure Work where
  device : Device
  response : Bytes := []
  /-- History variable: every access so far was inside its vector. -/
  inside : Bool := true

namespace Work

@[simps]
def touch (work : Work) (offset size limit : Nat) : Work :=
  { work with inside := work.inside && decide (offset + size ≤ limit) }

@[simps]
def put (work : Work) (offset : Nat) (field : Bytes) : Work :=
  { work with
    response := overwrite work.response offset field
    inside := work.inside && decide (offset + field.length ≤ work.response.length) }

end Work

abbrev Build := StateM Work

/-- `LoadLe` on the data of the request. -/
def loadLe (request : Request) (offset : Nat) : Build Nat := fun work =>
  (request.word offset, work.touch offset 4 request.size)

def readByte (request : Request) (offset : Nat) : Build Nat := fun work =>
  (request.byte offset, work.touch offset 1 request.size)

/-- `response.assign(size, 0)`. -/
def assign (size : Nat) : Build Unit := fun work =>
  ((), { work with response := List.replicate size 0 })

/-- `response.resize(size, 0)`. -/
def resize (size : Nat) : Build Unit := fun work =>
  ((), { work with
    response := work.response.take size ++ List.replicate (size - work.response.length) 0 })

/-- `StoreLe`.  It checks each byte with `at`, so that here an access outside throws. -/
def storeLe (offset value : Nat) : Build Unit := fun work => ((), work.put offset (store32 value))

def writeByte (offset value : Nat) : Build Unit := fun work =>
  ((), work.put offset [UInt8.ofNat value])

def maskByte (offset mask : Nat) : Build Unit := fun work =>
  ((), work.put offset [UInt8.ofNat (byteAt work.response offset &&& mask)])

/-- `memcpy` from the request to the response. -/
def copy (target : Nat) (request : Request) (start count : Nat) : Build Unit := fun work =>
  ((), (work.touch start count request.size).put target
    ((List.range count).map fun index => request.cell (start + index)))

def changeDevice (change : Device → Device) : Build Unit := fun work =>
  ((), { work with device := change work.device })

def askDevice {Answer : Type} (ask : Device → Answer) : Build Answer := fun work =>
  (ask work.device, work)

/-! ## Private messages -/

def privateResponse (request : Request) (opcode : Nat) : Build Nat := do
  let header ← loadLe request 0
  let size := if header &&& 0xf = 1 then 4 else 12
  assign size
  storeLe 0 (header ||| (1 <<< 15))
  if header &&& 0xf ≠ 1 ∧ request.size ≤ size then do
    copy 4 request 4 (request.size - 4)
    return opcode
  else return opcode

/-! ## Configuration, token and header messages -/

inductive Management where
  | config
  | token
  | header
  deriving DecidableEq, Repr

/-- Source and destination change places. -/
def swapAddresses (request : Request) : Build Unit := do
  let nth ← loadLe request 4
  storeLe 4 ((nth <<< 16) ||| (nth >>> 16))
  let tph0 ← loadLe request 12
  let tph1 ← loadLe request 16
  let sourceEid := ((tph0 &&& 0xff) <<< 12) ||| (tph1 >>> 20)
  let destinationEid := tph1 &&& 0xfffff
  storeLe 12 ((tph0 &&& 0xffffff00) ||| ((destinationEid >>> 12) &&& 0xff))
  storeLe 16 ((sourceEid &&& 0xfffff) ||| ((destinationEid &&& 0xfff) <<< 20))

def configStore (request : Request) (address : Nat) (endpoint : Bool) (subcode : Nat) :
    Build Unit :=
  if subcode = 1 ∨ subcode = 3 then do
    let control ← loadLe request 32
    let value ← loadLe request 44
    changeDevice (·.configWrite (address * 4 % 2 ^ 32) ((control >>> 4) &&& 0xf) value endpoint)
  else pure ()

def configResponse (request : Request) : Build Unit := do
  let address ← loadLe request 36
  let nth ← loadLe request 4
  let endpoint ← askDevice fun device =>
    device.endpointCna != 0 && nth &&& 0xffff == device.endpointCna
  let selector ← readByte request 31
  configStore request address endpoint ((selector >>> 4) &&& 0xf)
  let answer ← askDevice (·.configRead (address * 4 % 2 ^ 32) endpoint)
  storeLe 32 answer

def headerResponse (request : Request) (opcode : Nat) : Build Nat := do
  let selector ← readByte request 31
  if selector = 0x28 then do
    resize 44
    writeByte 28 12
    writeByte 31 0x29
    writeByte 36 1
    writeByte 38 1
    return 0x29
  else return opcode

/-- The response starts as a copy of the request; that of a token request is longer. -/
def startManagement (kind : Management) (request : Request) : Build Unit :=
  match kind with
  | .token => do
      assign 40
      copy 0 request 0 32
  | _ => do
      assign request.size
      copy 0 request 0 request.size

def managementResponse (kind : Management) (request : Request) (opcode : Nat) : Build Nat := do
  startManagement kind request
  swapAddresses request
  writeByte 28 (match kind with
    | .config => 16
    | .token => 8
    | .header => 0)
  maskByte 29 0xf0
  writeByte 30 0
  writeByte 31 (opcode ||| 1)
  match kind with
  | .header => headerResponse request (opcode ||| 1)
  | .config => do
      configResponse request
      return opcode ||| 1
  | .token => do
      storeLe 32 1
      storeLe 36 0x4f55524d
      return opcode ||| 1

/-! ## Enumeration messages -/

def hops (scan : Nat) : Nat := (scan >>> 8) &&& 0xff

def hopBits (scan : Nat) : Nat :=
  match (scan >>> 16) &&& 0xf with
  | 0 => 4
  | 1 => 8
  | _ => 16

def forwardBytes (scan : Nat) : Nat := (hopBits scan * hops scan + 31) / 32 * 4

/-- Where the common words of the request are: behind one path, or behind two. -/
def requestCommon (scan : Nat) : Nat :=
  16 + (4 + forwardBytes scan * if scan.testBit 20 then 2 else 1)

/-- Where the common words of the response are. -/
def responseCommon (scan : Nat) : Nat := 20 + forwardBytes scan

def commonBytes : Nat := 24

def extraBytes (ports : Ports) (opcode : Nat) : Nat :=
  if opcode = 0 then 12 + 28 * ports.count + 8 else if opcode = 2 then 4 else 0

/-- The length of the answer to an enumeration. -/
def enumerationBytes (ports : Ports) (opcode scan : Nat) : Nat :=
  responseCommon scan + commonBytes + extraBytes ports opcode

/-- The CNA that a message of opcode 1 assigns. -/
def learnCna (request : Request) (opcode common : Nat) (endpoint : Bool) : Build Unit :=
  if opcode = 1 then do
    let kind ← readByte request (common + 1)
    if kind = 2 then do
      let cna ← loadLe request (common + 28)
      changeDevice (·.setCna endpoint (cna &&& 0xffffff))
    else pure ()
  else pure ()

def portEntry (extra : Nat) (endpoint : Bool) (port : Nat) : Build Unit := do
  let pos := extra + 12 + 28 * port
  storeLe pos 0x021c0100
  storeLe (pos + 4) (port ||| (port <<< 16))
  storeLe (pos + 12) (if endpoint then 1 else 2)
  storeLe (pos + 20) (if endpoint then 0x12000000 else 0x11000000)
  storeLe (pos + 24) (if endpoint then 0xcc080000 else 0xcc08a001)

/-- The loop over the ports, from `port` on. -/
def portEntries (extra : Nat) (endpoint : Bool) (port : Nat) : Nat → Build Unit
  | 0 => pure ()
  | left + 1 => do
      portEntry extra endpoint port
      portEntries extra endpoint (port + 1) left

def tlvs (ports : Ports) (opcode extra : Nat) (endpoint : Bool) : Build Unit :=
  if opcode = 0 then do
    storeLe extra 0x00040100
    storeLe (extra + 4) (0x01080000 ||| ports.count)
    storeLe (extra + 8) (ports.count <<< 16)
    portEntries extra endpoint 0 ports.count
    storeLe (extra + 12 + 28 * ports.count) 0x04080000
    storeLe (extra + 12 + 28 * ports.count + 4) (if endpoint then 2 else 0)
  else if opcode = 2 then storeLe extra (if endpoint then 2 else 1)
  else pure ()

/-- The header of the response, and the CNA.  Nothing is copied of an empty path, which
the source guards. -/
def enumerationHeader (ports : Ports) (request : Request) (opcode scan : Nat) : Build Unit := do
  assign (enumerationBytes ports opcode scan)
  copy 0 request 0 16
  storeLe 16 (scan &&& 0xffefffff)
  copy 20 request 20 (forwardBytes scan)
  learnCna request opcode (requestCommon scan) (hops scan != 0)

/-- The second common word: the length of the common and the TLV part, in words, goes
into bits 16 to 23. -/
def lengthWord (ports : Ports) (opcode common1 : Nat) : Nat :=
  (common1 &&& 0xff00ffff) ||| (((commonBytes + extraBytes ports opcode) / 4) <<< 16)

def commonWords (ports : Ports) (request : Request) (opcode scan : Nat) : Build Unit := do
  storeLe (responseCommon scan) (0x01000000 ||| (opcode <<< 16))
  let common1 ← loadLe request (requestCommon scan + 4)
  storeLe (responseCommon scan + 4) (lengthWord ports opcode common1)
  copy (responseCommon scan + 8) request (requestCommon scan + 8) 16

/-- Below the limits of `hops` and of the port count none of the 32-bit sums wraps. -/
def enumerationResponse (ports : Ports) (request : Request) (opcode : Nat) :
    Build (Option Nat) := do
  let scan ← loadLe request 16
  if request.size < requestCommon scan + commonBytes then return none
  else do
    enumerationHeader ports request opcode scan
    commonWords ports request opcode scan
    tlvs ports opcode (responseCommon scan + commonBytes) (hops scan != 0)
    return some opcode

/-! ## All messages -/

/-- The kinds of messages that are answered. -/
inductive Shape where
  | management (kind : Management)
  | privateMessage
  | enumeration
  deriving DecidableEq, Repr

def shape (taskType opcode size : Nat) : Option Shape :=
  if taskType = 0 ∧ size = 48 then some (.management .config)
  else if taskType = 0 ∧ size = 36 then some (.management .token)
  else if taskType = 0 ∧ size = 32 then some (.management .header)
  else if taskType = 2 ∧ opcode = 2 ∧ (size = 4 ∨ size = 12) then some .privateMessage
  else if taskType = 1 ∧ opcode ≤ 2 ∧ 44 ≤ size then some .enumeration
  else none

/-- The opcode of the answer, when there is one; the answer itself is in the work. -/
def buildUbiosResponse (ports : Ports) (taskType opcode : Nat) (request : Request) :
    Build (Option Nat) :=
  match shape taskType opcode request.size with
  | none => pure none
  | some .privateMessage => some <$> privateResponse request opcode
  | some (.management kind) => some <$> managementResponse kind request opcode
  | some .enumeration => enumerationResponse ports request opcode

/-- What `HandleUbiosPayload` takes from the queue entry. -/
def taskType (sqe : Bytes) : Nat := load32 sqe 0 &&& 0x3

def opcode (sqe : Bytes) : Nat := (load32 sqe 0 >>> 8) &&& 0xff

/-- The answer of `HandleUbiosPayload` to a message. -/
def answer (ports : Ports) (device : Device) (sqe : Bytes) (request : Request) :
    Option Nat × Work :=
  buildUbiosResponse ports (taskType sqe) (opcode sqe) request { device }

/-! ## Rules for accesses

`Fits action before after sound`: on a response of `before` bytes the action leaves one
of `after` bytes, and all of its accesses are inside exactly when `sound`. -/

def Fits {Value : Type} (action : Build Value) (before after : Nat) (sound : Bool) : Prop :=
  ∀ work : Work, work.response.length = before →
    (action work).2.response.length = after ∧
      (action work).2.inside = (work.inside && sound)

namespace Fits

variable {Value Result : Type} {before between after : Nat} {sound : Bool}

theorem bind {action : Build Value} {rest : Value → Build Result}
    (first : Fits action before between true)
    (second : ∀ value, Fits (rest value) between after sound) :
    Fits (action >>= rest) before after sound := by
  intro work length
  obtain ⟨halfway, same⟩ := first work length
  obtain ⟨done, flag⟩ := second (action work).1 (action work).2 halfway
  rw [same, Bool.and_true] at flag
  exact ⟨done, flag⟩

/-- Only what follows may depend on the accesses of the action. -/
theorem followed {action : Build Value} {rest : Value → Build Result}
    (first : Fits action before between sound)
    (second : ∀ value, Fits (rest value) between after true) :
    Fits (action >>= rest) before after sound := by
  intro work length
  obtain ⟨halfway, same⟩ := first work length
  obtain ⟨done, flag⟩ := second (action work).1 (action work).2 halfway
  rw [same, Bool.and_true] at flag
  exact ⟨done, flag⟩

theorem branch {condition : Prop} [Decidable condition] {yes no : Build Value}
    (taken : condition → Fits yes before after sound)
    (skipped : ¬ condition → Fits no before after sound) :
    Fits (if condition then yes else no) before after sound := by
  split
  · exact taken ‹_›
  · exact skipped ‹_›

theorem pure (value : Value) : Fits (Pure.pure value : Build Value) before before true :=
  fun _ length => ⟨length, (Bool.and_true _).symm⟩

theorem map {action : Build Value} (convert : Value → Result)
    (fits : Fits action before after sound) : Fits (convert <$> action) before after sound :=
  fits

/-- The value that is loaded is the one in memory. -/
theorem loaded {request : Request} {offset : Nat} {rest : Nat → Build Result}
    (inside : offset + 4 ≤ request.size)
    (second : Fits (rest (request.word offset)) before after sound) :
    Fits (loadLe request offset >>= rest) before after sound := by
  intro work length
  obtain ⟨done, flag⟩ := second (work.touch offset 4 request.size) length
  simp only [Work.touch_inside, decide_eq_true inside, Bool.and_true] at flag
  exact ⟨done, flag⟩

theorem loadLe (request : Request) (offset : Nat) :
    Fits (loadLe request offset) before before (decide (offset + 4 ≤ request.size)) :=
  fun _ length => ⟨length, rfl⟩

theorem byteRead {request : Request} {offset : Nat} {rest : Nat → Build Result}
    (inside : offset + 1 ≤ request.size)
    (second : Fits (rest (request.byte offset)) before after sound) :
    Fits (readByte request offset >>= rest) before after sound := by
  intro work length
  obtain ⟨done, flag⟩ := second (work.touch offset 1 request.size) length
  simp only [Work.touch_inside, decide_eq_true inside, Bool.and_true] at flag
  exact ⟨done, flag⟩

theorem assign (size : Nat) : Fits (assign size) before size true :=
  fun _ _ => ⟨List.length_replicate, (Bool.and_true _).symm⟩

theorem resize (size : Nat) : Fits (resize size) before size true := by
  intro work _
  refine ⟨?_, (Bool.and_true _).symm⟩
  simp only [Ubios.resize, List.length_append, List.length_take, List.length_replicate]
  omega

theorem put {offset : Nat} {field : Bytes} (inside : offset + field.length ≤ before)
    (work : Work) (length : work.response.length = before) :
    (work.put offset field).response.length = before ∧
      (work.put offset field).inside = (work.inside && true) := by
  rw [Work.put_response, overwrite_length, Work.put_inside, length, decide_eq_true inside]
  exact ⟨rfl, rfl⟩

theorem storeLe {offset : Nat} (value : Nat) (inside : offset + 4 ≤ before) :
    Fits (storeLe offset value) before before true :=
  fun work length => put inside work length

theorem writeByte {offset : Nat} (value : Nat) (inside : offset + 1 ≤ before) :
    Fits (writeByte offset value) before before true :=
  fun work length => put inside work length

theorem maskByte {offset : Nat} (mask : Nat) (inside : offset + 1 ≤ before) :
    Fits (maskByte offset mask) before before true :=
  fun work length => put inside work length

theorem copy {target start count : Nat} {request : Request}
    (source : start + count ≤ request.size) (inside : target + count ≤ before) :
    Fits (copy target request start count) before before true := by
  intro work length
  have field : target + ((List.range count).map fun index =>
      request.cell (start + index)).length ≤ before := by simpa using inside
  have done := put field (work.touch start count request.size) length
  rw [Work.touch_inside, decide_eq_true source, Bool.and_true] at done
  exact done

theorem changeDevice (change : Device → Device) :
    Fits (changeDevice change) before before true :=
  fun _ length => ⟨length, (Bool.and_true _).symm⟩

theorem askDevice (ask : Device → Value) : Fits (askDevice ask) before before true :=
  fun _ length => ⟨length, (Bool.and_true _).symm⟩

end Fits

/-! ## The accesses of each kind of message -/

section Messages

variable {request : Request} {opcode : Nat}

theorem privateResponse_fits (opcode : Nat) {before : Nat}
    (size : request.size = 4 ∨ request.size = 12) :
    ∃ after, Fits (privateResponse request opcode) before after true := by
  refine ⟨if request.word 0 &&& 0xf = 1 then 4 else 12, ?_⟩
  refine Fits.loaded (by omega) (Fits.bind (Fits.assign _) fun _ => ?_)
  refine Fits.bind (Fits.storeLe _ (by split <;> omega)) fun _ => ?_
  refine Fits.branch (fun copied => ?_) fun _ => Fits.pure _
  exact Fits.bind (Fits.copy (by omega) (by split <;> omega)) fun _ => Fits.pure _

theorem swapAddresses_fits {size : Nat} (enough : 32 ≤ request.size) (room : 32 ≤ size) :
    Fits (swapAddresses request) size size true := by
  refine Fits.loaded (by omega) (Fits.bind (Fits.storeLe _ (by omega)) fun _ => ?_)
  refine Fits.loaded (by omega) (Fits.loaded (by omega) ?_)
  exact Fits.bind (Fits.storeLe _ (by omega)) fun _ => Fits.storeLe _ (by omega)

theorem configStore_fits {before : Nat} (enough : 48 ≤ request.size) (address : Nat)
    (endpoint : Bool) (subcode : Nat) :
    Fits (configStore request address endpoint subcode) before before true := by
  refine Fits.branch (fun _ => ?_) fun _ => Fits.pure _
  exact Fits.loaded (by omega) (Fits.loaded (by omega) (Fits.changeDevice _))

theorem configResponse_fits (enough : 48 ≤ request.size) :
    Fits (configResponse request) 48 48 true := by
  refine Fits.loaded (by omega) (Fits.loaded (by omega) ?_)
  refine Fits.bind (Fits.askDevice _) fun _ => Fits.byteRead (by omega) ?_
  refine Fits.bind (configStore_fits enough _ _ _) fun _ => ?_
  exact Fits.bind (Fits.askDevice _) fun _ => Fits.storeLe _ (by omega)

theorem headerResponse_fits (opcode : Nat) (size : request.size = 32) :
    ∃ after, Fits (headerResponse request opcode) 32 after true := by
  refine ⟨if request.byte 31 = 0x28 then 44 else 32, Fits.byteRead (by omega) ?_⟩
  split
  · refine Fits.bind (Fits.resize _) fun _ => ?_
    refine Fits.bind (Fits.writeByte _ (by omega)) fun _ => ?_
    refine Fits.bind (Fits.writeByte _ (by omega)) fun _ => ?_
    refine Fits.bind (Fits.writeByte _ (by omega)) fun _ => ?_
    exact Fits.bind (Fits.writeByte _ (by omega)) fun _ => Fits.pure _
  · exact Fits.pure _

/-- The length of the request and of the answer to it, before the last step. -/
def Management.sizes : Management → Nat × Nat
  | .config => (48, 48)
  | .token => (36, 40)
  | .header => (32, 32)

theorem startManagement_fits {kind : Management} {before : Nat}
    (size : request.size = kind.sizes.1) :
    Fits (startManagement kind request) before kind.sizes.2 true := by
  cases kind <;> simp only [Management.sizes] at size
  case config =>
    change Fits (assign request.size >>= fun _ => copy 0 request 0 request.size) _ _ _
    rw [size]
    exact Fits.bind (Fits.assign _) fun _ => Fits.copy (by omega) (by omega)
  case token => exact Fits.bind (Fits.assign _) fun _ => Fits.copy (by omega) (by omega)
  case header =>
    change Fits (assign request.size >>= fun _ => copy 0 request 0 request.size) _ _ _
    rw [size]
    exact Fits.bind (Fits.assign _) fun _ => Fits.copy (by omega) (by omega)

theorem managementResponse_fits (opcode : Nat) {kind : Management} {before : Nat}
    (size : request.size = kind.sizes.1) :
    ∃ after, Fits (managementResponse kind request opcode) before after true := by
  have enough : 32 ≤ request.size := by cases kind <;> simp [Management.sizes] at size <;> omega
  have room : 32 ≤ kind.sizes.2 := by cases kind <;> simp [Management.sizes]
  have common {after : Nat} {rest : Build Nat}
      (fits : Fits rest kind.sizes.2 after true) :
      Fits (do
        startManagement kind request
        swapAddresses request
        writeByte 28 (match kind with
          | .config => 16
          | .token => 8
          | .header => 0)
        maskByte 29 0xf0
        writeByte 30 0
        writeByte 31 (opcode ||| 1)
        rest) before after true := by
    refine Fits.bind (startManagement_fits size) fun _ => ?_
    refine Fits.bind (swapAddresses_fits enough room) fun _ => ?_
    refine Fits.bind (Fits.writeByte _ (by omega)) fun _ => ?_
    refine Fits.bind (Fits.maskByte _ (by omega)) fun _ => ?_
    refine Fits.bind (Fits.writeByte _ (by omega)) fun _ => ?_
    exact Fits.bind (Fits.writeByte _ (by omega)) fun _ => fits
  cases kind <;> simp only [Management.sizes] at size
  case config =>
    exact ⟨48, common (Fits.bind (configResponse_fits (by omega)) fun _ => Fits.pure _)⟩
  case token =>
    refine ⟨40, common (Fits.bind (Fits.storeLe _ ?_) fun _ =>
      Fits.bind (Fits.storeLe _ ?_) fun _ => Fits.pure _)⟩ <;> simp [Management.sizes]
  case header =>
    obtain ⟨after, fits⟩ := headerResponse_fits (opcode ||| 1) size
    exact ⟨after, common fits⟩

/-- An enumeration of opcode 1 that assigns a CNA behind the end of the request. -/
def cnaMissing (request : Request) (opcode common : Nat) : Bool :=
  decide (opcode = 1 ∧ request.byte (common + 1) = 2 ∧ request.size < common + 32)

theorem learnCna_fits {common before : Nat} (enough : common + commonBytes ≤ request.size)
    (endpoint : Bool) :
    Fits (learnCna request opcode common endpoint) before before
      (!cnaMissing request opcode common) := by
  unfold commonBytes at enough
  by_cases first : opcode = 1
  · rw [learnCna, if_pos first]
    refine Fits.byteRead (by omega) ?_
    by_cases assigned : request.byte (common + 1) = 2
    · rw [if_pos assigned]
      have missing : (!cnaMissing request opcode common) =
          decide (common + 28 + 4 ≤ request.size) := by
        rw [Bool.eq_iff_iff]
        simp [cnaMissing, first, assigned]
      rw [missing]
      exact Fits.followed (Fits.loadLe _ _) fun _ => Fits.changeDevice _
    · have none : cnaMissing request opcode common = false := by simp [cnaMissing, assigned]
      rw [if_neg assigned, none]
      exact Fits.pure _
  · have none : cnaMissing request opcode common = false := by simp [cnaMissing, first]
    rw [learnCna, if_neg first, none]
    exact Fits.pure _

variable {ports : Ports} {before : Nat}

theorem portEntry_fits {extra port : Nat} (endpoint : Bool)
    (room : extra + 12 + 28 * (port + 1) ≤ before) :
    Fits (portEntry extra endpoint port) before before true := by
  refine Fits.bind (Fits.storeLe _ (by omega)) fun _ => ?_
  refine Fits.bind (Fits.storeLe _ (by omega)) fun _ => ?_
  refine Fits.bind (Fits.storeLe _ (by omega)) fun _ => ?_
  exact Fits.bind (Fits.storeLe _ (by omega)) fun _ => Fits.storeLe _ (by omega)

theorem portEntries_fits {extra port left : Nat} (endpoint : Bool)
    (room : extra + 12 + 28 * (port + left) ≤ before) :
    Fits (portEntries extra endpoint port left) before before true := by
  induction left generalizing port with
  | zero => exact Fits.pure _
  | succ left inductionHypothesis =>
      exact Fits.bind (portEntry_fits endpoint (by omega)) fun _ =>
        inductionHypothesis (by omega)

theorem tlvs_fits {extra : Nat} (endpoint : Bool)
    (room : extra + extraBytes ports opcode ≤ before) :
    Fits (tlvs ports opcode extra endpoint) before before true := by
  unfold extraBytes at room
  refine Fits.branch (fun first => ?_) fun later => ?_
  · rw [if_pos first] at room
    refine Fits.bind (Fits.storeLe _ (by omega)) fun _ => ?_
    refine Fits.bind (Fits.storeLe _ (by omega)) fun _ => ?_
    refine Fits.bind (Fits.storeLe _ (by omega)) fun _ => ?_
    refine Fits.bind (portEntries_fits endpoint (by omega)) fun _ => ?_
    exact Fits.bind (Fits.storeLe _ (by omega)) fun _ => Fits.storeLe _ (by omega)
  · rw [if_neg later] at room
    refine Fits.branch (fun second => ?_) fun _ => Fits.pure _
    rw [if_pos second] at room
    exact Fits.storeLe _ (by omega)

theorem path_inside {scan : Nat} (enough : requestCommon scan + commonBytes ≤ request.size) :
    20 + forwardBytes scan + commonBytes ≤ request.size := by
  have once : forwardBytes scan ≤ forwardBytes scan * if scan.testBit 20 then 2 else 1 :=
    Nat.le_mul_of_pos_right _ (by split <;> decide)
  unfold requestCommon at enough
  omega

theorem enumerationHeader_fits {scan : Nat}
    (enough : requestCommon scan + commonBytes ≤ request.size) :
    Fits (enumerationHeader ports request opcode scan) before (enumerationBytes ports opcode scan)
      (!cnaMissing request opcode (requestCommon scan)) := by
  have path := path_inside enough
  have room : 20 + forwardBytes scan + 24 ≤ enumerationBytes ports opcode scan := by
    simp [enumerationBytes, responseCommon, commonBytes]
  unfold commonBytes at path
  refine Fits.bind (Fits.assign _) fun _ => ?_
  refine Fits.bind (Fits.copy (by omega) (by omega)) fun _ => ?_
  refine Fits.bind (Fits.storeLe _ (by omega)) fun _ => ?_
  refine Fits.bind (Fits.copy (by omega) (by omega)) fun _ => ?_
  exact learnCna_fits enough _

theorem commonWords_fits {scan : Nat}
    (enough : requestCommon scan + commonBytes ≤ request.size) :
    Fits (commonWords ports request opcode scan) (enumerationBytes ports opcode scan)
      (enumerationBytes ports opcode scan) true := by
  unfold commonBytes at enough
  have room : responseCommon scan + 24 ≤ enumerationBytes ports opcode scan := by
    simp [enumerationBytes, commonBytes]
  refine Fits.bind (Fits.storeLe _ (by omega)) fun _ => Fits.loaded (by omega) ?_
  exact Fits.bind (Fits.storeLe _ (by omega)) fun _ => Fits.copy (by omega) (by omega)

theorem enumerationResponse_fits (size : 44 ≤ request.size)
    (enough : requestCommon (request.word 16) + commonBytes ≤ request.size) :
    Fits (enumerationResponse ports request opcode) before
      (enumerationBytes ports opcode (request.word 16))
      (!cnaMissing request opcode (requestCommon (request.word 16))) := by
  refine Fits.loaded (by omega) ?_
  rw [if_neg (Nat.not_lt.mpr enough)]
  refine Fits.followed (enumerationHeader_fits enough) fun _ => ?_
  refine Fits.bind (commonWords_fits enough) fun _ => ?_
  exact Fits.bind (tlvs_fits _ (Nat.le_refl _)) fun _ => Fits.pure _

theorem enumerationResponse_refused (size : 44 ≤ request.size)
    (short : request.size < requestCommon (request.word 16) + commonBytes) :
    Fits (enumerationResponse ports request opcode) before before true := by
  refine Fits.loaded (by omega) ?_
  rw [if_pos short]
  exact Fits.pure _

/-- The messages whose answer reads behind the end of the request. -/
def Overruns (taskType opcode : Nat) (request : Request) : Prop :=
  taskType = 1 ∧ opcode = 1 ∧
    requestCommon (request.word 16) + commonBytes ≤ request.size ∧
    request.byte (requestCommon (request.word 16) + 1) = 2 ∧
    request.size < requestCommon (request.word 16) + 32

theorem shape_eq_management {taskType : Nat} {kind : Management}
    (found : shape taskType opcode request.size = some (.management kind)) :
    taskType = 0 ∧ request.size = kind.sizes.1 := by
  unfold shape at found
  split at found
  · cases found
    assumption
  split at found
  · cases found
    assumption
  split at found
  · cases found
    assumption
  split at found
  · cases found
  split at found <;> cases found

theorem shape_eq_private {taskType : Nat}
    (found : shape taskType opcode request.size = some .privateMessage) :
    taskType = 2 ∧ (request.size = 4 ∨ request.size = 12) := by
  unfold shape at found
  split at found
  · cases found
  split at found
  · cases found
  split at found
  · cases found
  split at found
  · exact ⟨And.left ‹_›, And.right (And.right ‹_›)⟩
  split at found <;> cases found

theorem shape_eq_enumeration_iff {taskType : Nat} :
    shape taskType opcode request.size = some .enumeration ↔
      taskType = 1 ∧ opcode ≤ 2 ∧ 44 ≤ request.size := by
  unfold shape
  grind

theorem buildUbiosResponse_inside_iff (taskType opcode : Nat) (device : Device) :
    (buildUbiosResponse ports taskType opcode request { device }).2.inside = true ↔
      ¬ Overruns taskType opcode request := by
  unfold buildUbiosResponse
  rcases found : shape taskType opcode request.size with _ | kind | _ | _
  case none =>
    refine iff_of_true rfl ?_
    rintro ⟨rfl, rfl, enough, -⟩
    have size := path_inside enough
    unfold commonBytes at size
    rw [shape_eq_enumeration_iff.mpr ⟨rfl, by omega, by omega⟩] at found
    cases found
  case some.management =>
    obtain ⟨zero, size⟩ := shape_eq_management found
    obtain ⟨after, fits⟩ := managementResponse_fits opcode size
    have inside := (Fits.map some fits { device } rfl).2
    refine iff_of_true inside ?_
    rintro ⟨one, -⟩
    omega
  case some.privateMessage =>
    obtain ⟨two, size⟩ := shape_eq_private found
    obtain ⟨after, fits⟩ := privateResponse_fits opcode size
    have inside := (Fits.map some fits { device } rfl).2
    refine iff_of_true inside ?_
    rintro ⟨one, -⟩
    omega
  case some.enumeration =>
    obtain ⟨one, small, size⟩ := shape_eq_enumeration_iff.mp found
    by_cases enough : requestCommon (request.word 16) + commonBytes ≤ request.size
    · have fits : Fits (enumerationResponse ports request opcode) 0 _ _ :=
        enumerationResponse_fits size enough
      dsimp only
      rw [(fits { device } rfl).2]
      simp only [Overruns, cnaMissing, one, enough, true_and, Bool.true_and, Bool.not_eq_true',
        decide_eq_false_iff_not]
    · have fits : Fits (enumerationResponse ports request opcode) 0 _ true :=
        enumerationResponse_refused size (Nat.lt_of_not_le enough)
      refine iff_of_true (fits { device } rfl).2 ?_
      rintro ⟨-, -, accepted, -⟩
      exact enough accepted

end Messages

/-- Every access for a queue entry and a message is inside its vector, unless the message
is an enumeration that assigns a CNA and ends before it. -/
theorem answer_inside_iff (ports : Ports) (device : Device) (sqe : Bytes) (request : Request) :
    (answer ports device sqe request).2.inside = true ↔
      ¬ Overruns (taskType sqe) (opcode sqe) request :=
  buildUbiosResponse_inside_iff (taskType sqe) (opcode sqe) device

/-- An enumeration of opcode 1 without a path, which ends behind its common words. -/
def shortAssignment : Request where
  bytes := List.replicate 21 0 ++ [2] ++ List.replicate 22 0
  beyond _ := 0xff

theorem answer_reads_behind_request :
    ¬ ∀ (ports : Ports) (device : Device) (sqe : Bytes) (request : Request),
      (answer ports device sqe request).2.inside = true := by
  intro claim
  have inside := claim ⟨2, by decide⟩ {} ([1, 1, 44, 0] ++ List.replicate 12 0) shortAssignment
  revert inside
  decide

end Udma.Control.Ubios
