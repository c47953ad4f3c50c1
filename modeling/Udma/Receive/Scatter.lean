import Udma.Receive.Order

/-!
# Scattering a frame

The writes of one receive take the elements of one receive-queue entry in turn, and
their bytes are those of the frame.  A receive makes a bounded number of DMA requests,
so that it ends when the host answers them.
-/

namespace Udma.Receive.Queue

open Abi (Bytes Sge load32 load64 sgeBytes)
open Collections Transition
open Cq (Cqe Map)
open Ledger (Move Moves)

/-- A write of a part of a frame: where its element was read, the element, the token of the
write and the bytes. -/
structure Transfer where
  source : Nat
  element : Sge
  token : Nat
  bytes : Bytes
  deriving DecidableEq, Repr

def Observation.transfer? (number : Nat) : Observation → Option Transfer
  | .dmaWrite own source element token bytes =>
      if own = number then some ⟨source, element, token, bytes⟩ else none
  | _ => none

def Observation.requests (number : Nat) : Observation → Bool
  | .dmaRead own _ _ _ => own == number
  | .dmaWrite own _ _ _ _ => own == number
  | _ => false

def Observation.writes (number : Nat) : Observation → Bool
  | .payloadWritten own => own == number
  | _ => false

/-- The payload writes of a frame, in order. -/
def transfersOf (number : Nat) (trace : List Observation) : List Transfer :=
  trace.filterMap (Observation.transfer? number)

/-- The number of DMA requests made for a frame. -/
def requestsOf (number : Nat) (trace : List Observation) : Nat :=
  trace.countP (Observation.requests number)

/-- The number of payload writes of a frame that the host has reported as done. -/
def writtenOf (number : Nat) (trace : List Observation) : Nat :=
  trace.countP (Observation.writes number)

/-- The writes take the elements of an entry in turn, and carry these bytes. -/
structure Scattered (jfr : Jfr) (rqe : Nat) (bytes : Bytes) (transfers : List Transfer) : Prop where
  sources : transfers.map Transfer.source =
    (List.range transfers.length).map (jfr.sgeAddress rqe)
  elements : ∀ transfer ∈ transfers, transfer.token = jfr.payloadToken ∧
    transfer.element.address ≠ 0 ∧ transfer.bytes ≠ [] ∧
    transfer.bytes.length ≤ transfer.element.length
  bytes : (transfers.map Transfer.bytes).flatten = bytes

namespace Scattered

variable {jfr : Jfr} {rqe : Nat} {front : Bytes} {transfers : List Transfer} {transfer : Transfer}

theorem nil (jfr : Jfr) (rqe : Nat) : Scattered jfr rqe [] [] := ⟨rfl, nofun, rfl⟩

theorem append (scattered : Scattered jfr rqe front transfers)
    (source : transfer.source = jfr.sgeAddress rqe transfers.length)
    (element : transfer.token = jfr.payloadToken ∧ transfer.element.address ≠ 0 ∧
      transfer.bytes ≠ [] ∧ transfer.bytes.length ≤ transfer.element.length) :
    Scattered jfr rqe (front ++ transfer.bytes) (transfers ++ [transfer]) where
  sources := by
    rw [List.map_append, scattered.sources, List.length_append, List.length_singleton,
      List.range_succ, List.map_append, List.map_singleton, List.map_singleton, source]
  elements := by
    intro other member
    rcases List.mem_append.mp member with old | new
    · exact scattered.elements other old
    · obtain rfl := List.mem_singleton.mp new
      exact element
  bytes := by
    rw [List.map_append, List.flatten_append, scattered.bytes]
    simp

end Scattered

/-! ## How far a receive has come -/

/-- The writes of a receive so far: their number, the requests and the writes that are done. -/
structure Filled (jfrs : Map Jfr) (trace : List Observation) (number jfrId rqe pieces asked
    reported : Nat) (bytes : Bytes) : Prop where
  scattered : ∃ jfr, jfrs.lookup jfrId = some jfr ∧
    Scattered jfr.context rqe bytes (transfersOf number trace)
  count : (transfersOf number trace).length = pieces
  requests : requestsOf number trace = asked
  written : writtenOf number trace = reported
  limit : pieces ≤ 128

/-- Nothing has been written for a frame yet. -/
structure Blank (trace : List Observation) (number asked : Nat) : Prop where
  transfers : transfersOf number trace = []
  requests : requestsOf number trace = asked
  written : writtenOf number trace = 0

def Reception.Fits (jfrs : Map Jfr) (trace : List Observation) (held : Reception) : Prop :=
  match held.stage with
  | .opening => Blank trace held.arrival.number 0
  | .asking _ => Blank trace held.arrival.number 1
  | .choosing _ => Blank trace held.arrival.number 2
  | .scattering jfrId rqe sge copied =>
      Filled jfrs trace held.arrival.number jfrId rqe sge (2 + 2 * sge) sge
        (held.arrival.frame.bytes.take copied) ∧
      copied ≤ held.arrival.frame.bytes.length % 2 ^ 32
  | .reading jfrId rqe sge copied =>
      Filled jfrs trace held.arrival.number jfrId rqe sge (3 + 2 * sge) sge
        (held.arrival.frame.bytes.take copied) ∧
      copied ≤ held.arrival.frame.bytes.length % 2 ^ 32 ∧ sge < 128
  | .writing jfrId rqe sge copied chunk =>
      Filled jfrs trace held.arrival.number jfrId rqe (sge + 1) (4 + 2 * sge) sge
        (held.arrival.frame.bytes.take (copied + chunk)) ∧
      copied + chunk ≤ held.arrival.frame.bytes.length % 2 ^ 32
  | .publishing call =>
      (∃ count, Filled jfrs trace held.arrival.number call.jfrId call.rqe count (2 + 2 * count)
        count held.arrival.frame.bytes) ∧
      held.arrival.frame.bytes.length < 2 ^ 32

/-- The frame of a publication has been written to memory. -/
structure Publishing.Complete (trace : List Observation) (publishing : Publishing) : Prop where
  scattered : ∃ jfr, .installed publishing.jfrId jfr ∈ trace ∧
    Scattered jfr publishing.rqe publishing.arrival.frame.bytes
      (transfersOf publishing.arrival.number trace)
  written : writtenOf publishing.arrival.number trace =
    (transfersOf publishing.arrival.number trace).length
  small : publishing.arrival.frame.bytes.length < 2 ^ 32

/-! ## Observations about other frames -/

/-- The frame that an observation is about, if it tells of DMA. -/
def Observation.transferring : Observation → Option Nat
  | .dmaRead number _ _ _ => some number
  | .dmaWrite number _ _ _ _ => some number
  | .payloadWritten number => some number
  | _ => none

/-- What the trace tells about one frame does not change. -/
structure Quiet (number : Nat) (trace longer : List Observation) : Prop where
  transfers : transfersOf number longer = transfersOf number trace
  requests : requestsOf number longer = requestsOf number trace
  written : writtenOf number longer = writtenOf number trace
  grows : trace ⊆ longer

theorem quiet_of_other {number : Nat} {trace : List Observation} {observation : Observation}
    (other : observation.transferring ≠ some number) :
    Quiet number trace (trace ++ [observation]) := by
  have blind : observation.transfer? number = none ∧ observation.requests number = false ∧
      observation.writes number = false := by
    cases observation <;>
      simp_all [Observation.transferring, Observation.transfer?, Observation.requests,
        Observation.writes]
  obtain ⟨transfer, requests, writes⟩ := blind
  refine ⟨?_, ?_, ?_, List.subset_append_left _ _⟩
  · simp [transfersOf, transfer]
  · simp [requestsOf, requests]
  · simp [writtenOf, writes]

theorem Quiet.refl (number : Nat) (trace : List Observation) : Quiet number trace trace :=
  ⟨rfl, rfl, rfl, List.Subset.refl _⟩

theorem Quiet.trans {number : Nat} {first second third : List Observation}
    (start : Quiet number first second) (rest : Quiet number second third) :
    Quiet number first third :=
  ⟨rest.transfers.trans start.transfers, rest.requests.trans start.requests,
    rest.written.trans start.written, List.Subset.trans start.grows rest.grows⟩

theorem quiet_of_all {number : Nat} {observations : List Observation}
    (others : ∀ observation ∈ observations, observation.transferring ≠ some number)
    (trace : List Observation) : Quiet number trace (trace ++ observations) := by
  induction observations generalizing trace with
  | nil =>
      rw [List.append_nil]
      exact .refl number trace
  | cons observation rest inductionHypothesis =>
      have first : Quiet number trace (trace ++ [observation]) :=
        quiet_of_other (others observation List.mem_cons_self)
      have all := inductionHypothesis (fun other member =>
        others other (List.mem_cons_of_mem _ member)) (trace ++ [observation])
      rw [List.append_assoc] at all
      exact first.trans all

section Quiet

variable {jfrs changed : Map Jfr} {trace longer : List Observation}

theorem Filled.quiet {number jfrId rqe pieces asked reported : Nat} {bytes : Bytes}
    (filled : Filled jfrs trace number jfrId rqe pieces asked reported bytes)
    (quiet : Quiet number trace longer)
    (kept : ∀ jfr, jfrs.lookup jfrId = some jfr → changed.lookup jfrId = some jfr) :
    Filled changed longer number jfrId rqe pieces asked reported bytes where
  scattered := by
    obtain ⟨jfr, found, scattered⟩ := filled.scattered
    refine ⟨jfr, kept jfr found, ?_⟩
    rw [quiet.transfers]
    exact scattered
  count := by rw [quiet.transfers, filled.count]
  requests := by rw [quiet.requests, filled.requests]
  written := by rw [quiet.written, filled.written]
  limit := filled.limit

theorem Blank.quiet {number asked : Nat} (blank : Blank trace number asked)
    (quiet : Quiet number trace longer) : Blank longer number asked :=
  ⟨quiet.transfers.trans blank.transfers, quiet.requests.trans blank.requests,
    quiet.written.trans blank.written⟩

theorem Reception.Fits.quiet {held : Reception} (fits : held.Fits jfrs trace)
    (quiet : Quiet held.arrival.number trace longer)
    (kept : ∀ id ∈ held.stage.jfrId?, ∀ jfr, jfrs.lookup id = some jfr →
      changed.lookup id = some jfr) : held.Fits changed longer := by
  obtain ⟨arrival, stage⟩ := held
  cases stage with
  | opening => exact Blank.quiet fits quiet
  | asking => exact Blank.quiet fits quiet
  | choosing => exact Blank.quiet fits quiet
  | scattering jfrId rqe sge copied => exact ⟨fits.1.quiet quiet (kept jfrId rfl), fits.2⟩
  | reading jfrId rqe sge copied => exact ⟨fits.1.quiet quiet (kept jfrId rfl), fits.2⟩
  | writing jfrId rqe sge copied chunk => exact ⟨fits.1.quiet quiet (kept jfrId rfl), fits.2⟩
  | publishing call =>
      obtain ⟨count, filled⟩ := fits.1
      exact ⟨⟨count, filled.quiet quiet (kept call.jfrId rfl)⟩, fits.2⟩

theorem Publishing.Complete.quiet {publishing : Publishing}
    (complete : publishing.Complete trace)
    (quiet : Quiet publishing.arrival.number trace longer) : publishing.Complete longer where
  scattered := by
    obtain ⟨jfr, installed, scattered⟩ := complete.scattered
    refine ⟨jfr, quiet.grows installed, ?_⟩
    rw [quiet.transfers]
    exact scattered
  written := by rw [quiet.written, quiet.transfers, complete.written]
  small := complete.small

end Quiet

/-! ## One piece after the other -/

section Piece

variable {jfrs : Map Jfr} {trace : List Observation} {number jfrId rqe sge asked : Nat}
  {bytes : Bytes}

theorem Blank.read {asked : Nat} (blank : Blank trace number asked) (token address length : Nat) :
    Blank (trace ++ [.dmaRead number token address length]) number (asked + 1) := by
  obtain ⟨transfers, requests, written⟩ := blank
  refine ⟨?_, ?_, ?_⟩
  · rw [transfersOf, List.filterMap_append, ← transfersOf, transfers]
    rfl
  · rw [requestsOf, List.countP_append, ← requestsOf, requests]
    simp [Observation.requests]
  · rw [writtenOf, List.countP_append, ← writtenOf, written]
    rfl

theorem Filled.read {reported pieces : Nat}
    (filled : Filled jfrs trace number jfrId rqe pieces asked reported bytes)
    (token address length : Nat) :
    Filled jfrs (trace ++ [.dmaRead number token address length]) number jfrId rqe pieces
      (asked + 1) reported bytes := by
  obtain ⟨⟨jfr, found, scattered⟩, count, requests, written, limit⟩ := filled
  have same : transfersOf number (trace ++ [.dmaRead number token address length]) =
      transfersOf number trace := by
    rw [transfersOf, List.filterMap_append]
    exact List.append_nil _
  refine ⟨⟨jfr, found, ?_⟩, ?_, ?_, ?_, limit⟩
  · rw [same]
    exact scattered
  · rw [same, count]
  · rw [requestsOf, List.countP_append, ← requestsOf, requests]
    simp [Observation.requests]
  · rw [writtenOf, List.countP_append, ← writtenOf, written]
    rfl

/-- A further piece is written to the next element. -/
theorem Filled.write {jfr : Jfr} {element : Sge} {piece : Bytes} {reported : Nat}
    (filled : Filled jfrs trace number jfrId rqe sge asked reported bytes)
    (found : jfrs.lookup jfrId = some jfr) (room : sge < 128) (given : element.address ≠ 0)
    (some : piece ≠ []) (short : piece.length ≤ element.length) :
    Filled jfrs
      (trace ++ [.dmaWrite number (jfr.sgeAddress rqe sge) element jfr.payloadToken piece])
      number jfrId rqe (sge + 1) (asked + 1) reported (bytes ++ piece) := by
  obtain ⟨⟨own, present, scattered⟩, count, requests, written, _⟩ := filled
  obtain rfl : own = jfr := Option.some.inj (present.symm.trans found)
  have same : transfersOf number
      (trace ++ [.dmaWrite number (own.sgeAddress rqe sge) element own.payloadToken piece]) =
        transfersOf number trace ++
          [⟨own.sgeAddress rqe sge, element, own.payloadToken, piece⟩] := by
    simp [transfersOf, Observation.transfer?]
  refine ⟨⟨own, found, ?_⟩, ?_, ?_, ?_, room⟩
  · rw [same]
    let transfer : Transfer := ⟨own.sgeAddress rqe sge, element, own.payloadToken, piece⟩
    have source : transfer.source = own.context.sgeAddress rqe (transfersOf number trace).length := by
      rw [count]
      rfl
    exact scattered.append source ⟨rfl, given, some, short⟩
  · rw [same, List.length_append, count]
    rfl
  · rw [requestsOf, List.countP_append, ← requestsOf, requests]
    simp [Observation.requests]
  · rw [writtenOf, List.countP_append, ← writtenOf, written]
    rfl

theorem Filled.report {reported : Nat}
    (filled : Filled jfrs trace number jfrId rqe sge asked reported bytes) :
    Filled jfrs (trace ++ [.payloadWritten number]) number jfrId rqe sge asked (reported + 1)
      bytes := by
  obtain ⟨⟨jfr, found, scattered⟩, count, requests, written, limit⟩ := filled
  have same : transfersOf number (trace ++ [.payloadWritten number]) =
      transfersOf number trace := by
    rw [transfersOf, List.filterMap_append]
    exact List.append_nil _
  refine ⟨⟨jfr, found, ?_⟩, ?_, ?_, ?_, limit⟩
  · rw [same]
    exact scattered
  · rw [same, count]
  · rw [requestsOf, List.countP_append, ← requestsOf, requests]
    rfl
  · rw [writtenOf, List.countP_append, ← writtenOf, written]
    simp [Observation.writes]

end Piece

/-- The elements of an entry are at most 128, so the requests are bounded. -/
theorem Reception.Fits.bounded {jfrs : Map Jfr} {trace : List Observation} {held : Reception}
    (fits : held.Fits jfrs trace) : requestsOf held.arrival.number trace ≤ 258 := by
  obtain ⟨arrival, stage⟩ := held
  cases stage with
  | opening =>
      have none : requestsOf arrival.number trace = 0 := Blank.requests fits
      simp [none]
  | asking =>
      have one : requestsOf arrival.number trace = 1 := Blank.requests fits
      simp [one]
  | choosing =>
      have two : requestsOf arrival.number trace = 2 := Blank.requests fits
      simp [two]
  | scattering jfrId rqe sge copied =>
      have asked := fits.1.requests
      have limit := fits.1.limit
      simp only at asked ⊢
      omega
  | reading jfrId rqe sge copied =>
      have asked := fits.1.requests
      have limit := fits.2.2
      simp only at asked ⊢
      omega
  | writing jfrId rqe sge copied chunk =>
      have asked := fits.1.requests
      have limit := fits.1.limit
      simp only at asked ⊢
      omega
  | publishing call =>
      obtain ⟨pieces, filled⟩ := fits.1
      have asked := filled.requests
      have limit := filled.limit
      simp only at asked ⊢
      omega

theorem Jfr.maxSge_le (jfr : Jfr) : jfr.maxSge ≤ 128 := by
  have short := jfr.sgeShift.isLt
  rw [Jfr.maxSge, Nat.shiftLeft_eq, one_mul]
  exact Nat.pow_le_pow_right (by decide) (by omega : jfr.sgeShift.val ≤ 7)

/-! ## Every receive -/

variable {config : Config} {ledger next : Ledger}

/-- What holds of the writes of all frames. -/
structure Ledger.Served (ledger : Ledger) : Prop where
  fits : ∀ held ∈ ledger.receptions, held.Fits ledger.jfrs ledger.trace
  fresh : ∀ number, number ∉ startedOf ledger.trace → Blank ledger.trace number 0
  bounded : ∀ number, requestsOf number ledger.trace ≤ 258
  placed : ∀ call ∈ publishedOf ledger.trace, call.reception ∈ ledger.receptions ∨
    call.arrival.number ∈ (endedOf ledger.trace).map Prod.fst
  complete : ∀ call ∈ publishedOf ledger.trace, call.Complete ledger.trace

namespace Ledger.Served

/-- No DMA happens. -/
theorem rest (served : ledger.Served) {observations : List Observation}
    (trace : next.trace = ledger.trace ++ observations)
    (still : ∀ observation ∈ observations, observation.transferring = none)
    (fits : ∀ held ∈ next.receptions, held.Fits next.jfrs next.trace)
    (kept : ∀ call : Publishing, call.reception ∈ ledger.receptions →
      call.reception ∈ next.receptions ∨
        call.arrival.number ∈ (endedOf observations).map Prod.fst)
    (published : ∀ call ∈ publishedOf observations, call.reception ∈ next.receptions ∧
      call.Complete next.trace) : next.Served := by
  have quiet (number : Nat) : Quiet number ledger.trace next.trace := by
    rw [trace]
    exact quiet_of_all (fun observation member => by simp [still observation member]) _
  have ended : endedOf next.trace = endedOf ledger.trace ++ endedOf observations := by
    rw [trace, endedOf, List.filterMap_append]
    rfl
  have calls : publishedOf next.trace = publishedOf ledger.trace ++ publishedOf observations := by
    rw [trace, publishedOf, List.filterMap_append]
    rfl
  refine ⟨fits, ?_, ?_, ?_, ?_⟩
  · intro number unseen
    refine (served.fresh number fun seen => unseen ?_).quiet (quiet number)
    rw [trace, startedOf, List.filterMap_append]
    exact List.mem_append_left _ seen
  · intro number
    rw [(quiet number).requests]
    exact served.bounded number
  · intro call member
    rw [ended, List.map_append, List.mem_append]
    rw [calls, List.mem_append] at member
    rcases member with old | new
    · rcases served.placed call old with held | past
      · exact (kept call held).imp_right .inr
      · exact .inr (.inl past)
    · exact .inl (published call new).1
  · intro call member
    rw [calls, List.mem_append] at member
    rcases member with old | new
    · exact (served.complete call old).quiet (quiet _)
    · exact (published call new).2

/-- The only receive makes a DMA request, or comes back from one. -/
theorem request (served : ledger.Served) (ordered : ledger.Ordered) {arrival : Arrival}
    {stage moved : Stage} {observation : Observation}
    (shape : ledger.receptions = [⟨arrival, stage⟩])
    (unpublished : ∀ call : Publishing, (⟨arrival, stage⟩ : Reception) ≠ call.reception)
    (own : observation.transferring = some arrival.number)
    (fits : Reception.Fits ledger.jfrs (ledger.trace ++ [observation]) ⟨arrival, moved⟩) :
    (ledger.request ⟨arrival, moved⟩ observation).Served := by
  have blind : observation.started? = none ∧ observation.ended? = none ∧
      observation.publishing? = none := by
    cases observation <;> first | exact ⟨rfl, rfl, rfl⟩ | simp [Observation.transferring] at own
  obtain ⟨started, ended, publishing⟩ := blind
  have starts : startedOf (ledger.trace ++ [observation]) = startedOf ledger.trace := by
    simp [startedOf, started]
  have ends : endedOf (ledger.trace ++ [observation]) = endedOf ledger.trace := by
    simp [endedOf, ended]
  have calls : publishedOf (ledger.trace ++ [observation]) = publishedOf ledger.trace := by
    simp [publishedOf, publishing]
  have order : startedOf ledger.trace =
      (endedOf ledger.trace).map Prod.fst ++ [arrival.number] := by
    rw [ordered.order, shape]
    rfl
  have quiet {number : Nat} (other : number ≠ arrival.number) :
      Quiet number ledger.trace (ledger.trace ++ [observation]) := by
    refine quiet_of_other ?_
    rw [own]
    exact fun same => other (Option.some.inj same).symm
  have past : ∀ call ∈ publishedOf ledger.trace,
      call.arrival.number ∈ (endedOf ledger.trace).map Prod.fst := by
    intro call member
    refine (served.placed call member).resolve_left fun held => ?_
    rw [shape, List.mem_singleton] at held
    exact unpublished call held.symm
  refine ⟨?_, ?_, ?_, ?_, ?_⟩
  · intro held member
    obtain rfl := List.mem_singleton.mp member
    exact fits
  · intro number unseen
    replace unseen : number ∉ startedOf ledger.trace := starts ▸ unseen
    refine (served.fresh number unseen).quiet (quiet ?_)
    rintro rfl
    exact unseen (by simp [order])
  · intro number
    by_cases same : number = arrival.number
    · subst same
      exact fits.bounded
    · change requestsOf number (ledger.trace ++ [observation]) ≤ 258
      rw [(quiet same).requests]
      exact served.bounded number
  · intro call member
    right
    change call.arrival.number ∈ (endedOf (ledger.trace ++ [observation])).map Prod.fst
    rw [ends]
    exact past call (calls ▸ member)
  · intro call member
    replace member : call ∈ publishedOf ledger.trace := calls ▸ member
    refine (served.complete call member).quiet (quiet ?_)
    intro same
    have unended : arrival.number ∉ (endedOf ledger.trace).map Prod.fst := ordered.unended shape
    exact unended (same ▸ past call member)

theorem move (served : ledger.Served) (ordered : ledger.Ordered) (stocked : ledger.Stocked)
    (moved : Move config ledger next) : next.Served := by
  have same {changed : Ledger} {observations : List Observation}
      (receptions : changed.receptions = ledger.receptions)
      (trace : changed.trace = ledger.trace ++ observations)
      (still : ∀ observation ∈ observations, observation.transferring = none)
      (quiet : publishedOf observations = [])
      (jfrs : ∀ held ∈ ledger.receptions, ∀ id ∈ held.stage.jfrId?, ∀ jfr,
        ledger.jfrs.lookup id = some jfr → changed.jfrs.lookup id = some jfr) :
      changed.Served := by
    refine served.rest trace still ?_ (fun call held => .inl (receptions ▸ held)) (by simp [quiet])
    intro held member
    rw [receptions] at member
    rw [trace]
    refine (served.fits held member).quiet ?_ (jfrs held member)
    exact quiet_of_all (fun observation member => by simp [still observation member]) _
  have concludes {changed : Ledger} {reception : Reception} {ok : Bool}
      {observations : List Observation} (shape : ledger.receptions = [reception])
      (receptions : changed.receptions = [])
      (trace : changed.trace = ledger.trace ++ observations)
      (still : ∀ observation ∈ observations, observation.transferring = none)
      (quiet : publishedOf observations = [])
      (ended : (reception.arrival.number, ok) ∈ endedOf observations) : changed.Served := by
    refine served.rest trace still (by simp [receptions]) ?_ (by simp [quiet])
    intro call held
    rw [shape, List.mem_singleton] at held
    subst held
    exact .inr (List.mem_map.mpr ⟨_, ended, rfl⟩)
  cases moved with
  | aside command status => exact same rfl rfl (by simp [Observation.transferring]) rfl (by simp)
  | arrived frame => exact same rfl rfl (by simp [Observation.transferring]) rfl (by simp)
  | @started arrival rest queued free none =>
      refine served.rest rfl (by simp [Observation.transferring]) ?_ (by simp [none])
        (by simp [publishedOf, Observation.publishing?])
      intro held member
      obtain rfl := List.mem_singleton.mp member
      have unseen : arrival.number ∉ startedOf ledger.trace := by
        intro seen
        have queue := (List.pairwise_append.mp ordered.queue).2.2 _ seen arrival.number
          (by simp [queued])
        omega
      exact (served.fresh _ unseen).quiet (quiet_of_other (by simp [Observation.transferring]))
  | @opened arrival jfrId jfr shape found =>
      have blank : Blank ledger.trace arrival.number 0 :=
        served.fits ⟨arrival, .opening⟩ (by simp [shape])
      have requested : (ledger.request ⟨arrival, .asking jfrId⟩
          (.dmaRead arrival.number jfr.token jfr.producerIova 4)).Served :=
        served.request ordered shape (by simp [Publishing.reception]) rfl (blank.read _ _ _)
      exact ⟨requested.fits, requested.fresh, requested.bounded, requested.placed,
        requested.complete⟩
  | @asked arrival jfrId jfr shape found =>
      have blank : Blank ledger.trace arrival.number 1 :=
        served.fits ⟨arrival, .asking jfrId⟩ (by simp [shape])
      exact served.request ordered shape (by simp [Publishing.reception]) rfl (blank.read _ _ _)
  | @chosen arrival jfrId rqe jfr shape found =>
      have blank : Blank ledger.trace arrival.number 2 :=
        served.fits ⟨arrival, .choosing jfrId⟩ (by simp [shape])
      refine served.rest (List.append_nil _).symm (by simp) ?_ ?_ (by simp [publishedOf])
      · intro held member
        obtain rfl := List.mem_singleton.mp member
        refine ⟨⟨⟨jfr, found, ?_⟩, ?_, blank.requests, blank.written, by omega⟩, Nat.zero_le _⟩
        · rw [blank.transfers]
          exact .nil jfr.context rqe
        · rw [blank.transfers]
          rfl
      · intro call held
        simp [shape, Publishing.reception] at held
  | @fetched arrival jfrId rqe sge copied jfr shape found room =>
      obtain ⟨filled, short⟩ := served.fits ⟨arrival, .scattering jfrId rqe sge copied⟩
        (by simp [shape])
      refine served.request ordered shape (by simp [Publishing.reception]) rfl ⟨?_, short, ?_⟩
      · have read := filled.read jfr.token (jfr.sgeAddress rqe sge) sgeBytes
        rwa [show 2 + 2 * sge + 1 = 3 + 2 * sge by omega] at read
      · exact room.trans_le jfr.maxSge_le
  | @scattered arrival jfrId rqe sge copied chunk element jfr shape found size some given =>
      obtain ⟨filled, short, room⟩ := served.fits ⟨arrival, .reading jfrId rqe sge copied⟩
        (by simp [shape])
      simp only at filled short
      have fitting : copied + chunk ≤ arrival.frame.bytes.length % 2 ^ 32 := by
        have limit : chunk ≤ (arrival.frame.bytes.length - copied) % 2 ^ 32 := by
          rw [size]
          exact min_le_right _ _
        omega
      refine served.request ordered shape (by simp [Publishing.reception]) rfl ⟨?_, fitting⟩
      have length : ((arrival.frame.bytes.drop copied).take chunk).length = chunk := by
        rw [List.length_take, List.length_drop]
        omega
      have nonempty : (arrival.frame.bytes.drop copied).take chunk ≠ [] := by
        intro empty
        rw [empty] at length
        exact some length.symm
      have written := filled.write found room given nonempty
        (by rw [length, size]; exact min_le_left _ _)
      rwa [← List.take_add, show 3 + 2 * sge + 1 = 4 + 2 * sge by omega] at written
  | @written arrival jfrId rqe sge copied chunk shape =>
      obtain ⟨filled, short⟩ := served.fits ⟨arrival, .writing jfrId rqe sge copied chunk⟩
        (by simp [shape])
      have small : (copied + chunk) % 2 ^ 32 = copied + chunk := by
        refine Nat.mod_eq_of_lt ?_
        simp only at short
        omega
      have reported := filled.report
      rw [show 4 + 2 * sge = 2 + 2 * (sge + 1) by omega] at reported
      refine served.request ordered shape (by simp [Publishing.reception]) rfl ?_
      rw [small]
      exact ⟨reported, short⟩
  | @published publishing sge jfr jetty shape known entry found jfc idle =>
      obtain ⟨filled, short⟩ := served.fits _ (by rw [shape]; exact List.mem_singleton_self _)
      simp only [List.take_length] at filled short
      have quiet : Quiet publishing.arrival.number ledger.trace
          (ledger.trace ++ [.publishing publishing]) :=
        quiet_of_other (by simp [Observation.transferring])
      have moved := filled.quiet quiet fun _ => id
      have small : publishing.arrival.frame.bytes.length < 2 ^ 32 := by omega
      have fits : publishing.reception.Fits ledger.jfrs
          (ledger.trace ++ [.publishing publishing]) := ⟨⟨sge, moved⟩, small⟩
      refine served.rest rfl (by simp [Observation.transferring]) ?_ ?_ ?_
      · intro held member
        obtain rfl := List.mem_singleton.mp member
        exact fits
      · intro call held
        simp [shape, Publishing.reception] at held
      · intro call member
        obtain rfl : call = publishing := by
          simpa [publishedOf, Observation.publishing?] using member
        refine ⟨List.mem_singleton_self _, ?_, moved.written.trans moved.count.symm, small⟩
        obtain ⟨own, present, scattered⟩ := moved.scattered
        exact ⟨own.context, List.mem_append_left _ (stocked.created _ own present), scattered⟩
  | @failed reception shape unpublished =>
      exact concludes shape rfl rfl (by simp [Observation.transferring]) rfl (List.mem_singleton_self _)
  | @concluded publishing ok completion shape stepped told =>
      have ended : (publishing.reception.arrival.number, ok) ∈
          endedOf [.ended publishing.arrival.number ok] := List.mem_singleton_self _
      cases ok with
      | false => exact concludes shape rfl rfl (by simp [Observation.transferring]) rfl ended
      | true =>
          simp only [if_true, Ledger.consume]
          split
          next => exact concludes shape rfl rfl (by simp [Observation.transferring]) rfl ended
          next =>
            have consumed : (publishing.reception.arrival.number, true) ∈
                endedOf ([.consumed publishing.arrival.number publishing.jfrId] ++
                  [.ended publishing.arrival.number true]) := List.mem_singleton_self _
            exact concludes shape rfl (List.append_assoc _ _ _) (by simp [Observation.transferring]) rfl
              consumed
  | progressed => exact same rfl (List.append_nil _).symm (by simp) rfl fun _ _ _ _ _ => id
  | destroyed kept jfrId idle =>
      refine same rfl rfl ?_ ?_ ?_
      · intro observation member
        obtain ⟨arrival, _, rfl⟩ := List.mem_map.mp member
        rfl
      · exact filterMap_purge (fun _ => rfl) _
      · intro held member id own jfr found
        have active := stocked.present held member id own
        cases jfrId with
        | none => exact found
        | some erased =>
            have other : id ≠ erased := by
              rintro rfl
              exact idle id rfl active
            simpa [AList.lookup_erase_ne other] using found
  | @installed jfrId jfr vacant fresh =>
      refine same rfl rfl (by simp [Observation.transferring]) rfl ?_
      intro held member id own other found
      have differs : id ≠ jfrId := by
        rintro rfl
        simp [vacant] at found
      simpa [AList.lookup_insert_ne differs] using found

end Ledger.Served

end Udma.Receive.Queue
