import Udma.Checkpoint.State

/-!
# Saving and restoring

A checkpoint is restored exactly by a quiescent device of the same configuration, unless one of
its maps is larger than `LoadState` accepts, and in whatever order the maps were walked.  A file
that was cut short is never accepted.
-/

namespace Udma.Checkpoint

open Udma.Collections

/-! ## What each record needs -/

section Records

variable {Value : Type}

/-- A row that comes of a map whose values can be stored. -/
structure RowFormed (value : Stored Value) (row : Row Value) (map : Map Value) : Prop where
  walks : Walks row map
  values : ∀ entry ∈ row, value.Formed entry.2 ∧ value.fits entry.2 = true

theorem size_formed {count : Nat} (small : count < 2 ^ 64) : size.Formed count :=
  ⟨trivial, UInt64.toNat_ofNat_of_lt small⟩

/-- There are no more than 2 ^ 32 keys. -/
theorem row_length_le {row : Row Value} {map : Map Value} (walks : Walks row map) :
    row.length ≤ 2 ^ 32 := by
  have keys : ((row.map Prod.fst).map UInt32.toFin).Nodup :=
    walks.nodup.map fun _ _ => UInt32.toFin_inj.mp
  have few := keys.length_le_card
  rwa [List.length_map, List.length_map, Fintype.card_fin] at few

def fitsLimit (map : Map Value) : Bool := decide (map.keys.card ≤ mapLimit)

variable {value : Stored Value} {row : Row Value} {map : Map Value}

theorem podMap_formed (formed : RowFormed value row map) : (podMap value).Formed row :=
  ⟨size_formed ((row_length_le formed.walks).trans_lt (by decide)),
    fun entry listed => ⟨trivial, (formed.values entry listed).1⟩⟩

theorem podMap_fits (formed : RowFormed value row map) :
    (podMap value).fits row = fitsLimit map := by
  have entries : row.all (u32.pair value).fits = true :=
    List.all_eq_true.mpr fun entry listed => (formed.values entry listed).2
  change (true && decide (row.length ≤ mapLimit) && row.all (u32.pair value).fits) = _
  rw [entries, Bool.true_and, Bool.and_true, formed.walks.length]
  rfl

theorem flag_formed (up : Bool) : flag.Formed up := by
  cases up <;> exact ⟨trivial, rfl⟩

theorem repeated_formed {record : Stored Value} {count : Nat} {values : List Value}
    (length : values.length = count) (formed : ∀ value, record.Formed value) :
    (record.repeated count).Formed values := ⟨length, fun value _ => formed value⟩

theorem repeated_fits {record : Stored Value} (fits : ∀ value, record.fits value = true)
    (count : Nat) (values : List Value) : (record.repeated count).fits values = true :=
  List.all_eq_true.mpr fun value _ => fits value

theorem queueContext_formed {record : QueueContext} (length : record.directWqe.length = 64) :
    queueContext.Formed record ∧ queueContext.fits record = true := by
  constructor
  · refine ⟨?_, rfl⟩
    simp only [Codec.pair, Codec.dependent, u64, u32, padding, Codec.fixed, true_and, and_true,
      flag_formed]
    exact repeated_formed length fun _ => trivial
  · have wqe : (u8.repeated 64).fits record.directWqe = true := repeated_fits (fun _ => rfl) _ _
    simp only [queueContext, Codec.reshape, Codec.pair, Codec.dependent, wqe]
    rfl

theorem eventQueueContext_formed (record : EventQueueContext) :
    eventQueueContext.Formed record ∧ eventQueueContext.fits record = true := by
  refine ⟨⟨?_, rfl⟩, rfl⟩
  simp only [Codec.pair, Codec.dependent, u64, u32, padding, Codec.fixed, and_true, flag_formed]

theorem tpRoute_formed (record : TpRoute) :
    tpRoute.Formed record ∧ tpRoute.fits record = true := by
  refine ⟨⟨?_, rfl⟩, rfl⟩
  simp only [Codec.pair, Codec.dependent, u32, padding, Codec.fixed, and_true, flag_formed]

theorem optionalToken_formed (token : Option UInt32) : optionalToken.Formed token := by
  cases token <;> exact ⟨⟨trivial, trivial⟩, rfl⟩

end Records

/-! ## What a state needs -/

/-- The arrays have their sizes, and there is a link for every port. -/
structure State.Formed (state : State) : Prop where
  ummuRegisters : state.persistent.ummuRegisters.length = 0x5000
  ubiosMessageQueue : state.persistent.ubiosMessageQueueRegisters.length = 72
  ubaseCommandQueue : state.persistent.ubaseCommandQueueRegisters.length = 11
  linkUp : state.persistent.linkUp.length = state.config.portCount.toNat
  queries : ∀ id record, state.persistent.jfcQueryContexts.lookup id = some record →
    record.length = 128
  wqes : ∀ map ∈ [state.persistent.jfcContexts, state.persistent.jfrContexts,
    state.persistent.jettyContexts], ∀ id record, map.lookup id = some record →
      record.directWqe.length = 64

/-- No map has more entries than `ReadPodMap` accepts. -/
def Persistent.mapsFit (state : Persistent Map) : Bool :=
  fitsLimit state.ubiosRootConfig && fitsLimit state.ubiosEndpointConfig &&
    fitsLimit state.ceqs && fitsLimit state.jfcCeqs && fitsLimit state.jfcContexts &&
    fitsLimit state.jfcQueryContexts && fitsLimit state.jfrContexts &&
    fitsLimit state.jettyContexts && fitsLimit state.tpRoutes && fitsLimit state.armedJfcs

/-- What an image of a version holds. -/
def Persistent.upTo {Map : Type → Type} [EmptyCollection (Map UInt8)] (state : Persistent Map)
    (version : UInt32) : Persistent Map :=
  if version = 4 then state else { state with armedJfcs := ∅ }

theorem Persistent.upTo_upTo {Map : Type → Type} [EmptyCollection (Map UInt8)]
    (state : Persistent Map) (version : UInt32) :
    (state.upTo version).upTo version = state.upTo version := by
  unfold upTo
  split <;> rfl

theorem Persistent.linkUp_upTo {Map : Type → Type} [EmptyCollection (Map UInt8)]
    (state : Persistent Map) (version : UInt32) : (state.upTo version).linkUp = state.linkUp := by
  unfold upTo
  split <;> rfl

namespace Persistent.Walked

variable {rows : Persistent Row} {state : Persistent Map}

theorem linkUp (walked : rows.Walked state) : rows.linkUp = state.linkUp :=
  congrArg Registers.linkUp walked.registers

theorem upTo (walked : rows.Walked state) (version : UInt32) :
    (rows.upTo version).Walked (state.upTo version) := by
  by_cases current : version = 4
  · rw [Persistent.upTo, Persistent.upTo, if_pos current, if_pos current]
    exact walked
  · rw [Persistent.upTo, Persistent.upTo, if_neg current, if_neg current]
    exact { walked with armedJfcs := rfl }

/-- An image gives the maps back, however they were walked. -/
theorem restored_eq (walked : rows.Walked state) : rows.restored = state := by
  obtain ⟨registers, tables⟩ := state
  obtain ⟨rfl, rootConfig, endpointConfig, ceqs, jfcCeqs, jfcs, queries, jfrs, jettys, routes,
    armed⟩ := walked
  exact congrArg (Persistent.mk rows.toRegisters)
    (Tables.ext rootConfig.emplaceAll_eq endpointConfig.emplaceAll_eq ceqs.emplaceAll_eq
      jfcCeqs.emplaceAll_eq jfcs.emplaceAll_eq queries.emplaceAll_eq jfrs.emplaceAll_eq
      jettys.emplaceAll_eq routes.emplaceAll_eq armed.emplaceAll_eq)

end Persistent.Walked

/-- Every device can be walked. -/
theorem exists_walked (state : Persistent Map) : ∃ rows : Persistent Row, rows.Walked state := by
  obtain ⟨rootConfig, root⟩ := exists_walks state.ubiosRootConfig
  obtain ⟨endpointConfig, endpoint⟩ := exists_walks state.ubiosEndpointConfig
  obtain ⟨ceqs, ceq⟩ := exists_walks state.ceqs
  obtain ⟨jfcCeqs, jfcCeq⟩ := exists_walks state.jfcCeqs
  obtain ⟨jfcs, jfc⟩ := exists_walks state.jfcContexts
  obtain ⟨queries, query⟩ := exists_walks state.jfcQueryContexts
  obtain ⟨jfrs, jfr⟩ := exists_walks state.jfrContexts
  obtain ⟨jettys, jetty⟩ := exists_walks state.jettyContexts
  obtain ⟨routes, route⟩ := exists_walks state.tpRoutes
  obtain ⟨armed, arm⟩ := exists_walks state.armedJfcs
  exact ⟨⟨state.toRegisters, ⟨rootConfig, endpointConfig, ceqs, jfcCeqs, jfcs, queries, jfrs,
    jettys, routes, armed⟩⟩,
    ⟨rfl, root, endpoint, ceq, jfcCeq, jfc, query, jfr, jetty, route, arm⟩⟩

/-! ## Images -/

namespace State.Formed

variable {saved : State} {rows : Persistent Row}

theorem of_words {row : Row UInt32} {map : Map UInt32} (walks : Walks row map) :
    RowFormed u32 row map := ⟨walks, fun _ _ => ⟨trivial, rfl⟩⟩

theorem of_bytes {row : Row UInt8} {map : Map UInt8} (walks : Walks row map) :
    RowFormed u8 row map := ⟨walks, fun _ _ => ⟨trivial, rfl⟩⟩

theorem of_ceqs {row : Row EventQueueContext} {map : Map EventQueueContext}
    (walks : Walks row map) : RowFormed eventQueueContext row map :=
  ⟨walks, fun entry _ => eventQueueContext_formed entry.2⟩

theorem of_routes {row : Row TpRoute} {map : Map TpRoute} (walks : Walks row map) :
    RowFormed tpRoute row map :=
  ⟨walks, fun entry _ => tpRoute_formed entry.2⟩

theorem of_contexts {row : Row QueueContext} {map : Map QueueContext} (walks : Walks row map)
    (wqes : ∀ id record, map.lookup id = some record → record.directWqe.length = 64) :
    RowFormed queueContext row map :=
  ⟨walks, fun entry listed =>
    queueContext_formed (wqes entry.1 entry.2 (walks.lookup.mpr listed))⟩

theorem of_queries {row : Row (List UInt8)} {map : Map (List UInt8)} (walks : Walks row map)
    (queries : ∀ id record, map.lookup id = some record → record.length = 128) :
    RowFormed (u8.repeated 128) row map :=
  ⟨walks, fun entry listed =>
    ⟨repeated_formed (queries entry.1 entry.2 (walks.lookup.mpr listed)) fun _ => trivial,
      repeated_fits (fun _ => rfl) _ _⟩⟩

theorem links_formed (config : Config) {linkUp : List Bool} (small : linkUp.length < 2 ^ 64) :
    (links config).Formed linkUp :=
  ⟨⟨size_formed small, repeated_formed rfl flag_formed⟩, rfl⟩

theorem links_fits (config : Config) (linkUp : List Bool) :
    (links config).fits linkUp = (linkUp.length == config.portCount.toNat) := by
  have flags : (flag.repeated linkUp.length).fits linkUp = true :=
    repeated_fits (fun _ => rfl) _ _
  change ((true && linkUp.length == config.portCount.toNat) && _) = _
  rw [flags, Bool.true_and, Bool.and_true]

theorem upTo (formed : saved.Formed) (version : UInt32) :
    ({ saved with persistent := saved.persistent.upTo version } : State).Formed := by
  by_cases current : version = 4
  · rw [Persistent.upTo, if_pos current]
    exact formed
  · rw [Persistent.upTo, if_neg current]
    exact ⟨formed.ummuRegisters, formed.ubiosMessageQueue, formed.ubaseCommandQueue,
      formed.linkUp, formed.queries, formed.wqes⟩

theorem armed_formed (walked : rows.Walked saved.persistent) {version : UInt32}
    (same : rows.upTo version = rows)
    (kept : saved.persistent.upTo version = saved.persistent) :
    (armed version).Formed rows.armedJfcs ∧
      (armed version).fits rows.armedJfcs = fitsLimit saved.persistent.armedJfcs := by
  unfold armed
  split
  next =>
    exact ⟨podMap_formed (of_bytes walked.armedJfcs), podMap_fits (of_bytes walked.armedJfcs)⟩
  next old =>
    have row : rows.armedJfcs = [] := by
      rw [← same, Persistent.upTo, if_neg old]
      rfl
    have map : saved.persistent.armedJfcs = ∅ := by rw [← kept, Persistent.upTo, if_neg old]
    rw [row, map]
    exact ⟨rfl, rfl⟩

theorem contexts (formed : saved.Formed) (walked : rows.Walked saved.persistent) :
    RowFormed queueContext rows.jfcContexts saved.persistent.jfcContexts ∧
      RowFormed queueContext rows.jfrContexts saved.persistent.jfrContexts ∧
        RowFormed queueContext rows.jettyContexts saved.persistent.jettyContexts :=
  ⟨of_contexts walked.jfcContexts (formed.wqes _ (by simp)),
    of_contexts walked.jfrContexts (formed.wqes _ (by simp)),
    of_contexts walked.jettyContexts (formed.wqes _ (by simp))⟩

theorem contents_formed (formed : saved.Formed) (walked : rows.Walked saved.persistent)
    {version : UInt32} (same : rows.upTo version = rows)
    (kept : saved.persistent.upTo version = saved.persistent) (config : Config) :
    (contents config version).Formed rows := by
  obtain ⟨jfcs, jfrs, jettys⟩ := formed.contexts walked
  have small : rows.linkUp.length < 2 ^ 64 := by
    rw [walked.linkUp, formed.linkUp]
    exact saved.config.portCount.toNat_lt.trans (by decide)
  have ummu : rows.ummuRegisters.length = 0x5000 :=
    walked.registers ▸ formed.ummuRegisters
  have ubios : rows.ubiosMessageQueueRegisters.length = 72 :=
    walked.registers ▸ formed.ubiosMessageQueue
  have ubase : rows.ubaseCommandQueueRegisters.length = 11 :=
    walked.registers ▸ formed.ubaseCommandQueue
  exact ⟨⟨repeated_formed ummu fun _ => trivial, optionalToken_formed _,
    repeated_formed ubios fun _ => trivial, repeated_formed ubase fun _ => trivial, trivial,
    podMap_formed (of_words walked.ubiosRootConfig),
    podMap_formed (of_words walked.ubiosEndpointConfig), trivial, trivial, trivial, trivial,
    trivial, trivial, trivial, trivial, trivial, trivial, trivial, trivial,
    podMap_formed (of_ceqs walked.ceqs), podMap_formed (of_words walked.jfcCeqs),
    podMap_formed jfcs, podMap_formed (of_queries walked.jfcQueryContexts formed.queries),
    podMap_formed jfrs, podMap_formed jettys, podMap_formed (of_routes walked.tpRoutes),
    trivial, trivial, trivial, trivial, trivial, trivial, links_formed config small,
    (armed_formed walked same kept).1⟩, rfl⟩

theorem contents_fits (formed : saved.Formed) (walked : rows.Walked saved.persistent)
    {version : UInt32} (same : rows.upTo version = rows)
    (kept : saved.persistent.upTo version = saved.persistent) (config : Config) :
    (contents config version).fits rows =
      (saved.persistent.linkUp.length == config.portCount.toNat && saved.persistent.mapsFit) := by
  obtain ⟨jfcs, jfrs, jettys⟩ := formed.contexts walked
  have bytes (count : Nat) (values : List UInt8) : (u8.repeated count).fits values = true :=
    repeated_fits (fun _ => rfl) _ _
  have words (count : Nat) (values : List UInt32) : (u32.repeated count).fits values = true :=
    repeated_fits (fun _ => rfl) _ _
  have token : optionalToken.fits rows.genericIovaToken = true := rfl
  have long (value : UInt64) : u64.fits value = true := rfl
  have word (value : UInt32) : u32.fits value = true := rfl
  simp only [contents, Codec.reshape, Codec.pair, Codec.dependent, bytes, words, token, long,
    word, Bool.true_and,
    podMap_fits (of_words walked.ubiosRootConfig),
    podMap_fits (of_words walked.ubiosEndpointConfig), podMap_fits (of_ceqs walked.ceqs),
    podMap_fits (of_words walked.jfcCeqs), podMap_fits jfcs,
    podMap_fits (of_queries walked.jfcQueryContexts formed.queries), podMap_fits jfrs,
    podMap_fits jettys, podMap_fits (of_routes walked.tpRoutes), links_fits, walked.linkUp,
    (armed_formed walked same kept).2, Persistent.mapsFit]
  simp only [Bool.and_assoc]
  cases saved.persistent.linkUp.length == config.portCount.toNat <;>
    simp only [Bool.true_and, Bool.false_and, Bool.and_false]

/-- An image of a version that a state can have. -/
theorem image_formed (formed : saved.Formed) (walked : rows.Walked saved.persistent)
    (version : UInt32) (config : Config) :
    (image config).Formed (saved.header version, rows.upTo version) :=
  ⟨⟨⟨trivial, trivial, trivial, trivial, trivial⟩, rfl⟩,
    (formed.upTo version).contents_formed (walked.upTo version) (rows.upTo_upTo version)
      (saved.persistent.upTo_upTo version) config⟩

theorem image_fits (formed : saved.Formed) (walked : rows.Walked saved.persistent)
    (version : UInt32) (config : Config) :
    (image config).fits (saved.header version, rows.upTo version) =
      ((version == 3 || version == 4) && decide (saved.config = config) &&
        (saved.persistent.upTo version).mapsFit) := by
  have inner := (formed.upTo version).contents_fits (walked.upTo version)
    (rows.upTo_upTo version) (saved.persistent.upTo_upTo version) config
  have headed : (heading config).fits (saved.header version) =
      ((version == 3 || version == 4) && decide (saved.config = config)) := by
    obtain ⟨base, ports, eid⟩ := config
    have same : decide (saved.config = ⟨base, ports, eid⟩) = (saved.config.mmioBase == base &&
        (saved.config.portCount == ports && saved.config.endpointEid == eid)) := by
      rw [Bool.eq_iff_iff]
      simp [Config.ext_iff]
    rw [same]
    change ((true && stateMagic == stateMagic) && ((true && (version == 3 || version == 4)) &&
      ((true && saved.config.mmioBase == base) && ((true && saved.config.portCount == ports) &&
        (true && saved.config.endpointEid == eid))))) = _
    simp only [beq_self_eq_true, Bool.true_and]
  change ((heading config).fits (saved.header version) &&
    (contents config version).fits (rows.upTo version)) = _
  rw [headed, inner]
  simp only [Persistent.linkUp_upTo, formed.linkUp]
  by_cases same : saved.config = config
  · simp [same]
  · simp [same]

end State.Formed

theorem saveState_eq {saved : State} {rows : Persistent Row} {bytes : List UInt8}
    (written : saveState saved rows = some bytes) :
    saved.isQuiescent = true ∧
      bytes = (image saved.config).write (saved.header 4, rows.upTo 4) := by
  unfold saveState at written
  split at written
  next quiet => exact ⟨quiet, (Option.some.inj written).symm⟩
  next => cases written

/-- A quiescent device can be saved. -/
theorem exists_saves {saved : State} (quiet : saved.isQuiescent = true) :
    ∃ bytes, saved.Saves bytes := by
  obtain ⟨rows, walked⟩ := exists_walked saved.persistent
  exact ⟨_, rows, walked, if_pos quiet⟩

/-! ## A device with two JFCs -/

def twoJfcs : Persistent Map where
  ummuRegisters := List.replicate 0x5000 0
  genericIovaToken := some 7
  ubiosMessageQueueRegisters := List.replicate 72 0
  ubaseCommandQueueRegisters := List.replicate 11 0
  ubaseCommandSource := 0
  ubiosRootConfig := ∅
  ubiosEndpointConfig := ∅
  ubiosRootCna := 0
  ubiosEndpointCna := 0
  ubiosTargetProducer := 0
  ubiosErrors := 0
  ubaseTargetProducer := 0
  ubaseErrors := 0
  msiIova := 0
  msiPhysical := 0
  aeqIova := 0
  aeqDepth := 0
  aeqProducer := 0
  aeqVector := 0
  ceqs := .singleton 2 { depth := 16, producer := 2, consumer := 1 }
  jfcCeqs := emplaceAll [(7, 2), (8, 2)]
  jfcContexts := emplaceAll [(7, { depth := 8 }), (8, { depth := 4 })]
  jfcQueryContexts := ∅
  jfrContexts := ∅
  jettyContexts := ∅
  tpRoutes := .singleton 1 { id := 1, active := true }
  nextTpId := 2
  nextTpPort := 0
  nextSequence := 1
  nextRmaRequest := 1
  submitted := 0
  completed := 0
  linkUp := [true, false]
  armedJfcs := .singleton 7 1

def quietDevice : State := ⟨⟨0x1000, 2, 0x100⟩, twoJfcs, {}⟩

theorem quietDevice_formed : quietDevice.Formed where
  ummuRegisters := List.length_replicate
  ubiosMessageQueue := List.length_replicate
  ubaseCommandQueue := List.length_replicate
  linkUp := rfl
  queries := by
    intro id record there
    cases there
  wqes := by
    intro map listed id record there
    rcases List.mem_cons.mp listed with rfl | later
    · have contexts : Walks [(7, { depth := 8 }), (8, { depth := 4 })]
          quietDevice.persistent.jfcContexts := walks_emplaceAll (by decide)
      rcases List.mem_cons.mp (contexts.lookup.mp there) with same | last
      · obtain ⟨_, rfl⟩ := Prod.mk.inj same
        exact List.length_replicate
      · obtain ⟨_, rfl⟩ := Prod.mk.inj (List.mem_singleton.mp last)
        exact List.length_replicate
    · have empty : map = ∅ := by
        rcases List.mem_cons.mp later with rfl | last
        · rfl
        · exact List.mem_singleton.mp last
      rw [empty] at there
      cases there

theorem quietDevice_quiescent : quietDevice.isQuiescent = true := by decide +kernel

theorem quietDevice_saved : ∃ bytes, quietDevice.Saves bytes := exists_saves quietDevice_quiescent

/-! ## What is restored -/

variable {saved target : State} {bytes : List UInt8}

/-- Images of the versions 3 and 4 are restored, and no others. -/
theorem image_version_restores (formed : saved.Formed) {rows : Persistent Row}
    (walked : rows.Walked saved.persistent) (version : UInt32)
    (quiet : target.isQuiescent = true) (rest : List UInt8) :
    loadState target ((image saved.config).write (saved.header version, rows.upTo version) ++
        rest) =
      if (version = 3 ∨ version = 4) ∧ saved.config = target.config ∧
          (saved.persistent.upTo version).mapsFit = true then
        some { config := target.config, persistent := saved.persistent.upTo version, runtime := {} }
      else none := by
  have taken :=
    (image target.config).read_write _ (formed.image_formed walked version target.config) rest
  rw [formed.image_fits walked version target.config] at taken
  have same : (image saved.config).write = (image target.config).write := rfl
  unfold loadState
  rw [if_pos quiet, same, taken]
  by_cases accepted : (version = 3 ∨ version = 4) ∧ saved.config = target.config ∧
      (saved.persistent.upTo version).mapsFit = true
  · rw [if_pos accepted, if_pos (by simpa [and_assoc] using accepted), Option.map_some,
      (walked.upTo version).restored_eq]
  · rw [if_neg accepted, if_neg (by simpa [and_assoc] using accepted)]
    rfl

/-- A checkpoint is restored if and only if the device is quiescent and of the same configuration
as the one that made it, and none of its maps is too large; then everything it keeps is as it was,
and nothing is under way. -/
theorem checkpoint_restores (formed : saved.Formed) (written : saved.Saves bytes)
    (rest : List UInt8) :
    loadState target (bytes ++ rest) =
      if target.isQuiescent = true ∧ saved.config = target.config ∧
          saved.persistent.mapsFit = true then
        some { config := saved.config, persistent := saved.persistent, runtime := {} }
      else none := by
  by_cases quiet : target.isQuiescent = true
  · obtain ⟨rows, walked, written⟩ := written
    obtain ⟨_, rfl⟩ := saveState_eq written
    rw [image_version_restores formed walked 4 quiet rest]
    by_cases accepted : saved.config = target.config ∧ saved.persistent.mapsFit = true
    · rw [if_pos ⟨.inr rfl, accepted⟩, if_pos ⟨quiet, accepted⟩, accepted.1]
      rfl
    · rw [if_neg fun all => accepted all.2, if_neg fun all => accepted all.2]
  · rw [if_neg fun all => quiet all.1]
    exact if_neg quiet

theorem checkpoint_restores_quiet :
    ∃ bytes, quietDevice.Saves bytes ∧
      loadState quietDevice (bytes ++ [0]) = some quietDevice := by
  obtain ⟨bytes, written⟩ := quietDevice_saved
  refine ⟨bytes, written, ?_⟩
  rw [checkpoint_restores quietDevice_formed written [0]]
  exact if_pos ⟨quietDevice_quiescent, rfl, by decide +kernel⟩

/-- A checkpoint that was cut short is refused. -/
theorem checkpoint_cut_refused (formed : saved.Formed) {stream more : List UInt8}
    (written : saved.Saves (stream ++ more)) (cut : more ≠ []) :
    loadState target stream = none := by
  obtain ⟨rows, walked, written⟩ := written
  obtain ⟨_, shape⟩ := saveState_eq written
  have refused := (image target.config).read_cut (formed.image_formed walked 4 target.config)
    shape.symm cut
  unfold loadState
  rw [refused]
  exact ite_self _

theorem checkpoint_cut_refused_last :
    ∃ stream last, quietDevice.Saves (stream ++ [last]) ∧
      loadState quietDevice stream = none := by
  obtain ⟨rows, walked⟩ := exists_walked quietDevice.persistent
  have written : saveState quietDevice rows =
      some ((image quietDevice.config).write (quietDevice.header 4, rows)) :=
    if_pos quietDevice_quiescent
  have long : (image quietDevice.config).write (quietDevice.header 4, rows) ≠ [] :=
    List.cons_ne_nil _ _
  rw [← List.dropLast_append_getLast long] at written
  have saves : quietDevice.Saves (_ ++ [_]) := ⟨rows, walked, written⟩
  exact ⟨_, _, saves, checkpoint_cut_refused quietDevice_formed saves (List.cons_ne_nil _ _)⟩

/-- The second device was restored from what the first one saved. -/
def Restores (saved restored : State) : Prop :=
  ∃ target bytes rest, saved.Saves bytes ∧ loadState target (bytes ++ rest) = some restored

/-- What is left of a device in its checkpoint. -/
def State.kept (state : State) : State := { state with runtime := {} }

theorem Restores.eq {restored : State} (formed : saved.Formed)
    (restores : Restores saved restored) :
    saved.isQuiescent = true ∧ restored = saved.kept := by
  obtain ⟨target, bytes, rest, saves, loaded⟩ := restores
  obtain ⟨rows, walked, written⟩ := saves
  obtain ⟨settled, shape⟩ := saveState_eq written
  refine ⟨settled, ?_⟩
  have quiet : target.isQuiescent = true := by
    by_contra busy
    rw [loadState, if_neg busy] at loaded
    cases loaded
  rw [shape, image_version_restores formed walked 4 quiet] at loaded
  obtain ⟨accepted, same⟩ := Option.ite_none_right_eq_some.mp loaded
  rw [← Option.some.inj same, ← accepted.2.1]
  rfl

theorem kept_isQuiescent (settled : saved.isQuiescent = true) :
    saved.kept.isQuiescent = true :=
  Bool.and_eq_true_iff.mpr ⟨rfl, (Bool.and_eq_true_iff.mp settled).2⟩

theorem kept_saves (settled : saved.isQuiescent = true) (bytes : List UInt8) :
    saved.kept.Saves bytes ↔ saved.Saves bytes := by
  apply exists_congr
  intro rows
  apply and_congr_right
  intro _
  rw [saveState, saveState, if_pos settled, if_pos (kept_isQuiescent settled)]
  rfl

/-- Through any number of generations of saving and restoring, whatever the orders in which the
maps are walked, a device stays what it was, and it can write the same images. -/
theorem checkpoint_stable {restored : State} (formed : saved.Formed)
    (generations : Relation.TransGen Restores saved restored) :
    restored = { config := saved.config, persistent := saved.persistent, runtime := {} } ∧
      restored.isQuiescent = true ∧ ∀ bytes, restored.Saves bytes ↔ saved.Saves bytes := by
  have same : saved.isQuiescent = true ∧ restored = saved.kept := by
    induction generations with
    | single restores => exact restores.eq formed
    | tail _ restores inductionHypothesis =>
        obtain ⟨settled, rfl⟩ := inductionHypothesis
        have kept : saved.kept.Formed := ⟨formed.ummuRegisters, formed.ubiosMessageQueue,
          formed.ubaseCommandQueue, formed.linkUp, formed.queries, formed.wqes⟩
        exact ⟨settled, (restores.eq kept).2⟩
  obtain ⟨settled, rfl⟩ := same
  exact ⟨rfl, kept_isQuiescent settled, kept_saves settled⟩

theorem checkpoint_stable_quiet :
    ∃ restored, Relation.TransGen Restores quietDevice restored ∧
      restored = quietDevice ∧ restored.isQuiescent = true ∧
        ∀ bytes, restored.Saves bytes ↔ quietDevice.Saves bytes := by
  obtain ⟨bytes, written⟩ := quietDevice_saved
  have loaded : loadState quietDevice (bytes ++ [0]) = some quietDevice := by
    obtain ⟨rows, walked, written⟩ := written
    rw [(saveState_eq written).2,
      image_version_restores quietDevice_formed walked 4 quietDevice_quiescent]
    exact if_pos ⟨.inr rfl, rfl, by decide +kernel⟩
  have once : Restores quietDevice quietDevice := ⟨quietDevice, bytes, [0], written, loaded⟩
  have twice : Relation.TransGen Restores quietDevice quietDevice := .tail (.single once) once
  exact ⟨quietDevice, twice, checkpoint_stable quietDevice_formed twice⟩

end Udma.Checkpoint
