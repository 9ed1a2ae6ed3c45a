import Mathlib.Data.List.Forall2
import Mathlib.Data.List.TakeWhile
import BaseStation.Config.Shared
import BaseStation.Proofs.Text.ByteOrder
import BaseStation.Proofs.Text.Quotation

namespace BaseStation

open Document

/-- What is trimmed is cut out of the text: all around it is white space, and it neither begins nor ends with any. -/
structure Text.Trims (text trimmed : String) : Prop where
  cut : ∃ front back : List Char, text.toList = front ++ trimmed.toList ++ back ∧
    ∀ c ∈ front ++ back, isBlank c = true
  first : ∀ c ∈ trimmed.toList.head?, isBlank c = false
  last : ∀ c ∈ trimmed.toList.getLast?, isBlank c = false

namespace Text

variable {text trimmed : String} {cs : List Char}

theorem not_blank_head? : ∀ c ∈ (cs.dropWhile isBlank).head?, isBlank c = false := by
  intro c first
  have stops := List.head?_dropWhile_not isBlank cs
  rw [first] at stops
  exact stops

theorem dropWhile_of_head? (first : ∀ c ∈ cs.head?, isBlank c = false) : cs.dropWhile isBlank = cs := by
  cases cs with
  | nil => rfl
  | cons c cs => exact List.dropWhile_cons_of_neg (by simp [first c rfl])

theorem trims_trim (text : String) : Trims text (trim text) := by
  obtain ⟨core, left⟩ : ∃ core, core = text.toList.dropWhile isBlank := ⟨_, rfl⟩
  have out : (trim text).toList = (core.reverse.dropWhile isBlank).reverse := by
    rw [trim, String.toList_ofList, trimChars, left]
  have rest : (trim text).toList ++ (core.reverse.takeWhile isBlank).reverse = core := by
    rw [out, ← List.reverse_append, List.takeWhile_append_dropWhile, List.reverse_reverse]
  refine ⟨⟨text.toList.takeWhile isBlank, (core.reverse.takeWhile isBlank).reverse, ?_, ?_⟩, ?_, ?_⟩
  · rw [List.append_assoc, rest, left, List.takeWhile_append_dropWhile]
  · refine List.forall_mem_append.mpr ⟨fun c mem => List.mem_takeWhile_imp mem, fun c mem => ?_⟩
    exact List.mem_takeWhile_imp (List.mem_reverse.mp mem)
  · intro c first
    have head : c ∈ (text.toList.dropWhile isBlank).head? := by
      rw [← left, ← rest, List.head?_append, Option.mem_def.mp first]
      rfl
    exact not_blank_head? c head
  · intro c last
    rw [out, List.getLast?_reverse] at last
    exact not_blank_head? c last

theorem Trims.eq (trims : Trims text trimmed) : trimmed = trim text := by
  obtain ⟨⟨front, back, whole, blank⟩, first, last⟩ := trims
  obtain ⟨before, behind⟩ := List.forall_mem_append.mp blank
  have core : (trimmed.toList ++ back).dropWhile isBlank =
      if trimmed.toList = [] then [] else trimmed.toList ++ back := by
    split
    · rename_i empty
      rw [empty, List.nil_append, List.dropWhile_eq_nil_iff]
      exact behind
    · rename_i nonempty
      refine dropWhile_of_head? fun c head => first c ?_
      rwa [List.head?_append_of_ne_nil _ nonempty] at head
  have out : trimChars text.toList = trimmed.toList := by
    rw [trimChars, whole, List.append_assoc, List.dropWhile_append_of_pos before, core]
    split
    · rename_i empty
      exact empty.symm
    · rw [List.reverse_append, List.dropWhile_append_of_pos fun c mem => behind c (List.mem_reverse.mp mem)]
      rw [dropWhile_of_head? (by rwa [List.head?_reverse]), List.reverse_reverse]
  rw [trim, out, String.ofList_toList]

end Text

inductive Takes {α : Type} (default : α) : Option α → α → Prop
  | given (value : α) : Takes default (some value) value
  | absent : Takes default none default

section takes

variable {α : Type} {default value value' : α} {given : Option α}

theorem takes_getD (default : α) (given : Option α) : Takes default given (given.getD default) := by
  cases given with
  | none => exact .absent
  | some value => exact .given value

theorem Takes.eq (takes : Takes default given value) (takes' : Takes default given value') : value = value' := by
  cases takes <;> cases takes' <;> rfl

end takes

/-- The parameters are as a table says, and where it says nothing they are the defaults. -/
structure PowerParams.Follows (power : Option PowerSection) (params : PowerParams) : Prop where
  target : Takes (-75) (power.bind (·.target)) params.target
  hysteresis : Takes 3 (power.bind (·.hysteresis)) params.hysteresis
  raiseStep : Takes 4 (power.bind (·.raiseStep)) params.raiseStep
  lowerStep : Takes 8 (power.bind (·.lowerStep)) params.lowerStep
  filter : params.filter = power.bind (·.filter)

structure BtsConfig.Follows (bts : Option BtsSection) (config : BtsConfig) : Prop where
  band : Takes .gsm900 (bts.bind (·.band)) config.band
  numTrx : Takes 1 (bts.bind (·.numTrx)) config.numTrx
  channelsNeedCarrier : Takes true (bts.bind (·.channelsNeedCarrier)) config.channelsNeedCarrier
  dummyLinks : Takes false (bts.bind (·.dummyLinks)) config.dummyLinks

structure AbisConfig.Follows (abis : AbisSection) (config : AbisConfig) : Prop where
  hosts : List.Forall₂ Text.Trims abis.hosts config.hosts
  tcpPort : Takes 3002 abis.tcpPort config.tcpPort
  reconnectDelay : Takes 1 abis.reconnectDelay config.reconnectDelay
  connectTimeout : Takes 10 abis.connectTimeout config.connectTimeout

/-- Every field of the configuration is as the document says, and where it says nothing the default. -/
structure SiteConfig.Follows (document : Document) (config : SiteConfig) : Prop where
  debugLog : config.debugLog = document.debugLog
  backend : Takes .undefined (document.phy.map (·.backend)) config.backend
  bts : config.bts.Follows document.bts
  abis : config.abis.Follows document.abis
  downlink : config.downlink.Follows (document.control.bind (·.downlink))
  uplink : config.uplink.Follows (document.control.bind (·.uplink))
  advanceInterval : Takes 0 (document.advance.bind (·.interval)) config.advanceInterval

theorem PowerParams.follows_patch (power : Option PowerSection) :
    ((power.map PowerParams.default.patch).getD .default).Follows power := by
  cases power with
  | none => exact ⟨.absent, .absent, .absent, .absent, rfl⟩
  | some power =>
    refine ⟨takes_getD _ _, takes_getD _ _, takes_getD _ _, takes_getD _ _, ?_⟩
    show (power.filter <|> none) = power.filter
    cases power.filter <;> rfl

theorem BtsConfig.follows_patch (bts : Option BtsSection) :
    ((bts.map BtsConfig.default.patch).getD .default).Follows bts := by
  cases bts with
  | none => exact ⟨.absent, .absent, .absent, .absent⟩
  | some bts => exact ⟨takes_getD _ _, takes_getD _ _, takes_getD _ _, takes_getD _ _⟩

theorem AbisConfig.follows_ofSection (abis : AbisSection) : (AbisConfig.ofSection abis).Follows abis := by
  refine ⟨List.forall₂_map_right_iff.mpr ?_, takes_getD _ _, takes_getD _ _, takes_getD _ _⟩
  exact List.forall₂_same.mpr fun host _ => Text.trims_trim host

theorem SiteConfig.follows_config (document : Document) : document.config.Follows document where
  debugLog := rfl
  backend := takes_getD _ _
  bts := BtsConfig.follows_patch _
  abis := AbisConfig.follows_ofSection _
  downlink := PowerParams.follows_patch _
  uplink := PowerParams.follows_patch _
  advanceInterval := takes_getD _ _

section unique

variable {document : Document} {power : Option PowerSection} {bts : Option BtsSection} {abis : AbisSection}

theorem PowerParams.Follows.eq {params params' : PowerParams}
    (follows : params.Follows power) (follows' : params'.Follows power) : params = params' := by
  rw [mk.injEq]
  exact ⟨follows.target.eq follows'.target, follows.hysteresis.eq follows'.hysteresis,
    follows.raiseStep.eq follows'.raiseStep, follows.lowerStep.eq follows'.lowerStep,
    follows.filter.trans follows'.filter.symm⟩

theorem BtsConfig.Follows.eq {config config' : BtsConfig}
    (follows : config.Follows bts) (follows' : config'.Follows bts) : config = config' := by
  rw [mk.injEq]
  exact ⟨follows.band.eq follows'.band, follows.numTrx.eq follows'.numTrx,
    follows.channelsNeedCarrier.eq follows'.channelsNeedCarrier, follows.dummyLinks.eq follows'.dummyLinks⟩

theorem AbisConfig.Follows.eq {config config' : AbisConfig}
    (follows : config.Follows abis) (follows' : config'.Follows abis) : config = config' := by
  have hosts : config.hosts = config'.hosts :=
    List.right_unique_forall₂' (fun _ _ _ trims trims' => trims.eq.trans trims'.eq.symm) follows.hosts follows'.hosts
  rw [mk.injEq]
  exact ⟨hosts, follows.tcpPort.eq follows'.tcpPort, follows.reconnectDelay.eq follows'.reconnectDelay,
    follows.connectTimeout.eq follows'.connectTimeout⟩

theorem SiteConfig.Follows.eq {config config' : SiteConfig}
    (follows : config.Follows document) (follows' : config'.Follows document) : config = config' := by
  rw [mk.injEq]
  exact ⟨follows.debugLog.trans follows'.debugLog.symm, follows.backend.eq follows'.backend,
    follows.bts.eq follows'.bts, follows.abis.eq follows'.abis, follows.downlink.eq follows'.downlink,
    follows.uplink.eq follows'.uplink, follows.advanceInterval.eq follows'.advanceInterval⟩

end unique

/-- A document stands for one configuration. -/
theorem SiteConfig.follows_iff {document : Document} {config : SiteConfig} :
    config.Follows document ↔ config = document.config := by
  constructor
  · intro follows
    exact follows.eq (follows_config document)
  · rintro rfl
    exact follows_config document

namespace Document

inductive Level
  | root
  | phy
  | bts
  | abis
  | control
  | downlink
  | uplink
  | advance
  deriving DecidableEq, Repr

namespace Level

def all : List Level := [root, phy, bts, abis, control, downlink, uplink, advance]

def place : Level → String
  | root => "top-level fields: "
  | phy => "fields: phy_io::"
  | bts => "fields in bts: "
  | abis => "fields in abis: "
  | control => "fields in power_ctrl: "
  | downlink => "fields in power_ctrl.dl: "
  | uplink => "fields in power_ctrl.ul: "
  | advance => "fields in ta_ctrl: "

theorem mem_all (level : Level) : level ∈ all := by
  cases level <;> decide

end Level

def unknownIn? (document : Document) : Level → Option (List String)
  | .root => some document.unknown
  | .phy => document.phy.map (·.unknown)
  | .bts => document.bts.map (·.unknown)
  | .abis => some document.abis.unknown
  | .control => document.control.map (·.unknown)
  | .downlink => (document.control.bind (·.downlink)).map (·.unknown)
  | .uplink => (document.control.bind (·.uplink)).map (·.unknown)
  | .advance => document.advance.map (·.unknown)

def unknownIn (document : Document) (level : Level) : List String := (document.unknownIn? level).getD []

/-- The level has an unknown field, and no level before it has. -/
structure FirstUnknown (document : Document) (level : Level) : Prop where
  unknown : document.unknownIn level ≠ []
  first : ∃ before after, Level.all = before ++ level :: after ∧ ∀ earlier ∈ before, document.unknownIn earlier = []

/-- The documents differ at most in the order in which they give unknown fields. -/
structure Rearranges (document document' : Document) : Prop where
  version : document.version = document'.version
  config : document.config = document'.config
  unknown (level : Level) : (document.unknownIn level).Perm (document'.unknownIn level)

def firstUnknown? (document : Document) : Option Level := Level.all.find? (document.unknownIn · ≠ [])

section unknown

variable {document document' : Document} {level : Level}

theorem unknownFields_eq (document : Document) :
    document.unknownFields = Level.all.filterMap fun level => (document.unknownIn? level).map (level.place, ·) := by
  obtain ⟨_, _, phy, bts, _, control, advance, _⟩ := document
  rcases control with _ | ⟨_ | _, _ | _, _⟩ <;> cases phy <;> cases bts <;> cases advance <;> rfl

theorem find?_unknownFields (document : Document) : document.unknownFields.find? (·.2 ≠ []) =
    document.firstUnknown?.map fun level => (level.place, document.unknownIn level) := by
  have any (level : Level) : ((document.unknownIn? level).map (level.place, ·)).any (·.2 ≠ []) =
      decide (document.unknownIn level ≠ []) := by
    rw [unknownIn]
    cases document.unknownIn? level <;> rfl
  rw [unknownFields_eq, List.find?_filterMap, funext any, firstUnknown?]
  cases found : Level.all.find? (document.unknownIn · ≠ []) with
  | none => rfl
  | some level =>
    have unknown : document.unknownIn level ≠ [] := by simpa using List.find?_some found
    cases table : document.unknownIn? level with
    | none => exact absurd (by rw [unknownIn, table]; rfl) unknown
    | some names => simp only [unknownIn, Option.bind_some, Option.map_some, table, Option.getD_some]

theorem firstUnknown?_eq_some : document.firstUnknown? = some level ↔ document.FirstUnknown level := by
  rw [firstUnknown?, List.find?_eq_some_iff_append, decide_eq_true_eq]
  simp only [Bool.not_eq_true', decide_eq_false_iff_not, Decidable.not_not]
  exact ⟨fun ⟨unknown, first⟩ => ⟨unknown, first⟩, fun ⟨unknown, first⟩ => ⟨unknown, first⟩⟩

theorem firstUnknown?_eq_none : document.firstUnknown? = none ↔ ∀ level, document.unknownIn level = [] := by
  rw [firstUnknown?, List.find?_eq_none]
  simp only [decide_eq_true_eq, Decidable.not_not]
  exact ⟨fun known level => known level level.mem_all, fun known level _ => known level⟩

theorem toConfig_eq (document : Document) : document.toConfig =
    if document.version ≠ expectedVersion then .error (.version document.version) else
    match document.firstUnknown? with
    | some level => .error (.unknownFields level.place (document.unknownIn level))
    | none =>
      match document.config.validate with
      | .ok () => .ok document.config
      | .error reason => .error (.invalid reason) := by
  rw [toConfig, find?_unknownFields]
  split
  · rfl
  · cases document.firstUnknown? with
    | some level => rfl
    | none => cases document.config.validate <;> rfl

theorem toConfig_eq_ok {config : SiteConfig} : document.toConfig = .ok config ↔ document.version = expectedVersion ∧
    (∀ level, document.unknownIn level = []) ∧ document.config.validate = .ok () ∧ config = document.config := by
  rw [toConfig_eq, ← firstUnknown?_eq_none]
  split
  · simp_all
  · cases document.firstUnknown? with
    | some level => simp
    | none => cases document.config.validate <;> simp_all [eq_comm]

theorem toConfig_eq_unknown {place : String} {names : List String} :
    document.toConfig = .error (.unknownFields place names) ↔ document.version = expectedVersion ∧
      ∃ level, document.FirstUnknown level ∧ place = level.place ∧ names = document.unknownIn level := by
  simp only [toConfig_eq, ← firstUnknown?_eq_some]
  split
  · simp_all
  · cases document.firstUnknown? with
    | some level => simp_all [eq_comm]
    | none => cases document.config.validate <;> simp

theorem message_unknownFields (place : String) (names : List String) :
    ∃ sorted : List String, sorted.Perm names ∧ (sorted.Pairwise fun a b => Text.octets a ≤ Text.octets b) ∧
      (Refusal.unknownFields place names).message = "Unrecognized " ++ place ++ Text.quoteList sorted ∧
      Text.InOrder (sorted.map Text.quote) (Text.quoteList sorted) :=
  ⟨_, List.mergeSort_perm _ _, Text.mergeSort_pairwise names, rfl, Text.inOrder_quoteList _⟩

theorem message_of_perm (place : String) {names names' : List String} (perm : names.Perm names') :
    (Refusal.unknownFields place names).message = (Refusal.unknownFields place names').message :=
  congrArg (fun sorted => "Unrecognized " ++ place ++ Text.quoteList sorted) (Text.mergeSort_eq_of_perm perm)

theorem message_eq_iff (place : String) (names names' : List String) :
    (Refusal.unknownFields place names).message = (Refusal.unknownFields place names').message ↔
      names.Perm names' := by
  constructor
  · intro same
    have listed : Text.quoteList (names.mergeSort fun a b => !decide (b < a)) =
        Text.quoteList (names'.mergeSort fun a b => !decide (b < a)) := (String.append_right_inj _).mp same
    have perm := List.mergeSort_perm names fun a b => !decide (b < a)
    rw [Text.quoteList_inj.mp listed] at perm
    exact perm.symm.trans (List.mergeSort_perm names' _)
  · exact message_of_perm place

theorem Rearranges.message_toConfig (rearranges : document.Rearranges document') :
    document.toConfig.mapError Refusal.message = document'.toConfig.mapError Refusal.message := by
  have alike (level : Level) : document.unknownIn level ≠ [] ↔ document'.unknownIn level ≠ [] := by
    rw [ne_eq, ne_eq, ← List.length_eq_zero_iff, ← List.length_eq_zero_iff, (rearranges.unknown level).length_eq]
  have first : document.firstUnknown? = document'.firstUnknown? := by
    simp only [firstUnknown?, alike]
  rw [toConfig_eq, toConfig_eq, rearranges.version, rearranges.config, first]
  split
  · rfl
  · cases document'.firstUnknown? with
    | some level => exact congrArg Except.error (message_of_perm level.place (rearranges.unknown level))
    | none => rfl

end unknown

end Document

namespace SharedConfig

variable {document : Document} {config : SiteConfig}

theorem ofConfig_eq_ok (holds : config.validate = .ok ()) : ofConfig config = .ok ⟨config, .initial⟩ := by
  rw [ofConfig, ofParts, SiteConfig.require, holds]
  rfl

/-- A configuration that is loaded holds; that it is checked again where it comes to be shared is no fault. -/
theorem ofDocument_eq (document : Document) :
    ofDocument document = .ok (document.toConfig.map fun config => ⟨config, .initial⟩) := by
  rw [ofDocument]
  cases result : document.toConfig with
  | error refusal => rfl
  | ok config =>
    obtain ⟨_, _, holds, rfl⟩ := toConfig_eq_ok.mp result
    simp only [ofConfig_eq_ok holds]
    rfl

theorem ofDocument_eq_ok {shared : SharedConfig} : ofDocument document = .ok (.ok shared) ↔
    document.version = "0.1" ∧ (∀ level, document.unknownIn level = []) ∧ document.config.validate = .ok () ∧
      shared = ⟨document.config, false, false, false⟩ := by
  rw [ofDocument_eq, ← expectedVersion]
  constructor
  · intro loaded
    cases made : document.toConfig with
    | error refusal =>
      rw [made] at loaded
      cases loaded
    | ok config =>
      rw [made] at loaded
      cases loaded
      obtain ⟨version, known, holds, rfl⟩ := toConfig_eq_ok.mp made
      exact ⟨version, known, holds, rfl⟩
  · rintro ⟨version, known, holds, rfl⟩
    rw [toConfig_eq_ok.mpr ⟨version, known, holds, rfl⟩]
    rfl

theorem ofDocument_eq_unknown {place : String} {names : List String} :
    ofDocument document = .ok (.error (.unknownFields place names)) ↔ document.version = "0.1" ∧
      ∃ level, document.FirstUnknown level ∧ place = level.place ∧ names = document.unknownIn level := by
  rw [ofDocument_eq, ← expectedVersion, ← toConfig_eq_unknown]
  cases document.toConfig <;> simp [Except.map]

theorem ofDocument_rearranged {document' : Document} (rearranges : document.Rearranges document') :
    (ofDocument document').map (·.mapError Refusal.message) =
      (ofDocument document).map (·.mapError Refusal.message) := by
  have swap (made : Except Refusal SiteConfig) :
      (made.map fun config => SharedConfig.mk config .initial).mapError Refusal.message =
        (made.mapError Refusal.message).map fun config => ⟨config, .initial⟩ := by
    cases made <;> rfl
  rw [ofDocument_eq, ofDocument_eq]
  refine congrArg Except.ok ((swap _).trans ?_)
  rw [← rearranges.message_toConfig]
  exact (swap _).symm

/-- What comes of a document that stands for the configuration. -/
structure Loads (document : Document) (config : SiteConfig) (loaded : Except Refusal SharedConfig) : Prop where
  ofDocument : ofDocument document = .ok loaded
  ok_iff (shared : SharedConfig) : loaded = .ok shared ↔ document.version = "0.1" ∧
    (∀ level, document.unknownIn level = []) ∧ config.validate = .ok () ∧ shared = ⟨config, false, false, false⟩
  unknownFields_iff (place : String) (names : List String) : loaded = .error (.unknownFields place names) ↔
    document.version = "0.1" ∧
      ∃ level, document.FirstUnknown level ∧ place = level.place ∧ names = document.unknownIn level
  /-- All unknown fields of a level are listed, in the order of their octets. -/
  message (place : String) (names : List String) : ∃ sorted : List String, sorted.Perm names ∧
    (sorted.Pairwise fun a b => Text.octets a ≤ Text.octets b) ∧
    (Refusal.unknownFields place names).message = "Unrecognized " ++ place ++ Text.quoteList sorted ∧
    Text.InOrder (sorted.map Text.quote) (Text.quoteList sorted)
  /-- Fields other than those would not have been listed so. -/
  message_iff (place : String) (names names' : List String) :
    (Refusal.unknownFields place names).message = (Refusal.unknownFields place names').message ↔
      names.Perm names'
  verbatim (name : String) (plain : ∀ c ∈ name.toList, Text.IsPlain c) : Text.quote name = "\"" ++ name ++ "\""
  /-- In whatever order a document gives its unknown fields, the same is said of them. -/
  rearranged (document' : Document) (rearranges : document.Rearranges document') :
    (SharedConfig.ofDocument document').map (·.mapError Refusal.message) = .ok (loaded.mapError Refusal.message)

/-- Every document stands for one configuration, and it is loaded as that one or refused, never with a fault. -/
theorem ofDocument_loads (document : Document) : ∃ config loaded,
    (∀ config' : SiteConfig, config'.Follows document ↔ config' = config) ∧ Loads document config loaded := by
  obtain ⟨loaded, made⟩ : ∃ loaded, ofDocument document = .ok loaded := ⟨_, ofDocument_eq document⟩
  refine ⟨document.config, loaded, fun _ => SiteConfig.follows_iff, made, fun shared => ?_, fun place names => ?_,
    message_unknownFields, message_eq_iff, fun _ => Text.quote_of_isPlain, fun document' rearranges => ?_⟩
  · rw [← ofDocument_eq_ok, made, Except.ok.injEq]
  · rw [← ofDocument_eq_unknown, made, Except.ok.injEq]
  · rw [ofDocument_rearranged rearranges, made]
    rfl

theorem ofDocument_loads_downlink :
    (∃ shared, ofDocument ⟨"0.1", none, some ⟨.virtual, []⟩, none, ⟨[" 192.168.0.11 "], none, none, none, []⟩,
        some ⟨some ⟨some (-80), none, none, none, some 50, []⟩, none, []⟩, none, []⟩ = .ok (.ok shared) ∧
      shared.config.abis.hosts = ["192.168.0.11"] ∧ shared.config.downlink.target = -80 ∧
      shared.config.uplink = .default) ∧
    ∃ refusal, ofDocument ⟨"0.1", none, none, some ⟨none, none, none, none, ["trxs", "arfcn"]⟩,
        ⟨["bsc"], none, none, none, []⟩, none, none, []⟩ = .ok (.error refusal) ∧
      refusal.message = "Unrecognized fields in bts: [\"arfcn\", \"trxs\"]" := by
  constructor
  · obtain ⟨config, loaded, stands, loads⟩ := ofDocument_loads ⟨"0.1", none, some ⟨.virtual, []⟩, none,
      ⟨[" 192.168.0.11 "], none, none, none, []⟩, some ⟨some ⟨some (-80), none, none, none, some 50, []⟩, none, []⟩,
      none, []⟩
    obtain rfl := (stands _).mp (SiteConfig.follows_config _)
    refine ⟨_, loads.ofDocument.trans (congrArg _ ((loads.ok_iff _).mpr ⟨rfl, ?_, ?_, rfl⟩)), ?_, rfl, rfl⟩
    · intro level
      cases level <;> rfl
    · decide
    · decide
  · obtain ⟨config, loaded, _, loads⟩ := ofDocument_loads ⟨"0.1", none, none,
      some ⟨none, none, none, none, ["trxs", "arfcn"]⟩, ⟨["bsc"], none, none, none, []⟩, none, none, []⟩
    have refused := (loads.unknownFields_iff "fields in bts: " ["trxs", "arfcn"]).mpr ⟨rfl, .bts, ?_, rfl, rfl⟩
    · refine ⟨_, loads.ofDocument.trans (congrArg _ refused), ?_⟩
      rw [(loads.message_iff "fields in bts: " ["trxs", "arfcn"] ["arfcn", "trxs"]).mpr (.swap _ _ _)]
      have sorted : ["arfcn", "trxs"].mergeSort (fun a b => !decide (b < a)) = ["arfcn", "trxs"] :=
        List.mergeSort_of_pairwise (by decide)
      show "Unrecognized " ++ "fields in bts: " ++ Text.quoteList (["arfcn", "trxs"].mergeSort _) = _
      rw [sorted]
      decide +kernel
    · exact ⟨by rintro ⟨⟩, [.root, .phy], _, rfl, by decide⟩

end SharedConfig

end BaseStation
