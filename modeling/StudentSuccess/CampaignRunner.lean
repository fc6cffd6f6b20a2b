import StudentSuccess.CampaignCertification
import StudentSuccess.Models

namespace StudentSuccess
namespace ShadowCampaign
set_option autoImplicit true

/-- The values of `uuid4`, in the order in which they are drawn, of which no two are the same. -/
structure Uuids where
  uuid : Nat → Uuid
  distinct : Function.Injective uuid

/-- Code that draws ids; the state counts those drawn. -/
abbrev Drawing (α : Type) := StateM Nat α

def newId (u : Uuids) : Drawing String := fun n => ((u.uuid n).val, n + 1)

/-- `_new_id()[:8]`. -/
def shortId (u : Uuids) : Drawing String := do
  let id ← newId u
  return (id.take 8).toString

/-- A record with the fields that no certifier reads. -/
structure Produced extends CampaignRecord where
  recordId : String
  cycleId : String
  executionMode : String
  orchestrationCycleId : String
  originSource : String
  originAuthority : String
  actorIdentity : String
  reasonCodes : List String
  sourceArtifactId : Option String
  mutationProhibited : Bool
  contentHash : Option String
  degradationCause : Option String
  degradationClass : Option String
  degradationSeverity : Option String
  schedulerProcessed : Bool
  workerProcessed : Bool
  prioritizationComplete : Bool
  transportGenerated : Bool
  observabilityEmitted : Bool
  providerAssessmentProduced : Bool

structure RecordArgs where
  cycleId : String
  mode : String := "SHADOW"
  execType : String := "original"
  configMissing : Bool := false
  maintenance : Bool := false
  duplicate : Bool := false
  isFinalized : Bool := false
  sourceArtifactId : Option String := none
  historicalConfigVersionId : Option String := none
  degraded : Bool := false
  degradationCause : Option String := none
  degradationClass : Option String := none
  degradationSeverity : Option String := none

def suppressedScopes : List String :=
  ["SHADOW_ONLY", "REPLAY_ONLY", "UNAVAILABLE", "MAINTENANCE", "BLOCKED", "DUPLICATE_SUPPRESSED"]

/-- `_derive_scope`, which does not look at the mode. -/
def deriveScope (args : RecordArgs) : String :=
  if args.configMissing then "UNAVAILABLE"
  else if args.execType ∈ replayTypes then "REPLAY_ONLY"
  else if args.maintenance then "MAINTENANCE"
  else if args.duplicate then "DUPLICATE_SUPPRESSED"
  else "SHADOW_ONLY"

def reasonCodes (mode scope : String) : List String :=
  if scope = "UNAVAILABLE" then ["CONFIG_VERSION_UNRESOLVED"]
  else if scope = "REPLAY_ONLY" then ["REPLAY_EXECUTION_SUPPRESSED"]
  else if scope = "MAINTENANCE" then ["MAINTENANCE_SCOPE_ACTIVE"]
  else if scope = "DUPLICATE_SUPPRESSED" then ["DUPLICATE_SUPPRESSED"]
  else "SHADOW_ONLY_SCOPE_ACTIVE" ::
    if mode = "LIVE" then ["LIVE_SCOPE_REQUIRES_PHASE12_CERT"] else []

def rulePathOf (execType scope : String) : List String :=
  "RULE_0" :: ((if scope ≠ "UNAVAILABLE" then ["RULE_1", "RULE_2"] else []) ++
    if execType ∈ replayTypes then ["RULE_3"] else [])

def histCfg (u : Uuids) (args : RecordArgs) : Drawing (Option String) :=
  match args.historicalConfigVersionId with
  | some id => pure (some id)
  | none =>
    if args.execType ∈ replayTypes then do
      let id ← shortId u
      return some ("hist-cfg-v1-" ++ id)
    else pure none

def srcArt (u : Uuids) (args : RecordArgs) : Drawing (Option String) :=
  if Py.truthyText args.sourceArtifactId then pure args.sourceArtifactId
  else if args.execType ∈ replayTypes then do
    let id ← shortId u
    return some ("src-" ++ id)
  else pure none

def campaignRecord (args : RecordArgs) (histCfg srcArt : Option String)
    (recordId correlationId causationId : String) : Produced :=
  let scope := deriveScope args
  let configVer := if args.configMissing then "UNKNOWN_V0" else "cfg-v2-001"
  { recordId := recordId
    cycleId := args.cycleId
    executionMode := args.mode
    executionType := args.execType
    governanceScope := scope
    correlationId := correlationId
    causationId := causationId
    configVersionId := configVer
    orchestrationCycleId := args.cycleId
    originSource := "shadow_campaign"
    originAuthority := "campaign_runner"
    actorIdentity := "shadow_campaign_agent"
    rulePath := rulePathOf args.execType scope
    reasonCodes := reasonCodes args.mode scope
    outboundSuppressed := scope ∈ suppressedScopes
    liveEffectsProduced := 0
    providerDispatchCount := 0
    isReplay := args.execType ∈ replayTypes
    sourceArtifactId := srcArt
    historicalConfigVersionId := histCfg
    isFinalized := args.isFinalized
    isMutable := !args.isFinalized
    mutationProhibited := args.isFinalized
    contentHash := if args.isFinalized then some ("hash-" ++ scope ++ "-" ++ configVer) else none
    isDuplicate := args.duplicate
    degraded := args.degraded
    degradationCause := args.degradationCause
    degradationClass := args.degradationClass
    degradationSeverity := args.degradationSeverity
    schedulerProcessed := true
    workerProcessed := true
    prioritizationComplete := true
    transportGenerated := true
    observabilityEmitted := true
    providerAssessmentProduced := true }

def makeCampaignRecord (u : Uuids) (args : RecordArgs) : Drawing Produced := do
  let histCfg ← histCfg u args
  let srcArt ← srcArt u args
  let recordId ← newId u
  let correlationId ← newId u
  let causationId ← newId u
  return campaignRecord args histCfg srcArt recordId correlationId causationId

def times (n : Nat) (make : Drawing Produced) : Drawing (List Produced) :=
  match n with
  | 0 => pure []
  | n + 1 => do
    let r ← make
    let rest ← times n make
    return r :: rest

structure CampaignCycleResult where
  cycleId : String
  recordsProduced : Nat
  suppressedCount : Nat
  liveEffectsProduced : Int
  providerDispatchCount : Int
  attributionComplete : Bool
  governanceScope : String
  rulePathSummary : String
  degraded : Bool
  degradationCause : Option String

def cycleResult (cid : String) (configMissing : Bool) (records : List Produced) :
    CampaignCycleResult where
  cycleId := cid
  recordsProduced := records.length
  suppressedCount := records.countP (·.outboundSuppressed)
  liveEffectsProduced := (records.map (·.liveEffectsProduced)).sum
  providerDispatchCount := (records.map (·.providerDispatchCount)).sum
  attributionComplete := records.all fun r => r.correlationId ≠ "" ∧ r.causationId ≠ ""
  governanceScope := (records.head?.map (·.governanceScope)).getD "UNKNOWN"
  rulePathSummary := (records.head?.bind (·.rulePath.head?)).getD "UNKNOWN"
  degraded := configMissing
  degradationCause := if configMissing then some "CONFIG_V2_UNAVAILABLE" else none

def makeReplay (u : Uuids) (cid mode : String) : Drawing Produced := do
  let hist ← shortId u
  let src ← shortId u
  makeCampaignRecord u
    { cycleId := cid
      mode := mode
      execType := "replay"
      historicalConfigVersionId := some ("hist-cfg-" ++ hist)
      sourceArtifactId := some ("src-" ++ src) }

/-- `id or _new_id()`. -/
def givenId (u : Uuids) (id : Option String) : Drawing String :=
  match id with
  | some id => if id = "" then newId u else pure id
  | none => newId u

structure CycleArgs where
  cycleId : Option String := none
  mode : String := "SHADOW"
  count : Int := 10
  includeReplay : Bool := false
  includeFinalized : Bool := false
  configMissing : Bool := false

def runCampaignCycle (u : Uuids) (args : CycleArgs) :
    Drawing (CampaignCycleResult × List Produced) := do
  let cid ← givenId u args.cycleId
  let originals ← times args.count.toNat
    (makeCampaignRecord u
      { cycleId := cid, mode := args.mode, configMissing := args.configMissing })
  let replays ← times (if args.includeReplay then (max 1 (args.count / 10)).toNat else 0)
    (makeReplay u cid args.mode)
  let finalized ← times (if args.includeFinalized then 1 else 0)
    (makeCampaignRecord u { cycleId := cid, mode := args.mode, isFinalized := true })
  let records := originals ++ replays ++ finalized
  return (cycleResult cid args.configMissing records, records)

/-- The cycles of `run_full_campaign` from the `i`-th on. -/
def runCycles (u : Uuids) (mode : String) (countPerCycle : Int) :
    Nat → Nat → Drawing (List Produced)
  | _, 0 => pure []
  | i, n + 1 => do
    let suffix ← shortId u
    let (_, records) ← runCampaignCycle u
      { cycleId := some ("cycle-" ++ toString (i + 1) ++ "-" ++ suffix)
        mode := mode
        count := countPerCycle
        includeReplay := i % 3 = 0 }
    let rest ← runCycles u mode countPerCycle (i + 1) n
    return records ++ rest

def metricsOf (campaignId : String) (records : List Produced) : CampaignMetrics :=
  computeMetrics campaignId (records.map (·.toCampaignRecord))

def runFullCampaign (u : Uuids) (campaignId : Option String) (cycles : Int) (mode : String)
    (countPerCycle : Int) : Drawing (CampaignMetrics × List Produced) := do
  let cid ← givenId u campaignId
  let allRecords ← runCycles u mode countPerCycle 0 cycles.toNat
  return (metricsOf cid allRecords, allRecords)

def runLoadCampaign (u : Uuids) (campaignId : Option String) (volume : Int) (mode : String) :
    Drawing (CampaignMetrics × List Produced) := do
  let cid ← givenId u campaignId
  let suffix ← shortId u
  let cycleId := "load-cycle-" ++ suffix
  let replayCount := max 1 (volume / 10)
  let originals ← times (volume - replayCount).toNat
    (makeCampaignRecord u { cycleId := cycleId, mode := mode })
  let replays ← times replayCount.toNat (makeReplay u cycleId mode)
  let records := originals ++ replays
  return (metricsOf cid records, records)

def drawn (x : Drawing α) (n : Nat) : α × Nat := x n

theorem drawn_bind (x : Drawing α) (f : α → Drawing β) (n : Nat) :
    drawn (x >>= f) n = drawn (f (drawn x n).1) (drawn x n).2 := rfl

theorem drawn_pure (a : α) (n : Nat) : drawn (pure a) n = (a, n) := rfl

/-- A record as every run of the campaign is to produce it. -/
structure Sound (r : Produced) : Prop where
  clean : CleanRecord r.toCampaignRecord
  attributed : Attributed r.toCampaignRecord
  certifiable : Certifiable r.toCampaignRecord
  effects : r.liveEffectsProduced = 0
  dispatches : r.providerDispatchCount = 0
  suppressed : r.outboundSuppressed = true
  undegraded : r.degraded = false

/-- Sound records, so many with so many replays among them, whose ids were drawn in this order from
the `n`-th to before the `n'`-th. -/
structure Batch (u : Uuids) (size replayed n n' : Nat) (records : List Produced) : Prop where
  sound : ∀ r ∈ records, Sound r
  length_eq : records.length = size
  replays_eq : records.countP (·.isReplay) = replayed
  ids : ∃ ks : List Nat, ks.Pairwise (· < ·) ∧ (∀ k ∈ ks, n ≤ k ∧ k < n') ∧
    records.map (·.recordId) = ks.map fun k => (u.uuid k).val
  le : n ≤ n'

section
variable {u : Uuids} {args : RecordArgs}

theorem Batch.nil (h : n ≤ n') : Batch u 0 0 n n' [] :=
  ⟨fun _ hr => absurd hr List.not_mem_nil, rfl, rfl,
    ⟨[], .nil, fun _ hk => absurd hk List.not_mem_nil,
    rfl⟩, h⟩

theorem Batch.widen (h : Batch u size replayed n n' records) (hle : m ≤ n) (hle' : n' ≤ m') :
    Batch u size replayed m m' records := by
  obtain ⟨ks, hsorted, hks, hids⟩ := h.ids
  refine ⟨h.sound, h.length_eq, h.replays_eq, ⟨ks, hsorted, fun k hk => ?_, hids⟩,
    hle.trans (h.le.trans hle')⟩
  have hbounds := hks k hk
  omega

theorem Batch.append (h : Batch u size replayed n n' records)
    (h' : Batch u size' replayed' n' n'' records') :
    Batch u (size + size') (replayed + replayed') n n'' (records ++ records') := by
  obtain ⟨ks, hsorted, hks, hids⟩ := h.ids
  obtain ⟨ks', hsorted', hks', hids'⟩ := h'.ids
  refine ⟨?_, ?_, ?_, ⟨ks ++ ks', ?_, ?_, ?_⟩, h.le.trans h'.le⟩
  · intro r hr
    exact (List.mem_append.1 hr).elim (h.sound r) (h'.sound r)
  · rw [List.length_append, h.length_eq, h'.length_eq]
  · rw [List.countP_append, h.replays_eq, h'.replays_eq]
  · rw [List.pairwise_append]
    refine ⟨hsorted, hsorted', fun k hk k' hk' => ?_⟩
    have hbound := hks k hk
    have hbound' := hks' k' hk'
    omega
  · intro k hk
    have hle := h.le
    have hle' := h'.le
    rcases List.mem_append.1 hk with hk | hk
    · have hbound := hks k hk
      omega
    · have hbound := hks' k hk
      omega
  · rw [List.map_append, hids, hids', List.map_append]

theorem Batch.nodup (h : Batch u size replayed n n' records) :
    (records.map (·.recordId)).Nodup := by
  obtain ⟨ks, hsorted, -, hids⟩ := h.ids
  rw [hids]
  refine List.Nodup.map ?_ (hsorted.imp fun hlt => Nat.ne_of_lt hlt)
  intro k k' heq
  exact u.distinct (Subtype.ext heq)

def MakesOne (u : Uuids) (make : Drawing Produced) (replayed : Nat) : Prop :=
  ∀ n, Batch u 1 replayed n (drawn make n).2 [(drawn make n).1]

theorem times_batch {make : Drawing Produced} (h : MakesOne u make replayed) (k n : Nat) :
    Batch u k (k * replayed) n (drawn (times k make) n).2 (drawn (times k make) n).1 := by
  induction k generalizing n with
  | zero =>
    rw [Nat.zero_mul]
    exact .nil le_rfl
  | succ k ih =>
    have hall := (h n).append (ih (drawn make n).2)
    rw [Nat.add_comm 1 k, Nat.add_comm replayed, ← Nat.succ_mul] at hall
    exact hall

theorem deriveScope_cases (args : RecordArgs) : deriveScope args ∈ suppressedScopes := by
  rw [deriveScope]
  split_ifs <;> decide

theorem truthy_append {p : String} (hp : p ≠ "") (s : String) :
    Py.truthyText (some (p ++ s)) = true := by
  simp [Py.truthyText, hp]

theorem histCfg_le (u : Uuids) (args : RecordArgs) (n : Nat) :
    n ≤ (drawn (histCfg u args) n).2 := by
  rw [histCfg]
  split
  · exact le_rfl
  · split_ifs
    · exact Nat.le_succ n
    · exact le_rfl

theorem srcArt_le (u : Uuids) (args : RecordArgs) (n : Nat) : n ≤ (drawn (srcArt u args) n).2 := by
  rw [srcArt]
  split_ifs
  · exact le_rfl
  · exact Nat.le_succ n
  · exact le_rfl

theorem histCfg_truthy (hreplay : args.execType ∈ replayTypes)
    (hgiven : args.historicalConfigVersionId ≠ some "") (n : Nat) :
    Py.truthyText (drawn (histCfg u args) n).1 = true := by
  rw [histCfg]
  split
  · next id hid =>
    rw [hid] at hgiven
    simpa [drawn_pure, Py.truthyText] using hgiven
  · rw [if_pos hreplay]
    exact truthy_append (by decide) _

theorem campaignRecord_sound (hlineage : args.execType ∈ replayTypes → Py.truthyText hist = true)
    (hrecord : correlationId ≠ "" ∧ causationId ≠ "") (hundegraded : args.degraded = false) :
    Sound (campaignRecord args hist src recordId correlationId causationId) where
  clean := by
    have hscope := deriveScope_cases args
    refine ⟨?_, ?_, ?_, ?_, ?_⟩
    · simp [CampaignRecord.invFlags, campaignRecord]
    · simp [CampaignRecord.fadFlags, campaignRecord]
    · simp [campaignRecord]
    · simp [Leaks, campaignRecord]
    · intro h
      rw [show deriveScope args = "AUTHORIZED" from h] at hscope
      exact absurd hscope (by decide)
  attributed := hrecord
  certifiable := by
    have hscope := deriveScope_cases args
    refine ⟨rfl, ?_, ?_, fun _ => le_rfl, fun _ => le_rfl⟩
    · rintro (hflag | htype)
      · exact hlineage (of_decide_eq_true hflag)
      · exact hlineage htype
    · intro h
      rw [show deriveScope args = "" from h] at hscope
      exact absurd hscope (by decide)
  effects := rfl
  dispatches := rfl
  suppressed := decide_eq_true (deriveScope_cases args)
  undegraded := hundegraded

theorem makeCampaignRecord_makesOne (hgiven : args.historicalConfigVersionId ≠ some "")
    (hundegraded : args.degraded = false) :
    MakesOne u (makeCampaignRecord u args) (if args.execType ∈ replayTypes then 1 else 0) := by
  intro n
  let n₁ := (drawn (histCfg u args) n).2
  let k := (drawn (srcArt u args) n₁).2
  have hk : n ≤ k := (histCfg_le u args n).trans (srcArt_le u args n₁)
  have hmade : drawn (makeCampaignRecord u args) n =
      (campaignRecord args (drawn (histCfg u args) n).1 (drawn (srcArt u args) n₁).1
        (u.uuid k).val (u.uuid (k + 1)).val (u.uuid (k + 2)).val, k + 3) := rfl
  rw [hmade]
  refine ⟨?_, rfl, ?_, ⟨[k], List.pairwise_singleton _ _, ?_, rfl⟩, by omega⟩
  · intro r hr
    rw [List.mem_singleton] at hr
    subst hr
    exact campaignRecord_sound (fun hreplay => histCfg_truthy hreplay hgiven n)
      ⟨(u.uuid (k + 1)).property, (u.uuid (k + 2)).property⟩ hundegraded
  · rw [List.countP_singleton]
    simp only [campaignRecord, decide_eq_true_eq]
  · intro k' hk'
    rw [List.mem_singleton] at hk'
    subst hk'
    dsimp only
    omega

theorem makeOriginal_makesOne (h : args.execType = "original")
    (hgiven : args.historicalConfigVersionId = none) (hundegraded : args.degraded = false) :
    MakesOne u (makeCampaignRecord u args) 0 := by
  have hone : MakesOne u (makeCampaignRecord u args)
      (if args.execType ∈ replayTypes then 1 else 0) :=
    makeCampaignRecord_makesOne (by simp [hgiven]) hundegraded
  rwa [h, if_neg (by decide)] at hone

theorem makeReplay_makesOne (u : Uuids) (cid mode : String) :
    MakesOne u (makeReplay u cid mode) 1 := by
  intro n
  let args : RecordArgs :=
    { cycleId := cid
      mode := mode
      execType := "replay"
      historicalConfigVersionId := some ("hist-cfg-" ++ (drawn (shortId u) n).1)
      sourceArtifactId := some ("src-" ++ (drawn (shortId u) (n + 1)).1) }
  have hgiven : args.historicalConfigVersionId ≠ some "" := by simp [args]
  have hone := makeCampaignRecord_makesOne (u := u) hgiven rfl (n + 2)
  exact hone.widen (Nat.le_add_right n 2) le_rfl

theorem givenId_le (u : Uuids) (id : Option String) (n : Nat) : n ≤ (drawn (givenId u id) n).2 := by
  cases id with
  | none => exact Nat.le_succ n
  | some id =>
    rw [givenId]
    split_ifs
    · exact Nat.le_succ n
    · exact le_rfl

def CycleArgs.replays (args : CycleArgs) : Nat :=
  if args.includeReplay then (max 1 (args.count / 10)).toNat else 0

def CycleArgs.size (args : CycleArgs) : Nat :=
  args.count.toNat + args.replays + if args.includeFinalized then 1 else 0

theorem runCampaignCycle_batch (u : Uuids) (args : CycleArgs) (n : Nat) :
    Batch u args.size args.replays n (drawn (runCampaignCycle u args) n).2
      (drawn (runCampaignCycle u args) n).1.2 := by
  let cid := (drawn (givenId u args.cycleId) n).1
  have horiginal : MakesOne u (makeCampaignRecord u
      { cycleId := cid, mode := args.mode, configMissing := args.configMissing }) 0 :=
    makeOriginal_makesOne rfl rfl rfl
  have horiginals := times_batch horiginal args.count.toNat (drawn (givenId u args.cycleId) n).2
  have hreplays := (times_batch (makeReplay_makesOne u cid args.mode) args.replays)
  have hlast : MakesOne u (makeCampaignRecord u
      { cycleId := cid, mode := args.mode, isFinalized := true }) 0 :=
    makeOriginal_makesOne rfl rfl rfl
  have hfinalized := times_batch hlast (if args.includeFinalized then 1 else 0)
  have hall := ((horiginals.append (hreplays _)).append (hfinalized _)).widen
    (givenId_le u args.cycleId n) le_rfl
  rw [Nat.mul_zero, Nat.mul_zero, Nat.mul_one, Nat.zero_add, Nat.add_zero] at hall
  exact hall

theorem runCycles_batch (u : Uuids) (mode : String) (count : Int) (i k n : Nat) :
    Batch u (k * count.toNat + ((i + k + 2) / 3 - (i + 2) / 3) * (max 1 (count / 10)).toNat)
      (((i + k + 2) / 3 - (i + 2) / 3) * (max 1 (count / 10)).toNat) n
      (drawn (runCycles u mode count i k) n).2 (drawn (runCycles u mode count i k) n).1 := by
  induction k generalizing i n with
  | zero =>
    rw [Nat.add_zero, Nat.sub_self, Nat.zero_mul, Nat.zero_mul]
    exact .nil le_rfl
  | succ k ih =>
    let suffix := (drawn (shortId u) n).1
    let args : CycleArgs :=
      { cycleId := some ("cycle-" ++ toString (i + 1) ++ "-" ++ suffix)
        mode := mode
        count := count
        includeReplay := i % 3 = 0 }
    have hcycle := runCampaignCycle_batch u args (n + 1)
    have hall := (hcycle.append (ih (i + 1) _)).widen (Nat.le_succ n) le_rfl
    have hthird : (i + (k + 1) + 2) / 3 - (i + 2) / 3 =
        (if i % 3 = 0 then 1 else 0) + ((i + 1 + k + 2) / 3 - (i + 1 + 2) / 3) := by
      split_ifs <;> omega
    have hreplays : args.replays = (if i % 3 = 0 then 1 else 0) * (max 1 (count / 10)).toNat := by
      rw [CycleArgs.replays]
      by_cases hi : i % 3 = 0 <;> simp [args, hi]
    have hsize : args.size = count.toNat + args.replays := rfl
    rw [hsize, hreplays] at hall
    have htotal : ∀ a b c d : Nat, (a + c) + (b + d) = b + a + (c + d) := by
      intro a b c d
      omega
    rw [htotal] at hall
    rw [hthird, Nat.succ_mul, Nat.add_mul]
    exact hall

/-- What a campaign says of its records, and how it is certified. -/
structure Certified (stamp : Stamp) (campaignId : String) (durationSeconds : Rat)
    (metrics : CampaignMetrics) (records : List Produced) (volume replayed : Nat) : Prop where
  report : ∀ report, report = generateOperatorReport stamp campaignId metrics
      (auditCampaignRecords (records.map (·.toCampaignRecord))) durationSeconds →
    report.certificationOutcome = "CERTIFICATION_PASSED" ∧ report.orchestrationVolume = volume ∧
      report.suppressionVolume = volume ∧ report.replayVolume = replayed ∧
      report.degradationEvents = 0
  governance : (runGovernanceCertification
    (records.map (·.toCampaignRecord))).certificationPassed = true
  attribution : (certifyAttribution (records.map (·.toCampaignRecord))).certificationPassed = true
  status : metrics.campaignStatus = "COMPLETE"
  distinct : (records.map (·.recordId)).Nodup

theorem foldl_counts (records : List CampaignRecord) (m : CampaignMetrics) :
    let m' := records.foldl CampaignMetrics.add m
    m'.orchestrationCount = m.orchestrationCount + records.length ∧
      m'.suppressionCount = m.suppressionCount + records.countP (·.outboundSuppressed) ∧
      m'.replayCount = m.replayCount + records.countP (·.isReplay) ∧
      m'.degradationCount = m.degradationCount + records.countP (·.degraded) ∧
      m'.campaignStatus = m.campaignStatus := by
  induction records generalizing m with
  | nil => simp
  | cons r records ih =>
    obtain ⟨horchestrated, hsuppressed, hreplayed, hdegraded, hstatus⟩ := ih (m.add r)
    dsimp only [List.foldl_cons] at *
    rw [horchestrated, hsuppressed, hreplayed, hdegraded, hstatus]
    simp only [CampaignMetrics.add, one, List.length_cons, List.countP_cons]
    exact ⟨by omega, by omega, by omega, by omega, trivial⟩

theorem Batch.certified (h : Batch u size replayed n n' records) (stamp : Stamp)
    (campaignId : String) (durationSeconds : Rat) :
    Certified stamp campaignId durationSeconds (metricsOf campaignId records) records size
      replayed := by
  have hcounts := foldl_counts (records.map (·.toCampaignRecord))
    { campaignId := campaignId, campaignStatus := "COMPLETE" }
  have heach : ∀ r ∈ records.map (·.toCampaignRecord), CleanRecord r ∧ Attributed r ∧
      Certifiable r ∧ r.liveEffectsProduced = 0 ∧ r.providerDispatchCount = 0 := by
    intro r hr
    obtain ⟨produced, hproduced, rfl⟩ := List.mem_map.1 hr
    have hsound := h.sound produced hproduced
    exact ⟨hsound.clean, hsound.attributed, hsound.certifiable, hsound.effects, hsound.dispatches⟩
  have hclean : Clean (records.map (·.toCampaignRecord)) := by
    refine ⟨?_, ?_, fun r hr => (heach r hr).1⟩
    · apply List.sum_eq_zero
      intro x hx
      obtain ⟨r, hr, rfl⟩ := List.mem_map.1 hx
      exact (heach r hr).2.2.2.2
    · apply List.sum_eq_zero
      intro x hx
      obtain ⟨r, hr, rfl⟩ := List.mem_map.1 hx
      exact (heach r hr).2.2.2.1
  have hattributed : ∀ r ∈ records.map (·.toCampaignRecord), Attributed r :=
    fun r hr => (heach r hr).2.1
  have hcertifiers := (certifiers_passed_iff hclean hattributed).2 fun r hr => (heach r hr).2.2.1
  have hpassed := (report_passed_iff stamp campaignId durationSeconds
    (records.map (·.toCampaignRecord))).2 ⟨hclean, hattributed⟩
  have hsuppressed : records.countP (·.outboundSuppressed) = size := by
    rw [← h.length_eq, List.countP_eq_length]
    exact fun r hr => (h.sound r hr).suppressed
  have hundegraded : records.countP (·.degraded) = 0 := by
    rw [List.countP_eq_zero]
    intro r hr
    rw [(h.sound r hr).undegraded]
    exact Bool.false_ne_true
  simp only [List.length_map, List.countP_map, Function.comp_def, h.length_eq, h.replays_eq,
    hsuppressed, hundegraded, Nat.zero_add] at hcounts
  obtain ⟨horchestrated, hsuppressions, hreplays, hdegradations, hstatus⟩ := hcounts
  have hmetrics : metricsOf campaignId records =
      (records.map (·.toCampaignRecord)).foldl CampaignMetrics.add
        { campaignId := campaignId, campaignStatus := "COMPLETE" } := by
    rw [metricsOf, computeMetrics, if_neg]
    rw [hdegradations]
    exact lt_irrefl 0
  refine ⟨?_, hcertifiers.1, hcertifiers.2, ?_, h.nodup⟩
  · rintro report rfl
    refine ⟨?_, ?_, ?_, ?_, ?_⟩
    · exact if_pos hpassed
    · rw [← horchestrated, ← hmetrics]
      rfl
    · rw [← hsuppressions, ← hmetrics]
      rfl
    · rw [← hreplays, ← hmetrics]
      rfl
    · rw [← hdegradations, ← hmetrics]
      rfl
  · rw [hmetrics, hstatus]

theorem metricsOf_campaignId (campaignId : String) (records : List Produced) :
    (metricsOf campaignId records).campaignId = campaignId := by
  have hid : ∀ (records : List CampaignRecord) (m : CampaignMetrics),
      (records.foldl CampaignMetrics.add m).campaignId = m.campaignId := by
    intro records
    induction records with
    | nil => exact fun m => rfl
    | cons r records ih => exact fun m => ih (m.add r)
  rw [metricsOf, computeMetrics]
  split_ifs
  · exact hid _ _
  · exact hid _ _

structure CycleReports (result : CampaignCycleResult) (args : CycleArgs) : Prop where
  produced : result.recordsProduced = args.size
  suppressed : result.suppressedCount = args.size
  effects : result.liveEffectsProduced = 0
  dispatches : result.providerDispatchCount = 0
  attributed : result.attributionComplete = true
  degraded : result.degraded = args.configMissing

theorem Batch.cycleReports {args : CycleArgs}
    (h : Batch u args.size args.replays n n' records) (cid : String) :
    CycleReports (cycleResult cid args.configMissing records) args where
  produced := h.length_eq
  suppressed := by
    rw [← h.length_eq]
    exact List.countP_eq_length.2 fun r hr => (h.sound r hr).suppressed
  effects := by
    apply List.sum_eq_zero
    intro x hx
    obtain ⟨r, hr, rfl⟩ := List.mem_map.1 hx
    exact (h.sound r hr).effects
  dispatches := by
    apply List.sum_eq_zero
    intro x hx
    obtain ⟨r, hr, rfl⟩ := List.mem_map.1 hx
    exact (h.sound r hr).dispatches
  attributed := by
    rw [cycleResult, List.all_eq_true]
    exact fun r hr => decide_eq_true (h.sound r hr).attributed
  degraded := rfl

/-- Every campaign that the runners make is certified, and reports the volumes that it was asked
for: the replays come on top of the records of a full campaign, in every third cycle, and are part
of the volume of a load campaign, which has one record at least. The records of a cycle without a
configuration are certified too, and its result alone says that it was degraded. -/
theorem campaigns_certified (u : Uuids) (stamp : Stamp) (campaignId : Option String)
    (durationSeconds : Rat) (mode : String) (n : Nat) :
    (∀ cycles countPerCycle : Int,
      let result := (drawn (runFullCampaign u campaignId cycles mode countPerCycle) n).1
      let replayed := (cycles.toNat + 2) / 3 * (max 1 (countPerCycle / 10)).toNat
      Certified stamp result.1.campaignId durationSeconds result.1 result.2
        (cycles.toNat * countPerCycle.toNat + replayed) replayed) ∧
    (∀ volume : Int,
      let result := (drawn (runLoadCampaign u campaignId volume mode) n).1
      Certified stamp result.1.campaignId durationSeconds result.1 result.2
        (max 1 volume).toNat (max 1 (volume / 10)).toNat) ∧
    ∀ args : CycleArgs,
      let result := (drawn (runCampaignCycle u args) n).1
      CycleReports result.1 args ∧
        Certified stamp result.1.cycleId durationSeconds (metricsOf result.1.cycleId result.2)
          result.2 args.size args.replays := by
  refine ⟨?_, ?_, ?_⟩
  · intro cycles countPerCycle
    have hbatch := runCycles_batch u mode countPerCycle 0 cycles.toNat
      (drawn (givenId u campaignId) n).2
    rw [Nat.zero_add, show (0 + 2) / 3 = 0 from rfl, Nat.sub_zero] at hbatch
    rw [runFullCampaign, drawn_bind, drawn_bind, drawn_pure]
    dsimp only
    rw [metricsOf_campaignId]
    exact hbatch.certified stamp _ durationSeconds
  · intro volume
    let cycleId := "load-cycle-" ++ (drawn (shortId u) (drawn (givenId u campaignId) n).2).1
    have horiginal : MakesOne u (makeCampaignRecord u { cycleId := cycleId, mode := mode }) 0 :=
      makeOriginal_makesOne rfl rfl rfl
    have horiginals := times_batch horiginal (volume - max 1 (volume / 10)).toNat
    have hreplays := times_batch (makeReplay_makesOne u cycleId mode) (max 1 (volume / 10)).toNat
    have hbatch := (horiginals ((drawn (givenId u campaignId) n).2 + 1)).append (hreplays _)
    have hvolume : (volume - max 1 (volume / 10)).toNat + (max 1 (volume / 10)).toNat =
        (max 1 volume).toNat := by omega
    rw [hvolume, Nat.mul_zero, Nat.mul_one, Nat.zero_add] at hbatch
    rw [runLoadCampaign, drawn_bind, drawn_bind, drawn_bind, drawn_bind, drawn_pure]
    dsimp only
    rw [metricsOf_campaignId]
    exact hbatch.certified stamp _ durationSeconds
  · intro args
    have hbatch := runCampaignCycle_batch u args n
    exact ⟨hbatch.cycleReports _, hbatch.certified stamp _ durationSeconds⟩

end

def growingUuids : Uuids where
  uuid n := ⟨String.ofList (List.replicate (n + 1) 'u'), by
    intro h
    exact absurd (congrArg (·.toList.length) h) (by simp)⟩
  distinct := by
    intro n m h
    have hlength := congrArg (fun id : Uuid => id.val.toList.length) h
    simpa using hlength

/-- Four cycles of thirty records, the first and the fourth of them with three replays. -/
theorem fourCycles_certified :
    let result := (drawn (runFullCampaign growingUuids none 4 "SHADOW" 30) 0).1
    Certified ⟨"r-1", "2026-01-31T00:00:00+00:00"⟩ result.1.campaignId 60 result.1 result.2 126 6 :=
  (campaigns_certified growingUuids _ none 60 "SHADOW" 0).1 4 30

end ShadowCampaign
end StudentSuccess
