import StudentSuccess.ShadowCampaign

namespace StudentSuccess
namespace ShadowCampaign
set_option autoImplicit true

/-- A report that may be taken for the campaign's certification. -/
structure Certifies (records : List CampaignRecord) (report : OperatorReport) : Prop where
  governance : report.certificationPassed = true →
    (runGovernanceCertification records).certificationPassed = true
  attribution : report.certificationPassed = true →
    (certifyAttribution records).certificationPassed = true
  attributionGaps : report.attributionGapCount = (auditCampaignRecords records).attributionGapCount
  replayLeakage : report.replayLeakageCount = (auditCampaignRecords records).replayLeakageCount
  liveEffects : report.liveEffectsTotal = (auditCampaignRecords records).liveEffectsProduced
  dispatches : report.providerDispatchTotal = (auditCampaignRecords records).providerDispatchCount

/-- The ids that the audit asks for. -/
def Attributed (r : CampaignRecord) : Prop := r.correlationId ≠ "" ∧ r.causationId ≠ ""

/-- A record that neither the metrics nor the audit object to. -/
structure CleanRecord (r : CampaignRecord) : Prop where
  inv : ∀ flag ∈ r.invFlags, flag = true
  fad : ∀ flag ∈ r.fadFlags, flag = true
  finalized : ¬ (r.isFinalized = true ∧ r.isMutable = true)
  leakage : ¬ Leaks r
  authorized : r.governanceScope ≠ "AUTHORIZED"

structure Clean (records : List CampaignRecord) : Prop where
  dispatches : (records.map (·.providerDispatchCount)).sum = 0
  effects : (records.map (·.liveEffectsProduced)).sum = 0
  record : ∀ r ∈ records, CleanRecord r

structure Certifiable (r : CampaignRecord) : Prop where
  rule0 : r.rulePath.head? = some "RULE_0"
  lineage : r.isReplay = true ∨ r.executionType ∈ replayTypes →
    Py.truthyText r.historicalConfigVersionId = true
  scope : r.governanceScope ≠ ""
  replay : r.executionType ∈ replayTypes → r.liveEffectsProduced ≤ 0
  shadow : r.governanceScope = "SHADOW_ONLY" → r.providerDispatchCount ≤ 0

structure Sums (records : List CampaignRecord) (m m' : CampaignMetrics) : Prop where
  effects : m'.liveEffectsTotal = m.liveEffectsTotal + (records.map (·.liveEffectsProduced)).sum
  dispatches : m'.providerDispatchTotal =
    m.providerDispatchTotal + (records.map (·.providerDispatchCount)).sum
  authorized : m'.authorizedScopeCount =
    m.authorizedScopeCount + records.countP fun r => r.governanceScope = "AUTHORIZED"
  inv : m'.invViolationCount =
    m.invViolationCount + (records.map fun r => r.invFlags.countP (!·)).sum
  fad : m'.fadViolationCount =
    m.fadViolationCount + (records.map fun r => r.fadFlags.countP (!·)).sum
  leakage : m'.replayLeakageCount = m.replayLeakageCount + records.countP fun r => Leaks r
  gaps : m'.attributionGapCount = m.attributionGapCount

theorem countP_cons_one (p : CampaignRecord → Prop) [DecidablePred p] (r : CampaignRecord)
    (records : List CampaignRecord) :
    (r :: records).countP (fun r => p r) = one (p r) + records.countP fun r => p r := by
  rw [List.countP_cons, one, Nat.add_comm]
  simp only [decide_eq_true_eq]

theorem foldl_sums (records : List CampaignRecord) (m : CampaignMetrics) :
    Sums records m (records.foldl CampaignMetrics.add m) := by
  induction records generalizing m with
  | nil => constructor <;> simp
  | cons r records ih =>
    have hrest := ih (m.add r)
    rw [List.foldl_cons]
    constructor
    · rw [hrest.effects, List.map_cons, List.sum_cons, CampaignMetrics.add, add_assoc]
    · rw [hrest.dispatches, List.map_cons, List.sum_cons, CampaignMetrics.add, add_assoc]
    · rw [hrest.authorized, countP_cons_one, CampaignMetrics.add, add_assoc]
    · rw [hrest.inv, List.map_cons, List.sum_cons, CampaignMetrics.add, add_assoc]
    · rw [hrest.fad, List.map_cons, List.sum_cons, CampaignMetrics.add, add_assoc]
    · rw [hrest.leakage, countP_cons_one, CampaignMetrics.add, add_assoc]
    · exact hrest.gaps

theorem computeMetrics_sums (campaignId : String) (records : List CampaignRecord) :
    Sums records { campaignId := campaignId, campaignStatus := "COMPLETE" }
      (computeMetrics campaignId records) := by
  have h := foldl_sums records { campaignId := campaignId, campaignStatus := "COMPLETE" }
  rw [computeMetrics]
  split_ifs
  · exact ⟨h.effects, h.dispatches, h.authorized, h.inv, h.fad, h.leakage, h.gaps⟩
  · exact h

def invTotal (g : GovernanceCertResult) : Nat :=
  g.inv1Violations + g.inv2Violations + g.inv3Violations + g.inv4Violations + g.inv5Violations +
    g.inv6Violations + g.inv7Violations

def fadTotal (g : GovernanceCertResult) : Nat :=
  g.fad1Violations + g.fad2Violations + g.fad3Violations + g.fad4Violations + g.fad5Violations +
    g.fad6Violations

theorem invTotal_add (g : GovernanceCertResult) (r : CampaignRecord) :
    invTotal (g.add r) = invTotal g + r.invFlags.countP (!·) := by
  simp only [invTotal, GovernanceCertResult.add, one, CampaignRecord.invFlags, List.countP_cons,
    List.countP_nil, Bool.not_eq_true']
  omega

theorem fadTotal_add (g : GovernanceCertResult) (r : CampaignRecord) :
    fadTotal (g.add r) = fadTotal g + r.fadFlags.countP (!·) := by
  simp only [fadTotal, GovernanceCertResult.add, one, CampaignRecord.fadFlags, List.countP_cons,
    List.countP_nil, Bool.not_eq_true']
  omega

theorem foldl_totals (records : List CampaignRecord) (g : GovernanceCertResult) :
    invTotal (records.foldl GovernanceCertResult.add g) =
        invTotal g + (records.map fun r => r.invFlags.countP (!·)).sum ∧
      fadTotal (records.foldl GovernanceCertResult.add g) =
        fadTotal g + (records.map fun r => r.fadFlags.countP (!·)).sum := by
  induction records generalizing g with
  | nil => exact ⟨rfl, rfl⟩
  | cons r records ih =>
    obtain ⟨hinv, hfad⟩ := ih (g.add r)
    rw [List.foldl_cons, hinv, hfad, invTotal_add, fadTotal_add, List.map_cons, List.sum_cons,
      List.map_cons, List.sum_cons, add_assoc, add_assoc]
    exact ⟨rfl, rfl⟩

theorem sum_countP_eq_zero (flags : CampaignRecord → List Bool) (records : List CampaignRecord) :
    (records.map fun r => (flags r).countP (!·)).sum = 0 ↔
      ∀ r ∈ records, ∀ flag ∈ flags r, flag = true := by
  rw [List.sum_eq_zero_iff_forall_eq_nat]
  simp only [List.mem_map, forall_exists_index, and_imp, forall_apply_eq_imp_iff₂,
    List.countP_eq_zero, Bool.not_eq_true', Bool.not_eq_false]

theorem certifyGovernance_totals (records : List CampaignRecord) :
    (certifyGovernance records).totalInvViolations =
        (records.map fun r => r.invFlags.countP (!·)).sum ∧
      (certifyGovernance records).totalFadViolations =
        (records.map fun r => r.fadFlags.countP (!·)).sum := by
  obtain ⟨hinv, hfad⟩ := foldl_totals records { totalRecords := records.length }
  have hinv0 : invTotal { totalRecords := records.length } = 0 := rfl
  have hfad0 : fadTotal { totalRecords := records.length } = 0 := rfl
  rw [hinv0, Nat.zero_add] at hinv
  rw [hfad0, Nat.zero_add] at hfad
  exact ⟨hinv, hfad⟩

theorem countP_prop_eq_zero {p : CampaignRecord → Prop} [DecidablePred p]
    {records : List CampaignRecord} :
    (records.countP fun r => p r) = 0 ↔ ∀ r ∈ records, ¬ p r := by
  rw [List.countP_eq_zero]
  simp only [decide_eq_true_eq]

theorem audit_passed_iff (records : List CampaignRecord) :
    (auditCampaignRecords records).auditPassed = true ↔
      Clean records ∧ ∀ r ∈ records, Attributed r := by
  obtain ⟨hinv, hfad⟩ := certifyGovernance_totals records
  rw [auditCampaignRecords]
  simp only [decide_eq_true_eq, hinv, hfad, Nat.add_eq_zero_iff, sum_countP_eq_zero,
    List.countP_eq_zero, Bool.and_eq_true]
  constructor
  · rintro ⟨hdispatches, heffects, hgaps, hfinalized, hleakage, ⟨hinv, hfad⟩, hauthorized⟩
    refine ⟨⟨hdispatches, heffects, fun r hr => ?_⟩, fun r hr => not_or.1 (hgaps r hr)⟩
    exact ⟨hinv r hr, hfad r hr, hfinalized r hr, hleakage r hr, hauthorized r hr⟩
  · rintro ⟨hclean, hattributed⟩
    exact ⟨hclean.dispatches, hclean.effects, fun r hr => not_or.2 (hattributed r hr),
      fun r hr => (hclean.record r hr).finalized, fun r hr => (hclean.record r hr).leakage,
      ⟨fun r hr => (hclean.record r hr).inv, fun r hr => (hclean.record r hr).fad⟩,
      fun r hr => (hclean.record r hr).authorized⟩

section
variable (stamp : Stamp) (campaignId : String) (durationSeconds : Rat)
  (records : List CampaignRecord)

def reportOf : OperatorReport :=
  generateOperatorReport stamp campaignId (computeMetrics campaignId records)
    (auditCampaignRecords records) durationSeconds

theorem report_passed_iff :
    (reportOf stamp campaignId durationSeconds records).certificationPassed = true ↔
      Clean records ∧ ∀ r ∈ records, Attributed r := by
  have hsums := computeMetrics_sums campaignId records
  rw [← audit_passed_iff, reportOf, generateOperatorReport]
  simp only [Bool.and_eq_true, decide_eq_true_eq]
  rw [and_iff_left_iff_imp]
  intro haudit
  obtain ⟨hclean, -⟩ := (audit_passed_iff records).1 haudit
  rw [hsums.inv, hsums.fad, hsums.effects, hsums.dispatches, hsums.authorized, hclean.effects,
    hclean.dispatches, (sum_countP_eq_zero _ _).2 fun r hr => (hclean.record r hr).inv,
    (sum_countP_eq_zero _ _).2 fun r hr => (hclean.record r hr).fad,
    countP_prop_eq_zero.2 fun r hr => (hclean.record r hr).authorized]
  exact ⟨rfl, rfl, rfl, rfl⟩

end

theorem run_passed_iff (records : List CampaignRecord) :
    (runGovernanceCertification records).certificationPassed = true ↔
      invTotal (certifyGovernance records) = 0 ∧ fadTotal (certifyGovernance records) = 0 ∧
      verifyInv3ReplayNoLive records = 0 ∧ verifyInv4ShadowNoDispatch records = 0 ∧
      verifyInv5Rule0First records = 0 ∧ verifyInv6CorrelationPresent records = 0 ∧
      verifyFad1FinalizedNotMutated records = 0 ∧
      verifyFad5ReplayHistoricalConfig records = 0 := by
  rw [runGovernanceCertification, GovernanceCertResult.conclude, decide_eq_true_eq, invTotal,
    fadTotal]
  dsimp only
  omega

theorem attribution_passed_iff (records : List CampaignRecord) :
    (certifyAttribution records).certificationPassed = true ↔
      ∀ r ∈ records, Attributed r ∧
        (r.isReplay = true → Py.truthyText r.historicalConfigVersionId = true) ∧
        r.governanceScope ≠ "" := by
  rw [certifyAttribution]
  simp only [decide_eq_true_eq, Nat.add_eq_zero_iff, List.countP_eq_zero, Bool.and_eq_true,
    Bool.not_eq_true', not_and, Bool.not_eq_false, Attributed]
  constructor
  · rintro ⟨⟨⟨hcorrelation, hcausation⟩, hlineage⟩, hscope⟩ r hr
    exact ⟨⟨hcorrelation r hr, hcausation r hr⟩, hlineage r hr, hscope r hr⟩
  · intro h
    exact ⟨⟨⟨fun r hr => (h r hr).1.1, fun r hr => (h r hr).1.2⟩, fun r hr => (h r hr).2.1⟩,
      fun r hr => (h r hr).2.2⟩

theorem certifiers_passed_iff (hclean : Clean records)
    (hattributed : ∀ r ∈ records, Attributed r) :
    ((runGovernanceCertification records).certificationPassed = true ∧
      (certifyAttribution records).certificationPassed = true) ↔
      ∀ r ∈ records, Certifiable r := by
  obtain ⟨hinv, hfad⟩ := certifyGovernance_totals records
  have hflags : invTotal (certifyGovernance records) = 0 ∧
      fadTotal (certifyGovernance records) = 0 := by
    constructor
    · exact hinv.trans ((sum_countP_eq_zero _ _).2 fun r hr => (hclean.record r hr).inv)
    · exact hfad.trans ((sum_countP_eq_zero _ _).2 fun r hr => (hclean.record r hr).fad)
  have hinv6 : verifyInv6CorrelationPresent records = 0 :=
    countP_prop_eq_zero.2 fun r hr => (hattributed r hr).1
  have hfad1 : verifyFad1FinalizedNotMutated records = 0 := by
    rw [verifyFad1FinalizedNotMutated, List.countP_eq_zero]
    intro r hr hmutable
    exact (hclean.record r hr).finalized (Bool.and_eq_true_iff.1 hmutable)
  rw [run_passed_iff, attribution_passed_iff]
  simp only [hflags, hinv6, hfad1, true_and, verifyInv3ReplayNoLive, verifyInv4ShadowNoDispatch,
    verifyInv5Rule0First, verifyFad5ReplayHistoricalConfig, countP_prop_eq_zero, not_and, not_lt,
    not_not, Bool.not_eq_false]
  constructor
  · rintro ⟨⟨hreplay, hshadow, hrule0, hlineage⟩, hcertified⟩ r hr
    obtain ⟨-, hflagged, hscope⟩ := hcertified r hr
    exact ⟨hrule0 r hr, fun h => h.elim hflagged (hlineage r hr), hscope, hreplay r hr,
      hshadow r hr⟩
  · intro h
    exact ⟨⟨fun r hr => (h r hr).replay, fun r hr => (h r hr).shadow, fun r hr => (h r hr).rule0,
        fun r hr htype => (h r hr).lineage (.inr htype)⟩,
      fun r hr => ⟨hattributed r hr, fun hflag => (h r hr).lineage (.inl hflag), (h r hr).scope⟩⟩

/-- A report certifies its campaign exactly if every record has its ids, and clean records are
certifiable. -/
theorem report_certifies_iff (stamp : Stamp) (campaignId : String) (durationSeconds : Rat)
    (records : List CampaignRecord) :
    Certifies records (reportOf stamp campaignId durationSeconds records) ↔
      (∀ r ∈ records, Attributed r) ∧ (Clean records → ∀ r ∈ records, Certifiable r) := by
  have hsums := computeMetrics_sums campaignId records
  have hpassed := report_passed_iff stamp campaignId durationSeconds records
  have hgaps : (reportOf stamp campaignId durationSeconds records).attributionGapCount = 0 :=
    hsums.gaps
  have haudit : (auditCampaignRecords records).attributionGapCount = 0 ↔
      ∀ r ∈ records, Attributed r := by
    rw [auditCampaignRecords]
    dsimp only
    rw [countP_prop_eq_zero]
    exact forall₂_congr fun r _ => not_or
  constructor
  · intro h
    have hattributed := haudit.1 (h.attributionGaps.symm.trans hgaps)
    refine ⟨hattributed, fun hclean => (certifiers_passed_iff hclean hattributed).1 ?_⟩
    have hreport := hpassed.2 ⟨hclean, hattributed⟩
    exact ⟨h.governance hreport, h.attribution hreport⟩
  · rintro ⟨hattributed, hcertifiable⟩
    have hcertified := fun hreport =>
      (certifiers_passed_iff (hpassed.1 hreport).1 hattributed).2
        (hcertifiable (hpassed.1 hreport).1)
    exact ⟨fun hreport => (hcertified hreport).1, fun hreport => (hcertified hreport).2,
      hgaps.trans (haudit.2 hattributed).symm, hsums.leakage.trans (Nat.zero_add _),
      hsums.effects.trans (zero_add _), hsums.dispatches.trans (zero_add _)⟩

/-- A replay without its historical configuration, whose flags say that all is well. -/
def unsoundReplay : CampaignRecord where
  executionType := "replay"
  governanceScope := "REPLAY_ONLY"
  correlationId := "c-1"
  causationId := "c-0"
  configVersionId := "cfg-v2-001"
  rulePath := ["RULE_0", "RULE_1", "RULE_2", "RULE_3"]
  outboundSuppressed := true
  liveEffectsProduced := 0
  providerDispatchCount := 0
  isReplay := true
  historicalConfigVersionId := none
  isFinalized := false
  isMutable := true
  isDuplicate := false
  degraded := false

/-- The report passes a campaign that neither certifier passes, and does not count the record that
the audit counts. -/
theorem report_not_certification :
    ¬ Certifies [unsoundReplay]
      (reportOf ⟨"r-1", "2026-01-01T00:00:00"⟩ "campaign" 0 [unsoundReplay]) ∧
    ¬ Certifies [{ unsoundReplay with correlationId := "" }]
      (reportOf ⟨"r-1", "2026-01-01T00:00:00"⟩ "campaign" 0
        [{ unsoundReplay with correlationId := "" }]) := by
  constructor
  · intro h
    exact absurd (h.governance (by decide +kernel)) (by decide +kernel)
  · intro h
    exact absurd h.attributionGaps (by decide +kernel)

end ShadowCampaign
end StudentSuccess
