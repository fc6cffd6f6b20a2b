import StudentSuccess.ChannelSelector

namespace StudentSuccess
namespace Channel
set_option autoImplicit true

open RuleChain

def LiveExecution (gov : GovernanceCtx) : Prop :=
  gov.executionMode = "LIVE" ∧ gov.executionType = "original"

def Closed (ctx : ChannelAdvisoryContext) : Prop := ctx.operational.outreachState = some "CLOSED"

def tb (ctx : ChannelAdvisoryContext) : ThresholdBindings := bindings ctx.governance.configRuleSet

/-- The age of a reviewed insight is compared with hours that no `timedelta` can hold. -/
structure TtlOverflows (env : RuleEnv) (ai : AICtx) (ttl : Py.Value) : Prop where
  fresh : ai.aiStaleFlag = false
  generated : ∃ generatedAt micros, ai.aiGeneratedAt = some generatedAt ∧ generatedAt ≠ "" ∧
    fromIsoformatZ env generatedAt = .ok (.aware micros)
  hours : ∃ hours, ttl.num? = some hours ∧ ¬ Py.TimedeltaHours hours

def TierRaises (env : RuleEnv) (ctx : ChannelAdvisoryContext) : Prop :=
  ctx.ai.aiFinalizedCopy = false ∧ ctx.ai.aiInsightState = some "AI_REVIEWED" ∧
    ∃ ttl, comparable (tb ctx).aiInsightTtlHours = some ttl ∧ TtlOverflows env ctx.ai ttl

/-- A channel that RULES 4, 6 and 7 leave. -/
structure Open (op : OperationalCtx) (ch : Ch) : Prop where
  contact : lacksContact op ch = false
  consent : optedOut op ch = false
  provider : unavailable op ch = false
  suspension : suspended op ch = false

def suspensionThreshold (ctx : ChannelAdvisoryContext) : Option Py.Value :=
  comparable (tb ctx).deliveryFailureSuspensionThreshold

/-- A channel that RULES 4, 6, 7 and 10 leave. -/
structure Usable (ctx : ChannelAdvisoryContext) (ch : Ch) : Prop where
  isOpen : Open ctx.operational ch
  delivery : ¬ AtLeast (some (failureCount ctx.operational ch)) (suspensionThreshold ctx)

def EngagementCompares (P : Ch → Prop) (ctx : ChannelAdvisoryContext) : Prop :=
  let score := ctx.operational.engagementSignalScore
  let call := comparable (tb ctx).callEngagementScoreThreshold
  let sms := comparable (tb ctx).smsEngagementScoreThreshold
  let email := comparable (tb ctx).emailEngagementScoreThreshold
  Compares score call ∧ (AtLeast score call ∧ P .call ∨
    Compares score sms ∧ (AtLeast score sms ∧ P .sms ∨ Compares score email))

/-- What an advisory must meet, past RULE 0, to permit live delivery. -/
structure PermitsLive (env : RuleEnv) (ctx : ChannelAdvisoryContext) : Prop where
  execution : LiveExecution ctx.governance
  notClosed : ¬ Closed ctx
  hold : ctx.governance.complianceHoldFlag = false
  ttl : ¬ TierRaises env ctx
  failures : Numeric (suspensionThreshold ctx)
  channel : ∃ ch, Usable ctx ch
  engagement : EngagementCompares (Usable ctx) ctx

theorem pastTtl_of_naive (h : fromIsoformatZ env text = .ok (.naive micros)) (ttl : Py.Value) :
    pastTtl env text ttl = .error .typeError := by
  rw [pastTtl, h]
  rfl

theorem pastTtl_of_aware (h : fromIsoformatZ env text = .ok (.aware micros)) (ttl : Py.Value) :
    pastTtl env text ttl =
      (Py.hoursDelta ttl).map fun limit => decide (limit < ((env.now - micros : Int) : Rat)) := by
  rw [pastTtl, h]
  cases hlimit : Py.hoursDelta ttl with
  | error e => simp [bind, Except.bind, Except.map, Py.DateTime.sub]
  | ok limit => simp [bind, Except.bind, Except.map, Py.DateTime.sub, pure, Except.pure]

theorem hoursDelta_caught_iff (ttl : Py.Value) (f : Rat → Bool) :
    Py.Returns (Py.catchMalformed ((Py.hoursDelta ttl).map f) true) ↔
      ¬ ∃ hours, ttl.num? = some hours ∧ ¬ Py.TimedeltaHours hours := by
  rw [Py.hoursDelta]
  cases hnum : ttl.num? with
  | none => simp [Py.catchMalformed, Except.map]
  | some hours =>
    by_cases hrange : Py.TimedeltaHours hours
    · simp [Py.catchMalformed, Except.map, hrange]
    · simp [Py.catchMalformed, Except.map, hrange]

theorem pastTtl_of_malformed (h : env.fromIsoformat (text.replace "Z" "+00:00") = none)
    (ttl : Py.Value) : pastTtl env text ttl = .error .valueError := by
  rw [pastTtl, fromIsoformatZ, h]
  rfl

theorem not_ttlOverflows (hgenerated : ai.aiGeneratedAt = generatedAt)
    (h : ∀ text micros, generatedAt = some text → text ≠ "" →
      fromIsoformatZ env text ≠ .ok (.aware micros)) (ttl : Py.Value) :
    ¬ TtlOverflows env ai ttl := by
  intro hover
  obtain ⟨text, micros, htext, hne, hmicros⟩ := hover.generated
  exact h text micros (hgenerated.symm.trans htext) hne hmicros

theorem pastTtl_caught_iff (env : RuleEnv) (text : String) (ttl : Py.Value) :
    Py.Returns (Py.catchMalformed (pastTtl env text ttl) true) ↔
      ¬ ((∃ micros, fromIsoformatZ env text = .ok (.aware micros)) ∧
        ∃ hours, ttl.num? = some hours ∧ ¬ Py.TimedeltaHours hours) := by
  cases hparse : env.fromIsoformat (text.replace "Z" "+00:00") with
  | none =>
    rw [pastTtl_of_malformed hparse]
    simp [Py.catchMalformed, fromIsoformatZ, hparse]
  | some stamp =>
    have hz : fromIsoformatZ env text = .ok stamp := by rw [fromIsoformatZ, hparse]
    cases stamp with
    | naive micros =>
      rw [pastTtl_of_naive hz, hz]
      simp [Py.catchMalformed]
    | aware micros =>
      rw [pastTtl_of_aware hz, hoursDelta_caught_iff, hz]
      simp

theorem reviewedStale_returns_iff (env : RuleEnv) (ai : AICtx) (ttl : Py.Value) :
    Py.Returns (reviewedStale env ai ttl) ↔ ¬ TtlOverflows env ai ttl := by
  rw [reviewedStale]
  cases hstale : ai.aiStaleFlag with
  | true =>
    apply iff_of_true (Py.returns_ok _)
    intro h
    cases hstale.symm.trans h.fresh
  | false =>
    rw [if_neg (by decide)]
    cases hgenerated : ai.aiGeneratedAt with
    | none =>
      apply iff_of_true (Py.returns_ok _)
      exact not_ttlOverflows hgenerated (fun _ _ h => by cases h) ttl
    | some text =>
      by_cases hempty : text = ""
      · simp only [if_pos hempty]
        apply iff_of_true (Py.returns_ok _)
        intro h
        obtain ⟨text', -, htext, hne, -⟩ := h.generated
        cases hgenerated.symm.trans htext
        exact hne hempty
      · simp only [if_neg hempty]
        rw [pastTtl_caught_iff, not_iff_not]
        constructor
        · intro h
          obtain ⟨⟨micros, hmicros⟩, hhours⟩ := h
          exact ⟨hstale, ⟨text, micros, hgenerated, hempty, hmicros⟩, hhours⟩
        · intro h
          obtain ⟨text', micros, htext, -, hmicros⟩ := h.generated
          cases hgenerated.symm.trans htext
          exact ⟨⟨micros, hmicros⟩, h.hours⟩

theorem getD_eq_reviewed_iff (state : Option String) :
    state.getD "" = "AI_REVIEWED" ↔ state = some "AI_REVIEWED" := by
  cases state with
  | none => simp
  | some s => simp

/-- RULE 5 raises exactly when the age of a reviewed insight overflows. -/
theorem assessAiTier_returns_iff (env : RuleEnv) (ctx : ChannelAdvisoryContext)
    (out : AIOutputCtx) :
    Py.Returns (assessAiTier env ctx.ai (tb ctx) out) ↔ ¬ TierRaises env ctx := by
  rw [assessAiTier, TierRaises]
  cases hcopy : ctx.ai.aiFinalizedCopy with
  | true => simp
  | false =>
    cases httl : comparable (tb ctx).aiInsightTtlHours with
    | none => simp
    | some ttl =>
      by_cases hreviewed : ctx.ai.aiInsightState = some "AI_REVIEWED"
      · simp [hreviewed, reviewedStale_returns_iff]
      · have hstate := mt (getD_eq_reviewed_iff _).1 hreviewed
        simp only [hreviewed, hstate, if_false, false_and, and_false, not_false_iff, iff_true,
          Bool.false_eq_true]
        split_ifs
        · exact Py.returns_ok _
        · exact Py.returns_ok _
        · exact Py.returns_ok _

/-- The evaluation has bound its thresholds, is not locked to a replay and has the channels of
`P` left. -/
structure At (ctx : ChannelAdvisoryContext) (P : Ch → Prop) (s : Advice) : Prop where
  bound : s.tb = tb ctx
  unlocked : s.scopeLocked = none
  eligible : ∀ ch, ch ∈ s.eligible ↔ P ch

theorem At.eligible_eq_nil_iff (h : At ctx P s) : s.eligible = [] ↔ ¬ ∃ ch, P ch := by
  constructor
  · intro hnil hex
    obtain ⟨ch, hch⟩ := hex
    have hmem := (h.eligible ch).2 hch
    rw [hnil] at hmem
    cases hmem
  · intro hnone
    apply List.eq_nil_of_subset_nil
    intro ch hch
    exact absurd ⟨ch, (h.eligible ch).1 hch⟩ hnone

theorem At.eligible_ne_nil (h : At ctx P s) (hex : ∃ ch, P ch) : s.eligible ≠ [] :=
  fun hnil => h.eligible_eq_nil_iff.1 hnil hex

/-- On `s` the rule hands on the channels of `P`, or ends for want of one. -/
def NarrowsAt (ctx : ChannelAdvisoryContext) (P : Ch → Prop) (r : Rule Advice Emission)
    (s : Advice) : Prop :=
  ((∃ ch, P ch) → ∃ s', r s = .ok (.next s') ∧ At ctx P s') ∧
    ((¬ ∃ ch, P ch) → ∃ e, r s = .ok (.exit e) ∧ e.scope ∉ deliveryScopes)

theorem narrowsAt_of_ite {r : Rule Advice Emission} {s left : Advice} {out : Emission}
    (hr : r s = if left.eligible = [] then .ok (.exit out) else .ok (.next left))
    (hleft : At ctx P left) (hout : out.scope ∉ deliveryScopes) : NarrowsAt ctx P r s := by
  have hnil := hleft.eligible_eq_nil_iff
  rw [NarrowsAt, hr]
  constructor
  · intro hex
    have hne : left.eligible ≠ [] := fun h => hnil.1 h hex
    exact ⟨left, if_neg hne, hleft⟩
  · intro hnone
    exact ⟨out, if_pos (hnil.2 hnone), hout⟩

theorem none_not_deliveryScope : Scope.none ∉ deliveryScopes := by decide

theorem channelExhausted_not_deliveryScope : Scope.channelExhausted ∉ deliveryScopes := by decide

theorem rule4_narrows (hbound : s.tb = tb ctx) (hunlocked : s.scopeLocked = none)
    (hs : s.prohibited = []) :
    NarrowsAt ctx (fun ch => lacksContact ctx.operational ch = false) (rule4 ctx) s := by
  apply narrowsAt_of_ite rfl
  · refine ⟨hbound, hunlocked, fun ch => ?_⟩
    simp only [Advice.rule, hs, List.nil_append]
    cases ch <;> cases hphone : noPhone ctx.operational <;>
      cases hemail : noEmail ctx.operational <;>
      simp [allChannels, lacksContact, hphone, hemail]
  · exact none_not_deliveryScope

theorem rule6_narrows (hs : At ctx P s) :
    NarrowsAt ctx (fun ch => P ch ∧ optedOut ctx.operational ch = false) (rule6 ctx) s := by
  apply narrowsAt_of_ite rfl
  · exact ⟨hs.bound, hs.unlocked, fun ch => by simp [Advice.rule, hs.eligible]⟩
  · exact channelExhausted_not_deliveryScope

theorem rule7_narrows (hs : At ctx P s) :
    NarrowsAt ctx
      (fun ch => P ch ∧ unavailable ctx.operational ch = false ∧
        suspended ctx.operational ch = false) (rule7 ctx) s := by
  apply narrowsAt_of_ite rfl
  · refine ⟨hs.bound, hs.unlocked, fun ch => ?_⟩
    have hdegraded : providerDegraded ctx.operational ch = false ∨
        providerDegraded ctx.operational ch = true := by
      cases providerDegraded ctx.operational ch <;> simp
    simp only [Advice.rule, List.mem_append, List.mem_filter, hs.eligible, Bool.not_or,
      Bool.and_eq_true, Bool.not_eq_true', ← and_or_left, hdegraded, and_true]
  · exact channelExhausted_not_deliveryScope

theorem failing_returns_iff (op : OperationalCtx) (suspTh : Option Py.Value) (chs : List Ch) :
    Py.Returns (failing op suspTh chs) ↔ chs = [] ∨ Numeric suspTh := by
  induction chs with
  | nil => simp [failing]
  | cons ch chs ih =>
    have hhead := crosses_returns_iff geValue_raisesOnText (some (failureCount op ch : Rat)) suspTh
    rw [failing, Py.returns_bind_iff (fun _ => Py.returns_bind_pure), ih, hhead]
    simp only [Compares, reduceCtorEq, false_or]
    tauto

theorem mem_failing (h : failing op suspTh chs = .ok removed) (ch : Ch) :
    ch ∈ removed ↔ ch ∈ chs ∧ AtLeast (some (failureCount op ch)) suspTh := by
  induction chs generalizing removed with
  | nil =>
    cases h
    simp
  | cons c chs ih =>
    rw [failing, Py.bind_eq_ok] at h
    obtain ⟨reached, hreached, h⟩ := h
    rw [Py.bind_eq_ok] at h
    obtain ⟨rest, hrest, h⟩ := h
    cases h
    have hmem := ih hrest
    cases reached with
    | true =>
      have hc := (crosses_geValue_iff _ _).1 hreached
      simp only [if_true, List.mem_cons, hmem]
      by_cases heq : ch = c
      · rw [heq]
        simp only [true_or, true_and, hc]
      · simp only [heq, false_or]
    | false =>
      have hc := ((crosses_geValue_false_iff _ _).1 hreached).2
      simp only [Bool.false_eq_true, if_false, List.mem_cons, hmem]
      by_cases heq : ch = c
      · rw [heq]
        simp only [true_or, hc, and_false]
      · simp only [heq, false_or]

/-- RULE 10 goes on with the removals of the channels that are left. -/
theorem rule10_ok (hbound : s.tb = tb ctx)
    (h : failing ctx.operational (suspensionThreshold ctx) s.eligible = .ok removed) :
    rule10 ctx s = deliveryGate (((s.rule "RULE_10").codeIf
      (ctx.operational.channelDeliveryFailureCounts.getD []).isEmpty
      "DELIVERY_FAILURE_COUNTS_UNKNOWN").suspend removed) := by
  rw [suspensionThreshold, ← hbound] at h
  simp only [rule10, Advice.rule, Advice.codeIf, h]

theorem rule10_raises (hbound : s.tb = tb ctx) (hne : s.eligible ≠ [])
    (h : ¬ Numeric (suspensionThreshold ctx)) : ∃ e, rule10 ctx s = .error e := by
  have hraise : ¬ Py.Returns (failing ctx.operational (suspensionThreshold ctx) s.eligible) := by
    rw [failing_returns_iff]
    exact not_or.2 ⟨hne, h⟩
  obtain ⟨e, he⟩ := Py.raises_of_not_returns hraise
  rw [suspensionThreshold, ← hbound] at he
  refine ⟨e, ?_⟩
  simp only [rule10, Advice.rule, Advice.codeIf, he]

theorem deliveryGate_narrows (hs : At ctx P s) : NarrowsAt ctx P deliveryGate s := by
  apply narrowsAt_of_ite rfl hs
  show s.scopeLocked.getD .channelExhausted ∉ deliveryScopes
  rw [hs.unlocked]
  exact channelExhausted_not_deliveryScope

theorem mem_suspend {s : Advice} {P Q : Ch → Prop} (hs : ∀ ch, ch ∈ s.eligible ↔ P ch)
    (hmem : ∀ ch, ch ∈ removed ↔ ch ∈ s.eligible ∧ Q ch) (ch : Ch) :
    ch ∈ (s.suspend removed).eligible ↔ P ch ∧ ¬ Q ch := by
  simp only [Advice.suspend, List.mem_filter, hs, hmem, Bool.not_eq_true', List.contains_eq_mem,
    decide_eq_false_iff_not]
  constructor
  · intro hch
    exact ⟨hch.1, fun hfail => hch.2 ⟨hch.1, hfail⟩⟩
  · intro hch
    exact ⟨hch.1, fun hfail => hch.2 hfail.2⟩

theorem rule10_narrows (hs : At ctx P s) (h : Numeric (suspensionThreshold ctx)) :
    NarrowsAt ctx
      (fun ch => P ch ∧
        ¬ AtLeast (some (failureCount ctx.operational ch)) (suspensionThreshold ctx))
      (rule10 ctx) s := by
  obtain ⟨removed, hremoved⟩ : Py.Returns
      (failing ctx.operational (suspensionThreshold ctx) s.eligible) :=
    (failing_returns_iff _ _ _).2 (.inr h)
  have hmem := mem_failing hremoved
  rw [NarrowsAt, rule10_ok hs.bound hremoved]
  apply deliveryGate_narrows
  exact ⟨hs.bound, hs.unlocked, mem_suspend hs.eligible hmem⟩

theorem engaged_true_iff (score : Rat) (th : Option Py.Value) (ch : Ch) (ordered : List Ch) :
    engaged score th ch ordered = .ok true ↔ AtLeast (some score) th ∧ ch ∈ ordered := by
  rw [← crosses_geValue_iff]
  rw [engaged]
  match crosses Py.geValue (some score) th with
  | .error e => simp [Except.map]
  | .ok true => simp [Except.map]
  | .ok false => simp [Except.map]

theorem engaged_returns_iff (score : Rat) (th : Option Py.Value) (ch : Ch) (ordered : List Ch) :
    Py.Returns (engaged score th ch ordered) ↔ Compares (some score) th :=
  Py.returns_map.trans (crosses_returns_iff geValue_raisesOnText _ _)

theorem engagedChannel_returns_iff (hs : ∀ ch, ch ∈ ordered ↔ P ch)
    (hscore : ctx.operational.engagementSignalScore = some score) :
    Py.Returns (engagedChannel score (tb ctx) ordered) ↔ EngagementCompares P ctx := by
  rw [engagedChannel, EngagementCompares]
  rw [Py.returns_test (Py.returns_pure _), Py.returns_test (Py.returns_pure _),
    Py.returns_test (Py.returns_pure _)]
  simp only [engaged_true_iff, engaged_returns_iff, hs, hscore, Py.returns_pure, or_true, and_true]

theorem applyAiSignal_scopeLocked (ctx : ChannelAdvisoryContext) (s : Advice) :
    (applyAiSignal ctx s).scopeLocked = s.scopeLocked := by
  unfold applyAiSignal
  dsimp only
  match preferredBySignal ctx.ai.aiChannelPreferenceSignal with
  | none => rfl
  | some ch =>
    dsimp only
    split_ifs <;> rfl

theorem adjustForAi_scopeLocked (ctx : ChannelAdvisoryContext) (s : Advice) :
    (adjustForAi ctx s).scopeLocked = s.scopeLocked := by
  rw [adjustForAi]
  split_ifs
  · exact applyAiSignal_scopeLocked ctx s
  · rfl
  · rfl
  · rfl
  · rfl

theorem preferred_deliveryScope (ch : Ch) : Scope.preferred ch ∈ deliveryScopes := by
  cases ch <;> decide

theorem multiChannelEligible_deliveryScope : Scope.multiChannelEligible ∈ deliveryScopes := by
  decide

theorem advisoryScope_delivery (h : s.scopeLocked = none) : advisoryScope s ∈ deliveryScopes := by
  rw [advisoryScope]
  rw [h]
  dsimp only
  match s.candidates with
  | [] => exact multiChannelEligible_deliveryScope
  | ch :: rest =>
    dsimp only
    split_ifs
    · exact preferred_deliveryScope ch
    · exact multiChannelEligible_deliveryScope

def Live (gov : GovernanceCtx) (e : Emission) : Prop := liveOk gov e = true

theorem live_iff (hlive : LiveExecution gov) (e : Emission) :
    Live gov e ↔ e.produced = true ∧ e.scope ∈ deliveryScopes ∧ e.blocked = false := by
  rw [Live, liveOk]
  simp [hlive.1, hlive.2, isReplayType, and_assoc]

theorem not_live {e : Emission} (h : e.scope ∉ deliveryScopes) : ¬ Live gov e := by
  simp [Live, liveOk, h]

theorem not_yields_exit {r : Rule Advice Emission}
    (h : ∃ e, r s = .ok (.exit e) ∧ e.scope ∉ deliveryScopes) :
    ¬ Yields rule13 (r :: rest) s (Live gov) := by
  obtain ⟨e, he, hscope⟩ := h
  rw [yields_exit he]
  exact not_live hscope

/-- A rule that narrows the channels down, in front of what depends on the channels left. -/
theorem yields_narrows {r : Rule Advice Emission} {p : Prop} (h : NarrowsAt ctx P r s)
    (hrest : ∀ s', (∃ ch, P ch) → At ctx P s' → (Yields rule13 rest s' (Live gov) ↔ p)) :
    Yields rule13 (r :: rest) s (Live gov) ↔ (∃ ch, P ch) ∧ p := by
  by_cases hex : ∃ ch, P ch
  · obtain ⟨s', hs', hat⟩ := h.1 hex
    rw [yields_next hs', hrest s' hex hat]
    exact (and_iff_right hex).symm
  · exact iff_of_false (not_yields_exit (h.2 hex)) fun hp => hex hp.1

theorem prioritizeChannels_returns_iff (hs : At ctx P s) :
    Py.Returns (prioritizeChannels s.eligible ctx.operational s.tb) ↔ EngagementCompares P ctx := by
  rw [prioritizeChannels, engagement]
  rw [Py.returns_map, hs.bound]
  cases hscore : ctx.operational.engagementSignalScore with
  | some score => exact engagedChannel_returns_iff hs.eligible hscore
  | none =>
    apply iff_of_true (Py.returns_ok _)
    simp [EngagementCompares, Compares, hscore]

theorem yields_rule11 (hlive : LiveExecution ctx.governance) (hs : At ctx P s) :
    Yields rule13 [rule11 ctx, rule12 ctx] s (Live ctx.governance) ↔ EngagementCompares P ctx := by
  have hreturns := prioritizeChannels_returns_iff hs
  match hprior : prioritizeChannels s.eligible ctx.operational s.tb with
  | .error e =>
    have hraise : rule11 ctx s = .error e := by
      simp only [rule11, Advice.rule, hprior]
    rw [hprior] at hreturns
    exact iff_of_false (yields_error hraise) fun h => Py.not_returns_error e (hreturns.2 h)
  | .ok (candidates, hasPref, codes) =>
    have hnext : rule11 ctx s = .ok (.next { s.rule "RULE_11" with
        candidates := candidates, hasPref := hasPref, codes := s.codes ++ codes }) := by
      simp only [rule11, Advice.rule, hprior]
    rw [hprior] at hreturns
    rw [yields_next hnext, yields_next rfl, yields_nil, live_iff hlive]
    refine iff_of_true ⟨rfl, advisoryScope_delivery ?_, rfl⟩ (hreturns.1 (Py.returns_ok _))
    exact (adjustForAi_scopeLocked ctx _).trans hs.unlocked

theorem yields_rule10 (hlive : LiveExecution ctx.governance) (hs : At ctx P s)
    (hex : ∃ ch, P ch) :
    Yields rule13 [rule10 ctx, rule11 ctx, rule12 ctx] s (Live ctx.governance) ↔
      Numeric (suspensionThreshold ctx) ∧
        (∃ ch, P ch ∧
          ¬ AtLeast (some (failureCount ctx.operational ch)) (suspensionThreshold ctx)) ∧
        EngagementCompares (fun ch => P ch ∧
          ¬ AtLeast (some (failureCount ctx.operational ch)) (suspensionThreshold ctx)) ctx := by
  by_cases hnumeric : Numeric (suspensionThreshold ctx)
  · rw [yields_narrows (rule10_narrows hs hnumeric) fun s' _ hs' => yields_rule11 hlive hs']
    exact (and_iff_right hnumeric).symm
  · obtain ⟨e, he⟩ := rule10_raises hs.bound (hs.eligible_ne_nil hex) hnumeric
    exact iff_of_false (yields_error he) fun h => hnumeric h.1

theorem rule9_original (h : isReplayType ctx.governance.executionType = false) (s : Advice) :
    rule9 ctx s = .ok (.next s) := if_neg (by simp [h])

theorem rule8_next (hs : At ctx P s) (hex : ∃ ch, P ch) :
    ∃ s', rule8 ctx s = .ok (.next s') ∧ At ctx P s' := by
  have hne : s.eligible ≠ [] := hs.eligible_ne_nil hex
  rw [rule8]
  dsimp only
  split_ifs with hexhausted
  · exact absurd hexhausted.2 hne
  · exact ⟨_, rfl, hs.bound, hs.unlocked, hs.eligible⟩
  · exact ⟨_, rfl, hs.bound, hs.unlocked, hs.eligible⟩

/-- The channels RULE 7 leaves to a live execution must also outlast RULES 10 and 11. -/
theorem yields_rule8 (hlive : LiveExecution ctx.governance) (hs : At ctx P s)
    (hex : ∃ ch, P ch) (hP : ∀ ch, P ch ↔ Open ctx.operational ch) :
    Yields rule13 [rule8 ctx, rule9 ctx, rule10 ctx, rule11 ctx, rule12 ctx] s
        (Live ctx.governance) ↔
      Numeric (suspensionThreshold ctx) ∧ (∃ ch, Usable ctx ch) ∧
        EngagementCompares (Usable ctx) ctx := by
  have horiginal : isReplayType ctx.governance.executionType = false := by
    simp [isReplayType, hlive.2]
  have husable : (fun ch => P ch ∧ ¬ AtLeast (some (failureCount ctx.operational ch))
      (suspensionThreshold ctx)) = Usable ctx := by
    funext ch
    rw [hP ch]
    exact propext ⟨fun h => ⟨h.1, h.2⟩, fun h => ⟨h.isOpen, h.delivery⟩⟩
  obtain ⟨s', hs', hat⟩ := rule8_next hs hex
  rw [yields_next hs', yields_next (rule9_original horiginal s'), yields_rule10 hlive hat hex,
    husable]

theorem rule5_next (hs : At ctx P s) (h : ¬ TierRaises env ctx) :
    ∃ s', rule5 env ctx s = .ok (.next s') ∧ At ctx P s' := by
  obtain ⟨⟨tier, out, codes⟩, htier⟩ := (assessAiTier_returns_iff env ctx s.aiOut).2 h
  rw [← hs.bound] at htier
  simp only [rule5, Advice.rule, htier]
  split_ifs
  · exact ⟨_, rfl, hs.bound, hs.unlocked, hs.eligible⟩
  · exact ⟨_, rfl, hs.bound, hs.unlocked, hs.eligible⟩
  · exact ⟨_, rfl, hs.bound, hs.unlocked, hs.eligible⟩

theorem rule5_raises (hs : At ctx P s) (h : TierRaises env ctx) :
    ∃ e, rule5 env ctx s = .error e := by
  have hraise := mt (assessAiTier_returns_iff env ctx s.aiOut).1 (not_not_intro h)
  rw [← hs.bound] at hraise
  match htier : assessAiTier env ctx.ai s.tb s.aiOut with
  | .ok out => exact absurd ⟨out, htier⟩ hraise
  | .error e =>
    refine ⟨e, ?_⟩
    simp only [rule5, Advice.rule, htier]

theorem yields_rule6 (hlive : LiveExecution ctx.governance)
    (hs : At ctx (fun ch => lacksContact ctx.operational ch = false) s) :
    Yields rule13 [rule6 ctx, rule7 ctx, rule8 ctx, rule9 ctx, rule10 ctx, rule11 ctx, rule12 ctx]
        s (Live ctx.governance) ↔
      Numeric (suspensionThreshold ctx) ∧ (∃ ch, Usable ctx ch) ∧
        EngagementCompares (Usable ctx) ctx := by
  rw [yields_narrows (rule6_narrows hs) fun s₁ _ hs₁ =>
    yields_narrows (rule7_narrows hs₁) fun s₂ hex hs₂ =>
      yields_rule8 hlive hs₂ hex fun ch =>
        ⟨fun h => ⟨h.1.1, h.1.2, h.2.1, h.2.2⟩,
          fun h => ⟨⟨h.contact, h.consent⟩, h.provider, h.suspension⟩⟩]
  constructor
  · intro h
    exact h.2.2
  · intro h
    obtain ⟨hnumeric, ⟨ch, hch⟩, hengagement⟩ := h
    have hopen := hch.isOpen
    exact ⟨⟨ch, hopen.contact, hopen.consent⟩,
      ⟨ch, ⟨hopen.contact, hopen.consent⟩, hopen.provider, hopen.suspension⟩,
      hnumeric, ⟨ch, hch⟩, hengagement⟩

theorem yields_rule5 (env : RuleEnv) (hlive : LiveExecution ctx.governance)
    (hs : At ctx (fun ch => lacksContact ctx.operational ch = false) s) :
    Yields rule13 [rule5 env ctx, rule6 ctx, rule7 ctx, rule8 ctx, rule9 ctx, rule10 ctx,
        rule11 ctx, rule12 ctx] s (Live ctx.governance) ↔
      ¬ TierRaises env ctx ∧ Numeric (suspensionThreshold ctx) ∧ (∃ ch, Usable ctx ch) ∧
        EngagementCompares (Usable ctx) ctx := by
  by_cases hraises : TierRaises env ctx
  · obtain ⟨e, he⟩ := rule5_raises hs hraises
    exact iff_of_false (yields_error he) fun h => h.1 hraises
  · obtain ⟨s', hs', hat⟩ := rule5_next hs hraises
    rw [yields_next hs', yields_rule6 hlive hat]
    exact (and_iff_right hraises).symm

theorem yields_rule4 (env : RuleEnv) (hlive : LiveExecution ctx.governance)
    (hbound : s.tb = tb ctx) (hunlocked : s.scopeLocked = none) (hs : s.prohibited = []) :
    Yields rule13 [rule4 ctx, rule5 env ctx, rule6 ctx, rule7 ctx, rule8 ctx, rule9 ctx,
        rule10 ctx, rule11 ctx, rule12 ctx] s (Live ctx.governance) ↔
      ¬ TierRaises env ctx ∧ Numeric (suspensionThreshold ctx) ∧ (∃ ch, Usable ctx ch) ∧
        EngagementCompares (Usable ctx) ctx := by
  rw [yields_narrows (rule4_narrows hbound hunlocked hs) fun s' _ hs' =>
    yields_rule5 env hlive hs']
  constructor
  · intro h
    exact h.2
  · intro h
    obtain ⟨ch, hch⟩ := h.2.2.1
    exact ⟨⟨ch, hch.isOpen.contact⟩, h⟩

theorem rule1_guards (ctx : ChannelAdvisoryContext) :
    Guards (Closed ctx) (fun _ e => e.scope ∉ deliveryScopes) (·.rule "RULE_1") (rule1 ctx) :=
  guards_of_ite (c := ctx.operational.outreachState = some "CLOSED") (fun _ => rfl)
    fun _ => none_not_deliveryScope

theorem rule2_guards (ctx : ChannelAdvisoryContext) :
    Guards (ctx.governance.complianceHoldFlag = true) (fun _ e => e.scope ∉ deliveryScopes)
      (·.rule "RULE_2") (rule2 ctx) :=
  guards_of_ite (fun _ => rfl) fun _ => none_not_deliveryScope

/-- The rules of a live execution permit live delivery exactly for the contexts that permit it. -/
theorem yields_live_iff (env : RuleEnv) (hlive : LiveExecution ctx.governance) :
    Yields rule13 (rules env ctx) (start ctx) (Live ctx.governance) ↔ PermitsLive env ctx := by
  by_cases hclosed : Closed ctx
  · exact iff_of_false (not_yields_exit ((rule1_guards _).exits hclosed _))
      fun h => h.notClosed hclosed
  · rw [rules, yields_next ((rule1_guards _).passes hclosed _)]
    cases hhold : ctx.governance.complianceHoldFlag with
    | true =>
      apply iff_of_false (not_yields_exit ((rule2_guards _).exits hhold _))
      intro h
      cases hhold.symm.trans h.hold
    | false =>
      rw [yields_next ((rule2_guards _).passes (ne_true_of_eq_false hhold) _), yields_next rfl,
        yields_rule4 env hlive rfl rfl rfl]
      constructor
      · intro h
        exact ⟨hlive, hclosed, hhold, h.1, h.2.1, h.2.2.1, h.2.2.2⟩
      · intro h
        exact ⟨h.ttl, h.failures, h.channel, h.engagement⟩

theorem executionType_valid (h0 : governancePreconditions gov = []) :
    gov.executionType ∈ ["original", "replay", "regeneration"] := by
  by_contra htype
  simp [governancePreconditions, htype] at h0

theorem live_execution (h0 : governancePreconditions gov = []) (h : Live gov e) :
    LiveExecution gov := by
  simp only [Live, liveOk, Bool.and_eq_true, beq_iff_eq, Bool.not_eq_true'] at h
  obtain ⟨⟨⟨-, hmode⟩, hreplay⟩, -⟩ := h
  have htype := executionType_valid h0
  simp only [List.mem_cons, List.not_mem_nil, or_false] at htype
  rcases htype with htype | htype | htype
  · exact ⟨hmode, htype⟩
  · simp [isReplayType, htype] at hreplay
  · simp [isReplayType, htype] at hreplay

theorem assess_eq_ok_iff (h0 : governancePreconditions ctx.governance = []) :
    assessChannelAdvisory env ctx = .ok a ↔
      ∃ e, eval rule13 (rules env ctx) (start ctx) = .ok e ∧ emit ctx e = a := by
  rw [assessChannelAdvisory]
  rw [if_neg (not_not_intro h0)]
  cases eval rule13 (rules env ctx) (start ctx) with
  | error e => simp [Except.map]
  | ok e => simp [Except.map]

theorem settle_live (gov : GovernanceCtx) (e : Emission) :
    (settle gov e).liveDeliveryPermitted = liveOk gov e := by
  rw [settle]
  dsimp only
  split_ifs with hreplay hshadow hlive
  · rfl
  · rfl
  · rfl
  · rfl

/-- The scope is authorized exactly where live delivery is permitted. -/
theorem settle_authorized_iff (h0 : governancePreconditions gov = []) (e : Emission) :
    (settle gov e).governanceScope = "AUTHORIZED" ↔ Live gov e := by
  constructor
  · intro h
    rw [settle] at h
    dsimp only at h
    split_ifs at h with hreplay hshadow hlive
    · simp at h
    · simp at h
    · exact hlive
    · simp at h
  · intro h
    obtain ⟨hmode, htype⟩ := live_execution h0 h
    have hlive : liveOk gov e = true := h
    simp [settle, isReplayType, hmode, htype, hlive]

/-- Some advisory permits live delivery, or is authorized, exactly for the contexts that
permit it. -/
theorem permitsLive_iff (env : RuleEnv) (ctx : ChannelAdvisoryContext) :
    (∃ a, assessChannelAdvisory env ctx = .ok a ∧
        (a.governanceConstraints.liveDeliveryPermitted = true ∨
          a.governanceConstraints.governanceScope = "AUTHORIZED")) ↔
      governancePreconditions ctx.governance = [] ∧ PermitsLive env ctx := by
  by_cases h0 : governancePreconditions ctx.governance = []
  · simp only [h0, true_and]
    constructor
    · intro h
      obtain ⟨a, ha, hlive⟩ := h
      obtain ⟨e, he, rfl⟩ := (assess_eq_ok_iff h0).1 ha
      have hlive : Live ctx.governance e := by
        rcases hlive with hlive | hscope
        · exact (settle_live ctx.governance e).symm.trans hlive
        · exact (settle_authorized_iff h0 e).1 hscope
      exact (yields_live_iff env (live_execution h0 hlive)).1 ⟨e, he, hlive⟩
    · intro h
      obtain ⟨e, he, hlive⟩ := (yields_live_iff env h.execution).2 h
      exact ⟨emit ctx e, (assess_eq_ok_iff h0).2 ⟨e, he, rfl⟩,
        .inl ((settle_live ctx.governance e).trans hlive)⟩
  · apply iff_of_false _ fun h => h0 h.1
    intro h
    obtain ⟨a, ha, hlive⟩ := h
    rw [assessChannelAdvisory, if_pos h0] at ha
    cases ha
    rcases hlive with hlive | hscope
    · cases hlive
    · simp [makeBlocked, initialConstraints] at hscope

end Channel
end StudentSuccess
