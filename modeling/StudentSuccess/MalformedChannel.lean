import StudentSuccess.MalformedThresholds

namespace StudentSuccess
namespace Channel
set_option autoImplicit true

open RuleChain

/-- The keys whose values the rules compare with. -/
def comparedKeys : List String := [kDeliveryFailSusp, kCallEng, kSmsEng, kEmailEng, kAiTtl]

/-- The context with the sentinel in the place of the malformed thresholds. -/
def ChannelAdvisoryContext.tolerant (ctx : ChannelAdvisoryContext) : ChannelAdvisoryContext :=
  { ctx with
    governance :=
      { ctx.governance with
        configRuleSet := StudentSuccess.tolerant comparedKeys ctx.governance.configRuleSet } }

/-- The states of an insight that RULE 5 goes by. -/
def consultedStates : List (Option String) :=
  [some "AI_GENERATING", some "AI_PENDING", some "AI_REVIEWED"]

/-- RULE 5 goes by an hours threshold that is no number as by one that is. -/
structure TtlMisread (ctx : ChannelAdvisoryContext) : Prop where
  unfinished : ctx.ai.aiFinalizedCopy = false
  malformed : ¬ Numeric (comparable (tb ctx).aiInsightTtlHours)
  consulted : ctx.ai.aiInsightState ∈ consultedStates

/-- The rules past RULE 3. -/
def lateRules (env : RuleEnv) (ctx : ChannelAdvisoryContext) : List (Rule Advice Emission) :=
  [rule4 ctx, rule5 env ctx, rule6 ctx, rule7 ctx, rule8 ctx, rule9 ctx, rule10 ctx, rule11 ctx,
    rule12 ctx]

/-- The evaluations stand in the same place, past RULE 3. -/
structure Alike (ctx : ChannelAdvisoryContext) (s s' : Advice) : Prop where
  bound : s.tb = tb ctx
  same : ∃ codes, s' = { s with tb := tb ctx.tolerant, codes := codes }

def SameExit (e e' : Emission) : Prop :=
  ∃ bindings codes, e' = { e with advice := { e.advice with tb := bindings, codes := codes } }

section
variable (ctx : ChannelAdvisoryContext)

theorem t_tolerant (key : String) (hkey : key ∈ keyMap) (h : key ∈ comparedKeys) :
    t ctx.tolerant key = onlyNumeric (t ctx key) := by
  rw [t, t, comparable_threshold takes_all hkey, comparable_threshold takes_all hkey]
  exact comparable_tolerant_of_mem h _

theorem suspensionThreshold_tolerant :
    suspensionThreshold ctx.tolerant = onlyNumeric (suspensionThreshold ctx) :=
  t_tolerant ctx kDeliveryFailSusp (by decide) (by decide)

theorem preferredInitialChannel_tolerant :
    (tb ctx.tolerant).preferredInitialChannel = (tb ctx).preferredInitialChannel := by
  have hkey : kPreferredChannel ∈ keyMap := by decide
  have hnot : kPreferredChannel ∉ comparedKeys := by decide
  have hget : Py.get? kPreferredChannel ctx.tolerant.governance.configRuleSet =
      Py.get? kPreferredChannel ctx.governance.configRuleSet := get?_tolerant_of_not_mem hnot _
  have hbound (ctx : ChannelAdvisoryContext) : (tb ctx).preferredInitialChannel =
      (Py.get? kPreferredChannel ctx.governance.configRuleSet).getD unknownV0 := by
    rw [← resolveThreshold_true]
    exact threshold_of_mem (fun _ => true) hkey _
  rw [hbound, hbound, hget]

theorem assessAiTier_unconsulted (hcopy : ai.aiFinalizedCopy = false)
    (h : ai.aiInsightState ∉ consultedStates) (env : RuleEnv) (bound : ThresholdBindings)
    (out : AIOutputCtx) :
    ∃ codes, assessAiTier env ai bound out =
      .ok (.unavailable, { out with aiGovernanceTier := .unavailable }, codes) := by
  have hstate (text : String) (hne : text ≠ "") (hnot : ai.aiInsightState ≠ some text) :
      ai.aiInsightState.getD "" ≠ text := by
    cases hsome : ai.aiInsightState with
    | none => exact hne.symm
    | some state => exact fun heq => hnot (hsome.trans (congrArg some heq))
  simp only [consultedStates, List.mem_cons, List.not_mem_nil, or_false, not_or] at h
  have hgenerating := hstate _ (by decide) h.1
  have hpending := hstate _ (by decide) h.2.1
  have hreviewed := hstate _ (by decide) h.2.2
  rw [assessAiTier]
  rw [hcopy]
  simp only [Bool.false_eq_true, if_false, hgenerating, hpending, hreviewed, or_self]
  cases comparable bound.aiInsightTtlHours with
  | none => exact ⟨_, rfl⟩
  | some ttl =>
    dsimp only
    split_ifs
    · exact ⟨_, rfl⟩
    · exact ⟨_, rfl⟩

theorem assessAiTier_unconfigured (hcopy : ai.aiFinalizedCopy = false)
    (h : comparable bound.aiInsightTtlHours = none) (env : RuleEnv) (out : AIOutputCtx) :
    ∃ codes, assessAiTier env ai bound out =
      .ok (.unavailable, { out with aiGovernanceTier := .unavailable }, codes) := by
  rw [assessAiTier]
  rw [hcopy, h]
  exact ⟨_, rfl⟩

/-- RULE 5 finds a tier for an insight in one of the states that it goes by. -/
theorem assessAiTier_consulted (hcopy : ai.aiFinalizedCopy = false)
    (h : ai.aiInsightState ∈ consultedStates)
    (hsome : comparable bound.aiInsightTtlHours = some ttl)
    (htier : assessAiTier env ai bound out = .ok (tier, out', codes)) :
    tier ≠ .unavailable ∧ out'.aiGovernanceTier = tier := by
  rw [assessAiTier] at htier
  rw [hcopy, hsome] at htier
  simp only [Bool.false_eq_true, if_false] at htier
  have hflight (hgets : ai.aiInsightState.getD "" = "AI_GENERATING" ∨
      ai.aiInsightState.getD "" = "AI_PENDING") : tier ≠ .unavailable ∧
      out'.aiGovernanceTier = tier := by
    rw [if_pos hgets] at htier
    cases htier
    exact ⟨by decide, rfl⟩
  simp only [consultedStates, List.mem_cons, List.not_mem_nil, or_false] at h
  rcases h with hstate | hstate | hstate
  · exact hflight (.inl (by rw [hstate]; rfl))
  · exact hflight (.inr (by rw [hstate]; rfl))
  · rw [hstate] at htier
    simp only [Option.getD_some, or_self, if_false, if_true, String.reduceEq] at htier
    obtain ⟨stale, -, hout⟩ := Py.map_eq_ok.1 htier
    cases stale with
    | true =>
      cases hout
      exact ⟨by decide, rfl⟩
    | false =>
      cases hout
      refine ⟨?_, rfl⟩
      split_ifs <;> decide

/-- RULE 5 finds the same tier and makes the same output, unless it misreads the hours. -/
theorem assessAiTier_tolerant (h : ¬ TtlMisread ctx)
    (htier : assessAiTier env ctx.ai (tb ctx) out = .ok (tier, out', codes)) :
    ∃ codes', assessAiTier env ctx.ai (tb ctx.tolerant) out = .ok (tier, out', codes') := by
  have httl : comparable (tb ctx.tolerant).aiInsightTtlHours =
      onlyNumeric (comparable (tb ctx).aiInsightTtlHours) :=
    t_tolerant ctx kAiTtl (by decide) (by decide)
  by_cases hcopy : ctx.ai.aiFinalizedCopy = true
  · rw [assessAiTier] at htier ⊢
    rw [if_pos hcopy] at htier ⊢
    exact ⟨_, htier⟩
  · have hunfinished := Bool.eq_false_of_not_eq_true hcopy
    by_cases hnumeric : Numeric (comparable (tb ctx).aiInsightTtlHours)
    · rw [onlyNumeric_of_numeric hnumeric] at httl
      rw [assessAiTier] at htier ⊢
      rw [httl]
      exact ⟨_, htier⟩
    · have hstate : ctx.ai.aiInsightState ∉ consultedStates :=
        fun hstate => h ⟨hunfinished, hnumeric, hstate⟩
      obtain ⟨codes₁, h₁⟩ := assessAiTier_unconsulted hunfinished hstate env (tb ctx) out
      obtain ⟨codes₂, h₂⟩ := assessAiTier_unconsulted hunfinished hstate env (tb ctx.tolerant) out
      cases h₁.symm.trans htier
      exact ⟨codes₂, h₂⟩

theorem failing_extends (chs : List Ch) :
    Py.Extends (failing ctx.operational (suspensionThreshold ctx) chs)
      (failing ctx.operational (suspensionThreshold ctx.tolerant) chs) := by
  rw [suspensionThreshold_tolerant]
  induction chs with
  | nil => exact Py.extends_refl _
  | cons ch chs ih =>
    apply (crosses_extends geValue_raisesOnText _ _).bind
    intro reached
    apply ih.bind
    intro rest
    exact Py.extends_refl _

theorem engaged_extends (score : Rat) (v : Option Py.Value) (ch : Ch) (ordered : List Ch) :
    Py.Extends (engaged score v ch ordered) (engaged score (onlyNumeric v) ch ordered) :=
  (crosses_extends geValue_raisesOnText _ _).map _

theorem engagement_extends (eligible : List Ch) :
    Py.Extends (engagement eligible ctx.operational (tb ctx))
      (engagement eligible ctx.operational (tb ctx.tolerant)) := by
  have hcall : comparable (tb ctx.tolerant).callEngagementScoreThreshold =
      onlyNumeric (comparable (tb ctx).callEngagementScoreThreshold) :=
    t_tolerant ctx kCallEng (by decide) (by decide)
  have hsms : comparable (tb ctx.tolerant).smsEngagementScoreThreshold =
      onlyNumeric (comparable (tb ctx).smsEngagementScoreThreshold) :=
    t_tolerant ctx kSmsEng (by decide) (by decide)
  have hemail : comparable (tb ctx.tolerant).emailEngagementScoreThreshold =
      onlyNumeric (comparable (tb ctx).emailEngagementScoreThreshold) :=
    t_tolerant ctx kEmailEng (by decide) (by decide)
  simp only [engagement]
  cases ctx.operational.engagementSignalScore with
  | none => exact Py.extends_refl _
  | some score =>
    dsimp only
    simp only [engagedChannel]
    rw [hcall, hsms, hemail]
    apply (engaged_extends _ _ _ _).test
    apply (engaged_extends _ _ _ _).test
    apply (engaged_extends _ _ _ _).test
    exact Py.extends_refl _

theorem prioritizeChannels_tolerant
    (h : prioritizeChannels eligible ctx.operational (tb ctx) = .ok (candidates, hasPref, codes)) :
    ∃ codes', prioritizeChannels eligible ctx.operational (tb ctx.tolerant) =
      .ok (candidates, hasPref, codes') := by
  have horder (engaged : Option Ch) :
      order eligible (tb ctx.tolerant) engaged = order eligible (tb ctx) engaged := by
    simp only [order, configuredChannel]
    rw [preferredInitialChannel_tolerant]
  obtain ⟨engaged, hengaged, hout⟩ := Py.map_eq_ok.1 h
  cases hout
  have hengaged' := engagement_extends ctx eligible engaged hengaged
  rw [← horder]
  exact ⟨_, Py.map_eq_ok.2 ⟨engaged, hengaged', rfl⟩⟩

def FollowsIn (r r' : Rule Advice Emission) : Prop := FollowsRule (Alike ctx) SameExit r r'

/-- A rule that ends for want of a channel follows one that does. -/
theorem follows_ite {left left' : Advice} {e e' : Emission} (hleft : Alike ctx left left')
    (he : SameExit e e') :
    Follows (Alike ctx) SameExit
      (if left.eligible = [] then .ok (.exit e) else .ok (.next left) :
        Except Py.Error (Step Advice Emission))
      (if left'.eligible = [] then .ok (.exit e') else .ok (.next left')) := by
  have heligible : left'.eligible = left.eligible := by
    obtain ⟨-, codes, rfl⟩ := hleft
    rfl
  rw [heligible]
  split_ifs
  · exact .exit he
  · exact .next hleft

theorem rule4_follows : FollowsIn ctx (rule4 ctx) (rule4 ctx.tolerant) := by
  intro s s' hs
  obtain ⟨hbound, codes, rfl⟩ := hs
  exact follows_ite ctx ⟨hbound, _, rfl⟩ ⟨_, _, rfl⟩

theorem rule5_follows (env : RuleEnv) (h : ¬ TtlMisread ctx) :
    FollowsIn ctx (rule5 env ctx) (rule5 env ctx.tolerant) := by
  intro s s' hs
  obtain ⟨hbound, codes, rfl⟩ := hs
  have hai : ctx.tolerant.ai = ctx.ai := rfl
  have hgov : ctx.tolerant.governance.executionType = ctx.governance.executionType := rfl
  unfold rule5
  dsimp only [Advice.rule]
  rw [hbound, hai, hgov]
  match htier : assessAiTier env ctx.ai (tb ctx) s.aiOut with
  | .error e => exact .error e _
  | .ok (tier, out, added) =>
    obtain ⟨added', htier'⟩ := assessAiTier_tolerant ctx h htier
    rw [htier']
    dsimp only [Advice.code]
    split_ifs
    · exact .next ⟨rfl, _, rfl⟩
    · exact .next ⟨rfl, _, rfl⟩
    · exact .next ⟨rfl, _, rfl⟩

theorem rule6_follows : FollowsIn ctx (rule6 ctx) (rule6 ctx.tolerant) := by
  intro s s' hs
  obtain ⟨hbound, codes, rfl⟩ := hs
  exact follows_ite ctx ⟨hbound, _, rfl⟩ ⟨_, _, rfl⟩

theorem rule7_follows : FollowsIn ctx (rule7 ctx) (rule7 ctx.tolerant) := by
  intro s s' hs
  obtain ⟨hbound, codes, rfl⟩ := hs
  exact follows_ite ctx ⟨hbound, _, rfl⟩ ⟨_, _, rfl⟩

theorem rule8_follows : FollowsIn ctx (rule8 ctx) (rule8 ctx.tolerant) := by
  intro s s' hs
  obtain ⟨hbound, codes, rfl⟩ := hs
  unfold rule8 ChannelAdvisoryContext.tolerant
  dsimp +instances only [Advice.rule, Advice.code, Advice.leave]
  split_ifs
  · exact .exit ⟨_, _, rfl⟩
  · exact .next ⟨hbound, _, rfl⟩
  · exact .next ⟨hbound, _, rfl⟩

theorem rule9_follows : FollowsIn ctx (rule9 ctx) (rule9 ctx.tolerant) := by
  intro s s' hs
  obtain ⟨hbound, codes, rfl⟩ := hs
  have htype : ctx.tolerant.governance.executionType = ctx.governance.executionType := rfl
  have hblocks : replayBlocks ctx.tolerant.governance = replayBlocks ctx.governance := rfl
  have hcopy : ctx.tolerant.ai.aiFinalizedCopy = ctx.ai.aiFinalizedCopy := rfl
  simp only [rule9]
  dsimp only [Advice.rule, Advice.code]
  rw [htype, hblocks, hcopy]
  split_ifs
  · exact .exit ⟨_, _, rfl⟩
  · exact .next ⟨hbound, _, rfl⟩
  · exact .next ⟨hbound, _, rfl⟩
  · exact .next ⟨hbound, _, rfl⟩

theorem rule10_follows : FollowsIn ctx (rule10 ctx) (rule10 ctx.tolerant) := by
  intro s s' hs
  obtain ⟨hbound, codes, rfl⟩ := hs
  have hoperational : ctx.tolerant.operational = ctx.operational := rfl
  have hextends := failing_extends ctx s.eligible
  unfold suspensionThreshold at hextends
  unfold rule10
  dsimp only [Advice.rule, Advice.codeIf]
  rw [hbound, hoperational]
  match hfailing : failing ctx.operational
      (comparable (tb ctx).deliveryFailureSuspensionThreshold) s.eligible with
  | .error e => exact .error e _
  | .ok removed =>
    rw [hextends removed hfailing]
    exact follows_ite ctx ⟨rfl, _, rfl⟩ ⟨_, _, rfl⟩

theorem rule11_follows : FollowsIn ctx (rule11 ctx) (rule11 ctx.tolerant) := by
  intro s s' hs
  obtain ⟨hbound, codes, rfl⟩ := hs
  have hoperational : ctx.tolerant.operational = ctx.operational := rfl
  unfold rule11
  dsimp only [Advice.rule]
  rw [hbound, hoperational]
  match hprior : prioritizeChannels s.eligible ctx.operational (tb ctx) with
  | .error e => exact .error e _
  | .ok (candidates, hasPref, added) =>
    obtain ⟨added', hprior'⟩ := prioritizeChannels_tolerant ctx hprior
    rw [hprior']
    exact .next ⟨rfl, _, rfl⟩

theorem applyAiSignal_alike (hs : Alike ctx s s') :
    Alike ctx (applyAiSignal ctx s) (applyAiSignal ctx.tolerant s') := by
  obtain ⟨hbound, codes, rfl⟩ := hs
  have hai : ctx.tolerant.ai = ctx.ai := rfl
  simp only [applyAiSignal]
  rw [hai]
  dsimp +instances only [Advice.prefer, Advice.code]
  match preferredBySignal ctx.ai.aiChannelPreferenceSignal with
  | none => exact ⟨hbound, _, rfl⟩
  | some ch =>
    dsimp only
    split_ifs
    · exact ⟨hbound, _, rfl⟩
    · exact ⟨hbound, _, rfl⟩
    · exact ⟨hbound, _, rfl⟩
    · exact ⟨hbound, _, rfl⟩

theorem adjustForAi_alike (hs : Alike ctx s s') :
    Alike ctx (adjustForAi ctx s) (adjustForAi ctx.tolerant s') := by
  have hsignal := applyAiSignal_alike ctx hs
  have hmode : ctx.tolerant.governance.executionMode = ctx.governance.executionMode := rfl
  obtain ⟨hbound, codes, rfl⟩ := hs
  simp only [adjustForAi]
  rw [hmode]
  dsimp +instances only
  split_ifs
  · exact hsignal
  · exact ⟨hbound, _, rfl⟩
  · exact ⟨hbound, _, rfl⟩
  · exact ⟨hbound, _, rfl⟩
  · exact ⟨hbound, _, rfl⟩

theorem rule12_follows : FollowsIn ctx (rule12 ctx) (rule12 ctx.tolerant) := by
  intro s s' hs
  have hrule : Alike ctx (s.rule "RULE_12") (s'.rule "RULE_12") := by
    obtain ⟨hbound, codes, rfl⟩ := hs
    exact ⟨hbound, codes, rfl⟩
  exact .next (adjustForAi_alike ctx hrule)

theorem lateRules_follow (env : RuleEnv) (h : ¬ TtlMisread ctx) :
    List.Forall₂ (FollowsIn ctx) (lateRules env ctx) (lateRules env ctx.tolerant) := by
  refine .cons (rule4_follows ctx) (.cons (rule5_follows ctx env h) (.cons (rule6_follows ctx)
    (.cons (rule7_follows ctx) (.cons (rule8_follows ctx) (.cons (rule9_follows ctx)
      (.cons (rule10_follows ctx) (.cons (rule11_follows ctx) (.cons (rule12_follows ctx)
        .nil))))))))

theorem rule13_follows (hs : Alike ctx s s') : SameExit (rule13 s) (rule13 s') := by
  obtain ⟨-, codes, rfl⟩ := hs
  exact ⟨_, _, rfl⟩

end

/-- The assessments are the same but for their codes and the bindings of the thresholds. -/
def SameAdvice (a a' : ChannelAdvisoryAssessment) : Prop :=
  a' = { a with reasonCodes := a'.reasonCodes, thresholdBindings := a'.thresholdBindings }

theorem SameExit.emit (ctx : ChannelAdvisoryContext) (h : SameExit e e') :
    SameAdvice (emit ctx e) (emit ctx.tolerant e') := by
  obtain ⟨bindings, codes, rfl⟩ := h
  rw [SameAdvice, Channel.emit]
  rfl

def Tiered (p : AiTier → Prop) (s : Advice) : Prop := p s.aiOut.aiGovernanceTier

def KeepsTier (p : AiTier → Prop) (r : Rule Advice Emission) : Prop :=
  Keeps (Tiered p) (Tiered p) (fun e => Tiered p e.advice) r

section
variable (p : AiTier → Prop) (ctx : ChannelAdvisoryContext)

theorem rule6_keepsTier : KeepsTier p (rule6 ctx) := by
  intro s hs
  rw [rule6]
  dsimp only
  split_ifs
  · exact hs
  · exact hs

theorem rule7_keepsTier : KeepsTier p (rule7 ctx) := by
  intro s hs
  rw [rule7]
  dsimp only
  split_ifs <;> exact hs

theorem rule8_keepsTier : KeepsTier p (rule8 ctx) := by
  intro s hs
  rw [rule8]
  dsimp only
  split_ifs
  · exact hs
  · exact hs
  · exact hs

theorem rule9_keepsTier (h : ctx.ai.aiFinalizedCopy = false) : KeepsTier p (rule9 ctx) := by
  intro s hs
  rw [rule9]
  simp only [h, Bool.false_eq_true, if_false]
  split_ifs
  · exact hs
  · exact hs
  · exact hs

theorem rule10_keepsTier : KeepsTier p (rule10 ctx) := by
  intro s hs
  unfold rule10
  dsimp only
  split
  · trivial
  · unfold deliveryGate
    split_ifs
    · exact hs
    · exact hs

theorem rule11_keepsTier : KeepsTier p (rule11 ctx) := by
  intro s hs
  unfold rule11
  dsimp only
  split
  · trivial
  · exact hs

theorem applyAiSignal_tiered (hs : Tiered p s) : Tiered p (applyAiSignal ctx s) := by
  unfold applyAiSignal
  dsimp only
  split
  · split_ifs
    · exact hs
    · exact hs
    · exact hs
    · exact hs
  · exact hs

theorem rule12_keepsTier : KeepsTier p (rule12 ctx) := by
  intro s hs
  rw [rule12, adjustForAi]
  split_ifs
  · exact applyAiSignal_tiered p ctx hs
  · exact hs
  · exact hs
  · exact hs
  · exact hs

theorem ensures_tier (h : ctx.ai.aiFinalizedCopy = false) :
    Ensures rule13 (Tiered p) (fun e => Tiered p e.advice)
      [rule6 ctx, rule7 ctx, rule8 ctx, rule9 ctx, rule10 ctx, rule11 ctx, rule12 ctx] := by
  apply ensures_of_keeps
  · intro r hr
    simp only [List.mem_cons, List.not_mem_nil, or_false] at hr
    rcases hr with rfl | rfl | rfl | rfl | rfl | rfl | rfl
    · exact rule6_keepsTier p ctx
    · exact rule7_keepsTier p ctx
    · exact rule8_keepsTier p ctx
    · exact rule9_keepsTier p ctx h
    · exact rule10_keepsTier p ctx
    · exact rule11_keepsTier p ctx
    · exact rule12_keepsTier p ctx
  · exact fun _ hs => hs

end

section
variable {ctx : ChannelAdvisoryContext} (h : TtlMisread ctx) (env : RuleEnv)
include h

theorem rule5_misreads :
    Keeps (fun s => s.tb = tb ctx) (Tiered (· ≠ .unavailable))
      (fun e => Tiered (· ≠ .unavailable) e.advice) (rule5 env ctx) := by
  intro s hbound
  obtain ⟨ttl, hsome⟩ : ∃ ttl, comparable (tb ctx).aiInsightTtlHours = some ttl := by
    by_contra hnone
    apply h.malformed
    intro w hw
    exact absurd ⟨w, hw⟩ hnone
  unfold rule5
  dsimp only [Advice.rule]
  rw [hbound]
  match htier : assessAiTier env ctx.ai (tb ctx) s.aiOut with
  | .error e => trivial
  | .ok (tier, out, codes) =>
    obtain ⟨hne, hout⟩ := assessAiTier_consulted h.unfinished h.consulted hsome htier
    have hstale : AiTier.stale ≠ .unavailable := by decide
    have hkept : out.aiGovernanceTier ≠ .unavailable := hout ▸ hne
    dsimp only
    split_ifs
    · exact hstale
    · exact hkept
    · exact hkept

theorem rule5_unconfigured :
    Keeps (fun s => s.tb = tb ctx.tolerant) (Tiered (· = .unavailable))
      (fun e => Tiered (· = .unavailable) e.advice) (rule5 env ctx.tolerant) := by
  intro s hbound
  have httl : comparable (tb ctx.tolerant).aiInsightTtlHours =
      onlyNumeric (comparable (tb ctx).aiInsightTtlHours) :=
    t_tolerant ctx kAiTtl (by decide) (by decide)
  rw [onlyNumeric_of_not_numeric h.malformed] at httl
  obtain ⟨codes, htier⟩ := assessAiTier_unconfigured h.unfinished httl env s.aiOut
  have hai : ctx.tolerant.ai = ctx.ai := rfl
  rw [rule5]
  dsimp only [Advice.rule]
  rw [hbound, hai, htier]
  exact rfl

theorem misread_differs (hs : Alike ctx s s')
    (hcontact : ∃ ch, lacksContact ctx.operational ch = false)
    (hunlocked : s.scopeLocked = none) (hprohibited : s.prohibited = [])
    (he : eval rule13 (lateRules env ctx) s = .ok e)
    (he' : eval rule13 (lateRules env ctx.tolerant) s' = .ok e') :
    e.advice.aiOut.aiGovernanceTier ≠ e'.advice.aiOut.aiGovernanceTier := by
  obtain ⟨s₁, h₁, hat⟩ := (rule4_narrows hs.bound hunlocked hprohibited).1 hcontact
  have hfollows := rule4_follows ctx s s' hs
  rw [h₁] at hfollows
  obtain ⟨s₁', h₁', hs₁⟩ := hfollows.of_next
  rw [lateRules, eval_next h₁] at he
  rw [lateRules, eval_next h₁'] at he'
  obtain ⟨hbound, codes, rfl⟩ := hs₁
  have htier : e.advice.aiOut.aiGovernanceTier ≠ .unavailable :=
    ensures_cons (rule5_misreads h env) (ensures_tier _ ctx h.unfinished) s₁ hbound e he
  have htier' : e'.advice.aiOut.aiGovernanceTier = .unavailable :=
    ensures_cons (rule5_unconfigured h env) (ensures_tier _ ctx.tolerant h.unfinished) _ rfl e' he'
  rw [htier']
  exact htier

end

def Completes (rest : List (Rule Advice Emission)) (s : Advice) : Prop :=
  Yields rule13 rest s fun _ => True

theorem completes_exit {r : Rule Advice Emission} (h : r s = .ok (.exit e)) :
    Completes (r :: rest) s := (yields_exit h).2 trivial

theorem completes_next {r : Rule Advice Emission} (h : r s = .ok (.next s')) :
    Completes (r :: rest) s ↔ Completes rest s' := yields_next h

theorem not_completes {r : Rule Advice Emission} (h : r s = .error e) :
    ¬ Completes (r :: rest) s := yields_error h

/-- A rule that narrows the channels down, in front of what depends on the channels left. -/
theorem completes_narrows {r : Rule Advice Emission} {p : Prop} (h : NarrowsAt ctx P r s)
    (hrest : ∀ s', (∃ ch, P ch) → At ctx P s' → (Completes rest s' ↔ p)) :
    Completes (r :: rest) s ↔ ((∃ ch, P ch) → p) := by
  by_cases hex : ∃ ch, P ch
  · obtain ⟨s', hs', hat⟩ := h.1 hex
    rw [completes_next hs', hrest s' hex hat]
    exact ⟨fun hp _ => hp, fun hp => hp hex⟩
  · obtain ⟨e, he, -⟩ := h.2 hex
    exact iff_of_true (completes_exit he) fun hp => absurd hp hex

/-- The evaluation has bound its thresholds and has the channels of `P` left, locked to a replay
or not. -/
structure Left (ctx : ChannelAdvisoryContext) (P : Ch → Prop) (s : Advice) : Prop where
  bound : s.tb = tb ctx
  eligible : ∀ ch, ch ∈ s.eligible ↔ P ch

theorem At.left (hs : At ctx P s) : Left ctx P s := ⟨hs.bound, hs.eligible⟩

theorem Left.unlocked (hs : Left ctx P s) : At ctx P { s with scopeLocked := none } :=
  ⟨hs.bound, rfl, hs.eligible⟩

theorem completes_rule11 (hs : Left ctx P s) :
    Completes [rule11 ctx, rule12 ctx] s ↔ EngagementCompares P ctx := by
  have hreturns := prioritizeChannels_returns_iff hs.unlocked
  dsimp only at hreturns
  match hprior : prioritizeChannels s.eligible ctx.operational s.tb with
  | .error e =>
    have hraise : rule11 ctx s = .error e := by
      simp only [rule11, Advice.rule, hprior]
    rw [hprior] at hreturns
    exact iff_of_false (not_completes hraise) fun h => Py.not_returns_error e (hreturns.2 h)
  | .ok (candidates, hasPref, codes) =>
    have hnext : rule11 ctx s = .ok (.next { s.rule "RULE_11" with
        candidates := candidates, hasPref := hasPref, codes := s.codes ++ codes }) := by
      simp only [rule11, Advice.rule, hprior]
    rw [hprior] at hreturns
    rw [completes_next hnext]
    exact iff_of_true ⟨_, rfl, trivial⟩ (hreturns.1 (Py.returns_ok _))

/-- The channels of `P` that RULE 10 leaves. -/
def Delivering (ctx : ChannelAdvisoryContext) (P : Ch → Prop) (ch : Ch) : Prop :=
  P ch ∧ ¬ AtLeast (some (failureCount ctx.operational ch)) (suspensionThreshold ctx)

/-- The end of RULE 10 and what follows, on the channels of `P` that are left. -/
theorem completes_deliveryGate {r : Rule Advice Emission} (hr : r s = deliveryGate left)
    (hleft : Left ctx P left) :
    Completes [r, rule11 ctx, rule12 ctx] s ↔ ((∃ ch, P ch) → EngagementCompares P ctx) := by
  have hnil : left.eligible = [] ↔ ¬ ∃ ch, P ch := hleft.unlocked.eligible_eq_nil_iff
  by_cases hex : ∃ ch, P ch
  · have hne : left.eligible ≠ [] := fun h => hnil.1 h hex
    rw [completes_next (hr.trans (if_neg hne)), completes_rule11 hleft]
    exact ⟨fun hp _ => hp, fun hp => hp hex⟩
  · exact iff_of_true (completes_exit (hr.trans (if_pos (hnil.2 hex)))) fun h => absurd h hex

theorem completes_rule10 (hs : Left ctx P s) (hex : ∃ ch, P ch) :
    Completes [rule10 ctx, rule11 ctx, rule12 ctx] s ↔
      Numeric (suspensionThreshold ctx) ∧
        ((∃ ch, Delivering ctx P ch) → EngagementCompares (Delivering ctx P) ctx) := by
  by_cases hnumeric : Numeric (suspensionThreshold ctx)
  · obtain ⟨removed, hremoved⟩ : Py.Returns
        (failing ctx.operational (suspensionThreshold ctx) s.eligible) :=
      (failing_returns_iff _ _ _).2 (.inr hnumeric)
    have hmem := mem_failing hremoved
    have hleft : Left ctx (Delivering ctx P) (((s.rule "RULE_10").codeIf
        (ctx.operational.channelDeliveryFailureCounts.getD []).isEmpty
        "DELIVERY_FAILURE_COUNTS_UNKNOWN").suspend removed) :=
      ⟨hs.bound, mem_suspend hs.eligible hmem⟩
    rw [completes_deliveryGate (rule10_ok hs.bound hremoved) hleft]
    exact (and_iff_right hnumeric).symm
  · apply iff_of_false _ fun h => hnumeric h.1
    obtain ⟨e, he⟩ := rule10_raises hs.bound (hs.unlocked.eligible_ne_nil hex) hnumeric
    exact not_completes he

def ReplayBlocked (ctx : ChannelAdvisoryContext) : Prop :=
  isReplayType ctx.governance.executionType = true ∧ replayBlocks ctx.governance ≠ []

def DeliveryCompares (ctx : ChannelAdvisoryContext) : Prop :=
  Numeric (suspensionThreshold ctx) ∧
    ((∃ ch, Usable ctx ch) → EngagementCompares (Usable ctx) ctx)

theorem rule9_locks (hreplay : isReplayType ctx.governance.executionType = true)
    (hblocks : replayBlocks ctx.governance = []) (hs : At ctx P s) :
    ∃ s', rule9 ctx s = .ok (.next s') ∧ Left ctx P s' := by
  refine ⟨_, (if_pos hreplay).trans (if_neg (not_not_intro hblocks)), ?_⟩
  split_ifs
  · exact ⟨hs.bound, hs.eligible⟩
  · exact ⟨hs.bound, hs.eligible⟩

theorem completes_rule9 (hs : At ctx P s) (hex : ∃ ch, P ch) :
    Completes [rule9 ctx, rule10 ctx, rule11 ctx, rule12 ctx] s ↔
      (¬ ReplayBlocked ctx → Numeric (suspensionThreshold ctx) ∧
        ((∃ ch, Delivering ctx P ch) → EngagementCompares (Delivering ctx P) ctx)) := by
  cases hreplay : isReplayType ctx.governance.executionType with
  | false =>
    have hpass : ¬ ReplayBlocked ctx := fun h => Bool.noConfusion (hreplay.symm.trans h.1)
    rw [completes_next (rule9_original hreplay s), completes_rule10 hs.left hex]
    exact ⟨fun h _ => h, fun h => h hpass⟩
  | true =>
    by_cases hblocks : replayBlocks ctx.governance = []
    · have hpass : ¬ ReplayBlocked ctx := fun h => h.2 hblocks
      obtain ⟨s', hs', hleft⟩ := rule9_locks hreplay hblocks hs
      rw [completes_next hs', completes_rule10 hleft hex]
      exact ⟨fun h _ => h, fun h => h hpass⟩
    · have hexit : rule9 ctx s = .ok (.exit _) := (if_pos hreplay).trans (if_pos hblocks)
      exact iff_of_true (completes_exit hexit) fun h => absurd ⟨hreplay, hblocks⟩ h

theorem completes_rule8 (hs : At ctx P s) (hex : ∃ ch, P ch)
    (hP : ∀ ch, P ch ↔ Open ctx.operational ch) :
    Completes [rule8 ctx, rule9 ctx, rule10 ctx, rule11 ctx, rule12 ctx] s ↔
      (¬ ReplayBlocked ctx → DeliveryCompares ctx) := by
  have husable : Delivering ctx P = Usable ctx := by
    funext ch
    rw [Delivering, hP ch]
    exact propext ⟨fun h => ⟨h.1, h.2⟩, fun h => ⟨h.isOpen, h.delivery⟩⟩
  obtain ⟨s', hs', hat⟩ := rule8_next hs hex
  rw [completes_next hs', completes_rule9 hat hex, husable, DeliveryCompares]

/-- The rules from the opt-outs on. -/
theorem completes_rule6 (hs : At ctx (fun ch => lacksContact ctx.operational ch = false) s) :
    Completes [rule6 ctx, rule7 ctx, rule8 ctx, rule9 ctx, rule10 ctx, rule11 ctx, rule12 ctx] s ↔
      ((∃ ch, Open ctx.operational ch) → ¬ ReplayBlocked ctx → DeliveryCompares ctx) := by
  rw [completes_narrows (rule6_narrows hs) fun s₁ _ hs₁ =>
    completes_narrows (rule7_narrows hs₁) fun s₂ hex hs₂ =>
      completes_rule8 hs₂ hex fun ch =>
        ⟨fun h => ⟨h.1.1, h.1.2, h.2.1, h.2.2⟩,
          fun h => ⟨⟨h.contact, h.consent⟩, h.provider, h.suspension⟩⟩]
  constructor
  · intro h hopen
    obtain ⟨ch, hch⟩ := hopen
    exact h ⟨ch, hch.contact, hch.consent⟩
      ⟨ch, ⟨hch.contact, hch.consent⟩, hch.provider, hch.suspension⟩
  · intro h _ hleft
    obtain ⟨ch, hcontact, hprovider⟩ := hleft
    exact h ⟨ch, hcontact.1, hcontact.2, hprovider.1, hprovider.2⟩

theorem completes_rule5 (env : RuleEnv)
    (hs : At ctx (fun ch => lacksContact ctx.operational ch = false) s) :
    Completes [rule5 env ctx, rule6 ctx, rule7 ctx, rule8 ctx, rule9 ctx, rule10 ctx, rule11 ctx,
        rule12 ctx] s ↔
      ¬ TierRaises env ctx ∧
        ((∃ ch, Open ctx.operational ch) → ¬ ReplayBlocked ctx → DeliveryCompares ctx) := by
  by_cases hraises : TierRaises env ctx
  · obtain ⟨e, he⟩ := rule5_raises hs hraises
    exact iff_of_false (not_completes he) fun h => h.1 hraises
  · obtain ⟨s', hs', hat⟩ := rule5_next hs hraises
    rw [completes_next hs', completes_rule6 hat]
    exact (and_iff_right hraises).symm

structure ReachesTier (ctx : ChannelAdvisoryContext) : Prop where
  resolves : Resolves ctx
  contact : ∃ ch, lacksContact ctx.operational ch = false

/-- No comparison that the evaluation makes raises. -/
def EvaluationCompares (env : RuleEnv) (ctx : ChannelAdvisoryContext) : Prop :=
  ReachesTier ctx → ¬ TierRaises env ctx ∧
    ((∃ ch, Open ctx.operational ch) → ¬ ReplayBlocked ctx → DeliveryCompares ctx)

/-- What stands of two evaluations that come to RULE 4. -/
structure Opens (ctx : ChannelAdvisoryContext) (s s' : Advice) : Prop where
  alike : Alike ctx s s'
  unlocked : s.scopeLocked = none
  prohibited : s.prohibited = []

theorem evals_rule4 (h : Resolves ctx) (env : RuleEnv) :
    ∃ s s', Opens ctx s s' ∧
      eval rule13 (rules env ctx) (start ctx) = eval rule13 (lateRules env ctx) s ∧
      eval rule13 (rules env ctx.tolerant) (start ctx.tolerant) =
        eval rule13 (lateRules env ctx.tolerant) s' := by
  obtain ⟨-, hopen, hfree⟩ := h
  have hopen' : ¬ Closed ctx.tolerant := hopen
  have hfree' : ctx.tolerant.governance.complianceHoldFlag = false := hfree
  have hwarnings : missingThresholdKeys (fun _ => true) keyMap
      ctx.tolerant.governance.configRuleSet =
      missingThresholdKeys (fun _ => true) keyMap ctx.governance.configRuleSet :=
    missing_tolerant _ _ _
  have h3 (ctx : ChannelAdvisoryContext) (s : Advice) : rule3 ctx s = .ok (.next _) := rfl
  rw [rules, rules, eval_next ((rule1_guards _).passes hopen _),
    eval_next ((rule2_guards _).passes (ne_true_of_eq_false hfree) _),
    eval_next (h3 ctx _), eval_next ((rule1_guards _).passes hopen' _),
    eval_next ((rule2_guards _).passes (ne_true_of_eq_false hfree') _),
    eval_next (h3 ctx.tolerant _), hwarnings]
  exact ⟨_, _, ⟨⟨rfl, _, rfl⟩, rfl, rfl⟩, rfl, rfl⟩

/-- An evaluation that ends before RULE 3 ends the same way for the other context. -/
theorem evals_early (h0 : governancePreconditions ctx.governance = []) (h : ¬ Resolves ctx)
    (env : RuleEnv) :
    ∃ e, eval rule13 (rules env ctx) (start ctx) = .ok e ∧
      eval rule13 (rules env ctx.tolerant) (start ctx.tolerant) = .ok e := by
  by_cases hclosed : Closed ctx
  · have h1 : rule1 ctx (start ctx) = .ok (.exit _) := if_pos hclosed
    have h1' : rule1 ctx.tolerant (start ctx.tolerant) = .ok (.exit _) := if_pos hclosed
    exact ⟨_, eval_exit h1, eval_exit h1'⟩
  · have hhold : ctx.governance.complianceHoldFlag = true := by
      by_contra hfree
      exact h ⟨h0, hclosed, Bool.eq_false_of_not_eq_true hfree⟩
    have hclosed' : ¬ Closed ctx.tolerant := hclosed
    have h2 (s : Advice) : rule2 ctx s = .ok (.exit _) := if_pos hhold
    have h2' (s : Advice) : rule2 ctx.tolerant s = .ok (.exit _) := if_pos hhold
    rw [rules, rules, eval_next ((rule1_guards _).passes hclosed _),
      eval_next ((rule1_guards _).passes hclosed' _)]
    exact ⟨_, eval_exit (h2 _), eval_exit (h2' _)⟩

theorem completes_rule4 (env : RuleEnv) (h : Resolves ctx) (hs : Opens ctx s s') :
    Completes (lateRules env ctx) s ↔ EvaluationCompares env ctx := by
  have hnarrows := rule4_narrows hs.alike.bound hs.unlocked hs.prohibited
  rw [lateRules, completes_narrows hnarrows fun s₁ _ hs₁ => completes_rule5 env hs₁]
  exact ⟨fun hp hreaches => hp hreaches.contact, fun hp hcontact => hp ⟨h, hcontact⟩⟩

/-- The assessment returns exactly when none of the comparisons it makes raises. -/
theorem assess_returns_iff (env : RuleEnv) (ctx : ChannelAdvisoryContext) :
    Py.Returns (assessChannelAdvisory env ctx) ↔ EvaluationCompares env ctx := by
  by_cases h0 : governancePreconditions ctx.governance = []
  · rw [assessChannelAdvisory, if_neg (not_not_intro h0), Py.returns_map]
    by_cases h : Resolves ctx
    · obtain ⟨s, s', hs, heval, -⟩ := evals_rule4 h env
      rw [heval, ← completes_rule4 env h hs]
      constructor
      · intro hreturns
        obtain ⟨e, he⟩ := hreturns
        exact ⟨e, he, trivial⟩
      · intro hcompletes
        obtain ⟨e, he, -⟩ := hcompletes
        exact ⟨e, he⟩
    · obtain ⟨e, he, -⟩ := evals_early h0 h env
      rw [he]
      exact iff_of_true (Py.returns_ok _) fun hreaches => absurd hreaches.resolves h
  · rw [assessChannelAdvisory, if_pos h0]
    exact iff_of_true (Py.returns_ok _) fun hreaches => absurd hreaches.resolves.1 h0

theorem evals_tolerant (h : Resolves ctx) (hread : ReachesTier ctx → ¬ TtlMisread ctx)
    (hs : Opens ctx s s') (he : eval rule13 (lateRules env ctx) s = .ok e) :
    ∃ e', eval rule13 (lateRules env ctx.tolerant) s' = .ok e' ∧ SameExit e e' := by
  by_cases hcontact : ∃ ch, lacksContact ctx.operational ch = false
  · exact eval_follows (lateRules_follow ctx env (hread ⟨h, hcontact⟩))
      (fun _ _ => rule13_follows ctx) hs.alike he
  · obtain ⟨out, h4, -⟩ :=
      (rule4_narrows hs.alike.bound hs.unlocked hs.prohibited).2 hcontact
    have hfollows := rule4_follows ctx s s' hs.alike
    rw [h4] at hfollows
    obtain ⟨out', h4', hsame⟩ := hfollows.of_exit
    rw [lateRules, eval_exit h4] at he
    cases he
    exact ⟨out', eval_exit h4', hsame⟩

/-- What an advisory says is said where the malformed thresholds are the sentinel. -/
theorem assess_tolerant (hread : ReachesTier ctx → ¬ TtlMisread ctx)
    (ha : assessChannelAdvisory env ctx = .ok a) :
    ∃ a', assessChannelAdvisory env ctx.tolerant = .ok a' ∧ SameAdvice a a' := by
  have hgate : governancePreconditions ctx.tolerant.governance =
      governancePreconditions ctx.governance := rfl
  by_cases h0 : governancePreconditions ctx.governance = []
  · obtain ⟨e, he, rfl⟩ := (assess_eq_ok_iff h0).1 ha
    by_cases h : Resolves ctx
    · obtain ⟨s, s', hs, heval, heval'⟩ := evals_rule4 h env
      rw [heval] at he
      obtain ⟨e', he', hsame⟩ := evals_tolerant h hread hs he
      rw [← heval'] at he'
      exact ⟨_, (assess_eq_ok_iff (hgate.trans h0)).2 ⟨e', he', rfl⟩, hsame.emit ctx⟩
    · obtain ⟨e', he', hsame⟩ := evals_early h0 h env
      cases he'.symm.trans he
      have hrefl : SameExit e e := ⟨_, _, rfl⟩
      exact ⟨_, (assess_eq_ok_iff (hgate.trans h0)).2 ⟨e, hsame, rfl⟩, hrefl.emit ctx⟩
  · rw [assessChannelAdvisory, if_pos h0] at ha
    cases ha
    refine ⟨makeBlocked ctx.tolerant (governancePreconditions ctx.governance), ?_, rfl⟩
    rw [assessChannelAdvisory, hgate, if_pos h0]

theorem misread_not_same (h : ReachesTier ctx) (hmisread : TtlMisread ctx)
    (ha : assessChannelAdvisory env ctx = .ok a)
    (ha' : assessChannelAdvisory env ctx.tolerant = .ok a') : ¬ SameAdvice a a' := by
  have h0' : governancePreconditions ctx.tolerant.governance = [] := h.resolves.1
  obtain ⟨e, he, rfl⟩ := (assess_eq_ok_iff h.resolves.1).1 ha
  obtain ⟨e', he', rfl⟩ := (assess_eq_ok_iff h0').1 ha'
  obtain ⟨s, s', hs, heval, heval'⟩ := evals_rule4 h.resolves env
  rw [heval] at he
  rw [heval'] at he'
  have hdiffers := misread_differs hmisread env hs.alike h.contact hs.unlocked hs.prohibited he he'
  intro hsame
  have hcontext := congrArg (fun a => a.aiContext.aiGovernanceTier) hsame
  exact hdiffers hcontext.symm

/-- The evaluation returns, and takes the malformed thresholds for the sentinel. -/
def Tolerates (env : RuleEnv) (ctx : ChannelAdvisoryContext) : Prop :=
  ∃ a a', assessChannelAdvisory env ctx = .ok a ∧
    assessChannelAdvisory env ctx.tolerant = .ok a' ∧ SameAdvice a a'

theorem tolerates_iff (env : RuleEnv) (ctx : ChannelAdvisoryContext) :
    Tolerates env ctx ↔ EvaluationCompares env ctx ∧ (ReachesTier ctx → ¬ TtlMisread ctx) := by
  rw [← assess_returns_iff]
  constructor
  · intro h
    obtain ⟨a, a', ha, ha', hsame⟩ := h
    exact ⟨⟨a, ha⟩, fun hreaches hmisread => misread_not_same hreaches hmisread ha ha' hsame⟩
  · intro h
    obtain ⟨⟨a, ha⟩, hread⟩ := h
    obtain ⟨a', ha', hsame⟩ := assess_tolerant hread ha
    exact ⟨a, a', ha, ha', hsame⟩

end Channel

namespace Decision

open RuleChain

/-- The configuration gives the ceiling of the attempts as a word. -/
def wordyDecision : DecisionContext :=
  { trendDecision none with
    governance :=
      { (trendDecision none).governance with configRuleSet := [(kMaxAttempts, .str "three")] } }

theorem wordyDecision_raises :
    evaluateOrchestrationIntent trendEnv wordyDecision = .error .typeError ∧
      ¬ Tolerates trendEnv wordyDecision := by
  have hgate : preconditionCodes wordyDecision.governance = [] := by decide
  have hverdict : verdict wordyDecision = .error .typeError := rfl
  have hagree := agree_evaluate trendEnv hgate (by decide)
  rw [hverdict] at hagree
  have hraises : evaluateOrchestrationIntent trendEnv wordyDecision = .error .typeError := by
    cases hagree
    rfl
  refine ⟨hraises, ?_⟩
  intro h
  obtain ⟨r, -, hr, -⟩ := h
  cases hraises.symm.trans hr

end Decision

/-- Each engine tolerates the malformed thresholds of exactly the contexts on whose way none of
them is compared with, or read as hours. -/
theorem tolerates_malformed_iff (env : RuleEnv) (keys : List String)
    (eligibility : Eligibility.EligibilityContext) (channel : Channel.ChannelAdvisoryContext)
    (decision : Decision.DecisionContext) (alert : Alerts.AlertClassificationContext) :
    (Eligibility.Tolerates env eligibility ↔ Eligibility.EvaluationCompares env eligibility) ∧
    (Channel.Tolerates env channel ↔ Channel.EvaluationCompares env channel ∧
      (Channel.ReachesTier channel → ¬ Channel.TtlMisread channel)) ∧
    (Decision.Tolerates env decision ↔
      (Decision.Resolves decision → Decision.EvaluationCompares decision)) ∧
    (Alerts.Tolerates keys alert ↔
      (Alerts.Classifies keys alert → Alerts.SeverityCompares alert)) := by
  have heligibility := (Eligibility.tolerates_iff_returns env eligibility).trans
    (Eligibility.assess_returns_iff env eligibility)
  have hdecision := (Decision.tolerates_iff_returns env decision).trans
    (Decision.evaluate_returns_iff env decision)
  have halert := (Alerts.tolerates_iff_returns keys alert).trans
    (Alerts.classify_returns_iff keys alert)
  exact ⟨heligibility, Channel.tolerates_iff env channel, hdecision, halert⟩

end StudentSuccess
