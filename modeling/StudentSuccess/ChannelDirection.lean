import StudentSuccess.ChannelRanking

namespace StudentSuccess
namespace ChannelRanking
set_option autoImplicit true
open Channel RuleChain Rankings

section
variable {env : RuleEnv} {ctx : ChannelAdvisoryContext} {s : Advice}

theorem degraded_iff (hprovided : provided op ch = true) :
    providerDegraded op ch = true ↔ Degraded op ch := by
  simp only [provided, Bool.and_eq_true, Bool.not_eq_true', Bool.or_eq_false_iff] at hprovided
  rw [providerDegraded, hprovided.2.1, hprovided.2.2, Degraded]
  simp

theorem mem_remaining : ch ∈ remaining ctx ↔ recommendable ctx ch = true := by
  have hall : ch ∈ allChannels := by cases ch <;> decide
  rw [remaining, degradedLast, List.mem_append, List.mem_filter, List.mem_filter, List.mem_filter]
  cases providerDegraded ctx.operational ch with
  | true => simp [hall]
  | false => simp [hall]

theorem nodup_remaining (ctx : ChannelAdvisoryContext) : (remaining ctx).Nodup := by
  have hall : (allChannels.filter (recommendable ctx)).Nodup :=
    List.Nodup.filter _ (by decide)
  rw [remaining, degradedLast, List.nodup_append]
  refine ⟨hall.filter _, hall.filter _, ?_⟩
  intro a ha b hb hab
  subst hab
  have hfalse := (List.mem_filter.1 ha).2
  rw [(List.mem_filter.1 hb).2] at hfalse
  cases hfalse

theorem not_above_remaining (hdegraded : Degraded ctx.operational ch)
    (hhealthy : Healthy ctx.operational ch') : ¬ Above (remaining ctx) ch ch' := by
  intro habove
  have hprovided := fun {ch} (hch : ch ∈ remaining ctx) =>
    provided_of_recommendable (mem_remaining.1 hch)
  refine not_above_of_last ?_ ?_ habove
  · exact (degraded_iff (hprovided habove.mem_left)).2 hdegraded
  · rw [← Bool.not_eq_true, degraded_iff (hprovided habove.mem_right)]
    intro h
    rw [Degraded, hhealthy] at h
    exact absurd h (by decide)

def rule11Moved (ctx : ChannelAdvisoryContext) : Option Ch :=
  (engagedChannelOf ctx).or (configuredChannel (tb ctx) (remaining ctx))

theorem engagedChannelOf_mem (h : engagedChannelOf ctx = some ch) : ch ∈ remaining ctx := by
  rw [engagedChannelOf] at h
  split at h
  · next engaged hengagement =>
    subst h
    rw [engagement] at hengagement
    split at hengagement
    · exact engagedChannel_mem hengagement
    · cases hengagement
  · cases h

theorem rule11Moved_mem (h : rule11Moved ctx = some ch) : ch ∈ remaining ctx := by
  rw [rule11Moved] at h
  cases hengaged : engagedChannelOf ctx with
  | some engaged =>
    rw [hengaged] at h
    cases h
    exact engagedChannelOf_mem hengaged
  | none =>
    rw [hengaged, Option.none_or] at h
    exact configuredChannel_mem h

theorem movedChannel_mem (h : movedChannel env ctx = some ch) : ch ∈ remaining ctx := by
  have hai : aiChannel ctx = some ch := by
    rw [movedChannel, confidentChannel, advisoryChannel] at h
    split_ifs at h with hconfident hadvisory
    · rwa [Option.or_self] at h
    · rwa [Option.or_none] at h
    · exact h
    · cases h
  rw [aiChannel] at hai
  exact of_decide_eq_true (Option.filter_eq_some_iff.1 hai).2

theorem preferred_of_aiChannel (h : aiChannel ctx = some ch) :
    preferredBySignal ctx.ai.aiChannelPreferenceSignal = some ch :=
  (Option.filter_eq_some_iff.1 h).1

theorem ne_of_health (hdegraded : Degraded op ch) (hhealthy : Healthy op ch') : ch ≠ ch' := by
  rintro rfl
  rw [Degraded, hhealthy] at hdegraded
  exact absurd hdegraded (by decide)

theorem rule11Order_eq (ctx : ChannelAdvisoryContext) : rule11Order ctx =
    match rule11Moved ctx with
    | some ch => promote ch (remaining ctx)
    | none => remaining ctx := rfl

theorem rule11Order_perm (ctx : ChannelAdvisoryContext) :
    (rule11Order ctx).Perm (remaining ctx) := by
  rw [rule11Order_eq]
  cases hmoved : rule11Moved ctx with
  | none => exact .refl _
  | some ch => exact promote_perm (rule11Moved_mem hmoved)

theorem ranking_perm (env : RuleEnv) (ctx : ChannelAdvisoryContext) :
    (ranking env ctx).Perm (remaining ctx) := by
  rw [ranking]
  cases hmoved : movedChannel env ctx with
  | none => exact rule11Order_perm ctx
  | some ch =>
    have hmem : ch ∈ rule11Order ctx := (rule11Order_perm ctx).mem_iff.2 (movedChannel_mem hmoved)
    exact (promote_perm hmem).trans (rule11Order_perm ctx)

theorem above_rule11Order (hdegraded : Degraded ctx.operational ch)
    (hhealthy : Healthy ctx.operational ch') :
    Above (rule11Order ctx) ch ch' ↔ rule11Moved ctx = some ch ∧ ch' ∈ remaining ctx := by
  have hremaining := not_above_remaining hdegraded hhealthy
  rw [rule11Order_eq]
  cases hmoved : rule11Moved ctx with
  | none => exact iff_of_false hremaining fun h => nomatch h.1
  | some x =>
    dsimp only
    rw [promote, above_moved (nodup_remaining ctx), Option.some.injEq]
    constructor
    · rintro ⟨-, ⟨rfl, hmem⟩ | ⟨-, habove⟩⟩
      · exact ⟨rfl, hmem⟩
      · exact absurd habove hremaining
    · rintro ⟨rfl, hmem⟩
      exact ⟨(ne_of_health hdegraded hhealthy).symm, .inl ⟨rfl, hmem⟩⟩

theorem above_ranking (hdegraded : Degraded ctx.operational ch)
    (hhealthy : Healthy ctx.operational ch') :
    Above (ranking env ctx) ch ch' ↔ ch' ∈ remaining ctx ∧ (movedChannel env ctx = some ch ∨
      movedChannel env ctx ≠ some ch ∧ movedChannel env ctx ≠ some ch' ∧
        rule11Moved ctx = some ch) := by
  have horder := above_rule11Order hdegraded hhealthy
  have hne := ne_of_health hdegraded hhealthy
  rw [ranking]
  cases hmoved : movedChannel env ctx with
  | none =>
    dsimp only
    rw [horder]
    simp [and_comm]
  | some x =>
    have hnodup : (rule11Order ctx).Nodup :=
      (rule11Order_perm ctx).nodup_iff.2 (nodup_remaining ctx)
    dsimp only
    rw [promote, above_moved hnodup, horder, (rule11Order_perm ctx).mem_iff]
    simp only [Option.some.injEq, ne_eq]
    constructor
    · rintro ⟨hx, ⟨rfl, hmem⟩ | ⟨hch, hmoved', hmem⟩⟩
      · exact ⟨hmem, .inl rfl⟩
      · exact ⟨hmem, .inr ⟨fun h => hch h.symm, fun h => hx h.symm, hmoved'⟩⟩
    · rintro ⟨hmem, rfl | ⟨hch, hch', hmoved'⟩⟩
      · exact ⟨hne.symm, .inl ⟨rfl, hmem⟩⟩
      · exact ⟨fun h => hch' h.symm, .inr ⟨fun h => hch h.symm, hmoved', hmem⟩⟩

theorem movedChannel_cases (h : movedChannel env ctx = some ch) :
    aiChannel ctx = some ch ∧ (tierOf env ctx = .confident ∨
      tierOf env ctx = .advisory ∧ advisoryChannel env ctx = some ch) := by
  by_cases hconfident : tierOf env ctx = .confident
  · exact ⟨(movedChannel_confident hconfident).symm.trans h, .inl hconfident⟩
  · rw [movedChannel, confidentChannel, if_neg hconfident, Option.none_or] at h
    have hadvisory := h
    rw [advisoryChannel] at h
    split_ifs at h with htier
    exact ⟨h, .inr ⟨htier.1, hadvisory⟩⟩

theorem advisoryChannel_cases (h : advisoryChannel env ctx = some ch) :
    tierOf env ctx = .advisory ∧ engagedChannelOf ctx = none ∧ aiChannel ctx = some ch ∧
      movedChannel env ctx = some ch := by
  rw [advisoryChannel] at h
  split_ifs at h with htier
  refine ⟨htier.1, htier.2, h, ?_⟩
  rw [movedChannel_advisory htier.1, if_pos htier.2, h]

theorem default_of_health {a : ChannelAdvisoryAssessment}
    (hcandidates : a.recommendedChannelCandidates = ranking env ctx)
    (htier : a.aiContext.aiGovernanceTier = tierOf env ctx) :
    (∀ ch ch', Degraded ctx.operational ch → Healthy ctx.operational ch' →
      Above a.recommendedChannelCandidates ch ch' →
        engagedChannelOf ctx = some ch ∨ (a.aiContext.aiGovernanceTier = .confident ∧
          preferredBySignal ctx.ai.aiChannelPreferenceSignal = some ch)) ↔
    (engagedChannelOf ctx = none → ∀ ch, configuredChannel (tb ctx) (remaining ctx) = some ch →
      Degraded ctx.operational ch → movedChannel env ctx ≠ some ch →
        ∀ ch' ∈ remaining ctx, Healthy ctx.operational ch' → movedChannel env ctx = some ch') ∧
    ∀ ch, advisoryChannel env ctx = some ch → Degraded ctx.operational ch →
      ∀ ch' ∈ remaining ctx, ¬ Healthy ctx.operational ch' := by
  rw [hcandidates, htier]
  constructor
  · intro h
    constructor
    · intro hengaged ch hconfigured hdegraded hmoved ch' hch' hhealthy
      by_contra hmoved'
      have hfirst : rule11Moved ctx = some ch := by
        rw [rule11Moved, hengaged, Option.none_or, hconfigured]
      rcases h ch ch' hdegraded hhealthy ((above_ranking hdegraded hhealthy).2
        ⟨hch', .inr ⟨hmoved, hmoved', hfirst⟩⟩) with hnamed | ⟨hconfident, hsignal⟩
      · rw [hengaged] at hnamed
        cases hnamed
      · apply hmoved
        rw [movedChannel_confident hconfident, aiChannel, hsignal]
        exact Option.filter_some_pos (decide_eq_true (configuredChannel_mem hconfigured))
    · intro ch hadvisory hdegraded ch' hch' hhealthy
      obtain ⟨hadvised, hengaged, -, hmoved⟩ := advisoryChannel_cases hadvisory
      rcases h ch ch' hdegraded hhealthy ((above_ranking hdegraded hhealthy).2
        ⟨hch', .inl hmoved⟩) with hnamed | ⟨hconfident, -⟩
      · rw [hengaged] at hnamed
        cases hnamed
      · rw [hadvised] at hconfident
        cases hconfident
  · rintro ⟨hdefault, hadvisory⟩ ch ch' hdegraded hhealthy habove
    rw [above_ranking hdegraded hhealthy] at habove
    obtain ⟨hch', hmoved | ⟨hmoved, hmoved', hfirst⟩⟩ := habove
    · obtain ⟨hai, hconfident | ⟨-, hadvised⟩⟩ := movedChannel_cases hmoved
      · exact .inr ⟨hconfident, preferred_of_aiChannel hai⟩
      · exact absurd hhealthy (hadvisory ch hadvised hdegraded ch' hch')
    · rw [rule11Moved] at hfirst
      cases hengaged : engagedChannelOf ctx with
      | some engaged =>
        rw [hengaged] at hfirst
        exact .inl hfirst
      | none =>
        rw [hengaged, Option.none_or] at hfirst
        exact absurd (hdefault hengaged ch hfirst hdegraded hmoved ch' hch' hhealthy) hmoved'

theorem history_iff {P : Ch → Prop} {applied : Bool}
    (hmoved : applied = (movedChannel env ctx).isSome) :
    (tierOf env ctx = .advisory → applied = true →
      ∀ ch, preferredBySignal ctx.ai.aiChannelPreferenceSignal = some ch → P ch) ↔
    ∀ ch, advisoryChannel env ctx = some ch → P ch := by
  constructor
  · intro h ch hadvisory
    obtain ⟨htier, -, hai, hch⟩ := advisoryChannel_cases hadvisory
    refine h htier ?_ ch (preferred_of_aiChannel hai)
    rw [hmoved, hch, Option.isSome_some]
  · intro h htier happlied ch hsignal
    rw [hmoved, Option.isSome_iff_exists] at happlied
    obtain ⟨ch', hch'⟩ := happlied
    obtain ⟨hai, hconfident | ⟨-, hadvisory⟩⟩ := movedChannel_cases hch'
    · rw [htier] at hconfident
      cases hconfident
    · cases (preferred_of_aiChannel hai).symm.trans hsignal
      exact h ch hadvisory

theorem Concludes.scope_iff {e : Emission} (h : Concludes env ctx e) :
    ∃ first rest, e.candidates = first :: rest ∧
      (e.scope = .preferred first ↔ rest = [] ∨ engagedChannelOf ctx ≠ none ∨
        e.advice.aiOut.channelPriorityAdjustmentApplied = true) := by
  have hscope := h.scope
  rw [h.candidates, h.moved, Option.isSome_iff_ne_none]
  cases hranking : ranking env ctx with
  | nil =>
    have hperm := ranking_perm env ctx
    rw [hranking] at hperm
    exact absurd hperm.nil_eq.symm h.nonempty
  | cons first rest =>
    refine ⟨first, rest, rfl, ?_⟩
    rw [hranking] at hscope
    rw [hscope]
    dsimp only
    split_ifs with hcond
    · exact iff_of_true rfl hcond
    · exact iff_of_false nofun hcond

theorem concludes_of_assess (horiginal : ctx.governance.executionType = "original")
    (h : assessChannelAdvisory env ctx = .ok a) (h13 : "RULE_13" ∈ a.rulePathTaken) :
    ∃ e, a = emit ctx e ∧ Concludes env ctx e := by
  have hreplay : isReplayType ctx.governance.executionType = false := by
    rw [horiginal]
    rfl
  by_cases h0 : governancePreconditions ctx.governance = []
  · obtain ⟨e, heval, rfl⟩ := (assess_eq_ok_iff h0).1 h
    have hbegun : Begun (start ctx) := ⟨rfl, by simp [start], rfl, rfl⟩
    exact ⟨e, rfl, (rules_conclude env hreplay (start ctx) ⟨rfl, hbegun⟩ e heval).2 h13⟩
  · rw [assessChannelAdvisory, if_pos h0] at h
    cases h
    exact absurd h13 (by simp [makeBlocked])

end

/-- An assessment of an original execution that reaches RULE 13 follows the directive exactly on
the sound inputs. -/
theorem assess_directed_iff (env : RuleEnv) (ctx : RankedContext) (a : ChannelAdvisoryAssessment)
    (horiginal : ctx.governance.executionType = "original") (h : assess env ctx = .ok a)
    (h13 : "RULE_13" ∈ a.rulePathTaken) : Directed ctx a ↔ Sound env ctx := by
  obtain ⟨e, rfl, he⟩ := concludes_of_assess horiginal h h13
  have hhealth := default_of_health (a := emit ctx.toChannelAdvisoryContext e) he.candidates he.tier
  have hhistory := history_iff (P := Uncontradicted ctx) he.moved
  constructor
  · intro hdirected
    obtain ⟨hdefault, hadvisory⟩ := hhealth.1 hdirected.health
    refine ⟨hdefault, hadvisory, hhistory.1 fun htier => ?_⟩
    exact hdirected.history (he.tier.trans htier)
  · intro hsound
    refine ⟨hhealth.2 ⟨hsound.default, hsound.advisory⟩, ?_, he.scope_iff⟩
    intro htier
    exact hhistory.2 hsound.history (he.tier.symm.trans htier)

/-- What decides an assessment's rank: the candidates, the tier and whether the insight moved one.
-/
def ranked (a : ChannelAdvisoryAssessment) : List Ch × AiTier × Bool × Bool :=
  (a.recommendedChannelCandidates, a.aiContext.aiGovernanceTier,
    a.aiContext.channelPriorityAdjustmentApplied, a.rulePathTaken.contains "RULE_13")

theorem assessed (env : RuleEnv) (ctx : RankedContext) (candidates : List Ch) (tier : AiTier)
    (applied : Bool)
    (h : (assess env ctx).toOption.map ranked = some (candidates, tier, applied, true)) :
    ∃ a, assess env ctx = .ok a ∧ "RULE_13" ∈ a.rulePathTaken ∧
      a.recommendedChannelCandidates = candidates ∧ a.aiContext.aiGovernanceTier = tier ∧
      a.aiContext.channelPriorityAdjustmentApplied = applied := by
  cases ha : assess env ctx with
  | error e =>
    rw [ha] at h
    cases h
  | ok a =>
    rw [ha] at h
    obtain ⟨hcandidates, htier, happlied, hpath⟩ : _ ∧ _ ∧ _ ∧ _ := by
      simpa [Except.toOption, ranked] using h
    exact ⟨a, rfl, hpath, hcandidates, htier, happlied⟩

/-- The provider of calls is degraded, the student has answered an e-mail and no call, and an
advisory insight prefers e-mails. -/
def prefersEmails : RankedContext where
  governance := optedOutOfSms.governance
  operational := { optedOutOfSms.operational with
    providerHealthState := some [("CALL", "DEGRADED"), ("EMAIL", "HEALTHY")] }
  ai := { optedOutOfSms.ai with aiConfidenceScore := some (1 / 2) }
  communication :=
    ⟨[[("channel", .str "EMAIL"), ("outcome", .str "CONNECTED")],
      [("channel", .str "CALL"), ("outcome", .str "NO_ANSWER")]]⟩

theorem prefersEmails_directed :
    ∃ a, assess noonEnv prefersEmails = .ok a ∧ Directed prefersEmails a := by
  obtain ⟨a, ha, h13, -⟩ := assessed noonEnv prefersEmails
    [.email, .call] .advisory true (by decide +kernel)
  refine ⟨a, ha, (assess_directed_iff noonEnv prefersEmails a rfl ha h13).2 ?_⟩
  have hadvisory : advisoryChannel noonEnv prefersEmails.toChannelAdvisoryContext =
      some .email := by
    decide +kernel
  constructor
  · intro _ ch hconfigured
    cases hconfigured
  · intro ch h hdegraded
    rw [hadvisory, Option.some_inj] at h
    subst h
    have hhealthy : Healthy prefersEmails.operational .email := rfl
    exact absurd rfl (ne_of_health hdegraded hhealthy)
  · intro ch h
    rw [hadvisory, Option.some_inj] at h
    subst h
    exact .inl ⟨.email, by decide +kernel, .inl rfl⟩

/-- Calls are configured as the default, and their provider is degraded. -/
def degradedDefault : RankedContext where
  governance := { optedOutOfSms.governance with
    configRuleSet := [("outreach_initial_channel_preference", .str "CALL")] }
  operational := { optedOutOfSms.operational with
    providerHealthState := some [("CALL", "DEGRADED"), ("EMAIL", "HEALTHY")] }
  ai := optedOutOfSms.ai
  communication := {}

/-- The student answers calls, and an advisory insight prefers emails. -/
def answersCalls : RankedContext where
  governance := optedOutOfSms.governance
  operational := optedOutOfSms.operational
  ai := { optedOutOfSms.ai with aiConfidenceScore := some (1 / 2) }
  communication := ⟨[[("channel", .str "CALL"), ("outcome", .str "CONNECTED")]]⟩

/-- The degraded default is ranked above the healthy channel, and the preference is applied against
the history. -/
theorem ranking_not_directed :
    (∃ a, assess noonEnv degradedDefault = .ok a ∧ "RULE_13" ∈ a.rulePathTaken ∧
      ¬ Directed degradedDefault a) ∧
    ∃ a, assess noonEnv answersCalls = .ok a ∧ "RULE_13" ∈ a.rulePathTaken ∧
      ¬ Directed answersCalls a := by
  constructor
  · obtain ⟨a, ha, h13, hcandidates, htier, -⟩ := assessed noonEnv degradedDefault
      [.call, .email] .unavailable false (by decide +kernel)
    refine ⟨a, ha, h13, fun hdirected => ?_⟩
    rcases hdirected.health .call .email rfl rfl
      (by rw [hcandidates]; exact List.Sublist.refl _) with
      hengaged | ⟨hconfident, -⟩
    · exact absurd hengaged (by decide +kernel)
    · rw [htier] at hconfident
      cases hconfident
  · obtain ⟨a, ha, h13, -, htier, happlied⟩ := assessed noonEnv answersCalls
      [.email, .call] .advisory true (by decide +kernel)
    refine ⟨a, ha, h13, fun hdirected => ?_⟩
    rcases hdirected.history htier happlied .email rfl with ⟨primary, hprimary, hpoor⟩ | hequal
    · have hcall : (rule11Order answersCalls.toChannelAdvisoryContext).head? = some .call := by
        decide +kernel
      rw [hcall] at hprimary
      cases hprimary
      rcases hpoor with hpoor | hpoor
      · cases hpoor
      · exact absurd hpoor (by decide +kernel)
    · exact absurd (hequal .call (by decide +kernel) .email (by decide +kernel)) (by decide +kernel)

end ChannelRanking
end StudentSuccess
