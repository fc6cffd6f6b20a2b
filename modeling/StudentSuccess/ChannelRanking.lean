import StudentSuccess.ChannelPartition
import StudentSuccess.Rankings

namespace StudentSuccess
namespace ChannelRanking
set_option autoImplicit true
open Channel RuleChain Rankings

/-- The part of the context that the ranking reads besides those of the rules. -/
structure CommunicationCtx where
  channelDeliveryHistory : List (List (String × Py.Value)) := []

structure RankedContext extends ChannelAdvisoryContext where
  communication : CommunicationCtx

inductive Responsiveness
  | high
  | medium
  | low
  deriving DecidableEq

def textOf (key : String) (entry : List (String × Py.Value)) : String :=
  match Py.get? key entry with
  | some (.str s) => s
  | _ => ""

/-- What the outcome of an entry makes of its channel's responsiveness. -/
def respond (outcome : String) (resp : Responsiveness) : Responsiveness :=
  if outcome = "CONNECTED" then .high
  else if outcome ∈ ["DELIVERY_FAILED", "NO_ANSWER"] ∧ resp ≠ .high then .low
  else if outcome ∈ ["INBOUND_ENGAGEMENT", "OPENED", "REPLIED"] then .high
  else resp

def record (eligible : List Ch) (resp : Ch → Responsiveness) (entry : List (String × Py.Value)) :
    Ch → Responsiveness := fun ch =>
  if textOf "channel" entry = ch.text ∧ ch ∈ eligible then
    respond (textOf "outcome" entry) (resp ch)
  else resp ch

/-- The table `resp` of `prioritize_channels`. -/
def responsiveness (eligible : List Ch) (comm : CommunicationCtx) : Ch → Responsiveness :=
  comm.channelDeliveryHistory.foldl (record eligible) fun _ => .medium

def Engaging (outcome : String) : Prop :=
  outcome ∈ ["CONNECTED", "INBOUND_ENGAGEMENT", "OPENED", "REPLIED"]

def Failing (outcome : String) : Prop := outcome ∈ ["DELIVERY_FAILED", "NO_ANSWER"]

def outcomesOf (ch : Ch) (comm : CommunicationCtx) : List String :=
  (comm.channelDeliveryHistory.filter fun entry => textOf "channel" entry = ch.text).map
    (textOf "outcome")

theorem foldl_record {eligible : List Ch} (hch : ch ∈ eligible)
    (history : List (List (String × Py.Value))) (resp : Ch → Responsiveness) :
    history.foldl (record eligible) resp ch =
      ((history.filter fun entry => textOf "channel" entry = ch.text).map (textOf "outcome")).foldl
        (fun resp outcome => respond outcome resp) (resp ch) := by
  induction history generalizing resp with
  | nil => rfl
  | cons entry history ih =>
    rw [List.foldl_cons, ih, record]
    by_cases hentry : textOf "channel" entry = ch.text
    · rw [if_pos ⟨hentry, hch⟩, List.filter_cons, if_pos (decide_eq_true hentry)]
      rfl
    · rw [if_neg fun h => hentry h.1, List.filter_cons, if_neg (by simpa using hentry)]

theorem respond_high_iff (outcome : String) (resp : Responsiveness) :
    respond outcome resp = .high ↔ Engaging outcome ∨ resp = .high := by
  rw [respond, Engaging]
  split_ifs with hconnected hfailed hengaged
  · simp [hconnected]
  · obtain ⟨hfailed, hresp⟩ := hfailed
    simp only [List.mem_cons, List.not_mem_nil, or_false] at hfailed
    rcases hfailed with rfl | rfl <;> simp [hresp]
  · simp only [true_iff]
    exact .inl (.tail _ hengaged)
  · rw [List.mem_cons, or_iff_right hconnected, or_iff_right hengaged]

theorem foldl_respond_high_iff (outcomes : List String) (resp : Responsiveness) :
    outcomes.foldl (fun resp outcome => respond outcome resp) resp = .high ↔
      (∃ outcome ∈ outcomes, Engaging outcome) ∨ resp = .high := by
  induction outcomes generalizing resp with
  | nil => simp
  | cons outcome outcomes ih =>
    rw [List.foldl_cons, ih, respond_high_iff, List.exists_mem_cons_iff, or_left_comm, or_assoc]

theorem respond_low_iff (hengaging : ¬ Engaging outcome) (hresp : resp ≠ .high) :
    respond outcome resp = .low ↔ Failing outcome ∨ resp = .low := by
  have hconnected : outcome ≠ "CONNECTED" := by
    rintro rfl
    exact hengaging (.head _)
  have hengaged : outcome ∉ ["INBOUND_ENGAGEMENT", "OPENED", "REPLIED"] :=
    fun h => hengaging (.tail _ h)
  rw [respond, if_neg hconnected, if_neg hengaged, Failing]
  split_ifs with hfailed
  · exact iff_of_true rfl (.inl hfailed.1)
  · rw [or_iff_right fun h => hfailed ⟨h, hresp⟩]

theorem foldl_respond_low_iff {outcomes : List String}
    (hengaging : ∀ outcome ∈ outcomes, ¬ Engaging outcome) (hresp : resp ≠ .high) :
    outcomes.foldl (fun resp outcome => respond outcome resp) resp = .low ↔
      (∃ outcome ∈ outcomes, Failing outcome) ∨ resp = .low := by
  induction outcomes generalizing resp with
  | nil => simp
  | cons outcome outcomes ih =>
    have hhead := hengaging outcome (.head _)
    have hnext : respond outcome resp ≠ .high := by
      rw [ne_eq, respond_high_iff]
      exact not_or.2 ⟨hhead, hresp⟩
    rw [List.foldl_cons, ih (fun o h => hengaging o (.tail _ h)) hnext,
      respond_low_iff hhead hresp, List.exists_mem_cons_iff, or_left_comm, or_assoc]

theorem responsiveness_iff {eligible : List Ch} (hch : ch ∈ eligible) (comm : CommunicationCtx) :
    (responsiveness eligible comm ch = .high ↔
      ∃ outcome ∈ outcomesOf ch comm, Engaging outcome) ∧
    (responsiveness eligible comm ch = .low ↔
      (∀ outcome ∈ outcomesOf ch comm, ¬ Engaging outcome) ∧
        ∃ outcome ∈ outcomesOf ch comm, Failing outcome) := by
  rw [responsiveness, foldl_record hch, ← outcomesOf]
  have hhigh := foldl_respond_high_iff (outcomesOf ch comm) .medium
  constructor
  · rw [hhigh]
    exact or_iff_left (fun h => nomatch h)
  · by_cases hengaging : ∃ outcome ∈ outcomesOf ch comm, Engaging outcome
    · rw [hhigh.2 (.inl hengaging)]
      refine iff_of_false (fun h => nomatch h) fun h => ?_
      obtain ⟨outcome, hmem, houtcome⟩ := hengaging
      exact h.1 outcome hmem houtcome
    · have hnone : ∀ outcome ∈ outcomesOf ch comm, ¬ Engaging outcome :=
        fun outcome hmem houtcome => hengaging ⟨outcome, hmem, houtcome⟩
      have hmedium : Responsiveness.medium ≠ .high := nofun
      rw [foldl_respond_low_iff hnone hmedium]
      exact (or_iff_left (fun h => nomatch h)).trans (iff_and_self.2 fun _ => hnone)

/-- `prioritize_channels` with its table of responsiveness, which nothing reads. -/
def prioritizeWithHistory (eligible : List Ch) (op : OperationalCtx) (comm : CommunicationCtx)
    (tb : ThresholdBindings) : Except Py.Error (List Ch × Bool × List String) :=
  let _resp := responsiveness eligible comm
  prioritizeChannels eligible op tb

def rule11WithHistory (ctx : RankedContext) : Rule Advice Emission := fun s =>
  let s := s.rule "RULE_11"
  match prioritizeWithHistory s.eligible ctx.operational ctx.communication s.tb with
  | .error e => .error e
  | .ok (candidates, hasPref, codes) =>
    .ok (.next
      { s with candidates := candidates, hasPref := hasPref, codes := s.codes ++ codes })

def assess (env : RuleEnv) (ctx : RankedContext) : Except Py.Error ChannelAdvisoryAssessment :=
  let r0 := governancePreconditions ctx.governance
  if r0 ≠ [] then .ok (makeBlocked ctx.toChannelAdvisoryContext r0)
  else
    (eval rule13
      [rule1 ctx.toChannelAdvisoryContext, rule2 ctx.toChannelAdvisoryContext,
        rule3 ctx.toChannelAdvisoryContext, rule4 ctx.toChannelAdvisoryContext,
        rule5 env ctx.toChannelAdvisoryContext, rule6 ctx.toChannelAdvisoryContext,
        rule7 ctx.toChannelAdvisoryContext, rule8 ctx.toChannelAdvisoryContext,
        rule9 ctx.toChannelAdvisoryContext, rule10 ctx.toChannelAdvisoryContext,
        rule11WithHistory ctx, rule12 ctx.toChannelAdvisoryContext]
      (start ctx.toChannelAdvisoryContext)).map (emit ctx.toChannelAdvisoryContext)

/-- The history of the deliveries does not reach the assessment. -/
theorem assess_eq (env : RuleEnv) (ctx : RankedContext) :
    assess env ctx = assessChannelAdvisory env ctx.toChannelAdvisoryContext := rfl

def degradedLast (op : OperationalCtx) (channels : List Ch) : List Ch :=
  channels.filter (fun ch => !providerDegraded op ch) ++ channels.filter (providerDegraded op)

/-- The channels that RULE 10 leaves, in the order of RULE 7: the degraded ones last. -/
def remaining (ctx : ChannelAdvisoryContext) : List Ch :=
  degradedLast ctx.operational (allChannels.filter (recommendable ctx))

def engagedChannelOf (ctx : ChannelAdvisoryContext) : Option Ch :=
  match engagement (remaining ctx) ctx.operational (tb ctx) with
  | .ok engaged => engaged
  | .error _ => none

def tierOf (env : RuleEnv) (ctx : ChannelAdvisoryContext) : AiTier :=
  match assessAiTier env ctx.ai (tb ctx) {} with
  | .ok (tier, _, _) => tier
  | .error _ => .unavailable

def rule11Order (ctx : ChannelAdvisoryContext) : List Ch :=
  order (remaining ctx) (tb ctx) (engagedChannelOf ctx)

def aiChannel (ctx : ChannelAdvisoryContext) : Option Ch :=
  (preferredBySignal ctx.ai.aiChannelPreferenceSignal).filter (· ∈ remaining ctx)

/-- The channel of an advisory preference that no engagement threshold is in the way of. -/
def advisoryChannel (env : RuleEnv) (ctx : ChannelAdvisoryContext) : Option Ch :=
  if tierOf env ctx = .advisory ∧ engagedChannelOf ctx = none then aiChannel ctx else none

def confidentChannel (env : RuleEnv) (ctx : ChannelAdvisoryContext) : Option Ch :=
  if tierOf env ctx = .confident then aiChannel ctx else none

def movedChannel (env : RuleEnv) (ctx : ChannelAdvisoryContext) : Option Ch :=
  (confidentChannel env ctx).or (advisoryChannel env ctx)

def ranking (env : RuleEnv) (ctx : ChannelAdvisoryContext) : List Ch :=
  match movedChannel env ctx with
  | some ch => promote ch (rule11Order ctx)
  | none => rule11Order ctx

def Degraded (op : OperationalCtx) (ch : Ch) : Prop := providerState op ch = "DEGRADED"

def Healthy (op : OperationalCtx) (ch : Ch) : Prop := providerState op ch = "HEALTHY"

/-- The recorded responsiveness does not contradict a preference for the channel: it comes first
anyway, or the first one of RULE 11 is a poor one, or all are equal. -/
def Uncontradicted (ctx : RankedContext) (ch : Ch) : Prop :=
  let resp := responsiveness (remaining ctx.toChannelAdvisoryContext) ctx.communication
  (∃ primary ∈ (rule11Order ctx.toChannelAdvisoryContext).head?,
    primary = ch ∨ resp primary = .low) ∨
  ∀ ch₁ ∈ remaining ctx.toChannelAdvisoryContext, ∀ ch₂ ∈ remaining ctx.toChannelAdvisoryContext,
    resp ch₁ = resp ch₂

/-- An assessment ranks the channels as the directive has it. -/
structure Directed (ctx : RankedContext) (a : ChannelAdvisoryAssessment) : Prop where
  health : ∀ ch ch', Degraded ctx.operational ch → Healthy ctx.operational ch' →
    Above a.recommendedChannelCandidates ch ch' →
      engagedChannelOf ctx.toChannelAdvisoryContext = some ch ∨
      (a.aiContext.aiGovernanceTier = .confident ∧
        preferredBySignal ctx.ai.aiChannelPreferenceSignal = some ch)
  history : a.aiContext.aiGovernanceTier = .advisory →
    a.aiContext.channelPriorityAdjustmentApplied = true →
      ∀ ch, preferredBySignal ctx.ai.aiChannelPreferenceSignal = some ch → Uncontradicted ctx ch
  scope : ∃ first rest, a.recommendedChannelCandidates = first :: rest ∧
    (a.advisoryScope = .preferred first ↔
      rest = [] ∨ engagedChannelOf ctx.toChannelAdvisoryContext ≠ none ∨
        a.aiContext.channelPriorityAdjustmentApplied = true)

/-- The inputs on which the code follows the directive. -/
structure Sound (env : RuleEnv) (ctx : RankedContext) : Prop where
  default : engagedChannelOf ctx.toChannelAdvisoryContext = none →
    ∀ ch, configuredChannel (tb ctx.toChannelAdvisoryContext)
        (remaining ctx.toChannelAdvisoryContext) = some ch →
      Degraded ctx.operational ch → movedChannel env ctx.toChannelAdvisoryContext ≠ some ch →
        ∀ ch' ∈ remaining ctx.toChannelAdvisoryContext, Healthy ctx.operational ch' →
          movedChannel env ctx.toChannelAdvisoryContext = some ch'
  advisory : ∀ ch, advisoryChannel env ctx.toChannelAdvisoryContext = some ch →
    Degraded ctx.operational ch →
      ∀ ch' ∈ remaining ctx.toChannelAdvisoryContext, ¬ Healthy ctx.operational ch'
  history : ∀ ch, advisoryChannel env ctx.toChannelAdvisoryContext = some ch →
    Uncontradicted ctx ch

/-- Until RULE 4 the evaluation only binds the thresholds. -/
structure Begun (s : Advice) : Prop where
  unlocked : s.scopeLocked = none
  path : "RULE_13" ∉ s.path
  out : s.aiOut = {}
  prohibited : s.prohibited = []

/-- The evaluation has these channels left, and has assessed the insight. -/
structure Narrowed (env : RuleEnv) (ctx : ChannelAdvisoryContext) (eligible : List Ch)
    (s : Advice) : Prop where
  bound : s.tb = tb ctx
  unlocked : s.scopeLocked = none
  path : "RULE_13" ∉ s.path
  eligible : s.eligible = eligible
  tier : s.aiTier = tierOf env ctx
  out : s.aiOut.aiGovernanceTier = tierOf env ctx
  unmoved : s.aiOut.channelPriorityAdjustmentApplied = false

/-- What the default output is made of. -/
structure Concludes (env : RuleEnv) (ctx : ChannelAdvisoryContext) (e : Emission) : Prop where
  nonempty : remaining ctx ≠ []
  candidates : e.candidates = ranking env ctx
  tier : e.advice.aiOut.aiGovernanceTier = tierOf env ctx
  moved : e.advice.aiOut.channelPriorityAdjustmentApplied = (movedChannel env ctx).isSome
  scope : e.scope = match ranking env ctx with
    | [] => .multiChannelEligible
    | ch :: rest =>
      if rest = [] ∨ engagedChannelOf ctx ≠ none ∨ movedChannel env ctx ≠ none then .preferred ch
      else .multiChannelEligible

/-- Only the default output comes from RULE 13. -/
def Reaches13 (env : RuleEnv) (ctx : ChannelAdvisoryContext) (e : Emission) : Prop :=
  "RULE_13" ∈ e.advice.path → Concludes env ctx e

section
variable {env : RuleEnv} {ctx : ChannelAdvisoryContext} {s : Advice}

theorem reaches13_of_not_mem {e : Emission} (h : "RULE_13" ∉ e.advice.path) :
    Reaches13 env ctx e := fun hmem => absurd hmem h

theorem not_mem_rule (name : String) (h : "RULE_13" ∉ s.path) (hname : name ≠ "RULE_13") :
    "RULE_13" ∉ (s.rule name).path := by
  rw [Advice.rule]
  simp only [List.mem_append, List.mem_singleton, not_or]
  exact ⟨h, hname.symm⟩

theorem holds_of_left {left : Advice} {e : Emission} {J : Advice → Prop}
    (hpath : "RULE_13" ∉ e.advice.path) (hnext : J left) :
    Holds J (Reaches13 env ctx)
      (if left.eligible = [] then .ok (.exit e) else .ok (.next left) :
        Except Py.Error (Step Advice Emission)) := by
  split_ifs
  · exact reaches13_of_not_mem hpath
  · exact hnext

theorem rule1_begun (ctx : ChannelAdvisoryContext) :
    Keeps Begun Begun (Reaches13 env ctx) (rule1 ctx) := by
  intro s hs
  have hpath := not_mem_rule "RULE_1" hs.path (by decide)
  rw [rule1]
  split_ifs
  · exact reaches13_of_not_mem hpath
  · exact ⟨hs.unlocked, hpath, hs.out, hs.prohibited⟩

theorem rule2_begun (ctx : ChannelAdvisoryContext) :
    Keeps Begun Begun (Reaches13 env ctx) (rule2 ctx) := by
  intro s hs
  have hpath := not_mem_rule "RULE_2" hs.path (by decide)
  rw [rule2]
  split_ifs
  · exact reaches13_of_not_mem hpath
  · exact ⟨hs.unlocked, hpath, hs.out, hs.prohibited⟩

theorem rule3_begun (ctx : ChannelAdvisoryContext) :
    Keeps Begun (fun s => Begun s ∧ s.tb = tb ctx) (Reaches13 env ctx) (rule3 ctx) := by
  intro s hs
  exact ⟨⟨hs.unlocked, not_mem_rule _ hs.path (by decide), hs.out, hs.prohibited⟩, rfl⟩

structure Contacted (ctx : ChannelAdvisoryContext) (s : Advice) : Prop where
  bound : s.tb = tb ctx
  unlocked : s.scopeLocked = none
  path : "RULE_13" ∉ s.path
  eligible : s.eligible = allChannels.filter (contactable ctx.operational)
  out : s.aiOut = {}

theorem rule4_contacted (ctx : ChannelAdvisoryContext) :
    Keeps (fun s => Begun s ∧ s.tb = tb ctx) (Contacted ctx) (Reaches13 env ctx) (rule4 ctx) := by
  intro s hs
  obtain ⟨hs, hbound⟩ := hs
  have hpath := not_mem_rule "RULE_4" hs.path (by decide)
  have heligible : (allChannels.filter fun ch =>
      !(s.prohibited ++ (if noPhone ctx.operational then [Ch.call, .sms] else []) ++
        (if noEmail ctx.operational then [Ch.email] else [])).contains ch) =
      allChannels.filter (contactable ctx.operational) := by
    rw [hs.prohibited]
    cases hphone : noPhone ctx.operational <;> cases hemail : noEmail ctx.operational <;>
      simp [allChannels, contactable, lacksContact, hphone, hemail]
  apply holds_of_left
  · exact hpath
  · exact ⟨hbound, hs.unlocked, hpath, heligible, hs.out⟩

theorem assessAiTier_out (h : assessAiTier env ai bound out = .ok (tier, out', codes)) :
    out'.aiGovernanceTier = tier ∧
      out'.channelPriorityAdjustmentApplied = out.channelPriorityAdjustmentApplied := by
  rw [assessAiTier] at h
  split at h
  · cases h
    exact ⟨rfl, rfl⟩
  · split at h
    · cases h
      exact ⟨rfl, rfl⟩
    · next ttl _ =>
      rcases ite_eq_iff.1 h with ⟨-, h⟩ | ⟨-, h⟩
      · cases h
        exact ⟨rfl, rfl⟩
      rcases ite_eq_iff.1 h with ⟨-, h⟩ | ⟨-, h⟩
      · cases h
        exact ⟨rfl, rfl⟩
      rcases ite_eq_iff.1 h with ⟨-, h⟩ | ⟨-, h⟩
      · cases hstale : reviewedStale env ai ttl with
        | error e =>
          rw [hstale] at h
          cases h
        | ok stale =>
          rw [hstale] at h
          cases stale with
          | true =>
            cases h
            exact ⟨rfl, rfl⟩
          | false =>
            cases h
            exact ⟨rfl, rfl⟩
      · cases h
        exact ⟨rfl, rfl⟩

theorem rule5_narrowed (env : RuleEnv)
    (horiginal : isReplayType ctx.governance.executionType = false) :
    Keeps (Contacted ctx) (Narrowed env ctx (allChannels.filter (contactable ctx.operational)))
      (Reaches13 env ctx) (rule5 env ctx) := by
  intro s hs
  have hpath := not_mem_rule "RULE_5" hs.path (by decide)
  have hassess : assessAiTier env ctx.ai (s.rule "RULE_5").tb (s.rule "RULE_5").aiOut =
      assessAiTier env ctx.ai (tb ctx) {} := by
    rw [← hs.bound, ← hs.out]
    rfl
  rw [rule5]
  dsimp only
  rw [hassess]
  cases htier : assessAiTier env ctx.ai (tb ctx) {} with
  | error e => trivial
  | ok assessed =>
    obtain ⟨tier, out, codes⟩ := assessed
    have htierOf : tier = tierOf env ctx := by rw [tierOf, htier]
    obtain ⟨hout, hmoved⟩ := assessAiTier_out htier
    dsimp only
    split_ifs with hflight hreplay
    · rw [horiginal] at hreplay
      cases hreplay
    · exact ⟨hs.bound, hs.unlocked, hpath, hs.eligible, htierOf, hout.trans htierOf, hmoved⟩
    · exact ⟨hs.bound, hs.unlocked, hpath, hs.eligible, htierOf, hout.trans htierOf, hmoved⟩

theorem rule6_narrowed (env : RuleEnv) (ctx : ChannelAdvisoryContext) :
    Keeps (Narrowed env ctx (allChannels.filter (contactable ctx.operational)))
      (Narrowed env ctx (allChannels.filter (consenting ctx.operational)))
      (Reaches13 env ctx) (rule6 ctx) := by
  intro s hs
  have hpath := not_mem_rule "RULE_6" hs.path (by decide)
  have heligible : (s.eligible.filter fun ch => !optedOut ctx.operational ch) =
      allChannels.filter (consenting ctx.operational) := by
    rw [hs.eligible, List.filter_filter]
    exact List.filter_congr fun ch _ => Bool.and_comm _ _
  apply holds_of_left
  · exact hpath
  · exact ⟨hs.bound, hs.unlocked, hpath, heligible, hs.tier, hs.out, hs.unmoved⟩

theorem rule7_narrowed (env : RuleEnv) (ctx : ChannelAdvisoryContext) :
    Keeps (Narrowed env ctx (allChannels.filter (consenting ctx.operational)))
      (Narrowed env ctx
        (degradedLast ctx.operational (allChannels.filter (provided ctx.operational))))
      (Reaches13 env ctx) (rule7 ctx) := by
  intro s hs
  have hpath := not_mem_rule "RULE_7" hs.path (by decide)
  have hkept : (s.eligible.filter fun ch =>
      !(unavailable ctx.operational ch || suspended ctx.operational ch)) =
        allChannels.filter (provided ctx.operational) := by
    rw [hs.eligible, List.filter_filter]
    exact List.filter_congr fun ch _ => Bool.and_comm _ _
  have heligible : ((s.rule "RULE_7").eligible.filter (fun ch =>
        !(unavailable ctx.operational ch || suspended ctx.operational ch))).filter
          (fun ch => !providerDegraded ctx.operational ch) ++
      ((s.rule "RULE_7").eligible.filter (fun ch =>
        !(unavailable ctx.operational ch || suspended ctx.operational ch))).filter
          (providerDegraded ctx.operational) =
      degradedLast ctx.operational (allChannels.filter (provided ctx.operational)) := by
    rw [degradedLast, ← hkept]
    rfl
  apply holds_of_left
  · exact hpath
  · exact ⟨hs.bound, hs.unlocked, hpath, heligible, hs.tier, hs.out, hs.unmoved⟩

theorem rule8_narrowed (env : RuleEnv) (ctx : ChannelAdvisoryContext) (channels : List Ch) :
    Keeps (Narrowed env ctx channels) (Narrowed env ctx channels) (Reaches13 env ctx)
      (rule8 ctx) := by
  intro s hs
  have hpath := not_mem_rule "RULE_8" hs.path (by decide)
  rw [rule8]
  dsimp only
  split_ifs
  · exact reaches13_of_not_mem hpath
  · exact ⟨hs.bound, hs.unlocked, hpath, hs.eligible, hs.tier, hs.out, hs.unmoved⟩
  · exact ⟨hs.bound, hs.unlocked, hpath, hs.eligible, hs.tier, hs.out, hs.unmoved⟩

theorem rule9_narrowed (env : RuleEnv)
    (horiginal : isReplayType ctx.governance.executionType = false) (channels : List Ch) :
    Keeps (Narrowed env ctx channels) (Narrowed env ctx channels) (Reaches13 env ctx)
      (rule9 ctx) := by
  intro s hs
  rw [rule9_original horiginal]
  exact hs

theorem degradedLast_filter (op : OperationalCtx) (channels : List Ch) (p : Ch → Bool) :
    (degradedLast op channels).filter p = degradedLast op (channels.filter p) := by
  rw [degradedLast, degradedLast, List.filter_append, List.filter_filter, List.filter_filter,
    List.filter_filter, List.filter_filter]
  congr 1
  · exact List.filter_congr fun ch _ => Bool.and_comm _ _
  · exact List.filter_congr fun ch _ => Bool.and_comm _ _

theorem provided_filter_reached (ctx : ChannelAdvisoryContext) :
    (allChannels.filter (provided ctx.operational)).filter (fun ch => !reached ctx ch) =
      allChannels.filter (recommendable ctx) := by
  rw [List.filter_filter]
  exact List.filter_congr fun ch _ => Bool.and_comm _ _

theorem rule10_narrowed (env : RuleEnv) (ctx : ChannelAdvisoryContext) :
    Keeps (Narrowed env ctx
        (degradedLast ctx.operational (allChannels.filter (provided ctx.operational))))
      (fun s => Narrowed env ctx (remaining ctx) s ∧ remaining ctx ≠ [])
      (Reaches13 env ctx) (rule10 ctx) := by
  intro s hs
  have hpath := not_mem_rule "RULE_10" hs.path (by decide)
  cases hfailing : failing ctx.operational (suspensionThreshold ctx) s.eligible with
  | error e =>
    rw [suspensionThreshold, ← hs.bound] at hfailing
    simp only [rule10, Advice.rule, Advice.codeIf, hfailing]
    trivial
  | ok removed =>
    have heligible : (s.eligible.filter fun ch => !removed.contains ch) = remaining ctx := by
      have hremoved : removed = s.eligible.filter (reached ctx) := failing_eq_filter hfailing
      rw [hremoved, filter_not_reached, hs.eligible, degradedLast_filter, provided_filter_reached]
      rfl
    rw [rule10_ok hs.bound hfailing, deliveryGate]
    split_ifs with hnil
    · exact reaches13_of_not_mem hpath
    · refine ⟨⟨hs.bound, hs.unlocked, hpath, heligible, hs.tier, hs.out, hs.unmoved⟩, ?_⟩
      rw [← heligible]
      exact hnil

structure Ordered (env : RuleEnv) (ctx : ChannelAdvisoryContext) (s : Advice) : Prop where
  nonempty : remaining ctx ≠ []
  unlocked : s.scopeLocked = none
  candidates : s.candidates = rule11Order ctx
  members : ∀ ch, ch ∈ rule11Order ctx ↔ ch ∈ remaining ctx
  hasPref : s.hasPref = (engagedChannelOf ctx).isSome
  tier : s.aiTier = tierOf env ctx
  out : s.aiOut.aiGovernanceTier = tierOf env ctx
  unmoved : s.aiOut.channelPriorityAdjustmentApplied = false

theorem rule11_ordered (env : RuleEnv) (ctx : ChannelAdvisoryContext) :
    Keeps (fun s => Narrowed env ctx (remaining ctx) s ∧ remaining ctx ≠ []) (Ordered env ctx)
      (Reaches13 env ctx) (rule11 ctx) := by
  intro s hs
  obtain ⟨hs, hnonempty⟩ := hs
  cases hengagement : engagement (remaining ctx) ctx.operational (tb ctx) with
  | error e =>
    have hprior : prioritizeChannels s.eligible ctx.operational s.tb = .error e := by
      rw [hs.eligible, hs.bound, prioritizeChannels, hengagement]
      rfl
    simp only [rule11, Advice.rule, hprior]
    trivial
  | ok engaged =>
    have hengaged : engaged = engagedChannelOf ctx := by rw [engagedChannelOf, hengagement]
    have hmembers : (rule11Order ctx).Perm (remaining ctx) := by
      rw [rule11Order, ← hengaged]
      exact order_perm hengagement
    obtain ⟨codes, hprior⟩ : ∃ codes, prioritizeChannels s.eligible ctx.operational s.tb =
        .ok (rule11Order ctx, (engagedChannelOf ctx).isSome, codes) := by
      rw [hs.eligible, hs.bound, prioritizeChannels, hengagement, rule11Order, ← hengaged]
      exact ⟨_, rfl⟩
    simp only [rule11, Advice.rule, hprior]
    exact ⟨hnonempty, hs.unlocked, rfl, fun ch => hmembers.mem_iff, rfl, hs.tier, hs.out,
      hs.unmoved⟩

structure Moved (env : RuleEnv) (ctx : ChannelAdvisoryContext) (s : Advice) : Prop where
  nonempty : remaining ctx ≠ []
  unlocked : s.scopeLocked = none
  candidates : s.candidates = ranking env ctx
  hasPref : s.hasPref = ((engagedChannelOf ctx).isSome || (movedChannel env ctx).isSome)
  tier : s.aiOut.aiGovernanceTier = tierOf env ctx
  moved : s.aiOut.channelPriorityAdjustmentApplied = (movedChannel env ctx).isSome

theorem moved_of_unmoved (hs : Ordered env ctx s) (hmoved : movedChannel env ctx = none) :
    Moved env ctx s where
  nonempty := hs.nonempty
  unlocked := hs.unlocked
  candidates := by rw [ranking, hmoved, hs.candidates]
  hasPref := by rw [hs.hasPref, hmoved, Option.isSome_none, Bool.or_false]
  tier := hs.out
  moved := by rw [hs.unmoved, hmoved, Option.isSome_none]

theorem moved_of_prefer (hs : Ordered env ctx s) (hmoved : movedChannel env ctx = some ch) :
    Moved env ctx (s.prefer ch signal code) where
  nonempty := hs.nonempty
  unlocked := hs.unlocked
  candidates := by
    rw [ranking, hmoved, ← hs.candidates]
    rfl
  hasPref := by
    rw [hmoved, Option.isSome_some, Bool.or_true]
    rfl
  tier := hs.out
  moved := by
    rw [hmoved]
    rfl

theorem movedChannel_of_absent (h : aiChannel ctx = none) : movedChannel env ctx = none := by
  rw [movedChannel, confidentChannel, advisoryChannel, h, ite_self, ite_self]
  rfl

theorem movedChannel_of_tier (h : ¬ (tierOf env ctx = .confident ∨ tierOf env ctx = .advisory)) :
    movedChannel env ctx = none := by
  rw [not_or] at h
  rw [movedChannel, confidentChannel, advisoryChannel, if_neg h.1, if_neg fun hboth => h.2 hboth.1]
  rfl

theorem movedChannel_confident (h : tierOf env ctx = .confident) :
    movedChannel env ctx = aiChannel ctx := by
  have hadvisory : ¬ (tierOf env ctx = .advisory ∧ engagedChannelOf ctx = none) := by
    rw [h]
    exact fun hboth => AiTier.noConfusion hboth.1
  rw [movedChannel, confidentChannel, advisoryChannel, if_pos h, if_neg hadvisory, Option.or_none]

theorem movedChannel_advisory (h : tierOf env ctx = .advisory) :
    movedChannel env ctx = if engagedChannelOf ctx = none then aiChannel ctx else none := by
  have hconfident : tierOf env ctx ≠ .confident := by
    rw [h]
    exact AiTier.noConfusion
  rw [movedChannel, confidentChannel, advisoryChannel, if_neg hconfident, Option.none_or]
  by_cases hengaged : engagedChannelOf ctx = none
  · rw [if_pos hengaged, if_pos ⟨h, hengaged⟩]
  · rw [if_neg hengaged, if_neg fun hboth => hengaged hboth.2]

theorem not_prohibited (hs : Ranked ctx s) (hch : ch ∈ s.candidates) : ch ∉ s.prohibited := by
  have hnodup : (s.eligible ++ s.prohibited).Nodup := hs.divided.division.nodup_iff.2 (by decide)
  intro hprohibited
  exact (List.nodup_append.1 hnodup).2.2 ch (hs.candidates.mem_iff.1 hch) ch hprohibited rfl

theorem applyAiSignal_moved (hs : Ordered env ctx s) (hranked : Ranked ctx s)
    (htier : tierOf env ctx = .confident ∨ tierOf env ctx = .advisory) :
    Moved env ctx (applyAiSignal ctx s) := by
  rw [applyAiSignal]
  cases hsignal : preferredBySignal ctx.ai.aiChannelPreferenceSignal with
  | none =>
    apply moved_of_unmoved hs
    apply movedChannel_of_absent
    rw [aiChannel, hsignal]
    rfl
  | some ch =>
    dsimp only
    by_cases hmem : ch ∈ remaining ctx
    · have hcandidate : ch ∈ s.candidates := by rwa [hs.candidates, hs.members]
      have hai : aiChannel ctx = some ch := by
        rw [aiChannel, hsignal]
        exact Option.filter_some_pos (decide_eq_true hmem)
      rw [if_pos ⟨not_prohibited hranked hcandidate, hcandidate⟩, hs.tier, hs.hasPref]
      rcases htier with htier | htier
      · rw [if_pos htier]
        exact moved_of_prefer hs ((movedChannel_confident htier).trans hai)
      · have hconfident : tierOf env ctx ≠ .confident := by
          rw [htier]
          exact AiTier.noConfusion
        have hmoved := movedChannel_advisory htier
        rw [if_neg hconfident]
        by_cases hengaged : engagedChannelOf ctx = none
        · rw [hengaged, Option.isSome_none, if_neg Bool.false_ne_true]
          rw [if_pos hengaged, hai] at hmoved
          exact moved_of_prefer hs hmoved
        · rw [if_pos (Option.isSome_iff_ne_none.2 hengaged)]
          rw [if_neg hengaged] at hmoved
          exact moved_of_unmoved hs hmoved
    · have hcandidate : ¬ (ch ∉ s.prohibited ∧ ch ∈ s.candidates) := by
        rw [hs.candidates, hs.members]
        exact fun h => hmem h.2
      rw [if_neg hcandidate]
      apply moved_of_unmoved hs
      apply movedChannel_of_absent
      rw [aiChannel, hsignal]
      exact Option.filter_some_neg (by simpa using hmem)

theorem Moved.of_eq {s' : Advice} (hs : Moved env ctx s)
    (hunlocked : s'.scopeLocked = s.scopeLocked)
    (hcandidates : s'.candidates = s.candidates) (hpref : s'.hasPref = s.hasPref)
    (htier : s'.aiOut.aiGovernanceTier = s.aiOut.aiGovernanceTier)
    (hmoved : s'.aiOut.channelPriorityAdjustmentApplied =
      s.aiOut.channelPriorityAdjustmentApplied) : Moved env ctx s' where
  nonempty := hs.nonempty
  unlocked := hunlocked.trans hs.unlocked
  candidates := hcandidates.trans hs.candidates
  hasPref := hpref.trans hs.hasPref
  tier := htier.trans hs.tier
  moved := hmoved.trans hs.moved

theorem rule12_moved (env : RuleEnv) (ctx : ChannelAdvisoryContext) :
    Keeps (fun s => Ranked ctx s ∧ Ordered env ctx s) (Moved env ctx) (Reaches13 env ctx)
      (rule12 ctx) := by
  intro s hs
  obtain ⟨hranked, hs⟩ := hs
  have hordered : Ordered env ctx (s.rule "RULE_12") :=
    ⟨hs.nonempty, hs.unlocked, hs.candidates, hs.members, hs.hasPref, hs.tier, hs.out, hs.unmoved⟩
  have hruled : Ranked ctx (s.rule "RULE_12") :=
    hranked.of_eq (hranked.divided.of_eq rfl rfl rfl) rfl rfl
  change Moved env ctx (adjustForAi ctx (s.rule "RULE_12"))
  rw [adjustForAi, hordered.unlocked, hordered.tier]
  by_cases htier : tierOf env ctx = .confident ∨ tierOf env ctx = .advisory
  · rw [if_pos ⟨rfl, htier⟩]
    exact applyAiSignal_moved hordered hruled htier
  · rw [if_neg fun h => htier h.2]
    have hunmoved := moved_of_unmoved hordered (movedChannel_of_tier htier)
    split_ifs
    · exact hunmoved.of_eq rfl rfl rfl rfl rfl
    · exact hunmoved.of_eq rfl rfl rfl rfl rfl
    · exact hunmoved.of_eq rfl rfl rfl rfl rfl
    · exact hunmoved

theorem rule13_concludes (hs : Moved env ctx s) : Reaches13 env ctx (rule13 s) := by
  intro _
  refine ⟨hs.nonempty, hs.candidates, hs.tier, hs.moved, ?_⟩
  change advisoryScope (s.rule "RULE_13") = _
  have hpref : (s.rule "RULE_13").hasPref = s.hasPref := rfl
  have hmoved : (s.rule "RULE_13").aiOut = s.aiOut := rfl
  have hcandidates : (s.rule "RULE_13").candidates = s.candidates := rfl
  have hunlocked : (s.rule "RULE_13").scopeLocked = s.scopeLocked := rfl
  rw [advisoryScope, hpref, hmoved, hcandidates, hunlocked, hs.unlocked, hs.candidates, hs.hasPref,
    hs.moved]
  cases ranking env ctx with
  | nil => rfl
  | cons ch rest =>
    dsimp only
    congr 1
    simp only [Bool.or_eq_true, Option.isSome_iff_ne_none, or_assoc, or_self]

theorem rules_conclude (env : RuleEnv)
    (horiginal : isReplayType ctx.governance.executionType = false) :
    Ensures rule13 (fun s => s.prohibited = [] ∧ Begun s)
      (fun e => Recommends ctx e ∧ Reaches13 env ctx e) (rules env ctx) :=
  ensures_cons ((rule1_divides ctx).and (rule1_begun ctx)) <|
  ensures_cons ((rule2_divides ctx).and (rule2_begun ctx)) <|
  ensures_cons ((rule3_divides ctx).and (rule3_begun ctx)) <|
  ensures_cons ((rule4_divides ctx).and (rule4_contacted ctx)) <|
  ensures_cons ((rule5_divides env ctx).and (rule5_narrowed env horiginal)) <|
  ensures_cons ((rule6_divides ctx).and (rule6_narrowed env ctx)) <|
  ensures_cons ((rule7_divides ctx).and (rule7_narrowed env ctx)) <|
  ensures_cons ((rule8_divides ctx).and (rule8_narrowed env ctx _)) <|
  ensures_cons ((rule9_divides ctx).and (rule9_narrowed env horiginal _)) <|
  ensures_cons ((rule10_divides ctx).and (rule10_narrowed env ctx)) <|
  ensures_cons ((rule11_ranks ctx).and (rule11_ordered env ctx)) <|
  ensures_cons (fun s hs => (rule12_ranks ctx).and (rule12_moved env ctx) s ⟨hs.1, hs⟩) <|
  ensures_nil fun _ hs => ⟨rule13_recommends hs.1, rule13_concludes hs.2⟩

end

end ChannelRanking
end StudentSuccess
