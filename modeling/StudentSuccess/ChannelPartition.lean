import StudentSuccess.LiveDelivery
import Mathlib.Data.List.Perm.Basic

namespace StudentSuccess
namespace Channel
set_option autoImplicit true

open RuleChain

/-- What is moved from the first part of a division to the second leaves a division. -/
theorem division_move {eligible prohibited : List Ch} {kept moved : Ch → Bool}
    (hmoved : ∀ ch, moved ch = !kept ch)
    (h : (eligible ++ prohibited).Perm allChannels) :
    (eligible.filter kept ++ (prohibited ++ eligible.filter moved)).Perm allChannels := by
  have hsplit : (eligible.filter kept ++ eligible.filter moved).Perm eligible := by
    rw [funext hmoved]
    exact List.filter_append_perm kept eligible
  have hlast : (prohibited ++ eligible.filter moved).Perm (eligible.filter moved ++ prohibited) :=
    List.perm_append_comm
  have hswap := hlast.append_left (eligible.filter kept)
  rw [← List.append_assoc (eligible.filter kept) (eligible.filter moved)] at hswap
  exact hswap.trans ((hsplit.append_right prohibited).trans h)

theorem filter_left_perm {eligible : List Ch} {left kept : Ch → Bool}
    (h : eligible.Perm (allChannels.filter left)) :
    (eligible.filter kept).Perm (allChannels.filter fun ch => left ch && kept ch) := by
  have hfilter := h.filter kept
  rw [List.filter_filter] at hfilter
  simpa only [Bool.and_comm] using hfilter

def contactable (op : OperationalCtx) (ch : Ch) : Bool := !lacksContact op ch

def consenting (op : OperationalCtx) (ch : Ch) : Bool := contactable op ch && !optedOut op ch

def provided (op : OperationalCtx) (ch : Ch) : Bool :=
  consenting op ch && !(unavailable op ch || suspended op ch)

def reached (ctx : ChannelAdvisoryContext) (ch : Ch) : Bool :=
  succeeds (crosses Py.geValue (some (failureCount ctx.operational ch)) (suspensionThreshold ctx))

def recommendable (ctx : ChannelAdvisoryContext) (ch : Ch) : Bool :=
  provided ctx.operational ch && !reached ctx ch

/-- RULE 9 ends the evaluation. -/
def ReplayStopped (ctx : ChannelAdvisoryContext) : Prop :=
  isReplayType ctx.governance.executionType = true ∧ replayBlocks ctx.governance ≠ []

/-- RULE 1, 2 or 9 ends the evaluation whatever channels are left. -/
def Stopped (ctx : ChannelAdvisoryContext) : Prop :=
  Closed ctx ∨ ctx.governance.complianceHoldFlag = true ∨ ReplayStopped ctx

/-- The evaluation divides the channels into the eligible ones, those of `left`, and the prohibited
ones. -/
structure Divided (ctx : ChannelAdvisoryContext) (left : Ch → Bool) (s : Advice) : Prop where
  bound : s.tb = tb ctx
  notClosed : ¬ Closed ctx
  notHeld : ¬ ctx.governance.complianceHoldFlag = true
  eligible : s.eligible.Perm (allChannels.filter left)
  division : (s.eligible ++ s.prohibited).Perm allChannels

/-- What an emission says of the channels. -/
structure Recommends (ctx : ChannelAdvisoryContext) (e : Emission) : Prop where
  none : Stopped ctx → e.candidates = []
  candidates : ¬ Stopped ctx → e.candidates.Perm (allChannels.filter (recommendable ctx))
  division : e.candidates ≠ [] → (e.candidates ++ e.advice.prohibited).Perm allChannels

theorem recommends_of_stopped (h : Stopped ctx) (hnil : e.candidates = []) : Recommends ctx e where
  none _ := hnil
  candidates hrun := absurd h hrun
  division hne := absurd hnil hne

theorem Divided.recommends_nil (h : Divided ctx left s)
    (hleft : ∀ ch, recommendable ctx ch = true → left ch = true) (heligible : s.eligible = [])
    (hnil : e.candidates = []) : Recommends ctx e where
  none _ := hnil
  candidates _ := by
    have hempty : allChannels.filter left = [] := by
      have hperm := h.eligible
      rw [heligible] at hperm
      exact hperm.nil_eq.symm
    have hnone : allChannels.filter (recommendable ctx) = [] := by
      rw [List.filter_eq_nil_iff] at hempty ⊢
      exact fun ch hch hrecommendable => hempty ch hch (hleft ch hrecommendable)
    rw [hnil, hnone]
  division hne := absurd hnil hne

theorem contactable_of_recommendable (h : recommendable ctx ch = true) :
    contactable ctx.operational ch = true :=
  (Bool.and_eq_true_iff.1 (Bool.and_eq_true_iff.1 (Bool.and_eq_true_iff.1 h).1).1).1

theorem consenting_of_recommendable (h : recommendable ctx ch = true) :
    consenting ctx.operational ch = true :=
  (Bool.and_eq_true_iff.1 (Bool.and_eq_true_iff.1 h).1).1

theorem provided_of_recommendable (h : recommendable ctx ch = true) :
    provided ctx.operational ch = true :=
  (Bool.and_eq_true_iff.1 h).1

/-- Before RULE 4 no channel is prohibited. -/
structure Fresh (ctx : ChannelAdvisoryContext) (s : Advice) : Prop where
  notClosed : ¬ Closed ctx
  notHeld : ¬ ctx.governance.complianceHoldFlag = true
  prohibited : s.prohibited = []

theorem rule1_divides (ctx : ChannelAdvisoryContext) :
    Keeps (fun s => s.prohibited = []) (fun s => ¬ Closed ctx ∧ s.prohibited = [])
      (Recommends ctx) (rule1 ctx) := by
  intro s hs
  by_cases hclosed : Closed ctx
  · have hexit : rule1 ctx s = _ := if_pos hclosed
    rw [hexit]
    exact recommends_of_stopped (.inl hclosed) rfl
  · rw [(rule1_guards _).passes hclosed]
    exact ⟨hclosed, hs⟩

theorem rule2_divides (ctx : ChannelAdvisoryContext) :
    Keeps (fun s => ¬ Closed ctx ∧ s.prohibited = []) (Fresh ctx) (Recommends ctx)
      (rule2 ctx) := by
  intro s hs
  by_cases hhold : ctx.governance.complianceHoldFlag = true
  · rw [rule2, if_pos hhold]
    exact recommends_of_stopped (.inr (.inl hhold)) rfl
  · rw [rule2, if_neg hhold]
    exact ⟨hs.1, hhold, hs.2⟩

theorem rule3_divides (ctx : ChannelAdvisoryContext) :
    Keeps (Fresh ctx) (fun s => Fresh ctx s ∧ s.tb = tb ctx) (Recommends ctx) (rule3 ctx) :=
  fun _ hs => ⟨⟨hs.notClosed, hs.notHeld, hs.prohibited⟩, rfl⟩

/-- A rule that hands on what it leaves of the channels, or ends for want of one. -/
theorem holds_of_divided {left : Ch → Bool} {s' : Advice} {e : Emission}
    (h : Divided ctx left s') (hleft : ∀ ch, recommendable ctx ch = true → left ch = true)
    (hnil : e.candidates = []) :
    Holds (Divided ctx left) (Recommends ctx)
      (if s'.eligible = [] then .ok (.exit e) else .ok (.next s') :
        Except Py.Error (Step Advice Emission)) := by
  by_cases heligible : s'.eligible = []
  · rw [if_pos heligible]
    exact h.recommends_nil hleft heligible hnil
  · rw [if_neg heligible]
    exact h

/-- The channels that RULE 4 prohibits. -/
def withoutContact (op : OperationalCtx) : List Ch :=
  (if noPhone op then [.call, .sms] else []) ++ (if noEmail op then [.email] else [])

theorem withoutContact_eq (op : OperationalCtx) :
    withoutContact op = allChannels.filter (lacksContact op) := by
  cases hphone : noPhone op <;> cases hemail : noEmail op <;>
    simp [withoutContact, allChannels, lacksContact, hphone, hemail]

theorem rule4_divides (ctx : ChannelAdvisoryContext) :
    Keeps (fun s => Fresh ctx s ∧ s.tb = tb ctx) (Divided ctx (contactable ctx.operational))
      (Recommends ctx) (rule4 ctx) := by
  intro s hs
  obtain ⟨hfresh, hbound⟩ := hs
  have hprohibited : s.prohibited ++ (if noPhone ctx.operational then [.call, .sms] else []) ++
      (if noEmail ctx.operational then [.email] else []) =
        allChannels.filter (lacksContact ctx.operational) := by
    rw [hfresh.prohibited, ← withoutContact_eq]
    rfl
  have heligible : (allChannels.filter fun ch =>
      !(allChannels.filter (lacksContact ctx.operational)).contains ch) =
        allChannels.filter (contactable ctx.operational) := by
    apply List.filter_congr
    intro ch hch
    rw [contactable, List.contains_eq_mem, Bool.not_inj_iff]
    cases hlacks : lacksContact ctx.operational ch with
    | true => exact decide_eq_true (List.mem_filter.2 ⟨hch, hlacks⟩)
    | false =>
      apply decide_eq_false
      intro hmem
      exact Bool.noConfusion (hlacks.symm.trans (List.mem_filter.1 hmem).2)
  apply holds_of_divided
  · refine ⟨hbound, hfresh.notClosed, hfresh.notHeld, ?_, ?_⟩
    · dsimp only [Advice.rule]
      rw [hprohibited, heligible]
    · dsimp only [Advice.rule]
      rw [hprohibited, heligible]
      have hsplit := List.filter_append_perm (contactable ctx.operational) allChannels
      have hlacks : (fun ch => !contactable ctx.operational ch) = lacksContact ctx.operational :=
        funext fun ch => Bool.not_not _
      rw [hlacks] at hsplit
      exact hsplit
  · exact fun ch => contactable_of_recommendable
  · rfl

theorem Divided.of_eq {s' : Advice} (h : Divided ctx left s) (hbound : s'.tb = s.tb)
    (heligible : s'.eligible = s.eligible) (hprohibited : s'.prohibited = s.prohibited) :
    Divided ctx left s' where
  bound := hbound.trans h.bound
  notClosed := h.notClosed
  notHeld := h.notHeld
  eligible := heligible ▸ h.eligible
  division := by
    rw [heligible, hprohibited]
    exact h.division

theorem rule5_divides (env : RuleEnv) (ctx : ChannelAdvisoryContext) :
    Keeps (Divided ctx left) (Divided ctx left) (Recommends ctx) (rule5 env ctx) := by
  intro s hs
  unfold rule5
  dsimp only
  match assessAiTier env ctx.ai (s.rule "RULE_5").tb (s.rule "RULE_5").aiOut with
  | .error e => trivial
  | .ok (tier, out, codes) =>
    dsimp only
    split_ifs
    · exact hs.of_eq rfl rfl rfl
    · exact hs.of_eq rfl rfl rfl
    · exact hs.of_eq rfl rfl rfl

theorem rule6_divides (ctx : ChannelAdvisoryContext) :
    Keeps (Divided ctx (contactable ctx.operational)) (Divided ctx (consenting ctx.operational))
      (Recommends ctx) (rule6 ctx) := by
  intro s hs
  apply holds_of_divided
  · exact ⟨hs.bound, hs.notClosed, hs.notHeld, filter_left_perm hs.eligible,
      division_move (fun ch => (Bool.not_not _).symm) hs.division⟩
  · exact fun ch => consenting_of_recommendable
  · rfl

theorem rule7_divides (ctx : ChannelAdvisoryContext) :
    Keeps (Divided ctx (consenting ctx.operational)) (Divided ctx (provided ctx.operational))
      (Recommends ctx) (rule7 ctx) := by
  intro s hs
  have hdegraded (kept : List Ch) : ((kept.filter fun ch => !providerDegraded ctx.operational ch) ++
      kept.filter (providerDegraded ctx.operational)).Perm kept :=
    List.perm_append_comm.trans (List.filter_append_perm _ kept)
  apply holds_of_divided
  · refine ⟨hs.bound, hs.notClosed, hs.notHeld, (hdegraded _).trans (filter_left_perm hs.eligible),
      ((hdegraded _).append_right _).trans
        (division_move (fun ch => (Bool.not_not _).symm) hs.division)⟩
  · exact fun ch => provided_of_recommendable
  · rfl

theorem rule8_divides (ctx : ChannelAdvisoryContext) :
    Keeps (Divided ctx (provided ctx.operational)) (Divided ctx (provided ctx.operational))
      (Recommends ctx) (rule8 ctx) := by
  intro s hs
  by_cases hexhausted : ctx.operational.channelExhaustionState = some "EXHAUSTED" ∧ s.eligible = []
  · have hexit : rule8 ctx s = _ := if_pos hexhausted
    rw [hexit]
    exact hs.recommends_nil (fun ch => provided_of_recommendable) hexhausted.2 rfl
  · by_cases hpartial : ctx.operational.channelExhaustionState = some "PARTIAL"
    · have hnext : rule8 ctx s = _ := (if_neg hexhausted).trans (if_pos hpartial)
      rw [hnext]
      exact hs.of_eq rfl rfl rfl
    · have hnext : rule8 ctx s = _ := (if_neg hexhausted).trans (if_neg hpartial)
      rw [hnext]
      exact hs.of_eq rfl rfl rfl

theorem rule9_divides (ctx : ChannelAdvisoryContext) :
    Keeps (Divided ctx (provided ctx.operational))
      (fun s => ¬ ReplayStopped ctx ∧ Divided ctx (provided ctx.operational) s) (Recommends ctx)
      (rule9 ctx) := by
  intro s hs
  by_cases hreplay : isReplayType ctx.governance.executionType = true
  · by_cases hblocks : replayBlocks ctx.governance ≠ []
    · have hexit : rule9 ctx s = _ := (if_pos hreplay).trans (if_pos hblocks)
      rw [hexit]
      exact recommends_of_stopped (.inr (.inr ⟨hreplay, hblocks⟩)) rfl
    · have hnext : rule9 ctx s = _ := (if_pos hreplay).trans (if_neg hblocks)
      rw [hnext]
      refine ⟨fun h => hblocks h.2, ?_⟩
      split_ifs
      · exact hs.of_eq rfl rfl rfl
      · exact hs.of_eq rfl rfl rfl
  · have hnext : rule9 ctx s = _ := if_neg hreplay
    rw [hnext]
    exact ⟨fun h => hreplay h.1, hs⟩

theorem failing_eq_filter (h : failing op suspTh chs = .ok removed) :
    removed = chs.filter fun ch =>
      succeeds (crosses Py.geValue (some (failureCount op ch)) suspTh) := by
  induction chs generalizing removed with
  | nil =>
    cases h
    rfl
  | cons ch chs ih =>
    rw [failing, Py.bind_eq_ok] at h
    obtain ⟨reached, hreached, h⟩ := h
    rw [Py.bind_eq_ok] at h
    obtain ⟨rest, hrest, h⟩ := h
    cases h
    rw [List.filter_cons, hreached, ih hrest]
    rfl

theorem filter_not_reached (channels : List Ch) :
    (channels.filter fun ch => !(channels.filter (reached ctx)).contains ch) =
      channels.filter fun ch => !reached ctx ch := by
  apply List.filter_congr
  intro ch hch
  rw [Bool.not_inj_iff, List.contains_eq_mem, Bool.eq_iff_iff, decide_eq_true_eq, List.mem_filter]
  exact and_iff_right hch

theorem suspend_divides (hs : Divided ctx (provided ctx.operational) s)
    (hremoved : removed = s.eligible.filter (reached ctx)) :
    Divided ctx (recommendable ctx) (s.suspend removed) := by
  have hkept : (s.eligible.filter fun ch => !removed.contains ch) =
      s.eligible.filter fun ch => !reached ctx ch := by
    rw [hremoved]
    exact filter_not_reached s.eligible
  refine ⟨hs.bound, hs.notClosed, hs.notHeld, ?_, ?_⟩
  · dsimp only [Advice.suspend]
    rw [hkept]
    exact filter_left_perm hs.eligible
  · dsimp only [Advice.suspend]
    rw [hkept, hremoved]
    exact division_move (fun ch => (Bool.not_not _).symm) hs.division

theorem rule10_divides (ctx : ChannelAdvisoryContext) :
    Keeps (fun s => ¬ ReplayStopped ctx ∧ Divided ctx (provided ctx.operational) s)
      (fun s => ¬ ReplayStopped ctx ∧ Divided ctx (recommendable ctx) s) (Recommends ctx)
      (rule10 ctx) := by
  intro s hs
  obtain ⟨hblocked, hs⟩ := hs
  match hfailing : failing ctx.operational (suspensionThreshold ctx) s.eligible with
  | .error e =>
    rw [suspensionThreshold, ← hs.bound] at hfailing
    simp only [rule10, Advice.rule, Advice.codeIf, hfailing]
    trivial
  | .ok removed =>
    rw [rule10_ok hs.bound hfailing]
    have hcoded : Divided ctx (provided ctx.operational) ((s.rule "RULE_10").codeIf
        (ctx.operational.channelDeliveryFailureCounts.getD []).isEmpty
        "DELIVERY_FAILURE_COUNTS_UNKNOWN") := hs.of_eq rfl rfl rfl
    have hleft := suspend_divides hcoded (failing_eq_filter hfailing)
    rw [deliveryGate]
    by_cases heligible : (((s.rule "RULE_10").codeIf
        (ctx.operational.channelDeliveryFailureCounts.getD []).isEmpty
        "DELIVERY_FAILURE_COUNTS_UNKNOWN").suspend removed).eligible = []
    · rw [if_pos heligible]
      exact hleft.recommends_nil (fun _ h => h) heligible rfl
    · rw [if_neg heligible]
      exact ⟨hblocked, hleft⟩

theorem promote_perm (h : ch ∈ ordered) : (promote ch ordered).Perm ordered :=
  (List.perm_cons_erase h).symm

theorem engagedChannel_mem (h : engagedChannel score bound ordered = .ok (some ch)) :
    ch ∈ ordered := by
  rw [engagedChannel] at h
  rw [Py.bind_eq_ok] at h
  obtain ⟨call, hcall, h⟩ := h
  rcases ite_eq_iff.1 h with ⟨hengaged, h⟩ | ⟨-, h⟩
  · rw [hengaged] at hcall
    cases h
    exact ((engaged_true_iff _ _ _ _).1 hcall).2
  rw [Py.bind_eq_ok] at h
  obtain ⟨sms, hsms, h⟩ := h
  rcases ite_eq_iff.1 h with ⟨hengaged, h⟩ | ⟨-, h⟩
  · rw [hengaged] at hsms
    cases h
    exact ((engaged_true_iff _ _ _ _).1 hsms).2
  rw [Py.bind_eq_ok] at h
  obtain ⟨email, hemail, h⟩ := h
  rcases ite_eq_iff.1 h with ⟨hengaged, h⟩ | ⟨-, h⟩
  · rw [hengaged] at hemail
    cases h
    exact ((engaged_true_iff _ _ _ _).1 hemail).2
  · cases h

theorem configuredChannel_mem (h : configuredChannel bound ordered = some ch) : ch ∈ ordered := by
  rw [configuredChannel] at h
  split at h
  · exact List.mem_of_find?_eq_some h
  · cases h

/-- The order of RULE 11 follows at most one preference, for a channel that is left. -/
theorem order_perm (h : engagement eligible op bound = .ok preferred) :
    (order eligible bound preferred).Perm eligible := by
  have hengaged : ∀ ch, preferred = some ch → ch ∈ eligible := by
    intro ch hch
    cases hch
    rw [engagement] at h
    split at h
    · exact engagedChannel_mem h
    · cases h
  rw [order]
  cases preferred with
  | some ch => exact promote_perm (hengaged ch rfl)
  | none =>
    cases hconfigured : configuredChannel bound eligible with
    | some ch => exact promote_perm (configuredChannel_mem hconfigured)
    | none => exact .refl _

/-- The candidates are the eligible channels in some order. -/
structure Ranked (ctx : ChannelAdvisoryContext) (s : Advice) : Prop where
  notBlocked : ¬ ReplayStopped ctx
  divided : Divided ctx (recommendable ctx) s
  candidates : s.candidates.Perm s.eligible

theorem prioritizeChannels_perm (h : prioritizeChannels eligible op bound = .ok prioritized) :
    prioritized.1.Perm eligible := by
  rw [prioritizeChannels] at h
  cases hengagement : engagement eligible op bound with
  | error e =>
    rw [hengagement] at h
    cases h
  | ok preferred =>
    rw [hengagement] at h
    cases h
    exact order_perm hengagement

theorem rule11_ranks (ctx : ChannelAdvisoryContext) :
    Keeps (fun s => ¬ ReplayStopped ctx ∧ Divided ctx (recommendable ctx) s) (Ranked ctx)
      (Recommends ctx) (rule11 ctx) := by
  intro s hs
  cases hprior : prioritizeChannels s.eligible ctx.operational s.tb with
  | error e =>
    simp only [rule11, Advice.rule, hprior]
    trivial
  | ok prioritized =>
    simp only [rule11, Advice.rule, hprior]
    exact ⟨hs.1, hs.2.of_eq rfl rfl rfl, prioritizeChannels_perm hprior⟩

theorem Ranked.prefer (h : Ranked ctx s) (hmem : ch ∈ s.candidates) :
    Ranked ctx (s.prefer ch signal code) where
  notBlocked := h.notBlocked
  divided := h.divided.of_eq rfl rfl rfl
  candidates := (promote_perm hmem).trans h.candidates

theorem Ranked.of_eq {s' : Advice} (h : Ranked ctx s)
    (hdivided : Divided ctx (recommendable ctx) s')
    (heligible : s'.eligible = s.eligible) (hcandidates : s'.candidates = s.candidates) :
    Ranked ctx s' where
  notBlocked := h.notBlocked
  divided := hdivided
  candidates := by
    rw [heligible, hcandidates]
    exact h.candidates

theorem Ranked.applyAiSignal (h : Ranked ctx s) : Ranked ctx (applyAiSignal ctx s) := by
  unfold Channel.applyAiSignal
  dsimp only
  match preferredBySignal ctx.ai.aiChannelPreferenceSignal with
  | none => exact h
  | some ch =>
    dsimp only
    split_ifs with hcandidate
    · exact h.prefer hcandidate.2
    · exact h
    · exact h.prefer hcandidate.2
    · exact h

theorem rule12_ranks (ctx : ChannelAdvisoryContext) :
    Keeps (Ranked ctx) (Ranked ctx) (Recommends ctx) (rule12 ctx) := by
  intro s hs
  have hrule : Ranked ctx (s.rule "RULE_12") := hs.of_eq (hs.divided.of_eq rfl rfl rfl) rfl rfl
  change Ranked ctx (adjustForAi ctx (s.rule "RULE_12"))
  rw [adjustForAi]
  split_ifs
  · exact hrule.applyAiSignal
  · exact hrule.of_eq (hrule.divided.of_eq rfl rfl rfl) rfl rfl
  · exact hrule.of_eq (hrule.divided.of_eq rfl rfl rfl) rfl rfl
  · exact hrule.of_eq (hrule.divided.of_eq rfl rfl rfl) rfl rfl
  · exact hrule

theorem rule13_recommends (h : Ranked ctx s) : Recommends ctx (rule13 s) where
  none hstopped := by
    rcases hstopped with hclosed | hheld | hblocked
    · exact absurd hclosed h.divided.notClosed
    · exact absurd hheld h.divided.notHeld
    · exact absurd hblocked h.notBlocked
  candidates _ := h.candidates.trans h.divided.eligible
  division _ := (h.candidates.append_right _).trans h.divided.division

/-- What the rules emit divides the channels. -/
theorem rules_recommend (env : RuleEnv) (ctx : ChannelAdvisoryContext) :
    Ensures rule13 (fun s => s.prohibited = []) (Recommends ctx) (rules env ctx) :=
  ensures_cons (rule1_divides ctx) <| ensures_cons (rule2_divides ctx) <|
  ensures_cons (rule3_divides ctx) <| ensures_cons (rule4_divides ctx) <|
  ensures_cons (rule5_divides env ctx) <| ensures_cons (rule6_divides ctx) <|
  ensures_cons (rule7_divides ctx) <| ensures_cons (rule8_divides ctx) <|
  ensures_cons (rule9_divides ctx) <| ensures_cons (rule10_divides ctx) <|
  ensures_cons (rule11_ranks ctx) <| ensures_cons (rule12_ranks ctx) <|
  ensures_nil fun _ => rule13_recommends

def withPreference (ctx : ChannelAdvisoryContext) (signal : Option String) :
    ChannelAdvisoryContext :=
  { ctx with ai := { ctx.ai with aiChannelPreferenceSignal := signal } }

theorem rules_withPreference (env : RuleEnv) (ctx : ChannelAdvisoryContext)
    (signal : Option String) :
    ∃ front, rules env ctx = front ++ [rule12 ctx] ∧
      rules env (withPreference ctx signal) = front ++ [rule12 (withPreference ctx signal)] :=
  ⟨[rule1 ctx, rule2 ctx, rule3 ctx, rule4 ctx, rule5 env ctx, rule6 ctx, rule7 ctx, rule8 ctx,
    rule9 ctx, rule10 ctx, rule11 ctx], rfl, rfl⟩

/-- A channel that an advisory may recommend. -/
structure Reachable (ctx : ChannelAdvisoryContext) (ch : Ch) : Prop where
  contact : lacksContact ctx.operational ch = false
  consent : optedOut ctx.operational ch = false
  provider : providerState ctx.operational ch ≠ "UNAVAILABLE"
  suspension : stateOf ctx.operational.channelSuspensionState ch false = false
  delivery : ¬ AtLeast (some (failureCount ctx.operational ch)) (suspensionThreshold ctx)

theorem reachable_of_recommendable (h : recommendable ctx ch = true) : Reachable ctx ch := by
  simp only [recommendable, provided, consenting, contactable, Bool.and_eq_true,
    Bool.not_eq_true', Bool.or_eq_false_iff] at h
  obtain ⟨⟨⟨hcontact, hconsent⟩, hprovider, hsuspended⟩, hreached⟩ := h
  refine ⟨hcontact, hconsent, ?_, ?_, ?_⟩
  · intro hunavailable
    rw [unavailable, hunavailable] at hprovider
    cases hprovider
  · rwa [suspended, hprovider, Bool.not_false, Bool.true_and] at hsuspended
  · intro hat
    rw [reached, (crosses_geValue_iff _ _).2 hat] at hreached
    cases hreached

/-- What an assessment says of the channels. -/
structure Partitions (env : RuleEnv) (ctx : ChannelAdvisoryContext)
    (a : ChannelAdvisoryAssessment) : Prop where
  nodup : a.recommendedChannelCandidates.Nodup
  disjoint : ∀ ch ∈ a.recommendedChannelCandidates, ch ∉ a.prohibitedChannels
  exact : a.recommendedChannelCandidates ≠ [] →
    (a.recommendedChannelCandidates ++ a.prohibitedChannels).Perm allChannels
  reachable : ∀ ch ∈ a.recommendedChannelCandidates, Reachable ctx ch
  permutes : ∀ signal, ∃ a', assessChannelAdvisory env (withPreference ctx signal) = .ok a' ∧
    a'.recommendedChannelCandidates.Perm a.recommendedChannelCandidates

theorem Recommends.candidates_perm (h : Recommends ctx e) (h' : Recommends ctx e') :
    e'.candidates.Perm e.candidates := by
  by_cases hstopped : Stopped ctx
  · rw [h.none hstopped, h'.none hstopped]
  · exact (h'.candidates hstopped).trans (h.candidates hstopped).symm

theorem Recommends.candidate_recommendable (h : Recommends ctx e) (hch : ch ∈ e.candidates) :
    recommendable ctx ch = true := by
  by_cases hstopped : Stopped ctx
  · rw [h.none hstopped] at hch
    cases hch
  · exact (List.mem_filter.1 ((h.candidates hstopped).mem_iff.1 hch)).2

theorem Recommends.separate (h : Recommends ctx e) :
    e.candidates.Nodup ∧ ∀ ch ∈ e.candidates, ch ∉ e.advice.prohibited := by
  by_cases hnil : e.candidates = []
  · rw [hnil]
    exact ⟨.nil, fun ch hch => absurd hch List.not_mem_nil⟩
  · have hnodup : (e.candidates ++ e.advice.prohibited).Nodup :=
      (h.division hnil).nodup_iff.2 (by decide)
    obtain ⟨hcandidates, -, hdisjoint⟩ := List.nodup_append.1 hnodup
    exact ⟨hcandidates, fun ch hch hprohibited => hdisjoint ch hch ch hprohibited rfl⟩

/-- The preference of the insight neither stops an evaluation nor makes one raise. -/
theorem eval_withPreference {env : RuleEnv} (signal : Option String)
    (h : eval rule13 (rules env ctx) (start ctx) = .ok e) :
    ∃ e', eval rule13 (rules env (withPreference ctx signal)) (start ctx) = .ok e' := by
  obtain ⟨front, hrules, hrules'⟩ := rules_withPreference env ctx signal
  rw [hrules] at h
  rw [hrules']
  exact returns_append_of_next (fun _ => ⟨_, rfl⟩) h

/-- Every assessment divides the channels that the context leaves from the prohibited ones. -/
theorem assessment_partitions (env : RuleEnv) (ctx : ChannelAdvisoryContext)
    (a : ChannelAdvisoryAssessment) (h : assessChannelAdvisory env ctx = .ok a) :
    Partitions env ctx a := by
  by_cases h0 : governancePreconditions ctx.governance ≠ []
  · have hblocked : a = makeBlocked ctx (governancePreconditions ctx.governance) :=
      (Except.ok.inj ((if_pos h0).symm.trans h)).symm
    rw [hblocked]
    exact ⟨.nil, fun ch hch => absurd hch List.not_mem_nil, fun hne => absurd rfl hne,
      fun ch hch => absurd hch List.not_mem_nil, fun signal => ⟨_, if_pos h0, .refl _⟩⟩
  · have heval := (if_neg h0).symm.trans h
    match hout : eval rule13 (rules env ctx) (start ctx) with
    | .error e =>
      rw [hout] at heval
      cases heval
    | .ok e =>
      rw [hout] at heval
      cases heval
      have hrecommends := rules_recommend env ctx (start ctx) rfl e hout
      refine ⟨hrecommends.separate.1, hrecommends.separate.2, hrecommends.division,
        fun ch hch => reachable_of_recommendable (hrecommends.candidate_recommendable hch),
        fun signal => ?_⟩
      obtain ⟨e', he'⟩ := eval_withPreference signal hout
      have hrecommends' : Recommends (withPreference ctx signal) e' :=
        rules_recommend env (withPreference ctx signal) (start ctx) rfl e' he'
      have hsame : Recommends ctx e' :=
        ⟨hrecommends'.none, hrecommends'.candidates, hrecommends'.division⟩
      refine ⟨emit (withPreference ctx signal) e', ?_, hrecommends.candidates_perm hsame⟩
      exact (if_neg h0).trans (congrArg (Except.map (emit (withPreference ctx signal))) he')

/-- A live advisory for a student who has opted out of messages, with a confident insight. -/
def optedOutOfSms : ChannelAdvisoryContext where
  governance :=
    { configVersionId := some "v1"
      configVersionStatus := "ACTIVE"
      configRuleSet := [("channel_delivery_failure_suspension_threshold", .int 3),
        ("ai_insight_ttl_hours", .int 24)]
      executionMode := "LIVE"
      executionType := "original"
      correlationId := some "c1"
      causationId := none
      attributionContext :=
        [("origin_source", .str "sync"), ("origin_authority", .str "SYSTEM"),
          ("actor_identity", .str "job"), ("attribution_timestamp", .str "2026-01-01T00:00:00")]
      fingerprintContext := none
      idempotencyKey := none }
  operational :=
    { email := some "s@example.org"
      phoneNumber := some "555"
      channelOptOutState := some [("SMS", true)]
      channelDeliveryFailureCounts := some [("CALL", 2)] }
  ai :=
    { aiInsightState := some "AI_REVIEWED"
      aiConfidenceScore := some (9 / 10)
      aiStaleFlag := false
      aiFinalizedCopy := false
      aiChannelPreferenceSignal := some "PREFER_EMAIL" }

def noonEnv : RuleEnv := ⟨0, fun _ => none, fun _ => ""⟩

theorem optedOutOfSms_partitions :
    ∃ a, assessChannelAdvisory noonEnv optedOutOfSms = .ok a ∧
      a.recommendedChannelCandidates = [.email, .call] ∧
      Partitions noonEnv optedOutOfSms a := by
  have hassessed : (assessChannelAdvisory noonEnv optedOutOfSms).toOption.map
      (·.recommendedChannelCandidates) = some [.email, .call] := by decide +kernel
  match ha : assessChannelAdvisory noonEnv optedOutOfSms with
  | .error e =>
    rw [ha] at hassessed
    cases hassessed
  | .ok a =>
    rw [ha] at hassessed
    exact ⟨a, rfl, Option.some.inj hassessed, assessment_partitions noonEnv optedOutOfSms a ha⟩

end Channel
end StudentSuccess
