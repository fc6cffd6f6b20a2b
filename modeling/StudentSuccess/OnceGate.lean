import StudentSuccess.Runs

set_option autoImplicit true

/-- A gate that refuses a key it has seen: the key of a request, whether the request is sound
apart from its key, and whether it leaves its key in the gate's store. -/
structure OnceGate (κ ρ : Type) where
  key : ρ → Option κ
  Sound : ρ → Prop
  Stores : ρ → Prop
  Original : ρ → Prop
  Replay : ρ → Prop
  original_stores : ∀ r, Original r → Stores r
  original_live : ∀ r, Original r → ¬ Replay r

namespace OnceGate

variable {κ ρ : Type} (g : OnceGate κ ρ)

def Uses (k : κ) (r : ρ) : Prop := g.Sound r ∧ g.key r = some k

/-- The request uses the key and leaves it in the store. -/
def Registers (k : κ) (r : ρ) : Prop := g.Uses k r ∧ g.Stores r

/-- The step of a service, and what it lets through, are those of the gate. -/
structure Guards (step : List κ → ρ → List κ) (admits : List κ → ρ → Prop) : Prop where
  admits_iff : ∀ keys r, admits keys r ↔ g.Sound r ∧ ∀ k, g.key r = some k → k ∉ keys
  mem_step : ∀ keys r k,
    k ∈ step keys r ↔ k ∈ keys ∨ admits keys r ∧ g.Stores r ∧ g.key r = some k

section Promise

variable (step : List κ → ρ → List κ) (admits : List κ → ρ → Prop) (rs : List ρ)

/-- Of the requests with one key that are no replays, one at most is let through. -/
def LiveOnce : Prop :=
  ∀ before r mid r' rest k, rs = before ++ r :: (mid ++ r' :: rest) →
    ¬ g.Replay r → ¬ g.Replay r' → g.key r = some k → g.key r' = some k →
    admits (Runs.final step [] before) r → ¬ admits (Runs.final step [] (before ++ r :: mid)) r'

/-- A replay is not refused for the key of an original that was let through. -/
def ReplaysPass : Prop :=
  ∀ before r mid r' rest k, rs = before ++ r :: (mid ++ r' :: rest) →
    g.Original r → g.Replay r' → g.key r = some k → g.key r' = some k →
    admits (Runs.final step [] before) r → admits [] r' →
    admits (Runs.final step [] (before ++ r :: mid)) r'

/-- An original is refused for its key only when a request that is no replay got through with it. -/
def OriginalsPass : Prop :=
  ∀ before r rest k, rs = before ++ r :: rest → g.Original r → g.key r = some k → admits [] r →
    (∀ b r' m, before = b ++ r' :: m → ¬ g.Replay r' → g.key r' = some k →
      ¬ admits (Runs.final step [] b) r') →
    admits (Runs.final step [] before) r

/-- What the store of keys is for, over a run from the empty store. -/
structure AtMostOnce : Prop where
  live : g.LiveOnce step admits rs
  replay : g.ReplaysPass step admits rs
  original : g.OriginalsPass step admits rs

/-- The requests of a run that use one key keep out of each other's way: each of the three
encounters comes only after a request that registers the key. -/
structure Separate : Prop where
  live : ∀ before r mid r' rest k, rs = before ++ r :: (mid ++ r' :: rest) →
    ¬ g.Replay r → ¬ g.Replay r' → g.Uses k r → g.Uses k r' →
    ∃ r₀ ∈ before ++ r :: mid, g.Registers k r₀
  replay : ∀ before r mid r' rest k, rs = before ++ r :: (mid ++ r' :: rest) →
    g.Original r → g.Replay r' → g.Uses k r → g.Uses k r' → ∃ r₀ ∈ before, g.Registers k r₀
  original : ∀ before r mid r' rest k, rs = before ++ r :: (mid ++ r' :: rest) →
    g.Replay r → g.Original r' → g.Registers k r → g.Uses k r' →
    ∃ r₀ ∈ before, g.Registers k r₀ ∨ ¬ g.Replay r₀ ∧ g.Uses k r₀

end Promise

variable {g} {step : List κ → ρ → List κ} {admits : List κ → ρ → Prop}

/-- The store holds the keys that a request of the run registers. -/
theorem Guards.mem_final_from (h : g.Guards step admits) (k : κ) (keys : List κ) (rs : List ρ) :
    k ∈ Runs.final step keys rs ↔ k ∈ keys ∨ ∃ r ∈ rs, g.Registers k r := by
  induction rs generalizing keys with
  | nil => simp
  | cons r rs ih =>
    rw [Runs.final_cons, ih, h.mem_step, h.admits_iff, List.exists_mem_cons_iff, ← or_assoc]
    apply or_congr_left
    constructor
    · intro hmem
      obtain hmem | ⟨⟨hsound, -⟩, hstores, hkey⟩ := hmem
      · exact .inl hmem
      · exact .inr ⟨⟨hsound, hkey⟩, hstores⟩
    · intro hmem
      obtain hmem | ⟨⟨hsound, hkey⟩, hstores⟩ := hmem
      · exact .inl hmem
      · by_cases hin : k ∈ keys
        · exact .inl hin
        · refine .inr ⟨⟨hsound, ?_⟩, hstores, hkey⟩
          intro k' hk'
          rw [hkey] at hk'
          cases hk'
          exact hin

theorem Guards.mem_final (h : g.Guards step admits) (k : κ) (rs : List ρ) :
    k ∈ Runs.final step [] rs ↔ ∃ r ∈ rs, g.Registers k r := by
  rw [h.mem_final_from]
  simp

/-- After the run a request with the key gets through when no request before it registers it. -/
theorem Guards.admits_final (h : g.Guards step admits) (hkey : g.key r = some k)
    (before : List ρ) :
    admits (Runs.final step [] before) r ↔ g.Uses k r ∧ ∀ r' ∈ before, ¬ g.Registers k r' := by
  rw [h.admits_iff]
  constructor
  · intro hadmits
    refine ⟨⟨hadmits.1, hkey⟩, ?_⟩
    intro r' hr' hregisters
    exact hadmits.2 k hkey ((h.mem_final k before).2 ⟨r', hr', hregisters⟩)
  · intro huses
    refine ⟨huses.1.1, ?_⟩
    intro k' hk' hmem
    rw [hkey] at hk'
    cases hk'
    obtain ⟨r', hr', hregisters⟩ := (h.mem_final k before).1 hmem
    exact huses.2 r' hr' hregisters

theorem Guards.sound_of_admits (h : g.Guards step admits) (hadmits : admits keys r) : g.Sound r :=
  ((h.admits_iff keys r).1 hadmits).1

theorem Guards.admits_nil (h : g.Guards step admits) (hsound : g.Sound r) : admits [] r :=
  (h.admits_iff [] r).2 ⟨hsound, by simp⟩

theorem Guards.refused_after (h : g.Guards step admits) (hregisters : g.Registers k r)
    (hkey : g.key r' = some k) (hmem : r ∈ before) :
    ¬ admits (Runs.final step [] before) r' := by
  intro hadmits
  exact ((h.admits_final hkey before).1 hadmits).2 r hmem hregisters

theorem exists_first {P : ρ → Prop} {rs : List ρ} (h : ∃ r ∈ rs, P r) :
    ∃ before r rest, rs = before ++ r :: rest ∧ P r ∧ ∀ r' ∈ before, ¬ P r' := by
  induction rs with
  | nil =>
    obtain ⟨r, hr, -⟩ := h
    cases hr
  | cons r rs ih =>
    by_cases hr : P r
    · exact ⟨[], r, rs, rfl, hr, by simp⟩
    · obtain ⟨r', hr', hP⟩ := h
      obtain rfl | hr' := List.mem_cons.1 hr'
      · exact absurd hP hr
      · obtain ⟨before, r', rest, rfl, hP, hbefore⟩ := ih ⟨r', hr', hP⟩
        exact ⟨r :: before, r', rest, rfl, hP, List.forall_mem_cons.2 ⟨hr, hbefore⟩⟩

theorem split_cases (h : before ++ r :: mid = b ++ r' :: m) :
    r' ∈ before ∨ r' = r ∨ r ∈ b := by
  obtain ⟨as, rfl, hr⟩ | ⟨bs, rfl, hr⟩ := List.append_eq_append_iff.1 h
  · cases as with
    | nil =>
      cases hr
      exact .inr (.inl rfl)
    | cons a as =>
      cases hr
      exact .inr (.inr (by simp))
  · cases bs with
    | nil =>
      cases hr
      exact .inr (.inl rfl)
    | cons a bs =>
      cases hr
      exact .inl (by simp)

theorem Guards.liveOnce_iff (h : g.Guards step admits) (rs : List ρ) :
    g.LiveOnce step admits rs ↔
      ∀ before r mid r' rest k, rs = before ++ r :: (mid ++ r' :: rest) →
        ¬ g.Replay r → ¬ g.Replay r' → g.Uses k r → g.Uses k r' →
        ∃ r₀ ∈ before ++ r :: mid, g.Registers k r₀ := by
  constructor
  · intro hrun before r mid r' rest k hrs hlive hlive' huses huses'
    by_contra hnone
    have hnone : ∀ r₀ ∈ before ++ r :: mid, ¬ g.Registers k r₀ :=
      fun r₀ hr₀ hregisters => hnone ⟨r₀, hr₀, hregisters⟩
    refine hrun before r mid r' rest k hrs hlive hlive' huses.2 huses'.2 ?_ ?_
    · exact (h.admits_final huses.2 before).2
        ⟨huses, fun r₀ hr₀ => hnone r₀ (List.mem_append_left _ hr₀)⟩
    · exact (h.admits_final huses'.2 _).2 ⟨huses', hnone⟩
  · intro hrun before r mid r' rest k hrs hlive hlive' hkey hkey' hadmits hadmits'
    have huses' := (h.admits_final hkey' _).1 hadmits'
    obtain ⟨r₀, hr₀, hregisters⟩ := hrun before r mid r' rest k hrs hlive hlive'
      ⟨h.sound_of_admits hadmits, hkey⟩ huses'.1
    exact huses'.2 r₀ hr₀ hregisters

theorem Guards.replaysPass_iff (h : g.Guards step admits) (rs : List ρ) :
    g.ReplaysPass step admits rs ↔
      ∀ before r mid r' rest k, rs = before ++ r :: (mid ++ r' :: rest) →
        g.Original r → g.Replay r' → g.Uses k r → g.Uses k r' →
        ∃ r₀ ∈ before, g.Registers k r₀ := by
  constructor
  · intro hrun before r mid r' rest k hrs horiginal hreplay huses huses'
    by_contra hnone
    have hadmits : admits (Runs.final step [] before) r :=
      (h.admits_final huses.2 before).2
        ⟨huses, fun r₀ hr₀ hregisters => hnone ⟨r₀, hr₀, hregisters⟩⟩
    have hpass := hrun before r mid r' rest k hrs horiginal hreplay huses.2 huses'.2 hadmits
      (h.admits_nil huses'.1)
    exact h.refused_after ⟨huses, g.original_stores r horiginal⟩ huses'.2 (by simp) hpass
  · intro hrun before r mid r' rest k hrs horiginal hreplay hkey hkey' hadmits hsound
    have huses := (h.admits_final hkey before).1 hadmits
    obtain ⟨r₀, hr₀, hregisters⟩ := hrun before r mid r' rest k hrs horiginal hreplay huses.1
      ⟨h.sound_of_admits hsound, hkey'⟩
    exact absurd hregisters (huses.2 r₀ hr₀)

theorem Guards.originalsPass_iff (h : g.Guards step admits) (rs : List ρ) :
    g.OriginalsPass step admits rs ↔
      ∀ before r mid r' rest k, rs = before ++ r :: (mid ++ r' :: rest) →
        g.Replay r → g.Original r' → g.Registers k r → g.Uses k r' →
        ∃ r₀ ∈ before, g.Registers k r₀ ∨ ¬ g.Replay r₀ ∧ g.Uses k r₀ := by
  constructor
  · intro hrun before r mid r' rest k hrs hreplay horiginal hregisters huses'
    by_contra hnone
    have hpass := hrun (before ++ r :: mid) r' rest k (by simp [hrs]) horiginal huses'.2
      (h.admits_nil huses'.1) ?_
    · exact h.refused_after hregisters huses'.2 (by simp) hpass
    · intro b r₀ m hsplit hlive hkey hadmits
      have huses₀ : g.Uses k r₀ := ⟨h.sound_of_admits hadmits, hkey⟩
      obtain hmem | rfl | hmem := split_cases hsplit
      · exact hnone ⟨r₀, hmem, .inr ⟨hlive, huses₀⟩⟩
      · exact hlive hreplay
      · exact h.refused_after hregisters hkey hmem hadmits
  · intro hrun before r rest k hrs horiginal hkey hsound hnone
    have huses : g.Uses k r := ⟨h.sound_of_admits hsound, hkey⟩
    refine (h.admits_final hkey before).2 ⟨huses, ?_⟩
    intro r₀ hr₀ hregisters
    obtain ⟨b, r₁, m, rfl, hregisters, hfirst⟩ := exists_first ⟨r₀, hr₀, hregisters⟩
    -- The request that took the key is a replay: one that is none was let through.
    have hreplay : g.Replay r₁ := by
      by_contra hlive
      exact hnone b r₁ m rfl hlive hregisters.1.2
        ((h.admits_final hregisters.1.2 b).2 ⟨hregisters.1, hfirst⟩)
    obtain ⟨r₂, hr₂, hregisters₂ | ⟨hlive, huses₂⟩⟩ := hrun b r₁ m r rest k (by simp [hrs])
      hreplay horiginal hregisters huses
    · exact hfirst r₂ hr₂ hregisters₂
    · obtain ⟨b', m', rfl⟩ := List.append_of_mem hr₂
      exact hnone b' r₂ (m' ++ r₁ :: m) (by simp) hlive huses₂.2
        ((h.admits_final huses₂.2 b').2
          ⟨huses₂, fun r' hr' => hfirst r' (List.mem_append_left _ hr')⟩)

/-- The gate keeps its promise over a run exactly when the run's requests keep apart. -/
theorem Guards.atMostOnce_iff (h : g.Guards step admits) (rs : List ρ) :
    g.AtMostOnce step admits rs ↔ g.Separate rs := by
  constructor
  · intro hrun
    exact ⟨(h.liveOnce_iff rs).1 hrun.live, (h.replaysPass_iff rs).1 hrun.replay,
      (h.originalsPass_iff rs).1 hrun.original⟩
  · intro hrun
    exact ⟨(h.liveOnce_iff rs).2 hrun.live, (h.replaysPass_iff rs).2 hrun.replay,
      (h.originalsPass_iff rs).2 hrun.original⟩

end OnceGate
