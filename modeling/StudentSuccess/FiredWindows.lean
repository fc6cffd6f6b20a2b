import StudentSuccess.Runs
import Mathlib.Data.List.Nodup

set_option autoImplicit true

namespace FiredWindows

/-- The keys that are taken, and the log that the steps leave. -/
structure State (κ : Type u) (ε : Type v) where
  taken : List κ
  log : List ε

variable {κ : Type u} {ε : Type v} {ω : Type w} {window : ε → Option ω} {key : ω → κ}

/-- No window fires twice, and the key of every fired window is taken. -/
structure Once (window : ε → Option ω) (key : ω → κ) (s : State κ ε) : Prop where
  nodup : (s.log.filterMap window).Nodup
  taken : ∀ w ∈ s.log.filterMap window, key w ∈ s.taken

/-- What a step adds to the log fires windows whose keys were free and takes these keys. -/
structure Takes (window : ε → Option ω) (key : ω → κ) (s s' : State κ ε) (added : List ε) : Prop
    where
  log : s'.log = s.log ++ added
  nodup : (added.filterMap window).Nodup
  free : ∀ w ∈ added.filterMap window, key w ∉ s.taken
  taken : ∀ w ∈ added.filterMap window, key w ∈ s'.taken
  kept : ∀ k ∈ s.taken, k ∈ s'.taken

theorem once_init : Once window key ⟨taken, []⟩ := ⟨List.nodup_nil, by simp⟩

theorem Takes.silent (h : added.filterMap window = []) (s : State κ ε) :
    Takes window key s ⟨s.taken, s.log ++ added⟩ added := by
  refine ⟨rfl, ?_, ?_, ?_, fun k hk => hk⟩
  · rw [h]
    exact List.nodup_nil
  · simp [h]
  · simp [h]

theorem Takes.fire (h : added.filterMap window = [w]) (hfree : key w ∉ s.taken) :
    Takes window key s ⟨s.taken ++ [key w], s.log ++ added⟩ added := by
  refine ⟨rfl, ?_, ?_, ?_, fun k hk => List.mem_append_left _ hk⟩
  · rw [h]
    exact List.nodup_singleton w
  · simpa [h] using hfree
  · simp [h]

theorem Takes.trans (h : Takes window key s s' added) (h' : Takes window key s' s'' added') :
    Takes window key s s'' (added ++ added') := by
  refine ⟨?_, ?_, ?_, ?_, fun k hk => h'.kept k (h.kept k hk)⟩
  · rw [h'.log, h.log, List.append_assoc]
  · rw [List.filterMap_append, List.nodup_append]
    refine ⟨h.nodup, h'.nodup, ?_⟩
    rintro w hw w' hw' rfl
    exact h'.free w hw' (h.taken w hw)
  · intro w hw
    rw [List.filterMap_append, List.mem_append] at hw
    rcases hw with hw | hw
    · exact h.free w hw
    · exact fun hmem => h'.free w hw (h.kept (key w) hmem)
  · intro w hw
    rw [List.filterMap_append, List.mem_append] at hw
    rcases hw with hw | hw
    · exact h'.kept (key w) (h.taken w hw)
    · exact h'.taken w hw

theorem Takes.once (h : Takes window key s s' added) (hs : Once window key s) :
    Once window key s' := by
  constructor
  · rw [h.log, List.filterMap_append, List.nodup_append]
    refine ⟨hs.nodup, h.nodup, ?_⟩
    rintro w hw w' hw' rfl
    exact h.free w hw' (hs.taken w hw)
  · intro w hw
    rw [h.log, List.filterMap_append, List.mem_append] at hw
    rcases hw with hw | hw
    · exact h.kept (key w) (hs.taken w hw)
    · exact h.taken w hw

/-- Steps that take what they fire fire no window twice over a whole run. -/
theorem final_once {step : State κ ε → ρ → State κ ε}
    (hstep : ∀ s r, ∃ added, Takes window key s (step s r) added) (taken : List κ) (rs : List ρ) :
    Once window key (Runs.final step ⟨taken, []⟩ rs) := by
  apply Runs.invariant (I := Once window key) ?_ once_init
  intro s r hs
  obtain ⟨added, htakes⟩ := hstep s r
  exact htakes.once hs

end FiredWindows
