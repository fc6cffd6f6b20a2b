import StudentSuccess.Snapshot

namespace StudentSuccess
namespace Narratives
set_option autoImplicit true

def insightText (platform : Platform) (studentId : Int) (type : NarrativeType) : Option String :=
  (latestInsight platform studentId type).bind (·.contentText)

/-- The snapshot that the companion row is joined with. -/
def snapshotOf (w : Warehouse) (n : SnapshotAiNarratives) : Option StudentSnapshots :=
  w.studentSnapshots.find? n.snapshotId

/-- `COALESCE(column, (SELECT …))`. -/
def coalesce (platform : Platform) (studentId : Int) (texts : NarrativeType → Option String)
    (type : NarrativeType) : Option String :=
  (texts type).or (insightText platform studentId type)

def filled (platform : Platform) (w : Warehouse) (n : SnapshotAiNarratives) :
    NarrativeType → Option String :=
  match snapshotOf w n with
  | some snapshot => coalesce platform snapshot.studentId n.texts
  | none => n.texts

/-- The `UPDATE` that both backfill endpoints execute; whether the snapshot is finalized it
does not ask. -/
def backfill (platform : Platform) (w : Warehouse) : Warehouse :=
  w.updateNarratives (filled platform w)

/-- `SELECT COUNT(*) … WHERE risk_summary_text IS NULL`. -/
def countNull (w : Warehouse) : Nat :=
  w.snapshotAiNarratives.rows.countP fun n => (n.texts .riskSummary).isNone

structure BackfillResult where
  snapshotsBackfilled : Int
  snapshotsStillNull : Nat
  note : String

def backfillNarratives (platform : Platform) (w : Warehouse) : Warehouse × BackfillResult :=
  let w' := backfill platform w
  let after := countNull w'
  (w',
    { snapshotsBackfilled := (countNull w : Int) - after
      snapshotsStillNull := after
      note :=
        if after = 0 then
          "Run POST /reports/monthly/generate-all for each month to " ++
            "refresh report content with the new narratives."
        else toString after ++ " snapshots still have null narratives — " ++
          "ensure generation completed for all students first." })

/-- The `UPDATE` finds a text for a column of the row that is still null. -/
def Fillable (platform : Platform) (w : Warehouse) (n : SnapshotAiNarratives) : Prop :=
  ∃ snapshot type, snapshotOf w n = some snapshot ∧ n.texts type = none ∧
    insightText platform snapshot.studentId type ≠ none

theorem filled_eq_iff (platform : Platform) (w : Warehouse) (n : SnapshotAiNarratives) :
    filled platform w n = n.texts ↔ ¬ Fillable platform w n := by
  rw [filled, Fillable]
  cases hsnapshot : snapshotOf w n with
  | none => simp
  | some snapshot =>
    constructor
    · intro h hfillable
      obtain ⟨_, type, heq, hnull, htext⟩ := hfillable
      cases heq
      have hcolumn := congrFun h type
      simp only [coalesce, hnull, Option.none_or] at hcolumn
      exact htext hcolumn
    · intro h
      funext type
      cases htext : n.texts type with
      | some text => simp [coalesce, htext]
      | none =>
        by_contra hne
        apply h
        refine ⟨snapshot, type, rfl, htext, ?_⟩
        intro hnone
        exact hne (by simp [coalesce, htext, hnone])

end Narratives
end StudentSuccess
