import StudentSuccess.MonthlyCoverage
import StudentSuccess.NarrativeGeneration

namespace StudentSuccess
namespace NarrativeMonths
set_option autoImplicit true
open Calendar (Month)
open Snapshot Narratives Pipeline

/-- The insights and the warehouse, and for each insight the month whose data it was generated
from: the code keeps no such column. -/
structure Records where
  insights : Table AIInsight (·.id)
  generatedFor : Nat → Month
  warehouse : Warehouse

def Records.platform (s : Records) (platform : Platform) : Platform :=
  { platform with aiInsights := s.insights }

/-- What writes the narratives of a month. -/
inductive Operation
  | generate (month : Month) (student : StudentTriggerData) (now : Instant) (complete : Complete)
  | assemble (parseUuid : String → Option String) (platform : Platform) (call : Snapshot.Call)
      (args : AssembleArgs)
  | backfill (platform : Platform)

def generated (s : Records) (month : Month) (student : StudentTriggerData) (now : Instant)
    (complete : Complete) : Records :=
  { s with
    insights :=
      (generateStudentNarratives complete now student.userId student s.insights).1
    generatedFor := fun id =>
      if id ∈ s.insights.rows.map (·.id) then s.generatedFor id else month }

def step (s : Records) : Operation → Records
  | .generate month student now complete => generated s month student now complete
  | .assemble parseUuid platform call args =>
    { s with
      warehouse :=
        committed s.warehouse
          (assembleSnapshot parseUuid (s.platform platform) call s.warehouse args) }
  | .backfill platform =>
    { s with warehouse := Narratives.backfill (s.platform platform) s.warehouse }

/-- The text is one of the student's finalized insights of the type, generated from the month's
data. -/
def Sourced (s : Records) (userId : Int) (type : NarrativeType) (month : Month)
    (text : String) : Prop :=
  ∃ r ∈ s.insights.rows, Finalizes r userId type ∧ s.generatedFor r.id = month ∧
    r.contentText = some text

/-- Every narrative stored with a snapshot was generated from the data of its month. -/
def Belongs (s : Records) : Prop :=
  ∀ n ∈ s.warehouse.snapshotAiNarratives.rows, ∀ r ∈ s.warehouse.studentSnapshots.rows,
    r.id = n.snapshotId → ∀ type text, n.texts type = some text →
      Sourced s r.studentId type r.snapshotMonth text

/-- The types that a generation skips have a finalized insight of the month. -/
def SkipsFinalized (s : Records) : Operation → Prop
  | .generate month student now complete =>
    ∀ type ∈ (generateStudentNarratives complete now student.userId student s.insights).2.skipped,
      ∃ r ∈ s.insights.rows, Finalizes r student.userId type ∧ s.generatedFor r.id = month
  | _ => True

def Lawful (s : Records) (operation : Operation) : Prop :=
  SkipsFinalized s operation ∧ Belongs (step s operation)

/-- The student has no finalized insight of the type from another month. -/
def OfMonth (s : Records) (userId : Int) (type : NarrativeType) (month : Month) : Prop :=
  ∀ r ∈ s.insights.rows, Finalizes r userId type → s.generatedFor r.id = month

structure ToMake (s : Records) (parseUuid : String → Option String) (platform : Platform)
    (call : Snapshot.Call) (args : AssembleArgs) : Prop where
  missing : s.warehouse.finalizedSnapshot args.studentId args.snapshotMonth = none
  student : studentForMonth platform args.studentId args.snapshotMonth ≠ none
  uuid : ∃ correlationId, callUuid parseUuid call.uuid args.correlationId = .ok correlationId

/-- No student that the step generates for, or copies a narrative of, has an insight of another
month. -/
def InMonth (s : Records) : Operation → Prop
  | .generate month student _ _ => ∀ type, OfMonth s student.userId type month
  | .assemble parseUuid platform call args =>
    ToMake s parseUuid platform call args →
      ∀ type, OfMonth s args.studentId type args.snapshotMonth
  | .backfill _ =>
    ∀ n ∈ s.warehouse.snapshotAiNarratives.rows, ∀ r ∈ s.warehouse.studentSnapshots.rows,
      r.id = n.snapshotId → ∀ type, n.texts type = none →
        OfMonth s r.studentId type r.snapshotMonth

variable {s : Records}

theorem latestInsight_source (h : latestInsight (s.platform platform) userId type = some r) :
    r ∈ s.insights.rows ∧ Finalizes r userId type := by
  have hmem := List.argmax_mem h
  rw [List.mem_filter, Bool.and_eq_true, Bool.and_eq_true, decide_eq_true_eq,
    decide_eq_true_eq] at hmem
  obtain ⟨hr, ⟨huser, htype⟩, hfinal⟩ := hmem
  exact ⟨hr, huser, htype, hfinal⟩

theorem latestInsight_ne_none (hr : r ∈ s.insights.rows) (hrow : Finalizes r userId type) :
    latestInsight (s.platform platform) userId type ≠ none := by
  intro hnone
  obtain ⟨huser, htype, hfinal⟩ := hrow
  have hother := List.filter_eq_nil_iff.1 (List.argmax_eq_none.1 hnone) r hr
  exact hother (Bool.and_eq_true_iff.2
    ⟨Bool.and_eq_true_iff.2 ⟨decide_eq_true huser, decide_eq_true htype⟩, hfinal⟩)

/-- What the lookup finds was generated for the month when nothing was generated for another. -/
theorem OfMonth.sourced (h : OfMonth s userId type month)
    (htext : insightText (s.platform platform) userId type = some text) :
    Sourced s userId type month text := by
  obtain ⟨r, hlatest, hcontent⟩ := Option.bind_eq_some_iff.1 htext
  obtain ⟨hr, hrow⟩ := latestInsight_source hlatest
  exact ⟨r, hr, hrow, h r hr hrow, hcontent⟩

/-- The converse, where the lookup has no choice. -/
theorem ofMonth_of_sourced (hs : Settled s.insights)
    (h : ∀ text, insightText (s.platform platform) userId type = some text →
      Sourced s userId type month text) : OfMonth s userId type month := by
  intro r hr hrow
  have hfound : latestInsight (s.platform platform) userId type ≠ none :=
    latestInsight_ne_none hr hrow
  obtain ⟨latest, hlatest⟩ := Option.ne_none_iff_exists'.1 hfound
  obtain ⟨hmem, hlatestRow⟩ := latestInsight_source hlatest
  obtain ⟨text, htext⟩ := Option.ne_none_iff_exists'.1 (hs.text latest hmem hlatestRow)
  obtain ⟨r', hr', hrow', hmonth, -⟩ := h text (Option.bind_eq_some_iff.2 ⟨latest, hlatest, htext⟩)
  rw [hs.single r hr r' hr' hrow hrow']
  exact hmonth

theorem Sourced.generated (h : Sourced s userId type month text) :
    Sourced (generated s month' student now complete) userId type month text := by
  obtain ⟨r, hr, hrow, hmonth, hcontent⟩ := h
  refine ⟨r, generateStudentNarratives_keeps hr, hrow, ?_, hcontent⟩
  exact (if_pos (List.mem_map_of_mem hr)).trans hmonth

/-- The new snapshot with its narratives. -/
theorem belongs_created (hs : Belongs s)
    (hsnapshots : w'.studentSnapshots.rows = s.warehouse.studentSnapshots.rows ++ [r])
    (hnarratives : w'.snapshotAiNarratives.rows = s.warehouse.snapshotAiNarratives.rows ++ [n])
    (hr : r.id = s.warehouse.studentSnapshots.nextId) (hn : n.snapshotId = r.id) :
    Belongs { s with warehouse := w' } ↔
      ∀ type text, n.texts type = some text → Sourced s r.studentId type r.snapshotMonth text := by
  constructor
  · intro h
    refine h n ?_ r ?_ hn.symm
    · exact hnarratives ▸ List.mem_append_right _ (.head _)
    · exact hsnapshots ▸ List.mem_append_right _ (.head _)
  · intro h n' hn' r' hr' hid
    have hn' : n' ∈ s.warehouse.snapshotAiNarratives.rows ++ [n] := hnarratives ▸ hn'
    have hr' : r' ∈ s.warehouse.studentSnapshots.rows ++ [r] := hsnapshots ▸ hr'
    have hfresh := s.warehouse.studentSnapshots.nextId_not_mem
    rw [List.mem_append, List.mem_singleton] at hn' hr'
    rcases hn' with hn' | rfl
    · rcases hr' with hr' | rfl
      · exact hs n' hn' r' hr' hid
      · exact absurd (s.warehouse.fkSnapshot n' hn') (hid ▸ hr ▸ hfresh)
    · rcases hr' with hr' | rfl
      · exact absurd (List.mem_map_of_mem hr') (hid ▸ hn ▸ hr ▸ hfresh)
      · exact h

theorem assemble_belongs_iff (hs : Belongs s) :
    Belongs (step s (.assemble parseUuid platform call args)) ↔
      (ToMake s parseUuid platform call args → ∀ type text,
        insightText (s.platform platform) args.studentId type = some text →
          Sourced s args.studentId type args.snapshotMonth text) := by
  have hcommit : step s (.assemble parseUuid platform call args) =
      { s with
        warehouse :=
          committed s.warehouse
            (assembleSnapshot parseUuid (s.platform platform) call s.warehouse args) } := rfl
  rw [hcommit]
  cases hmade : assembleSnapshot parseUuid (s.platform platform) call s.warehouse args with
  | error e =>
    apply iff_of_true hs
    intro hmake
    obtain ⟨correlationId, huuid⟩ := hmake.uuid
    obtain ⟨w', result, hok⟩ : ∃ w' result, assembleSnapshot parseUuid (s.platform platform) call
        s.warehouse args = .ok (w', result) := assembleSnapshot_of_uuid huuid
    exact absurd (hmade.symm.trans hok) nofun
  | ok made =>
    obtain ⟨w', result⟩ := made
    dsimp only [committed]
    cases assembleSnapshot_cases hmade with
    | «exists» existing hfound hsame =>
      rw [hsame]
      apply iff_of_true hs
      intro hmake
      exact absurd (hmake.missing.symm.trans hfound) nofun
    | error message hnone hsame =>
      rw [hsame]
      apply iff_of_true hs
      intro hmake
      exact absurd hnone hmake.student
    | created student correlationId segment risk mode available hnone hstudent huuid hsnapshots
        hnarratives =>
      rw [belongs_created hs hsnapshots hnarratives rfl rfl]
      constructor
      · exact fun h _ => h
      · intro h
        apply h
        exact ⟨hnone, fun hnone => absurd (hnone.symm.trans hstudent) nofun, correlationId, huuid⟩

theorem backfill_belongs_iff (hs : Belongs s) :
    Belongs (step s (.backfill platform)) ↔
      ∀ n ∈ s.warehouse.snapshotAiNarratives.rows, ∀ r ∈ s.warehouse.studentSnapshots.rows,
        r.id = n.snapshotId → ∀ type, n.texts type = none → ∀ text,
          insightText (s.platform platform) r.studentId type = some text →
            Sourced s r.studentId type r.snapshotMonth text := by
  have hfilled : ∀ n ∈ s.warehouse.snapshotAiNarratives.rows,
      ∀ r ∈ s.warehouse.studentSnapshots.rows, r.id = n.snapshotId → ∀ type,
        filled (s.platform platform) s.warehouse n type =
          (n.texts type).or (insightText (s.platform platform) r.studentId type) := by
    intro n hn r hr hid type
    have hsnapshot : snapshotOf s.warehouse n = some r := by
      rw [snapshotOf, ← hid]
      exact Table.find?_of_mem hr
    rw [filled, hsnapshot]
    rfl
  constructor
  · intro h n hn r hr hid type hnull text htext
    apply h { n with texts := filled (s.platform platform) s.warehouse n }
      (List.mem_map_of_mem hn) r hr hid type text
    have hfill := hfilled n hn r hr hid type
    rw [hnull, Option.none_or] at hfill
    exact hfill.trans htext
  · intro h n' hn' r hr hid type text htext
    obtain ⟨n, hn, rfl⟩ := List.mem_map.1 hn'
    have hfill := (hfilled n hn r hr hid type).symm.trans htext
    cases hnull : n.texts type with
    | none =>
      rw [hnull, Option.none_or] at hfill
      exact h n hn r hr hid type hnull text hfill
    | some old =>
      rw [hnull, Option.some_or] at hfill
      exact hs n hn r hr hid type text (hnull.trans hfill)

theorem generate_belongs (hs : Belongs s) :
    Belongs (step s (.generate month student now complete)) :=
  fun n hn r hr hid type text htext => (hs n hn r hr hid type text htext).generated

theorem lawful_of_inMonth (hs : Belongs s) (h : InMonth s operation) : Lawful s operation := by
  cases operation with
  | generate month student now complete =>
    refine ⟨?_, generate_belongs hs⟩
    intro type htype
    rw [generateStudentNarratives_skipped, mem_alreadyFinalized] at htype
    obtain ⟨r, hr, hrow⟩ := htype
    exact ⟨r, hr, hrow, h type r hr hrow⟩
  | assemble =>
    refine ⟨trivial, (assemble_belongs_iff hs).2 ?_⟩
    exact fun hmake type text htext => (h hmake type).sourced htext
  | backfill =>
    refine ⟨trivial, (backfill_belongs_iff hs).2 ?_⟩
    exact fun n hn r hr hid type hnull text htext => (h n hn r hr hid type hnull).sourced htext

theorem inMonth_of_lawful (hs : Belongs s) (hsettled : Settled s.insights)
    (h : Lawful s operation) : InMonth s operation := by
  obtain ⟨hskips, hbelongs⟩ := h
  cases operation with
  | generate month student now complete =>
    intro type r hr hrow
    obtain ⟨r', hr', hrow', hmonth⟩ := hskips type
      (generateStudentNarratives_skipped complete now student.userId student s.insights ▸
        mem_alreadyFinalized.2 ⟨r, hr, hrow⟩)
    rw [hsettled.single r hr r' hr' hrow hrow']
    exact hmonth
  | assemble =>
    intro hmake type
    exact ofMonth_of_sourced hsettled ((assemble_belongs_iff hs).1 hbelongs hmake type)
  | backfill =>
    intro n hn r hr hid type hnull
    exact ofMonth_of_sourced hsettled
      ((backfill_belongs_iff hs).1 hbelongs n hn r hr hid type hnull)

theorem step_settled (hs : Settled s.insights) : Settled (step s operation).insights := by
  cases operation with
  | generate => exact generateStudentNarratives_settled hs
  | assemble => exact hs
  | backfill => exact hs

/-- The batch generation is the run of its students' generations. -/
theorem generateStudents_run (month : Month) (complete : Complete) (now : Int → Instant)
    (counts : GenerateCounts) (rows : List StudentTriggerData) (s : Records) :
    (Runs.final step s
        (rows.map fun row => .generate month row (now row.userId) complete)).insights =
      (generateStudents complete now counts rows s.insights).1 := by
  induction rows generalizing counts s with
  | nil => rfl
  | cons row rows ih => exact ih _ _

theorem generateAllMonthlyNarratives_run (month : Month) (model : String) (complete : Complete)
    (now : Int → Instant) (mirror : List StudentTriggerData) (s : Records) (hkey : apiKey ≠ "") :
    (Runs.final step s
        (mirror.map fun row => .generate month row (now row.userId) complete)).insights =
      (generateAllMonthlyNarratives apiKey model complete now mirror s.insights).1 := by
  rw [generateAllMonthlyNarratives, if_neg hkey]
  exact generateStudents_run month complete now {} mirror s

/-- The batch assembly is the run of its students' assemblies. -/
theorem assembleEach_run (hargs : ∀ sid, (args sid).correlationId = none)
    (counts : AssembleCounts) (sids : List Int) (s : Records) :
    (Runs.final step s
        (sids.map fun sid => .assemble parseUuid platform (calls sid) (args sid))).warehouse =
      (assembleEach parseUuid (s.platform platform) calls args counts sids s.warehouse).1 := by
  induction sids generalizing counts s with
  | nil => rfl
  | cons sid sids ih =>
    obtain ⟨w', result, hone⟩ : ∃ w' result, assembleSnapshot parseUuid (s.platform platform)
        (calls sid) s.warehouse (args sid) = .ok (w', result) := assembleSnapshot_ends (hargs sid)
    have hstep : step s (.assemble parseUuid platform (calls sid) (args sid)) =
        { s with warehouse := w' } := by
      rw [step, hone]
      rfl
    rw [List.map_cons, Runs.final_cons, assembleEach, hone, hstep]
    exact ih _ _

/-- The monthly job stores the narratives that its students' assemblies store. -/
theorem runMonthlyReports_run (env : Surroundings) (month : Month) (executionMode : String)
    (configVersionId : Option String) (s : Records) :
    SameSnapshots
      (Runs.final step s ((env.platform.triggerdata.rows.map (·.userId)).map fun sid =>
        .assemble env.parseUuid env.platform (env.snapshotCall sid)
          { studentId := sid
            snapshotMonth := month
            executionMode := executionMode
            configVersionId := configVersionId })).warehouse
      (runMonthlyReports { env with platform := s.platform env.platform } month executionMode
        configVersionId s.warehouse) := by
  rw [assembleEach_run (fun _ => rfl) {}]
  exact runMonthlyReports_sameSnapshots { env with platform := s.platform env.platform } month
    executionMode configVersionId s.warehouse

/-- Narratives belong to their months along every run that generates and copies none for a student
with an insight of another month; where the lookups have no choice, along no other. -/
theorem narratives_belong_iff (s : Records) (hs : Belongs s) (operations : List Operation) :
    (Runs.EveryStep step InMonth s operations → Runs.EveryStep step Lawful s operations) ∧
      (Settled s.insights → Runs.EveryStep step Lawful s operations →
        Runs.EveryStep step InMonth s operations) := by
  constructor
  · intro h
    have hrun : Runs.EveryStep step (fun s operation => Belongs s ∧ InMonth s operation) s
        operations :=
      h.strengthen (fun _ _ hs hstep => (lawful_of_inMonth hs hstep).2) hs
    exact hrun.imp fun _ _ hstep => lawful_of_inMonth hstep.1 hstep.2
  · intro hsettled h
    have hrun : Runs.EveryStep step (fun s operation =>
        (Belongs s ∧ Settled s.insights) ∧ Lawful s operation) s operations :=
      h.strengthen (fun _ _ hs hstep => ⟨hstep.2, step_settled hs.2⟩) ⟨hs, hsettled⟩
    exact hrun.imp fun _ _ hstep => inMonth_of_lawful hstep.1.1 hstep.1.2 hstep.2

def fresh : Records := ⟨.empty, fun _ => january, emptyWarehouse⟩

def february : Month := january.next

/-- The generation for the month answers each type with the text. -/
def generateFor (month : Month) (text : String) : Operation :=
  .generate month mirrored 0 fun _ => .ok fun _ => some text

def assembleFor (month : Month) : Operation :=
  .assemble some (platformWith .empty) ((surroundings .empty).snapshotCall 7)
    { studentId := 7, snapshotMonth := month }

theorem narratives_belong_january :
    Runs.EveryStep step Lawful fresh [generateFor january "On track.", assembleFor january] := by
  apply (narratives_belong_iff fresh (fun _ hn => nomatch hn) _).1
  have hmade : ∀ r ∈ (step fresh (generateFor january "On track.")).insights.rows,
      (step fresh (generateFor january "On track.")).generatedFor r.id = january := by decide
  refine ⟨?_, fun _ _ r hr _ => hmade r hr, trivial⟩
  intro type r hr
  exact nomatch hr

/-- February's generation is skipped for January's insights, which its snapshot then copies. -/
theorem february_copies_january :
    ¬ Runs.EveryStep step Lawful fresh
      [generateFor january "On track.", assembleFor january, generateFor february "At risk.",
        assembleFor february] := by
  intro h
  obtain ⟨-, -, hfebruary, -⟩ := h
  have hmade : ∀ r ∈ (step fresh (generateFor january "On track.")).insights.rows,
      (step fresh (generateFor january "On track.")).generatedFor r.id = january := by decide
  obtain ⟨r, hr, -, hmonth⟩ := hfebruary.1 .riskSummary (by decide)
  exact absurd ((hmade r hr).symm.trans hmonth) (by decide)

end NarrativeMonths
end StudentSuccess
