import StudentSuccess.ReportRegister

namespace StudentSuccess
namespace Report
set_option autoImplicit true
open Calendar (Month)

/-- Texts that were there are there unchanged. -/
def Grows (texts texts' : NarrativeType → Option String) : Prop :=
  ∀ type, texts type = none ∨ texts' type = texts type

/-- The content is made of the snapshot and the texts, whatever the other tables gave to it. -/
def BuiltFrom (content : ReportContent) (snapshot : StudentSnapshots)
    (texts : NarrativeType → Option String) : Prop :=
  ∃ stateHistory generatedAt trendData outreachIntel lifecycle,
    content = buildReportContent ⟨snapshot, texts⟩ stateHistory generatedAt (lineageOf snapshot)
      trendData outreachIntel lifecycle

/-- The sections of a report that a later one of the same student and month repeats; a narrative may
only take the place of a missing one. -/
structure SectionsFrozen (content content' : ReportContent) : Prop where
  studentId : content'.studentId = content.studentId
  snapshotMonth : content'.snapshotMonth = content.snapshotMonth
  lineageVersion : content'.lineageVersion = content.lineageVersion
  identity : content'.identity = content.identity
  riskPriority : content'.riskPriority = content.riskPriority
  academicPerformance : content'.academicPerformance = content.academicPerformance
  engagement : content'.engagement = content.engagement
  financial : content'.financial = content.financial
  outreachSummary : content'.outreachSummary = content.outreachSummary
  governance : { content'.governanceMetadata with
    reportGeneratedDate := content.governanceMetadata.reportGeneratedDate } =
      content.governanceMetadata
  narrative : ∀ type, content.aiNarratives.texts type = noNarrative ∨
    content'.aiNarratives.texts type = content.aiNarratives.texts type
  available : content.aiNarratives.aiContentAvailable = true →
    content'.aiNarratives.aiContentAvailable = true

/-- What is read later of a report that was read. -/
structure Supersedes (r r' : ReportRead) : Prop where
  reportId : r'.reportId = r.reportId
  executionMode : r'.executionMode = r.executionMode
  lineageVersion : r'.lineageVersion = r.lineageVersion
  content : ∃ content content', r.reportContent = some content ∧
    r'.reportContent = some content' ∧ SectionsFrozen content content'

theorem Grows.refl (texts : NarrativeType → Option String) : Grows texts texts :=
  fun _ => .inr rfl

theorem Grows.trans (h : Grows texts texts') (h' : Grows texts' texts'') : Grows texts texts'' := by
  intro type
  rcases h type with hnone | hsame
  · exact .inl hnone
  · rcases h' type with hnone' | hsame'
    · exact .inl (hsame.symm.trans hnone')
    · exact .inr (hsame'.trans hsame)

theorem Grows.available (h : Grows texts texts')
    (havailable : (aiNarratives texts).aiContentAvailable = true) :
    (aiNarratives texts').aiContentAvailable = true := by
  obtain ⟨type, htype, htruthy⟩ := List.any_eq_true.1 havailable
  refine List.any_eq_true.2 ⟨type, htype, ?_⟩
  rcases h type with hnone | hsame
  · rw [hnone] at htruthy
    cases htruthy
  · rwa [hsame]

theorem BuiltFrom.sectionsFrozen (h : BuiltFrom content snapshot texts)
    (h' : BuiltFrom content' snapshot texts') (hgrows : Grows texts texts') :
    SectionsFrozen content content' := by
  obtain ⟨stateHistory, generatedAt, trendData, outreachIntel, lifecycle, rfl⟩ := h
  obtain ⟨stateHistory', generatedAt', trendData', outreachIntel', lifecycle', rfl⟩ := h'
  refine ⟨rfl, rfl, rfl, rfl, rfl, rfl, rfl, rfl, rfl, rfl, ?_, hgrows.available⟩
  intro type
  rcases hgrows type with hnone | hsame
  · left
    show Py.orText (texts type) noNarrative = noNarrative
    rw [hnone]
    rfl
  · right
    show Py.orText (texts' type) noNarrative = Py.orText (texts type) noNarrative
    rw [hsame]

theorem SectionsFrozen.refl (content : ReportContent) : SectionsFrozen content content :=
  ⟨rfl, rfl, rfl, rfl, rfl, rfl, rfl, rfl, rfl, rfl, fun _ => .inr rfl, id⟩

end Report

namespace Pipeline
open Calendar (Month)
open Snapshot Report Narratives

/-- Each report generated is made of what is still the finalized snapshot of its month, and the
later ones of a month repeat what the earlier ones say of it. -/
structure Sourced (w : Warehouse) (trace : List Generated) : Prop where
  source : ∀ g ∈ trace, ∃ loaded texts, loadFinalizedSnapshot w g.studentId g.month = some loaded ∧
    BuiltFrom g.content loaded.snapshot texts ∧ Grows texts loaded.texts
  ordered : trace.Pairwise fun g g' => g.studentId = g'.studentId ∧ g.month = g'.month →
    SectionsFrozen g.content g'.content

theorem sourced_empty : Sourced emptyWarehouse [] where
  source _ hg := absurd hg List.not_mem_nil
  ordered := List.Pairwise.nil

/-- Where every month keeps its snapshot, and the narratives of the snapshot grow, the reports keep
their source. -/
theorem Sourced.grow (h : Sourced w trace)
    (hgrow : ∀ studentId month loaded, loadFinalizedSnapshot w studentId month = some loaded →
      ∃ loaded', loadFinalizedSnapshot w' studentId month = some loaded' ∧
        loaded'.snapshot = loaded.snapshot ∧ Grows loaded.texts loaded'.texts) :
    Sourced w' trace := by
  refine ⟨?_, h.ordered⟩
  intro g hg
  obtain ⟨loaded, texts, hloaded, hbuilt, hgrows⟩ := h.source g hg
  obtain ⟨loaded', hloaded', hsnapshot, hgrows'⟩ := hgrow _ _ _ hloaded
  exact ⟨loaded', texts, hloaded', hsnapshot ▸ hbuilt, hgrows.trans hgrows'⟩

theorem narrativesOf_eq_head? (w : Warehouse) (snapshotId : Nat) :
    narrativesOf w snapshotId = (companions w snapshotId).head? := by
  rw [narrativesOf, companions, List.head?_filter]

theorem Frozen.loadFinalizedSnapshot (h : Frozen w w')
    (hloaded : Report.loadFinalizedSnapshot w studentId month = some loaded) :
    Report.loadFinalizedSnapshot w' studentId month = some loaded := by
  obtain ⟨snapshot, hsnapshot, rfl⟩ := Option.map_eq_some_iff.1 hloaded
  obtain ⟨hmem, hfinal, hkey⟩ := w.finalizedSnapshot_eq_some hsnapshot
  have hsame : w'.finalizedSnapshot studentId month = some snapshot :=
    w'.finalizedSnapshot_of_mem (h.snapshot snapshot hmem hfinal) hfinal hkey
  rw [Report.loadFinalizedSnapshot, hsame, Option.map_some, narrativesOf_eq_head?,
    narrativesOf_eq_head?, h.companion snapshot hmem hfinal]

theorem Sourced.frozen (h : Sourced w trace) (hfrozen : Frozen w w') : Sourced w' trace :=
  h.grow fun _ _ loaded hloaded =>
    ⟨loaded, hfrozen.loadFinalizedSnapshot hloaded, rfl, Grows.refl _⟩

theorem coalesce_grows (platform : Platform) (studentId : Int)
    (texts : NarrativeType → Option String) : Grows texts (coalesce platform studentId texts) := by
  intro type
  rw [coalesce]
  cases texts type with
  | none => exact .inl rfl
  | some text => exact .inr rfl

theorem filled_grows (platform : Platform) (w : Warehouse) (n : SnapshotAiNarratives) :
    Grows n.texts (filled platform w n) := by
  rw [filled]
  cases snapshotOf w n with
  | none => exact Grows.refl _
  | some snapshot => exact coalesce_grows platform snapshot.studentId n.texts

theorem backfill_loaded (platform : Platform)
    (hloaded : loadFinalizedSnapshot w studentId month = some loaded) :
    ∃ loaded', loadFinalizedSnapshot (backfill platform w) studentId month = some loaded' ∧
      loaded'.snapshot = loaded.snapshot ∧ Grows loaded.texts loaded'.texts := by
  obtain ⟨snapshot, hsnapshot, rfl⟩ := Option.map_eq_some_iff.1 hloaded
  have hnarratives : narrativesOf (backfill platform w) snapshot.id =
      (narrativesOf w snapshot.id).map fun n => { n with texts := filled platform w n } := by
    rw [narrativesOf_eq_head?, companions_backfill, List.head?_map, narrativesOf_eq_head?]
  have hsame : (backfill platform w).finalizedSnapshot studentId month = some snapshot := hsnapshot
  refine ⟨⟨snapshot, fun type => (narrativesOf (backfill platform w) snapshot.id).bind
    (·.texts type)⟩, ?_, rfl, ?_⟩
  · rw [loadFinalizedSnapshot, hsame]
    rfl
  · intro type
    dsimp only
    rw [hnarratives]
    cases narrativesOf w snapshot.id with
    | none => exact .inl rfl
    | some n => exact filled_grows platform w n type

theorem generateStudentReport_sourced (hw : Sourced w trace)
    (h : generateStudentReport platform call w args = .ok (w', result)) :
    Sourced w' (trace ++ generatedBy args call.now result) := by
  have hkept := hw.frozen (generateStudentReport_sameSnapshots h).frozen
  cases result with
  | error e =>
    rw [generatedBy, List.append_nil]
    exact hkept
  | ok reportId mode content =>
    obtain ⟨loaded, outreachIntel, hloaded, -, hcontent⟩ := generateStudentReport_content h
    have hbuilt : BuiltFrom content loaded.snapshot loaded.texts := ⟨_, _, _, _, _, hcontent⟩
    refine ⟨?_, ?_⟩
    · intro g hg
      rcases List.mem_append.1 hg with hold | hnew
      · exact hkept.source g hold
      · obtain rfl := List.mem_singleton.1 hnew
        have hlater := (generateStudentReport_sameSnapshots h).frozen.loadFinalizedSnapshot hloaded
        exact ⟨loaded, loaded.texts, hlater, hbuilt, Grows.refl _⟩
    · refine List.pairwise_append.2 ⟨hw.ordered, List.pairwise_singleton _ _, ?_⟩
      intro g hg g' hg' hsame
      obtain rfl := List.mem_singleton.1 hg'
      obtain ⟨earlier, texts, hearlier, hsource, hgrows⟩ := hw.source g hg
      rw [hsame.1, hsame.2] at hearlier
      obtain rfl : loaded = earlier := Option.some.inj (hloaded.symm.trans hearlier)
      exact hsource.sectionsFrozen hbuilt hgrows

theorem serve_sourced (hw : Sourced w trace) (request : Request) :
    Sourced (serve w request) (trace ++ generated w request) :=
  serve_generated_induction (P := Sourced) request
    (fun _ _ hw => hw.grow fun _ _ _ hloaded => backfill_loaded _ hloaded)
    (fun _ _ _ _ _ _ h hw => hw.frozen (assembleSnapshot_frozen h))
    (fun _ _ _ _ _ _ h hw => generateStudentReport_sourced hw h) hw

theorem run_sourced (requests : List Request) :
    Sourced (Runs.final serve emptyWarehouse requests) (generatedRun emptyWarehouse requests) := by
  have hall : Runs.EveryStep serve (fun _ _ => True) emptyWarehouse requests :=
    Runs.everyStep_of_forall (fun _ _ => trivial) _ _
  exact run_generated_induction (P := Sourced) (fun _ _ request _ hw => serve_sourced hw request)
    hall sourced_empty

theorem generatedRun_append (w : Warehouse) (before after : List Request) :
    generatedRun w (before ++ after) =
      generatedRun w before ++ generatedRun (Runs.final serve w before) after := by
  induction before generalizing w with
  | nil => rfl
  | cons request before ih =>
    rw [List.cons_append, generatedRun, generatedRun, ih, List.append_assoc]
    rfl

/-- What a trace shows, a longer one supersedes. -/
theorem shown_supersedes (hordered : (trace ++ more).Pairwise fun g g' =>
      g.studentId = g'.studentId ∧ g.month = g'.month → SectionsFrozen g.content g'.content)
    (hr : shown trace studentId month = some r) :
    ∃ r', shown (trace ++ more) studentId month = some r' ∧ Supersedes r r' := by
  have hreports : ofStudent (trace ++ more) studentId month =
      ofStudent trace studentId month ++ ofStudent more studentId month := List.filter_append ..
  rw [shown] at hr
  split at hr
  · next first last hfirst hlast =>
    obtain rfl := Option.some.inj hr
    have hlastMem := List.mem_filter.1 (List.mem_of_getLast? hlast)
    rw [shown, hreports, List.head?_append, hfirst, List.getLast?_append, hlast]
    cases hmore : (ofStudent more studentId month).getLast? with
    | none => exact ⟨_, rfl, rfl, rfl, rfl, _, _, rfl, rfl, SectionsFrozen.refl _⟩
    | some newest =>
      have hnewest := List.mem_filter.1 (List.mem_of_getLast? hmore)
      have hfrozen := (List.pairwise_append.1 hordered).2.2 last hlastMem.1 newest hnewest.1
      have hsame := of_decide_eq_true hlastMem.2
      have hsame' := of_decide_eq_true hnewest.2
      exact ⟨_, rfl, rfl, rfl, rfl, _, _, rfl, rfl,
        hfrozen ⟨hsame.1.trans hsame'.1.symm, hsame.2.trans hsame'.2.symm⟩⟩
  · cases hr

theorem run_keepsSnapshots (requests : List Request) (w : Warehouse) :
    KeepsSnapshots w (Runs.final serve w requests) :=
  Runs.related (fun _ _ hr _ => hr)
    (fun _ _ _ h h' r hr hfinal => h' r (h r hr hfinal) hfinal) serve_keepsSnapshots w requests

/-- A report that can be read for a student's month can be read after every further request too,
under the same id and mode: the sections made of the snapshot say what they said, and a narrative
may only take the place of a missing one. -/
theorem published_sections_frozen (sha256 : String → String) (requests : List Request)
    (hhashes : Runs.EveryStep serve (fun _ => Hashes sha256) emptyWarehouse requests)
    (hdistinct : Distinct sha256 (Runs.final serve emptyWarehouse requests)) :
    Runs.Stable serve (fun w w' => ∀ studentId month r,
      getReportContent w studentId month = some r →
      ∃ r', getReportContent w' studentId month = some r' ∧ Supersedes r r')
      emptyWarehouse requests := by
  intro before after rest heq studentId month r hr
  subst heq
  have hlater := ((Runs.everyStep_append _ _ _).1 hhashes).1
  have hearlier := ((Runs.everyStep_append _ _ _).1 hlater).1
  rw [Runs.final_append] at hdistinct
  have hdistinctLater := hdistinct.earlier (run_tracks hlater).regular (run_keepsSnapshots rest _)
  have hdistinctEarlier : Distinct sha256 (Runs.final serve emptyWarehouse before) := by
    refine Distinct.earlier hdistinctLater (run_tracks hearlier).regular ?_
    rw [Runs.final_append]
    exact run_keepsSnapshots after _
  rw [(run_tracks hearlier).shows hdistinctEarlier] at hr
  rw [(run_tracks hlater).shows hdistinctLater, generatedRun_append]
  refine shown_supersedes ?_ hr
  rw [← generatedRun_append]
  exact (run_sourced (before ++ after)).ordered

theorem januaryRefresh_sections_frozen :
    Runs.Stable serve (fun w w' => ∀ studentId month r,
      getReportContent w studentId month = some r →
      ∃ r', getReportContent w' studentId month = some r' ∧ Supersedes r r')
      emptyWarehouse [januaryRun, januaryRefresh] :=
  published_sections_frozen _ [januaryRun, januaryRefresh] ⟨fun _ => rfl, fun _ => rfl, trivial⟩
    (distinct_of_rows januaryRefresh_snapshots)

end Pipeline
end StudentSuccess
