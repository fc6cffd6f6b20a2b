import StudentSuccess.FinalizedRows
import StudentSuccess.LifecycleTabs
import StudentSuccess.PyText

namespace StudentSuccess
namespace LifecycleTabs
set_option autoImplicit true
open Calendar (microsPerDay)
open Snapshot (hasText classifySegment daysIn)
open Segmentation

def segmentRule (clock : Clock) (student : StudentState) : Tab → Bool
  | .newcomers => newcomer clock.utc student.toMirrorColumns
  | .capHopefuls => attends 50 student.toMirrorColumns
  | .launchHopefuls =>
    attends 70 student.toMirrorColumns &&
      hasText "CAP Project" (sectionOf student.toMirrorColumns)
  | .placementHopefuls =>
    attends 70 student.toMirrorColumns && hasText "Launch" (sectionOf student.toMirrorColumns)

theorem mem_segmentIf : x ∈ segmentIf name rule ↔ rule = true ∧ x = name := by
  rw [segmentIf]
  split
  · next h => simp only [List.mem_singleton, h, true_and]
  · next h => simp only [List.not_mem_nil, h, Bool.false_eq_true, false_and]

theorem segment_mem_iff (clock : Clock) (student : StudentState) (tab : Tab) :
    tab.segment ∈ classifyStudent clock.utc student ↔ segmentRule clock student tab = true := by
  cases tab <;> simp [classifyStudent, mem_segmentIf, Tab.segment, segmentRule]

/-- The tab whose segment the snapshot is labelled with. -/
def labelTab (today : Calendar.Day) (student : MirrorColumns) : Option Tab :=
  if hasText "launch" (student.currentSection.getD "").toLower then some .placementHopefuls
  else if hasText "cap" (student.currentSection.getD "").toLower then some .launchHopefuls
  else if attends 50 student then some .capHopefuls
  else if student.ipbcStartDate.any fun start => daysIn today start ≤ 90 then some .newcomers
  else none

theorem classifySegment_eq (today : Calendar.Day) (student : MirrorColumns) :
    classifySegment today student =
      ((labelTab today student).map Tab.segment).getD "ENGAGEMENT" := by
  dsimp only [classifySegment, labelTab]
  by_cases hlaunch : hasText "launch" (student.currentSection.getD "").toLower = true
  · rw [if_pos hlaunch, if_pos hlaunch]
    rfl
  · rw [if_neg hlaunch, if_neg hlaunch]
    by_cases hcap : hasText "cap" (student.currentSection.getD "").toLower = true
    · rw [if_pos hcap, if_pos hcap]
      rfl
    · rw [if_neg hcap, if_neg hcap]
      by_cases hattends : student.attendancePercentage.getD 0 > 50
      · have hattended : attends 50 student = true := decide_eq_true hattends
        rw [if_pos hattends, if_pos hattended]
        rfl
      · have hmissed : ¬ attends 50 student = true := fun h => hattends (of_decide_eq_true h)
        rw [if_neg hattends, if_neg hmissed]
        cases hstart : student.ipbcStartDate with
        | none => rfl
        | some start =>
          rw [Option.any_some]
          by_cases hdays : daysIn today start ≤ 90
          · dsimp only
            rw [if_pos hdays, if_pos (decide_eq_true hdays)]
            rfl
          · dsimp only
            rw [if_neg hdays, if_neg (Bool.eq_false_iff.1 (decide_eq_false hdays))]
            rfl

theorem attends_eq_above (student : MirrorColumns) (h : 0 ≤ atLeast) :
    attends atLeast student = above atLeast student.attendancePercentage := by
  rw [attends, above]
  cases student.attendancePercentage with
  | none => exact decide_eq_false (not_lt_of_ge h)
  | some percentage => rfl

/-- A text that is in another is there whatever the case of the letters. -/
theorem ilike_of_hasText {column : Option String} (h : column = some value)
    (htext : hasText text value = true) : ilike text column = true := by
  rw [h, ilike, Option.any_some]
  apply decide_eq_true
  rw [Py.toList_toLower, Py.toList_toLower]
  exact (of_decide_eq_true htext).map _

theorem ediv_le_iff (now start day : Nat) (hday : 0 < day) :
    ((now : Int) - start) / (day : Int) ≤ 90 ↔ now < start + 91 * day := by
  rw [← Int.lt_add_one_iff, Int.ediv_lt_iff_lt_mul (Int.natCast_pos.2 hday)]
  omega

theorem daysBetween_le_iff (now start : Instant) :
    daysBetween now start ≤ 90 ↔ now < start + 91 * microsPerDay :=
  ediv_le_iff now start microsPerDay (by decide)

/-- The section of the student tells the tab what it tells the service. -/
structure SectionFits (text : String) (student : MirrorColumns) : Prop where
  /-- Beyond the section the tab asks for an IPBC date. -/
  gated : hasText text (student.lastActivitySection.getD "") = true →
    student.ipbcStartDate ≠ none
  /-- The service asks for the letters as they are written. -/
  spelled : ilike text student.lastActivitySection = true →
    hasText text (student.lastActivitySection.getD "") = false → student.ipbcStartDate = none
  /-- Without a last activity the service looks at the current section or the path. -/
  fallback : Py.truthyText student.lastActivitySection = false →
    hasText text (Py.orText student.currentSection (Py.orText student.pathName "")) = false

theorem sectionOf_truthy {student : MirrorColumns}
    (h : student.lastActivitySection = some value) (hne : value ≠ "") :
    sectionOf student = value := by
  rw [sectionOf, h]
  exact if_neg hne

theorem sectionOf_falsy {student : MirrorColumns}
    (h : Py.truthyText student.lastActivitySection = false) :
    sectionOf student = Py.orText student.currentSection (Py.orText student.pathName "") := by
  rw [sectionOf]
  cases hsection : student.lastActivitySection with
  | none => rfl
  | some value =>
    rw [hsection] at h
    exact if_pos (bne_eq_false_iff_eq.1 h)

theorem falsy_column {column : Option String} (h : Py.truthyText column = false) :
    column.getD "" = "" ∧ (column = none ∨ column = some "") := by
  cases column with
  | none => exact ⟨rfl, .inl rfl⟩
  | some value =>
    have hvalue : value = "" := bne_eq_false_iff_eq.1 h
    exact ⟨hvalue, .inr (congrArg some hvalue)⟩

theorem sectionFits_falsy_iff {student : MirrorColumns} (hempty : hasText text "" = false)
    (hlower : ilike text (some "") = false)
    (hfalsy : Py.truthyText student.lastActivitySection = false) :
    (student.ipbcStartDate.isSome && ilike text student.lastActivitySection) =
        hasText text (sectionOf student) ↔ SectionFits text student := by
  obtain ⟨hgetD, hcolumn⟩ := falsy_column hfalsy
  have hilike : ilike text student.lastActivitySection = false := by
    rcases hcolumn with hcolumn | hcolumn
    · rw [hcolumn]
      rfl
    · rw [hcolumn]
      exact hlower
  rw [sectionOf_falsy hfalsy, hilike, Bool.and_false]
  constructor
  · intro h
    constructor
    · intro htext
      rw [hgetD, hempty] at htext
      exact nomatch htext
    · exact fun hlike => nomatch hilike.symm.trans hlike
    · exact fun _ => h.symm
  · exact fun h => (h.fallback hfalsy).symm

theorem sectionFits_value_iff {student : MirrorColumns}
    (hvalue : student.lastActivitySection = some value) (hne : value ≠ "") :
    (student.ipbcStartDate.isSome && ilike text student.lastActivitySection) =
        hasText text (sectionOf student) ↔ SectionFits text student := by
  have hfallback : Py.truthyText student.lastActivitySection = false →
      hasText text (Py.orText student.currentSection (Py.orText student.pathName "")) = false := by
    intro hfalsy
    rw [hvalue] at hfalsy
    exact absurd (bne_eq_false_iff_eq.1 hfalsy) hne
  have hgetD : student.lastActivitySection.getD "" = value := by
    rw [hvalue]
    rfl
  rw [sectionOf_truthy hvalue hne]
  cases htext : hasText text value with
  | true =>
    rw [ilike_of_hasText hvalue htext, Bool.and_true, Option.isSome_iff_ne_none]
    constructor
    · intro hdate
      refine ⟨fun _ => hdate, fun _ hmissed => ?_, hfallback⟩
      rw [hgetD, htext] at hmissed
      exact nomatch hmissed
    · exact fun h => h.gated (hgetD ▸ htext)
  | false =>
    constructor
    · intro h
      refine ⟨fun hcontained => ?_, fun hlike _ => ?_, hfallback⟩
      · rw [hgetD, htext] at hcontained
        exact nomatch hcontained
      · rw [hlike, Bool.and_true] at h
        exact Option.isNone_iff_eq_none.1 (Option.isSome_eq_false_iff.1 h)
    · intro h
      cases hlike : ilike text student.lastActivitySection with
      | false => exact Bool.and_false _
      | true =>
        rw [h.spelled hlike (hgetD ▸ htext)]
        rfl

theorem sectionFits_iff (student : MirrorColumns) (hempty : hasText text "" = false)
    (hlower : ilike text (some "") = false) :
    (student.ipbcStartDate.isSome && ilike text student.lastActivitySection) =
        hasText text (sectionOf student) ↔ SectionFits text student := by
  cases hcolumn : student.lastActivitySection with
  | none => exact hcolumn ▸ sectionFits_falsy_iff hempty hlower (hcolumn ▸ rfl)
  | some value =>
    by_cases hvalue : value = ""
    · subst hvalue
      exact hcolumn ▸ sectionFits_falsy_iff hempty hlower (hcolumn ▸ rfl)
    · exact hcolumn ▸ sectionFits_value_iff hcolumn hvalue

/-- The dates and the section of the student tell the tab what they tell the service. -/
def TabFits (clock : Clock) (student : MirrorColumns) : Tab → Prop
  | .newcomers => ∀ start, startOf student = some start →
    (clock.wall ≤ start + 90 * microsPerDay ↔ clock.utc < start + 91 * microsPerDay)
  | .capHopefuls => True
  | .launchHopefuls => attends 70 student = true → SectionFits "CAP Project" student
  | .placementHopefuls => attends 70 student = true → SectionFits "Launch" student

theorem inSection_iff (student : MirrorColumns) (hempty : hasText text "" = false)
    (hlower : ilike text (some "") = false) :
    inSection text student = (attends 70 student && hasText text (sectionOf student)) ↔
      (attends 70 student = true → SectionFits text student) := by
  rw [← sectionFits_iff student hempty hlower, inSection, ← attends_eq_above student (by decide)]
  cases attends 70 student with
  | true => simp
  | false => simp

theorem sinceCutoff_startOf (clock : Clock) (student : MirrorColumns) :
    lists clock student .newcomers = sinceCutoff clock (startOf student) := by
  rw [lists, startOf]
  cases student.ipbcStartDate with
  | none =>
    cases student.studentStartDate with
    | none => rfl
    | some start => rfl
  | some start => exact Bool.or_false _

/-- A tab lists a student exactly when the service assigns its segment, as far as the student's
columns fit. -/
theorem lists_eq_rule_iff (clock : Clock) (student : StudentState) (tab : Tab) :
    lists clock student.toMirrorColumns tab = segmentRule clock student tab ↔
      TabFits clock student.toMirrorColumns tab := by
  cases tab with
  | newcomers =>
    rw [sinceCutoff_startOf, segmentRule, newcomer, sinceCutoff, TabFits]
    cases startOf student.toMirrorColumns with
    | none => exact iff_of_true rfl nofun
    | some start =>
      rw [Option.any_some, Option.any_some, decide_eq_decide, daysBetween_le_iff]
      constructor
      · intro h _ hstart
        cases hstart
        exact h
      · exact fun h => h start rfl
  | capHopefuls =>
    apply iff_of_true _ trivial
    rw [lists, segmentRule, attends_eq_above _ (by decide)]
    cases student.attendancePercentage with
    | none => rfl
    | some percentage => rfl
  | launchHopefuls => exact inSection_iff _ (by decide +kernel) (by decide +kernel)
  | placementHopefuls => exact inSection_iff _ (by decide +kernel) (by decide +kernel)

/-- On a server whose clock is UTC the newcomers' tab and the service part over the students in the
ninety-first day after their start. -/
theorem tabFits_newcomers_utc (now : Instant) (student : MirrorColumns) :
    TabFits ⟨now, now⟩ student .newcomers ↔ ∀ start, startOf student = some start →
      ¬ (start + 90 * microsPerDay < now ∧ now < start + 91 * microsPerDay) := by
  apply forall_congr'
  intro start
  apply imp_congr_right
  intro _
  constructor
  · intro h hbetween
    exact absurd (h.2 hbetween.2) (not_le_of_gt hbetween.1)
  · intro h
    constructor
    · intro hlisted
      have hlt : start + 90 * microsPerDay < start + 91 * microsPerDay :=
        Nat.add_lt_add_left (by decide) start
      exact hlisted.trans_lt hlt
    · intro hassigned
      exact not_lt.1 fun hlate => h ⟨hlate, hassigned⟩

/-- The sections, the attendance and the dates of the student bear the snapshot's label out. -/
structure LabelFits (clock : Clock) (student : MirrorColumns) : Prop where
  placement : hasText "launch" (student.currentSection.getD "").toLower = true →
    attends 70 student = true ∧ hasText "Launch" (sectionOf student) = true
  launch : hasText "launch" (student.currentSection.getD "").toLower = false →
    hasText "cap" (student.currentSection.getD "").toLower = true →
      attends 70 student = true ∧ hasText "CAP Project" (sectionOf student) = true
  newcomer : hasText "launch" (student.currentSection.getD "").toLower = false →
    hasText "cap" (student.currentSection.getD "").toLower = false →
      attends 50 student = false → ∀ start, student.ipbcStartDate = some start →
        daysIn (dayOf clock.wall) start ≤ 90 → clock.utc < start + 91 * microsPerDay

def Labelled (today : Calendar.Day) (student : MirrorColumns) : Tab → Prop
  | .placementHopefuls => hasText "launch" (student.currentSection.getD "").toLower = true
  | .launchHopefuls =>
    hasText "launch" (student.currentSection.getD "").toLower = false ∧
      hasText "cap" (student.currentSection.getD "").toLower = true
  | .capHopefuls =>
    hasText "launch" (student.currentSection.getD "").toLower = false ∧
      hasText "cap" (student.currentSection.getD "").toLower = false ∧ attends 50 student = true
  | .newcomers =>
    hasText "launch" (student.currentSection.getD "").toLower = false ∧
      hasText "cap" (student.currentSection.getD "").toLower = false ∧
        attends 50 student = false ∧
          ∃ start, student.ipbcStartDate = some start ∧ daysIn today start ≤ 90

theorem labelTab_eq_iff (today : Calendar.Day) (student : MirrorColumns) (tab : Tab) :
    labelTab today student = some tab ↔ Labelled today student tab := by
  rw [labelTab]
  cases hlaunch : hasText "launch" (student.currentSection.getD "").toLower with
  | true =>
    rw [if_pos rfl, Option.some_inj]
    cases tab <;> simp [Labelled, hlaunch]
  | false =>
    rw [if_neg Bool.false_ne_true]
    cases hcap : hasText "cap" (student.currentSection.getD "").toLower with
    | true =>
      rw [if_pos rfl, Option.some_inj]
      cases tab <;> simp [Labelled, hlaunch, hcap]
    | false =>
      rw [if_neg Bool.false_ne_true]
      cases hattends : attends 50 student with
      | true =>
        rw [if_pos rfl, Option.some_inj]
        cases tab <;> simp [Labelled, hlaunch, hcap, hattends]
      | false =>
        rw [if_neg Bool.false_ne_true]
        cases tab <;> simp [Labelled, hlaunch, hcap, hattends, Option.any_eq_true]

theorem labelFits_iff (clock : Clock) (student : StudentState) :
    (∀ tab, labelTab (dayOf clock.wall) student.toMirrorColumns = some tab →
        segmentRule clock student tab = true) ↔ LabelFits clock student.toMirrorColumns := by
  simp only [labelTab_eq_iff]
  constructor
  · intro h
    constructor
    · exact fun hlaunch => Bool.and_eq_true_iff.1 (h .placementHopefuls hlaunch)
    · exact fun hlaunch hcap => Bool.and_eq_true_iff.1 (h .launchHopefuls ⟨hlaunch, hcap⟩)
    · intro hlaunch hcap hattends start hstart hdays
      have hrule := h .newcomers ⟨hlaunch, hcap, hattends, start, hstart, hdays⟩
      rw [segmentRule, newcomer, startOf, hstart, Option.some_or, Option.any_some,
        decide_eq_true_eq, daysBetween_le_iff] at hrule
      exact hrule
  · intro h tab htab
    cases tab with
    | placementHopefuls => exact Bool.and_eq_true_iff.2 (h.placement htab)
    | launchHopefuls => exact Bool.and_eq_true_iff.2 (h.launch htab.1 htab.2)
    | capHopefuls => exact htab.2.2
    | newcomers =>
      obtain ⟨hlaunch, hcap, hattends, start, hstart, hdays⟩ := htab
      rw [segmentRule, newcomer, startOf, hstart, Option.some_or, Option.any_some,
        decide_eq_true_eq, daysBetween_le_iff]
      exact h.newcomer hlaunch hcap hattends start hstart hdays

/-- A snapshot's label that is a segment of a tab is one that the service assigns exactly when the
student's columns bear it out. -/
theorem label_iff (clock : Clock) (student : StudentState) :
    (classifySegment (dayOf clock.wall) student.toMirrorColumns ≠ "ENGAGEMENT" →
        classifySegment (dayOf clock.wall) student.toMirrorColumns ∈
          classifyStudent clock.utc student) ↔ LabelFits clock student.toMirrorColumns := by
  rw [← labelFits_iff, classifySegment_eq]
  cases labelTab (dayOf clock.wall) student.toMirrorColumns with
  | none => exact iff_of_true (fun h => absurd rfl h) nofun
  | some tab =>
    have hsegment : tab.segment ≠ "ENGAGEMENT" := by cases tab <;> decide
    change (tab.segment ≠ "ENGAGEMENT" → tab.segment ∈ classifyStudent clock.utc student) ↔ _
    rw [segment_mem_iff]
    constructor
    · intro h tab' htab
      cases htab
      exact h hsegment
    · exact fun h _ => h tab rfl

structure ClassifiersAgree (clock : Clock) (mirror : Table StudentTriggerData (·.userId)) :
    Prop where
  label : ∀ student ∈ mirror.rows,
    classifySegment (dayOf clock.wall) student.toMirrorColumns ≠ "ENGAGEMENT" →
      classifySegment (dayOf clock.wall) student.toMirrorColumns ∈
        classifyStudent clock.utc student.toStudentState
  tabs : ∀ tab limit, ∀ listing : List StudentTriggerData, listing.Perm mirror.rows →
    (lifecycleTab clock tab limit listing).rows.length < limit.limit → ∀ student,
      student ∈ (lifecycleTab clock tab limit listing).rows ↔
        student ∈ mirror.rows ∧ tab.segment ∈ classifyStudent clock.utc student.toStudentState

/-- Some admitted limit is beyond the tab's list. -/
def Listable (clock : Clock) (mirror : Table StudentTriggerData (·.userId)) (tab : Tab) : Prop :=
  (mirror.rows.filter fun student => lists clock student.toMirrorColumns tab).length < 5000

theorem mem_lifecycleTab {listing : List StudentTriggerData}
    (h : (lifecycleTab clock tab limit listing).rows.length < limit.limit) :
    (listing.filter fun student => lists clock student.toMirrorColumns tab).length < limit.limit ∧
      ∀ student, student ∈ (lifecycleTab clock tab limit listing).rows ↔
        student ∈ listing ∧ lists clock student.toMirrorColumns tab = true := by
  have hrows : (lifecycleTab clock tab limit listing).rows = (listing.filter fun student =>
      lists clock student.toMirrorColumns tab).take limit.limit := rfl
  rw [hrows, List.length_take] at h
  have hlength : (listing.filter fun student =>
      lists clock student.toMirrorColumns tab).length < limit.limit := by omega
  use hlength
  intro student
  rw [hrows, List.take_of_length_le hlength.le, List.mem_filter]

theorem tab_iff (clock : Clock) (mirror : Table StudentTriggerData (·.userId)) (tab : Tab) :
    (∀ limit, ∀ listing : List StudentTriggerData, listing.Perm mirror.rows →
        (lifecycleTab clock tab limit listing).rows.length < limit.limit → ∀ student,
          student ∈ (lifecycleTab clock tab limit listing).rows ↔ student ∈ mirror.rows ∧
            tab.segment ∈ classifyStudent clock.utc student.toStudentState) ↔
      (Listable clock mirror tab →
        ∀ student ∈ mirror.rows, TabFits clock student.toMirrorColumns tab) := by
  constructor
  · intro h hlistable student hstudent
    have hshort : (lifecycleTab clock tab ⟨5000, by decide, le_rfl⟩ mirror.rows).rows.length <
        5000 := (List.length_take_le' _ _).trans_lt hlistable
    have hmem := h ⟨5000, by decide, le_rfl⟩ mirror.rows (.refl _) hshort student
    rw [(mem_lifecycleTab hshort).2, segment_mem_iff, and_congr_right_iff] at hmem
    exact (lists_eq_rule_iff clock student.toStudentState tab).1 (Bool.eq_iff_iff.2 (hmem hstudent))
  · intro h limit listing hperm hshort student
    obtain ⟨hlength, hmem⟩ := mem_lifecycleTab hshort
    have hlistable : Listable clock mirror tab := by
      have hsame := (hperm.filter fun student => lists clock student.toMirrorColumns tab).length_eq
      exact hsame.ge.trans_lt (hlength.trans_le limit.le)
    rw [hmem, hperm.mem_iff, segment_mem_iff, and_congr_right_iff]
    intro hstudent
    exact Bool.eq_iff_iff.1
      ((lists_eq_rule_iff clock student.toStudentState tab).2 (h hlistable student hstudent))

/-- The snapshot, the service and the tabs agree on the segments exactly when every student's
columns bear out the label, and fit each tab whose list is short enough to be listed whole. -/
theorem classifiers_agree_iff (clock : Clock) (mirror : Table StudentTriggerData (·.userId)) :
    ClassifiersAgree clock mirror ↔
      (∀ student ∈ mirror.rows, LabelFits clock student.toMirrorColumns) ∧
        ∀ tab, Listable clock mirror tab →
          ∀ student ∈ mirror.rows, TabFits clock student.toMirrorColumns tab := by
  constructor
  · intro h
    constructor
    · intro student hstudent
      exact (label_iff clock student.toStudentState).1 (h.label student hstudent)
    · exact fun tab => (tab_iff clock mirror tab).1 (h.tabs tab)
  · intro h
    constructor
    · intro student hstudent
      exact (label_iff clock student.toStudentState).2 (h.1 student hstudent)
    · exact fun tab => (tab_iff clock mirror tab).2 (h.2 tab)

/-- A student of the CAP project without an IPBC date. -/
def ungated : StudentTriggerData :=
  { Pipeline.mirrored with lastActivitySection := some "CAP Project 2" }

/-- The service assigns the student the segment of a tab that does not list the student. -/
theorem launch_hopeful_unlisted :
    ¬ ClassifiersAgree ⟨0, 0⟩ ⟨[ungated], List.nodup_singleton _⟩ := by
  intro h
  have hrows : (lifecycleTab ⟨0, 0⟩ .launchHopefuls ⟨2000, by decide, by decide⟩ [ungated]).rows =
      [] := by decide +kernel
  have hassigned : Tab.launchHopefuls.segment ∈ classifyStudent 0 ungated.toStudentState := by
    decide +kernel
  have hshort : (lifecycleTab ⟨0, 0⟩ .launchHopefuls ⟨2000, by decide, by decide⟩
      [ungated]).rows.length < 2000 := by
    rw [hrows]
    decide
  have hlisted := (h.tabs .launchHopefuls ⟨2000, by decide, by decide⟩ [ungated] (.refl _) hshort
    ungated).2 ⟨.head _, hassigned⟩
  rw [hrows] at hlisted
  exact nomatch hlisted

end LifecycleTabs
end StudentSuccess
