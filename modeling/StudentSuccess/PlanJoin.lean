import StudentSuccess.PaymentPlans

namespace StudentSuccess
namespace PaymentPlans
set_option autoImplicit true
open Py MirrorSync LastMatch

/-- The name of a row, where the view has the two columns and they hold texts. -/
def nameOf (env : PlanEnv) (hasName : Bool) (row : SourceRow) : Option String :=
  if hasName then (nameKey env row).toOption.join else none

theorem get?_setSome (key : Option String) (row : SourceRow) (d : List (String × SourceRow))
    (k : String) : get? k (setSome key row d) = (if key = some k then some row else none).or
      (get? k d) := by
  cases key with
  | none => rfl
  | some k' =>
    rw [setSome]
    by_cases hk : k' = k
    · subst hk
      rw [get?_setItem_self, if_pos rfl, Option.some_or]
    · rw [get?_setItem_of_ne (Ne.symm hk), if_neg (by simpa using hk), Option.none_or]

section
variable {env : PlanEnv} {named : Bool} {planRows : List SourceRow}

/-- The names of the row, where the view has them, can be read. -/
def Readable (env : PlanEnv) (hasName : Bool) (row : SourceRow) : Prop :=
  hasName = true → Returns (nameKey env row)

theorem nameKeyIf_eq_ok : nameKeyIf env named row = .ok name ↔
    Readable env named row ∧ name = nameOf env named row := by
  rw [nameKeyIf, Readable, nameOf]
  cases named with
  | false =>
    constructor
    · rintro ⟨⟩
      exact ⟨by simp, rfl⟩
    · rintro ⟨-, rfl⟩
      rfl
  | true =>
    cases hname : nameKey env row with
    | ok name' =>
      constructor
      · rintro ⟨⟩
        exact ⟨fun _ => returns_ok _, rfl⟩
      · rintro ⟨-, rfl⟩
        rfl
    | error e =>
      constructor
      · rintro ⟨⟩
      · rintro ⟨hreads, -⟩
        exact absurd (hreads rfl) (not_returns_error e)

/-- The lookups are built when the names can be read, and they lead to the last row under a key. -/
theorem buildLookups_ok {lookups lookups' : Lookups}
    (h : buildLookups env true named planRows lookups = .ok lookups') :
    (∀ row ∈ planRows, Readable env named row) ∧
      (∀ k, get? k lookups'.planByEmail =
        (last (emailOf env) k planRows).or (get? k lookups.planByEmail)) ∧
      ∀ k, get? k lookups'.planByName =
        (last (nameOf env named) k planRows).or (get? k lookups.planByName) := by
  induction planRows generalizing lookups with
  | nil =>
    cases h
    exact ⟨by simp, fun _ => rfl, fun _ => rfl⟩
  | cons row planRows ih =>
    rw [buildLookups] at h
    obtain ⟨lookups₁, hadd, hrest⟩ := bind_eq_ok.1 h
    rw [addPlanRow] at hadd
    obtain ⟨name, hname, hadd⟩ := bind_eq_ok.1 hadd
    cases hadd
    obtain ⟨hreads, rfl⟩ := nameKeyIf_eq_ok.1 hname
    obtain ⟨hreadable, hemails, hnames⟩ := ih hrest
    refine ⟨List.forall_mem_cons.2 ⟨hreads, hreadable⟩, ?_, ?_⟩
    · intro k
      rw [hemails k, if_pos rfl, get?_setSome, last, Option.or_assoc]
    · intro k
      rw [hnames k, get?_setSome, last, Option.or_assoc]

theorem buildLookups_returns (h : ∀ row ∈ planRows, Readable env named row) (lookups : Lookups) :
    Returns (buildLookups env true named planRows lookups) := by
  induction planRows generalizing lookups with
  | nil => exact returns_ok _
  | cons row planRows ih =>
    rw [List.forall_mem_cons] at h
    obtain ⟨lookups', hlookups'⟩ :=
      ih h.2 ⟨setSome (emailOf env row) row lookups.planByEmail,
        setSome (nameOf env named row) row lookups.planByName⟩
    refine ⟨lookups', bind_eq_ok.2 ⟨_, ?_, hlookups'⟩⟩
    exact bind_eq_ok.2 ⟨_, nameKeyIf_eq_ok.2 ⟨h.1, rfl⟩, rfl⟩

def byEmail (env : PlanEnv) (planRows : List SourceRow) (student : SourceRow) : Option SourceRow :=
  (emailOf env student).bind fun k => last (emailOf env) k planRows

def byName (env : PlanEnv) (hasName : Bool) (planRows : List SourceRow) (student : SourceRow) :
    Option SourceRow :=
  (nameOf env hasName student).bind fun k => last (nameOf env hasName) k planRows

def joined (env : PlanEnv) (hasName : Bool) (planRows : List SourceRow) (student : SourceRow) :
    Option SourceRow :=
  (byEmail env planRows student).or (byName env hasName planRows student)

/-- What the loop asks of a student: names that can be read, where they are needed, and a plan that
can be read and is accepted. -/
structure Takes (env : PlanEnv) (hasName : Bool) (planRows : List SourceRow) (student : SourceRow)
    (uid : Int) : Prop where
  readable : byEmail env planRows student = none → Readable env hasName student
  accepted : ∀ row, joined env hasName planRows student = some row →
    ∃ patch, planPatch env row = .ok patch ∧ env.accepts uid patch = true

def served (env : PlanEnv) (hasName : Bool) (planRows : List SourceRow) (student : SourceRow) :
    Option (Int × Patch) :=
  (studentId env student).bind fun uid => (joined env hasName planRows student).bind fun row =>
    (planPatch env row).toOption.map fun patch => (uid, patch)

theorem findPlanRow_eq_ok {lookups : Lookups}
    (h : buildLookups env true named planRows ⟨[], []⟩ = .ok lookups) :
    findPlanRow env true named lookups student = .ok found ↔
      (byEmail env planRows student = none → Readable env named student) ∧
        found = joined env named planRows student := by
  obtain ⟨-, hemails, hnames⟩ := buildLookups_ok h
  have hemail : ((emailOf env student).bind fun k => get? k lookups.planByEmail) =
      byEmail env planRows student := by
    rw [byEmail]
    congr 1
    funext k
    rw [hemails k, get?, Option.or_none]
  rw [findPlanRow, if_pos rfl, hemail, joined]
  cases byEmail env planRows student with
  | some row =>
    constructor
    · rintro ⟨⟩
      exact ⟨by simp, rfl⟩
    · rintro ⟨-, rfl⟩
      rfl
  | none =>
    have hname : ((nameOf env named student).bind fun k => get? k lookups.planByName) =
        byName env named planRows student := by
      rw [byName]
      congr 1
      funext k
      rw [hnames k, get?, Option.or_none]
    simp only [bind_eq_ok, nameKeyIf_eq_ok]
    constructor
    · rintro ⟨name, ⟨hreads, rfl⟩, hfound⟩
      cases hfound
      exact ⟨fun _ => hreads, hname⟩
    · rintro ⟨hreads, rfl⟩
      exact ⟨_, ⟨hreads trivial, rfl⟩, congrArg Except.ok hname⟩

theorem givePlan_eq_ok {row : SourceRow} {uid : Int} {update : Option (Int × Patch)} :
    (do let patch ← planPatch env row
        if env.accepts uid patch then return some (uid, patch) else .error .dbapi :
        Except PlanError (Option (Int × Patch))) = .ok update ↔
      ∃ patch, planPatch env row = .ok patch ∧ env.accepts uid patch = true ∧
        update = some (uid, patch) := by
  rw [bind_eq_ok]
  constructor
  · rintro ⟨patch, hpatch, hupdate⟩
    split_ifs at hupdate with haccepts
    cases hupdate
    exact ⟨patch, hpatch, haccepts, rfl⟩
  · rintro ⟨patch, hpatch, haccepts, rfl⟩
    exact ⟨patch, hpatch, if_pos haccepts⟩

theorem planStatement_eq_ok {lookups : Lookups}
    (h : buildLookups env true named planRows ⟨[], []⟩ = .ok lookups) :
    planStatement env true named lookups student = .ok update ↔
      (∀ uid, studentId env student = some uid → Takes env named planRows student uid) ∧
        update = served env named planRows student := by
  rw [planStatement, served]
  cases studentId env student with
  | none =>
    constructor
    · rintro ⟨⟩
      exact ⟨by simp, rfl⟩
    · rintro ⟨-, rfl⟩
      rfl
  | some uid =>
    simp only [bind_eq_ok, findPlanRow_eq_ok h]
    constructor
    · rintro ⟨found, ⟨hreads, rfl⟩, hupdate⟩
      cases hjoined : joined env named planRows student with
      | none =>
        rw [hjoined] at hupdate
        cases hupdate
        refine ⟨?_, rfl⟩
        rintro _ ⟨⟩
        exact ⟨hreads, by simp [hjoined]⟩
      | some row =>
        rw [hjoined] at hupdate
        obtain ⟨patch, hpatch, haccepts, rfl⟩ := givePlan_eq_ok.1 hupdate
        constructor
        · rintro _ ⟨⟩
          exact ⟨hreads, by simp [hjoined, hpatch, haccepts]⟩
        · rw [Option.bind_some, Option.bind_some, hpatch]
          rfl
    · rintro ⟨htakes, rfl⟩
      obtain ⟨hreads, haccepted⟩ := htakes uid rfl
      refine ⟨_, ⟨hreads, rfl⟩, ?_⟩
      cases hjoined : joined env named planRows student with
      | none => rfl
      | some row =>
        obtain ⟨patch, hpatch, haccepts⟩ := haccepted row hjoined
        refine givePlan_eq_ok.2 ⟨patch, hpatch, haccepts, ?_⟩
        rw [Option.bind_some, Option.bind_some, hpatch]
        rfl

end

section
variable {given : SourceRow → Option (Int × Patch)} {students : List SourceRow} {mirror : Mirror}
  {update : SourceRow → Except PlanError (Option (Int × Patch))}

def updatedId (given : SourceRow → Option (Int × Patch)) (student : SourceRow) : Option Int :=
  (given student).map Prod.fst

/-- What the students' rows say of a user last. -/
def lastPatch (given : SourceRow → Option (Int × Patch)) (students : List SourceRow) (u : Int) :
    Option Patch :=
  ((last (updatedId given) u students).bind given).map Prod.snd

def mirrorAfter (given : SourceRow → Option (Int × Patch)) (students : List SourceRow)
    (mirror : Mirror) : Mirror := fun u =>
  (mirror u).map fun row => ((lastPatch given students u).map fun patch => patch.apply row).getD row

/-- The student has an update and is in the mirror. -/
def updates (given : SourceRow → Option (Int × Patch)) (mirror : Mirror) (student : SourceRow) :
    Bool := ((updatedId given student).bind mirror).isSome

theorem Patch.apply_apply (patch patch' : Patch) (row : String → Cell) :
    patch'.apply (patch.apply row) = patch'.apply row := by
  funext c
  simp only [Patch.apply]
  split_ifs
  · rfl
  · rfl
  · rfl

theorem updatePlan_isSome (mirror : Mirror) (uid : Int) (patch : Patch) (u : Int) :
    (updatePlan mirror uid patch u).isSome = (mirror u).isSome := by
  rw [updatePlan]
  split_ifs with hu
  · rw [Option.isSome_map]
  · rfl

theorem lastPatch_of_last (h : last (updatedId given) u students = some student) :
    ∃ patch, given student = some (u, patch) ∧ lastPatch given students u = some patch := by
  obtain ⟨-, hid⟩ := last_eq_some h
  obtain ⟨⟨uid, patch⟩, hgiven, hu⟩ := Option.map_eq_some_iff.1 hid
  cases hu
  refine ⟨patch, hgiven, ?_⟩
  rw [lastPatch, h, Option.bind_some, hgiven]
  rfl

theorem lastPatch_cons (given : SourceRow → Option (Int × Patch)) (student : SourceRow)
    (students : List SourceRow) (u : Int) : lastPatch given (student :: students) u =
      (lastPatch given students u).or
        ((given student).bind fun s => if s.1 = u then some s.2 else none) := by
  cases hlast : last (updatedId given) u students with
  | some student' =>
    obtain ⟨patch, hgiven, hpatch⟩ := lastPatch_of_last hlast
    rw [hpatch, Option.some_or, lastPatch, last, hlast, Option.some_or, Option.bind_some, hgiven]
    rfl
  | none =>
    rw [lastPatch, lastPatch, last, hlast, Option.none_or, Option.bind_none, Option.map_none,
      Option.none_or, updatedId]
    cases hgiven : given student with
    | none => rfl
    | some entry =>
      by_cases hu : entry.1 = u
      · simp [hu, hgiven]
      · simp [hu]

theorem mirrorAfter_none (h : given student = none) (students : List SourceRow) (mirror : Mirror) :
    mirrorAfter given (student :: students) mirror = mirrorAfter given students mirror := by
  funext u
  rw [mirrorAfter, mirrorAfter, lastPatch_cons, h, Option.bind_none, Option.or_none]

theorem mirrorAfter_some (h : given student = some (uid, patch)) (students : List SourceRow)
    (mirror : Mirror) : mirrorAfter given (student :: students) mirror =
      mirrorAfter given students (updatePlan mirror uid patch) := by
  funext u
  rw [mirrorAfter, mirrorAfter, lastPatch_cons, h, Option.bind_some, updatePlan]
  by_cases hu : uid = u
  · subst hu
    rw [if_pos rfl, if_pos rfl, Option.map_map]
    congr 1
    funext row
    cases lastPatch given students uid with
    | none => rfl
    | some patch' => exact (patch.apply_apply patch' row).symm
  · rw [if_neg hu, if_neg (Ne.symm hu), Option.or_none]

theorem updatePlan_absent (h : (mirror uid).isSome = false) (patch : Patch) :
    updatePlan mirror uid patch = mirror := by
  rw [Option.isSome_eq_false_iff, Option.isNone_iff_eq_none] at h
  funext u
  rw [updatePlan]
  split_ifs with hu
  · rw [hu, h]
    rfl
  · rfl

theorem updates_updatePlan (given : SourceRow → Option (Int × Patch)) (mirror : Mirror) (uid : Int)
    (patch : Patch) : updates given (updatePlan mirror uid patch) = updates given mirror := by
  funext student
  rw [updates, updates]
  cases updatedId given student with
  | none => rfl
  | some u => exact updatePlan_isSome mirror uid patch u

theorem updates_eq_true (h : updates given mirror student = true) :
    ∃ uid patch, given student = some (uid, patch) ∧ (mirror uid).isSome = true := by
  rw [updates, updatedId] at h
  cases hgiven : given student with
  | none =>
    rw [hgiven] at h
    cases h
  | some entry =>
    rw [hgiven] at h
    exact ⟨entry.1, entry.2, rfl, h⟩

theorem mirrorAfter_skipped (h : updates given mirror student = false)
    (students : List SourceRow) :
    mirrorAfter given (student :: students) mirror = mirrorAfter given students mirror := by
  rw [updates, updatedId] at h
  cases hgiven : given student with
  | none => rw [mirrorAfter_none hgiven]
  | some entry =>
    rw [hgiven] at h
    rw [mirrorAfter_some hgiven, updatePlan_absent h]

theorem patchStudents_skipped (hupdate : update student = .ok (given student))
    (h : updates given mirror student = false) (students : List SourceRow) (counts : PlanCounts) :
    patchStudents update (student :: students) counts mirror =
      patchStudents update students ⟨counts.updated, counts.skipped + 1⟩ mirror := by
  rw [updates, updatedId] at h
  rw [patchStudents, hupdate]
  cases hgiven : given student with
  | none => rfl
  | some entry =>
    rw [hgiven] at h
    exact if_neg (Bool.eq_false_iff.1 h)

theorem patchStudents_updated (hupdate : update student = .ok (some (uid, patch)))
    (h : (mirror uid).isSome = true) (students : List SourceRow) (counts : PlanCounts) :
    patchStudents update (student :: students) counts mirror =
      patchStudents update students ⟨counts.updated + 1, counts.skipped⟩
        (updatePlan mirror uid patch) := by
  rw [patchStudents, hupdate]
  exact if_pos h

/-- The loop gives every student the student's update, and counts every student once. -/
theorem patchStudents_ok (h : ∀ student ∈ students, update student = .ok (given student))
    (counts : PlanCounts) (mirror : Mirror) : patchStudents update students counts mirror =
      .ok (⟨counts.updated + students.countP (updates given mirror),
        counts.skipped + students.countP fun student => !updates given mirror student⟩,
        mirrorAfter given students mirror) := by
  induction students generalizing counts mirror with
  | nil =>
    rw [patchStudents]
    congr 2
    funext u
    rw [mirrorAfter]
    exact Option.map_id'.symm
  | cons student students ih =>
    rw [List.forall_mem_cons] at h
    rw [List.countP_cons, List.countP_cons]
    cases hupdates : updates given mirror student with
    | false =>
      rw [patchStudents_skipped h.1 hupdates, ih h.2, mirrorAfter_skipped hupdates]
      simp only [Bool.not_false, if_true, Bool.false_eq_true, if_false]
      congr 3
      omega
    | true =>
      obtain ⟨uid, patch, hgiven, hpresent⟩ := updates_eq_true hupdates
      rw [patchStudents_updated (h.1.trans (congrArg Except.ok hgiven)) hpresent, ih h.2,
        updates_updatePlan, mirrorAfter_some hgiven]
      simp only [Bool.not_true, if_true, Bool.false_eq_true, if_false]
      congr 3
      omega

theorem patchStudents_returns (h : patchStudents update students counts mirror = .ok result) :
    ∀ student ∈ students, Returns (update student) := by
  induction students generalizing counts mirror with
  | nil => simp
  | cons student students ih =>
    rw [patchStudents] at h
    obtain ⟨entry, hentry, h⟩ := bind_eq_ok.1 h
    rw [List.forall_mem_cons]
    refine ⟨⟨entry, hentry⟩, ?_⟩
    cases entry with
    | none => exact ih h
    | some entry =>
      simp only at h
      split_ifs at h
      · exact ih h
      · exact ih h

end

/-- A source view that has a column for the e-mail, in some letter case. -/
structure PlanView (env : PlanEnv) where
  columns : List String
  rows : List SourceRow
  same : ∀ row ∈ rows, row.map Prod.fst = columns
  hasEmail : "email" ∈ columns.map env.lower

section
variable {env : PlanEnv} {students : List SourceRow} {mirror mirror' : Mirror}

def PlanView.hasName (view : PlanView env) : Bool :=
  "firstname" ∈ view.columns.map env.lower ∧ "lastname" ∈ view.columns.map env.lower

def PlanView.served (view : PlanView env) : SourceRow → Option (Int × Patch) :=
  PaymentPlans.served env view.hasName view.rows

def PlanView.counts (view : PlanView env) (students : List SourceRow) (mirror : Mirror) :
    PlanCounts :=
  ⟨students.countP (updates view.served mirror),
    students.countP fun student => !updates view.served mirror student⟩

theorem PlanView.viewCols (view : PlanView env) (h : view.rows ≠ []) :
    viewCols env view.rows = view.columns.map env.lower := by
  cases hrows : view.rows with
  | nil => exact absurd hrows h
  | cons row rows =>
    rw [PaymentPlans.viewCols, ← view.same row (hrows ▸ .head _), List.map_map]
    rfl

theorem PlanView.hasEmail_rows (view : PlanView env) (hrows : view.rows ≠ []) :
    PaymentPlans.hasEmail env view.rows = true := by
  rw [PaymentPlans.hasEmail, view.viewCols hrows]
  exact decide_eq_true view.hasEmail

theorem PlanView.hasName_rows (view : PlanView env) (hrows : view.rows ≠ []) :
    PaymentPlans.hasName env view.rows = view.hasName := by
  rw [PaymentPlans.hasName, view.viewCols hrows, PlanView.hasName]

theorem sync_of_hasEmail {planRows : List SourceRow} (h : planRows ≠ [])
    (hemail : hasEmail env planRows = true) (students : List SourceRow) (mirror : Mirror) :
    syncIpbcPaymentPlans env (.ok planRows) (.ok students) mirror =
      buildLookups env true (hasName env planRows) planRows ⟨[], []⟩ >>= fun lookups =>
        patchStudents (planStatement env true (hasName env planRows) lookups) students ⟨0, 0⟩
          mirror >>= fun after =>
            .ok (.done planRows.length students.length after.1, after.2) := by
  cases planRows with
  | nil => exact absurd rfl h
  | cons row rest =>
    rw [syncIpbcPaymentPlans]
    simp only [checkError_ok, hemail]
    rfl

/-- The sync returns when every name that it reads is a text and every plan that it gives can be
read and is accepted. -/
theorem sync_eq_ok (view : PlanView env) (hrows : view.rows ≠ []) :
    syncIpbcPaymentPlans env (.ok view.rows) (.ok students) mirror = .ok (result, mirror') ↔
      (∀ row ∈ view.rows, Readable env view.hasName row) ∧
        (∀ student ∈ students, ∀ uid, studentId env student = some uid →
          Takes env view.hasName view.rows student uid) ∧
        result = .done view.rows.length students.length (view.counts students mirror) ∧
        mirror' = mirrorAfter view.served students mirror := by
  rw [sync_of_hasEmail hrows (view.hasEmail_rows hrows), view.hasName_rows hrows]
  constructor
  · intro h
    obtain ⟨lookups, hlookups, h⟩ := bind_eq_ok.1 h
    obtain ⟨after, hafter, h⟩ := bind_eq_ok.1 h
    have hstatements : ∀ student ∈ students,
        (∀ uid, studentId env student = some uid →
          Takes env view.hasName view.rows student uid) ∧
        planStatement env true view.hasName lookups student = .ok (view.served student) := by
      intro student hstudent
      obtain ⟨update, hupdate⟩ := patchStudents_returns hafter student hstudent
      obtain ⟨htakes, rfl⟩ := (planStatement_eq_ok hlookups).1 hupdate
      exact ⟨htakes, hupdate⟩
    rw [patchStudents_ok fun student hstudent => (hstatements student hstudent).2] at hafter
    cases hafter
    cases h
    refine ⟨(buildLookups_ok hlookups).1, ?_, ?_, rfl⟩
    · exact fun student hstudent => (hstatements student hstudent).1
    · simp only [Nat.zero_add]
      rfl
  · rintro ⟨hreadable, htakes, rfl, rfl⟩
    obtain ⟨lookups, hlookups⟩ := buildLookups_returns hreadable ⟨[], []⟩
    refine bind_eq_ok.2 ⟨lookups, hlookups, bind_eq_ok.2
      ⟨(view.counts students mirror, mirrorAfter view.served students mirror), ?_, rfl⟩⟩
    have hstatements : ∀ student ∈ students,
        planStatement env true view.hasName lookups student = .ok (view.served student) :=
      fun student hstudent => (planStatement_eq_ok hlookups).2 ⟨htakes student hstudent, rfl⟩
    rw [patchStudents_ok hstatements]
    simp only [Nat.zero_add]
    rfl

end

end PaymentPlans
end StudentSuccess
