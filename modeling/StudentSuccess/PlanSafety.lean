import StudentSuccess.PlanJoin

namespace StudentSuccess
namespace PaymentPlans
set_option autoImplicit true
open Py MirrorSync LastMatch

/-- What a plan row has in its e-mail column, whatever the letter case of the column's name. -/
def emailCell (env : PlanEnv) (row : SourceRow) : Cell :=
  match get? "Email" row with
  | some val => val
  | none => ((row.find? fun (k, _) => env.lower k = "email").map Prod.snd).getD .null

def carriedEmail (env : PlanEnv) (row : SourceRow) : Option String :=
  if (emailCell env row).truthy then some (normalizeEmail env (emailCell env row)) else none

def planRowOf (env : PlanEnv) (planRows : List SourceRow) (student : SourceRow) :
    Except PlanError (Option SourceRow) := do
  let hasEmail := hasEmail env planRows
  let hasName := hasName env planRows
  let lookups ← buildLookups env hasEmail hasName planRows ⟨[], []⟩
  findPlanRow env hasEmail hasName lookups student

/-- The e-mail of the user: every row of the user has it. -/
def IsEmail (env : PlanEnv) (students : List SourceRow) (u : Int) (x : String) : Prop :=
  (∃ student ∈ students, studentId env student = some u) ∧
    ∀ student ∈ students, studentId env student = some u → emailOf env student = some x

/-- The user's row in the mirror has the plan of the plan row. -/
def HasPlan (env : PlanEnv) (mirror : Mirror) (u : Int) (planRow : SourceRow) : Prop :=
  ∃ patch row, planPatch env planRow = .ok patch ∧ mirror u = some row ∧ patch.apply row = row

/-- The join gives every student the plan of the student's own e-mail and nobody the plan of another
e-mail, it does not depend on the order of the plan rows, and its counts add up. -/
structure NeverCrosses (env : PlanEnv) (view : PlanView env) (students : List SourceRow)
    (mirror : Mirror) (result : PlanResult) (mirror' : Mirror) : Prop where
  ownPlan : ∀ u x planRow, (mirror u).isSome = true → IsEmail env students u x →
    view.rows.filter (fun row => carriedEmail env row = some x) = [planRow] →
      HasPlan env mirror' u planRow
  notAnothers : ∀ student ∈ students, ∀ u x planRow y, studentId env student = some u →
    (mirror u).isSome = true → emailOf env student = some x →
      planRowOf env view.rows student = .ok (some planRow) →
        carriedEmail env planRow = some y → y = x
  anyOrder : (view.rows.filterMap (carriedEmail env)).Nodup →
    ∀ planRows, view.rows.Perm planRows →
      syncIpbcPaymentPlans env (.ok planRows) (.ok students) mirror = .ok (result, mirror')
  accounts : ∀ planRowsFetched studentRowsFetched counts,
    result = .done planRowsFetched studentRowsFetched counts →
      studentRowsFetched = students.length ∧ counts.updated + counts.skipped = students.length

def PlanView.joined (view : PlanView env) : SourceRow → Option SourceRow :=
  PaymentPlans.joined env view.hasName view.rows

/-- The student whose row finds a plan row. -/
def PlanView.joinedId (view : PlanView env) (student : SourceRow) : Option Int :=
  if (view.joined student).isSome then studentId env student else none

def PlanView.lastStudent (view : PlanView env) (students : List SourceRow) (u : Int) :
    Option SourceRow := last view.joinedId u students

def SameName (view : PlanView env) (student planRow : SourceRow) : Prop :=
  ∃ n, nameOf env view.hasName student = some n ∧ nameOf env view.hasName planRow = some n

/-- The inputs on which the join is safe. -/
structure JoinSafe (env : PlanEnv) (view : PlanView env) (students : List SourceRow)
    (mirror : Mirror) : Prop where
  /-- The e-mail column is called `Email`, or the names lead to the same plans. -/
  emailColumn : "Email" ∈ view.columns ∨ ∀ u x planRow, (mirror u).isSome = true →
    IsEmail env students u x →
      view.rows.filter (fun row => carriedEmail env row = some x) = [planRow] →
        match view.lastStudent students u with
        | some student => ∀ planRow', view.joined student = some planRow' →
          planPatch env planRow = planPatch env planRow'
        | none => HasPlan env mirror u planRow
  /-- No student whose e-mail is not found has the name of a plan row with another e-mail. -/
  names : ∀ student ∈ students, ∀ u x planRow y, studentId env student = some u →
    (mirror u).isSome = true → emailOf env student = some x →
      byEmail env view.rows student = none →
        byName env view.hasName view.rows student = some planRow →
          carriedEmail env planRow = some y → y = x
  /-- Plan rows with the name of a student whose e-mail is not found have the same plan. -/
  namesakes : (view.rows.filterMap (carriedEmail env)).Nodup →
    (∀ student ∈ students, ∀ u, studentId env student = some u →
      byEmail env view.rows student = none → ∀ planRow ∈ view.rows, SameName view student planRow →
        ∃ patch, planPatch env planRow = .ok patch ∧ env.accepts u patch = true) ∧
    ∀ u student, (mirror u).isSome = true → view.lastStudent students u = some student →
      byEmail env view.rows student = none → ∀ planRow ∈ view.rows, SameName view student planRow →
        ∀ planRow', view.joined student = some planRow' →
          planPatch env planRow = planPatch env planRow'

section
variable {env : PlanEnv} {view : PlanView env} {students : List SourceRow}
  {mirror mirror' : Mirror} {student planRow : SourceRow}

theorem carriedEmail_of_emailOf (h : emailOf env planRow = some x) :
    carriedEmail env planRow = some x := by
  have hcell : (getCell planRow "Email").truthy = true →
      emailCell env planRow = getCell planRow "Email" := by
    intro htruthy
    rw [emailCell, getCell] at *
    cases hget : get? "Email" planRow with
    | some val => rfl
    | none =>
      rw [hget] at htruthy
      cases htruthy
  rw [emailOf] at h
  split_ifs at h with htruthy
  rw [carriedEmail, hcell htruthy, if_pos htruthy, h]

theorem get?_present {entries : List (String × α)} (h : k ∈ entries.map Prod.fst) :
    ∃ v, get? k entries = some v := by
  induction entries with
  | nil => cases h
  | cons entry entries ih =>
    rw [get?]
    split_ifs with hk
    · exact ⟨entry.2, rfl⟩
    · rw [List.map_cons, List.mem_cons] at h
      exact ih (h.resolve_left (Ne.symm hk))

theorem emailOf_eq_carriedEmail (h : "Email" ∈ view.columns) (hrow : planRow ∈ view.rows) :
    emailOf env planRow = carriedEmail env planRow := by
  have hget : ∃ val, get? "Email" planRow = some val := by
    rw [← view.same planRow hrow] at h
    exact get?_present h
  obtain ⟨val, hval⟩ := hget
  rw [emailOf, carriedEmail, emailCell, hval, getCell, hval]
  rfl

theorem joined_eq_some (h : view.joined student = some planRow) :
    byEmail env view.rows student = some planRow ∨
      byEmail env view.rows student = none ∧
        byName env view.hasName view.rows student = some planRow := by
  rw [PlanView.joined, PaymentPlans.joined, Option.or_eq_some_iff] at h
  exact h

theorem byEmail_carried (h : byEmail env view.rows student = some planRow) :
    planRow ∈ view.rows ∧ carriedEmail env planRow = emailOf env student := by
  rw [byEmail] at h
  obtain ⟨x, hx, hlast⟩ := Option.bind_eq_some_iff.1 h
  obtain ⟨hrow, hemail⟩ := last_eq_some hlast
  rw [carriedEmail_of_emailOf hemail, hx]
  exact ⟨hrow, rfl⟩

theorem byName_sameName (h : byName env view.hasName view.rows student = some planRow) :
    planRow ∈ view.rows ∧ SameName view student planRow := by
  rw [byName] at h
  obtain ⟨n, hn, hlast⟩ := Option.bind_eq_some_iff.1 h
  obtain ⟨hrow, hname⟩ := last_eq_some hlast
  exact ⟨hrow, n, hn, hname⟩

theorem Patch.apply_inj {patch patch' : Patch} {row : String → Cell} :
    patch.apply row = patch'.apply row ↔ patch = patch' := by
  constructor
  · intro h
    have hname := congrFun h "plan_name"
    have hamount := congrFun h "down_payment_amt"
    simp only [Patch.apply] at hname hamount
    have htext : patch.planName = patch'.planName := by
      have heq := congrArg Cell.text? hname
      simpa using heq
    obtain ⟨planName, amount⟩ := patch
    obtain ⟨planName', amount'⟩ := patch'
    cases htext
    simp at hamount
    rw [hamount]
  · rintro rfl
    rfl

/-- What the loop asks of the students of the list. -/
def TakesAll (view : PlanView env) (students : List SourceRow) : Prop :=
  ∀ student ∈ students, ∀ uid, studentId env student = some uid →
    Takes env view.hasName view.rows student uid

theorem joinedId_eq_some :
    view.joinedId student = some u ↔
      (∃ planRow, view.joined student = some planRow) ∧ studentId env student = some u := by
  rw [PlanView.joinedId, ← Option.isSome_iff_exists]
  split_ifs with hjoined
  · simp [hjoined]
  · simp [hjoined]

/-- A student is updated when the student's row has an id and finds a plan row. -/
theorem updatedId_eq_joinedId (htakes : TakesAll view students) (hstudent : student ∈ students) :
    updatedId view.served student = view.joinedId student := by
  rw [updatedId, PlanView.served, served, PlanView.joinedId, PlanView.joined]
  cases hid : studentId env student with
  | none =>
    rw [Option.bind_none, Option.map_none]
    split_ifs
    · rfl
    · rfl
  | some uid =>
    cases hjoined : joined env view.hasName view.rows student with
    | none => rfl
    | some row =>
      obtain ⟨patch, hpatch, -⟩ := (htakes student hstudent uid hid).accepted row hjoined
      rw [Option.bind_some, Option.bind_some, hpatch]
      rfl

/-- The last row of a user that finds a plan row decides the user's plan. -/
theorem mirrorAfter_lastStudent (htakes : TakesAll view students)
    (hlast : view.lastStudent students u = some student) :
    ∃ planRow patch, view.joined student = some planRow ∧ planPatch env planRow = .ok patch ∧
      mirrorAfter view.served students mirror u = (mirror u).map patch.apply := by
  obtain ⟨hstudent, hkey⟩ := last_eq_some hlast
  obtain ⟨⟨planRow, hjoined⟩, hid⟩ := joinedId_eq_some.1 hkey
  obtain ⟨patch, hpatch, -⟩ := (htakes student hstudent u hid).accepted planRow hjoined
  refine ⟨planRow, patch, hjoined, hpatch, ?_⟩
  have hupdated : last (updatedId view.served) u students = some student := by
    rw [last_congr (fun r hr => updatedId_eq_joinedId htakes hr) u]
    exact hlast
  obtain ⟨patch', hserved, hlastPatch⟩ := lastPatch_of_last hupdated
  have hsame : patch' = patch := by
    rw [PlanView.served, served, hid, Option.bind_some] at hserved
    rw [PlanView.joined] at hjoined
    rw [hjoined, Option.bind_some, hpatch] at hserved
    cases hserved
    rfl
  rw [mirrorAfter, hlastPatch, hsame]
  rfl

theorem mirrorAfter_noStudent (htakes : TakesAll view students)
    (hlast : view.lastStudent students u = none) :
    mirrorAfter view.served students mirror u = mirror u := by
  have hupdated : last (updatedId view.served) u students = none := by
    rw [last_congr (fun r hr => updatedId_eq_joinedId htakes hr) u]
    exact hlast
  rw [mirrorAfter, lastPatch, hupdated]
  exact Option.map_id'

/-- A user has the plan of a plan row when the row that decides the user's plan has that plan. -/
theorem hasPlan_mirrorAfter (htakes : TakesAll view students) (hmirror : (mirror u).isSome = true)
    (hlast : view.lastStudent students u = some student)
    (hjoined : view.joined student = some planRow') :
    HasPlan env (mirrorAfter view.served students mirror) u planRow ↔
      planPatch env planRow = planPatch env planRow' := by
  obtain ⟨found, patch, hfound, hpatch, hafter⟩ := mirrorAfter_lastStudent htakes hlast
  rw [hjoined] at hfound
  cases hfound
  obtain ⟨row, hrow⟩ := Option.isSome_iff_exists.1 hmirror
  rw [HasPlan, hafter, hrow, hpatch]
  constructor
  · rintro ⟨patch', row', hpatch', hrow', happly⟩
    cases hrow'
    rw [patch.apply_apply patch' row] at happly
    rw [hpatch', Patch.apply_inj.1 happly]
  · intro heq
    exact ⟨patch, patch.apply row, heq, rfl, patch.apply_apply patch row⟩

/-- The plan row that the sync finds is the one that the join has. -/
theorem planRowOf_eq_ok (view : PlanView env) (hrows : view.rows ≠ [])
    (hreadable : ∀ row ∈ view.rows, Readable env view.hasName row) :
    planRowOf env view.rows student = .ok found ↔
      (byEmail env view.rows student = none → Readable env view.hasName student) ∧
        found = view.joined student := by
  rw [planRowOf, view.hasEmail_rows hrows, view.hasName_rows hrows]
  obtain ⟨lookups, hlookups⟩ := buildLookups_returns hreadable ⟨[], []⟩
  simp only [hlookups]
  exact findPlanRow_eq_ok hlookups

def PlanView.reordered (view : PlanView env) {planRows : List SourceRow}
    (h : view.rows.Perm planRows) : PlanView env where
  columns := view.columns
  rows := planRows
  same := fun row hrow => view.same row (h.mem_iff.2 hrow)
  hasEmail := view.hasEmail

/-- With distinct e-mails the lookup by e-mail does not depend on the order. -/
theorem byEmail_reordered (hunique : (view.rows.filterMap (carriedEmail env)).Nodup)
    {planRows : List SourceRow} (h : view.rows.Perm planRows) (student : SourceRow) :
    byEmail env planRows student = byEmail env view.rows student := by
  have hread : (view.rows.filterMap (emailOf env)).Nodup :=
    nodup_filterMap_of_imp (fun _ _ => carriedEmail_of_emailOf) hunique
  rw [byEmail, byEmail]
  congr 1
  funext k
  exact (last_eq_of_perm hread h k).symm

theorem joined_reordered_isSome {planRows : List SourceRow} (h : view.rows.Perm planRows)
    (student : SourceRow) :
    ((view.reordered h).joined student).isSome = (view.joined student).isSome := by
  have hlast : ∀ key : SourceRow → Option String, ∀ k,
      (last key k planRows).isSome = (last key k view.rows).isSome := by
    intro key k
    rw [Bool.eq_iff_iff, ← Option.ne_none_iff_isSome, ← Option.ne_none_iff_isSome]
    exact not_congr (last_none_of_perm h).symm
  have hemail : (byEmail env planRows student).isSome = (byEmail env view.rows student).isSome := by
    rw [byEmail, byEmail]
    cases emailOf env student with
    | none => rfl
    | some k => exact hlast _ k
  have hname : (byName env view.hasName planRows student).isSome =
      (byName env view.hasName view.rows student).isSome := by
    rw [byName, byName]
    cases nameOf env view.hasName student with
    | none => rfl
    | some k => exact hlast _ k
  show ((byEmail env planRows student).or (byName env view.hasName planRows student)).isSome =
    ((byEmail env view.rows student).or (byName env view.hasName view.rows student)).isSome
  rw [Option.isSome_or, Option.isSome_or, hemail, hname]

theorem joinedId_reordered {planRows : List SourceRow} (h : view.rows.Perm planRows) :
    (view.reordered h).joinedId = view.joinedId := by
  funext student
  rw [PlanView.joinedId, PlanView.joinedId, joined_reordered_isSome h]

theorem lastStudent_reordered {planRows : List SourceRow} (h : view.rows.Perm planRows)
    (students : List SourceRow) (u : Int) :
    (view.reordered h).lastStudent students u = view.lastStudent students u := by
  rw [PlanView.lastStudent, PlanView.lastStudent, joinedId_reordered]

theorem counts_reordered {planRows : List SourceRow} (h : view.rows.Perm planRows)
    (htakes : TakesAll view students) (htakes' : TakesAll (view.reordered h) students) :
    (view.reordered h).counts students mirror = view.counts students mirror := by
  have hupdates : ∀ student ∈ students,
      updates (view.reordered h).served mirror student = updates view.served mirror student := by
    intro student hstudent
    rw [updates, updates, updatedId_eq_joinedId htakes' hstudent,
      updatedId_eq_joinedId htakes hstudent, joinedId_reordered]
  rw [PlanView.counts, PlanView.counts]
  congr 1
  · refine List.countP_congr ?_
    intro student hstudent
    rw [hupdates student hstudent]
  · refine List.countP_congr ?_
    intro student hstudent
    rw [hupdates student hstudent]

theorem hasPlan_mirrorAfter_iff (htakes : TakesAll view students)
    (hmirror : (mirror u).isSome = true) (planRow : SourceRow) :
    HasPlan env (mirrorAfter view.served students mirror) u planRow ↔
      match view.lastStudent students u with
      | some student => ∀ planRow', view.joined student = some planRow' →
        planPatch env planRow = planPatch env planRow'
      | none => HasPlan env mirror u planRow := by
  cases hlast : view.lastStudent students u with
  | none =>
    rw [HasPlan, mirrorAfter_noStudent htakes hlast]
    rfl
  | some student =>
    obtain ⟨-, hkey⟩ := last_eq_some hlast
    obtain ⟨⟨found, hfound⟩, -⟩ := joinedId_eq_some.1 hkey
    rw [hasPlan_mirrorAfter htakes hmirror hlast hfound]
    constructor
    · intro heq planRow' hplanRow'
      rw [hfound] at hplanRow'
      cases hplanRow'
      exact heq
    · intro hall
      exact hall found hfound

/-- Where the column is called `Email`, the only plan row with the student's e-mail is found. -/
theorem joined_of_emailColumn (hcolumn : "Email" ∈ view.columns)
    (hemail : emailOf env student = some x)
    (honly : view.rows.filter (fun row => carriedEmail env row = some x) = [planRow]) :
    view.joined student = some planRow := by
  have hread : view.rows.filter (fun row => emailOf env row = some x) = [planRow] := by
    rw [← honly]
    refine List.filter_congr ?_
    intro row hrow
    rw [emailOf_eq_carriedEmail hcolumn hrow]
  rw [PlanView.joined, joined, byEmail, hemail, Option.bind_some, last_of_filter hread,
    Option.some_or]

/-- The e-mails give the own plan where the column is called `Email`, and the names have to give it
elsewhere. -/
theorem ownPlan_of_safe (htakes : TakesAll view students)
    (hsafe : JoinSafe env view students mirror) (hmirror : (mirror u).isSome = true)
    (hemail : IsEmail env students u x)
    (honly : view.rows.filter (fun row => carriedEmail env row = some x) = [planRow]) :
    HasPlan env (mirrorAfter view.served students mirror) u planRow := by
  rw [hasPlan_mirrorAfter_iff htakes hmirror]
  rcases hsafe.emailColumn with hcolumn | hnames
  · have hjoined : ∀ student ∈ students, studentId env student = some u →
        view.joined student = some planRow :=
      fun student hstudent hid => joined_of_emailColumn hcolumn
        (hemail.2 student hstudent hid) honly
    cases hlast : view.lastStudent students u with
    | none =>
      obtain ⟨student, hstudent, hid⟩ := hemail.1
      have hkey : view.joinedId student = some u :=
        joinedId_eq_some.2 ⟨⟨planRow, hjoined student hstudent hid⟩, hid⟩
      exact absurd hkey (last_eq_none_iff.1 hlast student hstudent)
    | some student =>
      obtain ⟨hstudent, hkey⟩ := last_eq_some hlast
      intro planRow' hplanRow'
      rw [hjoined student hstudent (joinedId_eq_some.1 hkey).2] at hplanRow'
      cases hplanRow'
      rfl
  · exact hnames u x planRow hmirror hemail honly

/-- In another order a student finds the same row by the e-mail, or some row of the student's name.
-/
theorem joined_reordered (hunique : (view.rows.filterMap (carriedEmail env)).Nodup)
    {planRows : List SourceRow} (h : view.rows.Perm planRows)
    (hjoined : (view.reordered h).joined student = some planRow) :
    view.joined student = some planRow ∨ byEmail env view.rows student = none ∧
      planRow ∈ view.rows ∧ SameName view student planRow := by
  have hbyEmail := byEmail_reordered hunique h student
  rcases joined_eq_some hjoined with hemail | ⟨hnone, hname⟩
  · left
    rw [PlanView.joined, joined, hbyEmail.symm.trans hemail, Option.some_or]
  · obtain ⟨hrow, hsame⟩ := byName_sameName hname
    exact .inr ⟨hbyEmail.symm.trans hnone, h.mem_iff.2 hrow, hsame⟩

theorem takesAll_reordered (htakes : TakesAll view students)
    (hunique : (view.rows.filterMap (carriedEmail env)).Nodup)
    (hnamesakes : ∀ student ∈ students, ∀ u, studentId env student = some u →
      byEmail env view.rows student = none → ∀ planRow ∈ view.rows, SameName view student planRow →
        ∃ patch, planPatch env planRow = .ok patch ∧ env.accepts u patch = true)
    {planRows : List SourceRow} (h : view.rows.Perm planRows) :
    TakesAll (view.reordered h) students := by
  intro student hstudent u hid
  constructor
  · intro hnone
    exact (htakes student hstudent u hid).readable
      ((byEmail_reordered hunique h student).symm.trans hnone)
  · intro planRow hjoined
    rcases joined_reordered hunique h hjoined with hfound | ⟨hnone, hrow, hsame⟩
    · exact (htakes student hstudent u hid).accepted planRow hfound
    · exact hnamesakes student hstudent u hid hnone planRow hrow hsame

/-- A plan row moved behind the others is found by a student of its name without an e-mail match. -/
theorem joined_concat (hunique : (view.rows.filterMap (carriedEmail env)).Nodup)
    (h : view.rows.Perm (planRows ++ [planRow])) (hnone : byEmail env view.rows student = none)
    (hname : SameName view student planRow) :
    (view.reordered h).joined student = some planRow := by
  obtain ⟨n, hstudent, hplanRow⟩ := hname
  have hbyEmail : byEmail env (planRows ++ [planRow]) student = none :=
    (byEmail_reordered hunique h student).trans hnone
  show (byEmail env (planRows ++ [planRow]) student).or
    (byName env view.hasName (planRows ++ [planRow]) student) = some planRow
  rw [hbyEmail, Option.none_or, byName, hstudent, Option.bind_some, last_concat hplanRow]

/-- The mirror does not depend on the order, where the plan rows of a name have the same plan. -/
theorem mirrorAfter_reordered (htakes : TakesAll view students)
    (hunique : (view.rows.filterMap (carriedEmail env)).Nodup)
    (hnamesakes : ∀ u student, (mirror u).isSome = true →
      view.lastStudent students u = some student → byEmail env view.rows student = none →
        ∀ planRow ∈ view.rows, SameName view student planRow →
          ∀ planRow', view.joined student = some planRow' →
            planPatch env planRow = planPatch env planRow')
    {planRows : List SourceRow} (h : view.rows.Perm planRows)
    (htakes' : TakesAll (view.reordered h) students) :
    mirrorAfter (view.reordered h).served students mirror =
      mirrorAfter view.served students mirror := by
  funext u
  cases hmirror : mirror u with
  | none => rw [mirrorAfter, mirrorAfter, hmirror, Option.map_none, Option.map_none]
  | some row =>
    cases hlast : view.lastStudent students u with
    | none =>
      have hlast' := (lastStudent_reordered h students u).trans hlast
      rw [mirrorAfter_noStudent htakes hlast, mirrorAfter_noStudent htakes' hlast']
    | some student =>
      have hlast' := (lastStudent_reordered h students u).trans hlast
      obtain ⟨planRow, patch, hjoined, hpatch, hafter⟩ := mirrorAfter_lastStudent htakes hlast
      obtain ⟨planRow', patch', hjoined', hpatch', hafter'⟩ :=
        mirrorAfter_lastStudent htakes' hlast'
      have heq : planPatch env planRow' = planPatch env planRow := by
        rcases joined_reordered hunique h hjoined' with hfound | ⟨hnone, hrow, hsame⟩
        · rw [hjoined] at hfound
          cases hfound
          rfl
        · exact hnamesakes u student (by rw [hmirror]; rfl) hlast hnone planRow' hrow hsame planRow
            hjoined
      rw [hpatch, hpatch', Except.ok.injEq] at heq
      rw [hafter, hafter', heq]

/-- A safe join does the same for the plan rows in every order. -/
theorem sync_reordered (hrows : view.rows ≠ [])
    (hreadable : ∀ row ∈ view.rows, Readable env view.hasName row)
    (htakes : TakesAll view students) (hsafe : JoinSafe env view students mirror)
    (hunique : (view.rows.filterMap (carriedEmail env)).Nodup) {planRows : List SourceRow}
    (h : view.rows.Perm planRows) :
    syncIpbcPaymentPlans env (.ok planRows) (.ok students) mirror =
      .ok (.done view.rows.length students.length (view.counts students mirror),
        mirrorAfter view.served students mirror) := by
  obtain ⟨haccepted, hsame⟩ := hsafe.namesakes hunique
  have htakes' := takesAll_reordered htakes hunique haccepted h
  have hrows' : (view.reordered h).rows ≠ [] := by
    intro hempty
    have hnil : planRows = [] := hempty
    subst hnil
    exact hrows h.eq_nil
  refine (sync_eq_ok (view.reordered h) hrows').2 ⟨?_, htakes', ?_, ?_⟩
  · exact fun row hrow => hreadable row (h.mem_iff.2 hrow)
  · rw [counts_reordered h htakes htakes']
    exact congrArg (fun n => PlanResult.done n students.length (view.counts students mirror))
      h.length_eq
  · exact (mirrorAfter_reordered htakes hunique hsame h htakes').symm

/-- A join that does not depend on the order is safe among namesakes. -/
theorem namesakes_of_anyOrder (htakes : TakesAll view students)
    (hunique : (view.rows.filterMap (carriedEmail env)).Nodup)
    (hany : ∀ planRows, view.rows.Perm planRows →
      syncIpbcPaymentPlans env (.ok planRows) (.ok students) mirror =
        .ok (result, mirrorAfter view.served students mirror))
    (hrow : planRow ∈ view.rows) (hnone : byEmail env view.rows student = none)
    (hname : SameName view student planRow) :
    (∀ u, student ∈ students → studentId env student = some u →
      ∃ patch, planPatch env planRow = .ok patch ∧ env.accepts u patch = true) ∧
    ∀ u planRow', (mirror u).isSome = true → view.lastStudent students u = some student →
      view.joined student = some planRow' → planPatch env planRow = planPatch env planRow' := by
  obtain ⟨rest, hperm⟩ := exists_perm_concat hrow
  have hrows' : (view.reordered hperm).rows ≠ [] := by
    show rest ++ [planRow] ≠ []
    simp
  obtain ⟨-, htakes', -, hmirror'⟩ :=
    (sync_eq_ok (view.reordered hperm) hrows').1 (hany _ hperm)
  have hfound := joined_concat hunique hperm hnone hname
  constructor
  · intro u hstudent hid
    exact (htakes' student hstudent u hid).accepted planRow hfound
  · intro u planRow' hmirror hlast hjoined
    obtain ⟨found, patch, hfound₁, hpatch, hafter⟩ := mirrorAfter_lastStudent htakes hlast
    rw [hjoined] at hfound₁
    cases hfound₁
    have hlast' := (lastStudent_reordered hperm students u).trans hlast
    obtain ⟨found', patch', hfound', hpatch', hafter'⟩ := mirrorAfter_lastStudent htakes' hlast'
    rw [hfound] at hfound'
    cases hfound'
    obtain ⟨row, hrow⟩ := Option.isSome_iff_exists.1 hmirror
    have hsame := congrFun hmirror' u
    rw [hafter, hafter', hrow, Option.map_some, Option.map_some, Option.some.injEq,
      Patch.apply_inj] at hsame
    rw [hpatch, hpatch', hsame]

theorem counts_add (view : PlanView env) (students : List SourceRow) (mirror : Mirror) :
    (view.counts students mirror).updated + (view.counts students mirror).skipped =
      students.length := by
  show students.countP (updates view.served mirror) +
    students.countP (fun student => !updates view.served mirror student) = students.length
  rw [List.length_eq_countP_add_countP (updates view.served mirror)]
  congr 2
  funext student
  cases updates view.served mirror student with
  | true => rfl
  | false => rfl

/-- A student's plan row has another e-mail only where the name finds it. -/
theorem notAnothers_iff (hrows : view.rows ≠ [])
    (hreadable : ∀ row ∈ view.rows, Readable env view.hasName row)
    (htakes : TakesAll view students) :
    (∀ student ∈ students, ∀ u x planRow y, studentId env student = some u →
      (mirror u).isSome = true → emailOf env student = some x →
        planRowOf env view.rows student = .ok (some planRow) →
          carriedEmail env planRow = some y → y = x) ↔
    ∀ student ∈ students, ∀ u x planRow y, studentId env student = some u →
      (mirror u).isSome = true → emailOf env student = some x →
        byEmail env view.rows student = none →
          byName env view.hasName view.rows student = some planRow →
            carriedEmail env planRow = some y → y = x := by
  constructor
  · intro h student hstudent u x planRow y hid hmirror hx hnone hname hy
    have hjoined : some planRow = view.joined student := by
      rw [PlanView.joined, joined, hnone, Option.none_or, hname]
    have hfound : planRowOf env view.rows student = .ok (some planRow) :=
      (planRowOf_eq_ok view hrows hreadable).2
        ⟨(htakes student hstudent u hid).readable, hjoined⟩
    exact h student hstudent u x planRow y hid hmirror hx hfound hy
  · intro h student hstudent u x planRow y hid hmirror hx hfound hy
    obtain ⟨-, hjoined⟩ := (planRowOf_eq_ok view hrows hreadable).1 hfound
    rcases joined_eq_some hjoined.symm with hemail | ⟨hnone, hname⟩
    · rw [(byEmail_carried hemail).2, hx] at hy
      exact (Option.some.inj hy).symm
    · exact h student hstudent u x planRow y hid hmirror hx hnone hname hy

theorem neverCrosses_iff_joinSafe (hrows : view.rows ≠ [])
    (hsync : syncIpbcPaymentPlans env (.ok view.rows) (.ok students) mirror =
      .ok (result, mirror')) :
    NeverCrosses env view students mirror result mirror' ↔ JoinSafe env view students mirror := by
  obtain ⟨hreadable, htakes, hresult, hmirror'⟩ := (sync_eq_ok view hrows).1 hsync
  subst hresult hmirror'
  constructor
  · intro h
    constructor
    · right
      intro u x planRow hmirror hemail honly
      exact (hasPlan_mirrorAfter_iff htakes hmirror planRow).1
        (h.ownPlan u x planRow hmirror hemail honly)
    · exact (notAnothers_iff hrows hreadable htakes).1 h.notAnothers
    · intro hunique
      constructor
      · intro student hstudent u hid hnone planRow hrow hname
        exact (namesakes_of_anyOrder htakes hunique (h.anyOrder hunique) hrow hnone hname).1 u
          hstudent hid
      · intro u student hmirror hlast hnone planRow hrow hname planRow' hjoined
        exact (namesakes_of_anyOrder htakes hunique (h.anyOrder hunique) hrow hnone hname).2 u
          planRow' hmirror hlast hjoined
  · intro hsafe
    constructor
    · intro u x planRow hmirror hemail honly
      exact ownPlan_of_safe htakes hsafe hmirror hemail honly
    · exact (notAnothers_iff hrows hreadable htakes).2 hsafe.names
    · intro hunique planRows hperm
      exact sync_reordered hrows hreadable htakes hsafe hunique hperm
    · rintro _ _ counts ⟨⟩
      exact ⟨rfl, counts_add view students mirror⟩

theorem sync_of_empty (h : view.rows = []) :
    syncIpbcPaymentPlans env (.ok view.rows) (.ok students) mirror = .ok (.noPlanRows, mirror) := by
  rw [h]
  rfl

theorem neverCrosses_of_empty (h : view.rows = []) :
    NeverCrosses env view students mirror .noPlanRows mirror := by
  constructor
  · intro u x planRow _ _ honly
    rw [h] at honly
    cases honly
  · intro student _ u x planRow y _ _ _ hfound _
    rw [h] at hfound
    cases hfound
  · intro _ planRows hperm
    rw [h] at hperm
    rw [hperm.nil_eq.symm]
    rfl
  · rintro _ _ counts ⟨⟩

theorem joinSafe_of_empty (h : view.rows = []) : JoinSafe env view students mirror := by
  constructor
  · right
    intro u x planRow _ _ honly
    rw [h] at honly
    cases honly
  · intro student _ u x planRow y _ _ _ _ hname _
    have hrow := (byName_sameName hname).1
    rw [h] at hrow
    cases hrow
  · intro _
    rw [h]
    exact ⟨by simp, by simp⟩

/-- What the sync needs to come to its end: the names that it reads are texts, and the plans that it
gives can be read and are accepted. -/
structure Syncs (view : PlanView env) (students : List SourceRow) : Prop where
  readable : ∀ row ∈ view.rows, Readable env view.hasName row
  takes : TakesAll view students

/-- Without the columns of the names, a view whose column is called `Email` is safe. -/
theorem joinSafe_of_emailOnly (hcolumn : "Email" ∈ view.columns) (hname : view.hasName = false)
    (students : List SourceRow) (mirror : Mirror) : JoinSafe env view students mirror := by
  have hnone : ∀ row, nameOf env view.hasName row = none := by
    intro row
    rw [nameOf, hname]
    rfl
  have hdistinct : ∀ student planRow, ¬ SameName view student planRow := by
    rintro student planRow ⟨n, hstudent, -⟩
    rw [hnone student] at hstudent
    cases hstudent
  constructor
  · exact .inl hcolumn
  · intro student _ u x planRow y _ _ _ _ hfound _
    exact absurd (byName_sameName hfound).2 (hdistinct student planRow)
  · intro _
    constructor
    · intro student _ u _ _ planRow _ hsame
      exact absurd hsame (hdistinct student planRow)
    · intro u student _ _ _ planRow _ hsame
      exact absurd hsame (hdistinct student planRow)

/-- The join never crosses students on the inputs on which it is safe, and only there. -/
theorem syncIpbcPaymentPlans_neverCrosses_iff (env : PlanEnv) (view : PlanView env)
    (students : List SourceRow) (mirror : Mirror) :
    (∀ result mirror', syncIpbcPaymentPlans env (.ok view.rows) (.ok students) mirror =
      .ok (result, mirror') → NeverCrosses env view students mirror result mirror') ↔
    (Syncs view students → JoinSafe env view students mirror) := by
  by_cases hrows : view.rows = []
  · constructor
    · intro _ _
      exact joinSafe_of_empty hrows
    · intro _ result mirror' hsync
      rw [sync_of_empty hrows] at hsync
      cases hsync
      exact neverCrosses_of_empty hrows
  · constructor
    · rintro h ⟨hreadable, htakes⟩
      have hsync : syncIpbcPaymentPlans env (.ok view.rows) (.ok students) mirror =
          .ok (.done view.rows.length students.length (view.counts students mirror),
            mirrorAfter view.served students mirror) :=
        (sync_eq_ok view hrows).2 ⟨hreadable, htakes, rfl, rfl⟩
      exact (neverCrosses_iff_joinSafe hrows hsync).1 (h _ _ hsync)
    · intro h result mirror' hsync
      obtain ⟨hreadable, htakes, -, -⟩ := (sync_eq_ok view hrows).1 hsync
      exact (neverCrosses_iff_joinSafe hrows hsync).2 (h ⟨hreadable, htakes⟩)

end

def lowerColumns : List (String × String) :=
  [("PlanName", "planname"), ("DOWNPAYMENTAMT", "downpaymentamt"), ("EMAIL", "email")]

/-- The methods on texts that are in lower case already, or are columns. -/
def plainEnv : PlanEnv where
  lower := fun s => (get? s lowerColumns).getD s
  strip := id
  str := fun val => match val with
    | .text s => s
    | _ => ""
  int := fun val => match val with
    | .int n => some n
    | _ => none
  float := fun val => match val with
    | .int n => some n
    | _ => none
  accepts := fun _ _ => true

/-- A view that names the column `EMAIL`, and a student who has the e-mail of its row. -/
def capitalView : PlanView plainEnv where
  columns := ["PlanName", "DOWNPAYMENTAMT", "EMAIL"]
  rows := [[("PlanName", .text "gold"), ("DOWNPAYMENTAMT", .int 500),
    ("EMAIL", .text "ada@x.org")]]
  same := by decide
  hasEmail := by decide

def adaRow : SourceRow := [("UserID", .int 7), ("Email", .text "ada@x.org")]

def adaMirror : Mirror := fun u => if u = 7 then some fun _ => .null else none

/-- The plan of a student is not found where the view does not name the column `Email`. -/
theorem capital_column_unmatched :
    ¬ ∀ env view students mirror result mirror',
      syncIpbcPaymentPlans env (.ok (PlanView.rows view)) (.ok students) mirror =
        .ok (result, mirror') → NeverCrosses env view students mirror result mirror' := by
  intro h
  have hlaw := h plainEnv capitalView [adaRow] adaMirror (.done 1 1 ⟨0, 1⟩) adaMirror rfl
  have hemail : IsEmail plainEnv [adaRow] 7 "ada@x.org" := by
    constructor
    · exact ⟨adaRow, .head _, rfl⟩
    · intro student hstudent _
      rw [List.mem_singleton.1 hstudent]
      rfl
  obtain ⟨patch, row, hpatch, hrow, happly⟩ := hlaw.ownPlan 7 "ada@x.org" _ rfl hemail rfl
  cases hpatch
  cases hrow
  have hname : Cell.text "gold" = .null := congrFun happly "plan_name"
  cases hname

end PaymentPlans
end StudentSuccess
