import StudentSuccess.ConfigHistory

namespace StudentSuccess
namespace ConfigRegistry
set_option autoImplicit true
open Table (Scan)

def activeVersion (version : ConfigVersion) : ConfigVersion := { version with status := "ACTIVE" }

/-- The activation of a version as the migration describes it. -/
def activation (version : ConfigVersion) (now : Instant) (scan : Scan ConfigVersion) :
    Transaction where
  role := .configAdminUser
  statements :=
    [.update
      { status := some fun _ => "SUPERSEDED"
        supersededByVersionId := some fun _ => some version.id
        deactivatedAt := some fun _ => some now } active scan,
      .insert [activeVersion version]]

/-- The same, with the pointer to the new version set once it is there. -/
def linkedActivation (old version : ConfigVersion) (now : Instant)
    (scan scan' : Scan ConfigVersion) : Transaction where
  role := .configAdminUser
  statements :=
    [.update { status := some fun _ => "SUPERSEDED", deactivatedAt := some fun _ => some now }
        active scan,
      .insert [activeVersion version],
      .update { supersededByVersionId := some fun _ => some version.id }
        (fun r => r.id = old.id) scan']

/-- The row of the version that the activation replaces. -/
def superseded (version : ConfigVersion) (now : Instant) (r : ConfigVersion) : ConfigVersion :=
  { r with
    status := "SUPERSEDED"
    supersededByVersionId := some version.id
    deactivatedAt := some now }

/-- The version can be inserted beside the rows, once none of these is active. -/
structure Admissible (takes : ConfigVersion → Bool) (rows : List ConfigVersion)
    (version : ConfigVersion) : Prop where
  taken : takes (activeVersion version) = true
  positive : 0 < version.versionNumber
  fresh : ∀ r ∈ rows, r.id ≠ version.id ∧ r.versionNumber ≠ version.versionNumber
  prior : ∀ p ∈ version.priorVersionId, p = version.id ∨ p ∈ rows.map (·.id)
  successor : ∀ p ∈ version.supersededByVersionId, p = version.id ∨ p ∈ rows.map (·.id)

section
variable {takes : ConfigVersion → Bool} {rows rows' : List ConfigVersion}
  {version : ConfigVersion} {set : SetClause} {scan : Scan ConfigVersion}
  {filter : ConfigVersion → Bool}

theorem refers_concat : Refers (rows ++ [activeVersion version]) (activeVersion version) ↔
    (∀ p ∈ version.priorVersionId, p = version.id ∨ p ∈ rows.map (·.id)) ∧
      ∀ p ∈ version.supersededByVersionId, p = version.id ∨ p ∈ rows.map (·.id) := by
  have hids : ∀ p, p ∈ (rows ++ [activeVersion version]).map (·.id) ↔
      p = version.id ∨ p ∈ rows.map (·.id) := by
    intro p
    rw [List.map_append, List.mem_append, List.map_singleton, List.mem_singleton, or_comm]
    rfl
  simp only [Refers, hids]
  exact Iff.rfl

theorem Refers.append {r : ConfigVersion} (h : Refers rows r) (rows' : List ConfigVersion) :
    Refers (rows ++ rows') r := by
  have hids : ∀ p ∈ rows.map (·.id), p ∈ (rows ++ rows').map (·.id) := by
    intro p hp
    rw [List.map_append]
    exact List.mem_append_left _ hp
  exact ⟨fun p hp => hids p (h.1 p hp), fun p hp => hids p (h.2 p hp)⟩

theorem insert_eq_ok (hinactive : ∀ r ∈ rows, active r = false)
    (hrefers : ∀ r ∈ rows, Refers rows r) :
    execute takes .configAdminUser rows (.insert [activeVersion version]) = .ok rows' ↔
      rows' = rows ++ [activeVersion version] ∧ Admissible takes rows version := by
  have hpermitted : (Statement.insert [activeVersion version]).permitted .configAdminUser = true :=
    rfl
  rw [execute, if_pos hpermitted]
  constructor
  · intro h
    obtain ⟨rows₁, hinsert, h⟩ := Py.bind_eq_ok.1 h
    obtain ⟨rfl, hall⟩ := endStatement_eq_ok.1 h
    rw [List.foldlM_cons] at hinsert
    obtain ⟨rows₂, hone, hnil⟩ := Py.bind_eq_ok.1 hinsert
    cases hnil
    obtain ⟨rfl, htaken, hchecks, hdistinct⟩ := insertRow_eq_ok.1 hone
    obtain ⟨hprior, hsuccessor⟩ := refers_concat.1 (hall _ (List.mem_append_right _ (.head _)))
    refine ⟨rfl, htaken, hchecks.2, ?_, hprior, hsuccessor⟩
    intro r hr
    exact ⟨(hdistinct r hr).1, (hdistinct r hr).2.1⟩
  · rintro ⟨rfl, h⟩
    have hone : insertRow takes rows (activeVersion version) =
        .ok (rows ++ [activeVersion version]) := by
      refine insertRow_eq_ok.2 ⟨rfl, h.taken, ⟨List.mem_of_elem_eq_true rfl, h.positive⟩, ?_⟩
      intro r hr
      refine ⟨(h.fresh r hr).1, (h.fresh r hr).2, ?_⟩
      rw [hinactive r hr]
      exact fun hboth => Bool.false_ne_true hboth.1
    refine Py.bind_eq_ok.2 ⟨_, ?_, endStatement_eq_ok.2 ⟨rfl, ?_⟩⟩
    · rw [List.foldlM_cons, hone]
      rfl
    · intro r hr
      rcases List.mem_append.1 hr with hr | hr
      · exact (hrefers r hr).append _
      · rw [List.mem_singleton.1 hr]
        exact refers_concat.2 ⟨h.prior, h.successor⟩

theorem mem_scan_ids (scan : Scan ConfigVersion) {r : ConfigVersion} (hr : r ∈ rows)
    (hfilter : filter r = true) :
    r.id ∈ ((scan.order rows).filter filter).map (·.id) :=
  List.mem_map_of_mem (List.mem_filter.2 ⟨(scan.perm rows).mem_iff.2 hr, hfilter⟩)

theorem update_ok (hset : ∀ r, set.apply (set.apply r) = set.apply r)
    (h : execute takes .configAdminUser rows (.update set filter scan) = .ok rows') :
    rows' = setRows set (((scan.order rows).filter filter).map (·.id)) rows ∧
      ∀ r ∈ rows', Refers rows' r := by
  rw [execute] at h
  split_ifs at h
  obtain ⟨rows₁, hrows, h⟩ := Py.bind_eq_ok.1 h
  obtain ⟨rfl, hrefers⟩ := endStatement_eq_ok.1 h
  exact ⟨updateRows_eq hset hrows, hrefers⟩

theorem update_one {old : ConfigVersion}
    (hpermitted : (Statement.update set filter scan).permitted .configAdminUser = true)
    (hrows : Sound rows) (hfilter : rows.filter filter = [old]) (hchecks : Checks (set.apply old))
    (hdistinct : ∀ r ∈ rows, r.id ≠ old.id → Distinct r (set.apply old))
    (hrefers : ∀ r ∈ setRow set rows old.id, Refers (setRow set rows old.id) r) :
    execute takes .configAdminUser rows (.update set filter scan) =
      .ok (setRow set rows old.id) := by
  have hold : old ∈ rows := (List.mem_filter.1 (hfilter ▸ List.mem_singleton_self old)).1
  have hscan : (scan.order rows).filter filter = [old] :=
    List.perm_singleton.1 (hfilter ▸ (scan.perm rows).filter filter)
  have hupdate : updateRow set rows old.id = .ok (setRow set rows old.id) := by
    refine updateRow_eq_ok.2 ⟨rfl, ?_⟩
    intro r hr hid
    rw [hrows.eq_of_id hr hold hid]
    exact ⟨hchecks, hdistinct⟩
  rw [execute, if_pos hpermitted, perform, hscan]
  refine Py.bind_eq_ok.2 ⟨setRow set rows old.id, ?_, endStatement_eq_ok.2 ⟨rfl, hrefers⟩⟩
  exact Py.bind_eq_ok.2 ⟨_, hupdate, rfl⟩

theorem setRow_ids (set : SetClause) (rows : List ConfigVersion) (id : Int) :
    (setRow set rows id).map (·.id) = rows.map (·.id) := by
  rw [setRow, List.map_map]
  apply List.map_congr_left
  intro r _
  rw [Function.comp_apply]
  split_ifs
  · rfl
  · rfl

/-- An update that sets no pointer, or one to a version that is there, keeps the references. -/
theorem refers_setRow {id : Int} (hrows : ∀ r ∈ rows, Refers rows r)
    (hset : ∀ p ∈ set.supersededByVersionId, ∀ r, ∀ q ∈ p r, q ∈ rows.map (·.id)) :
    ∀ r ∈ setRow set rows id, Refers (setRow set rows id) r := by
  intro r hr
  obtain ⟨r₀, hr₀, rfl⟩ := List.mem_map.1 hr
  rw [Refers, setRow_ids]
  obtain ⟨hprior, hsuccessor⟩ := hrows r₀ hr₀
  split_ifs
  · refine ⟨hprior, ?_⟩
    show ∀ p ∈ set.supersededByVersionId.getD (·.supersededByVersionId) r₀, _
    cases hpointer : set.supersededByVersionId with
    | none => exact hsuccessor
    | some p => exact hset p hpointer r₀
  · exact ⟨hprior, hsuccessor⟩

theorem inactive_setRows {ids : List Int} (hset : set.status = some fun _ => "SUPERSEDED")
    (hids : ∀ r ∈ rows, active r = true → r.id ∈ ids) :
    ∀ r ∈ setRows set ids rows, active r = false := by
  intro r hr
  obtain ⟨r₀, hr₀, rfl⟩ := List.mem_map.1 hr
  split_ifs with hid
  · show decide (set.status.getD (·.status) r₀ = "ACTIVE") = false
    rw [hset]
    rfl
  · exact Bool.eq_false_iff.2 fun hactive => hid (hids r₀ hr₀ hactive)

theorem scan_eq_nil (scan : Scan ConfigVersion) (h : ∀ r ∈ rows, filter r = false) :
    (scan.order rows).filter filter = [] := by
  apply List.filter_eq_nil_iff.2
  intro r hr
  rw [h r ((scan.perm rows).mem_iff.1 hr)]
  exact Bool.false_ne_true

theorem activation_commits (hinactive : ∀ r ∈ rows, active r = false)
    (hrefers : ∀ r ∈ rows, Refers rows r) (hadmissible : Admissible takes rows version)
    (now : Instant) (scan : Scan ConfigVersion) :
    (activation version now scan).body takes rows = .ok (rows ++ [activeVersion version]) := by
  rw [Transaction.body, activation, List.foldlM_cons]
  refine Py.bind_eq_ok.2 ⟨rows, ?_, ?_⟩
  · refine (if_pos rfl).trans ?_
    rw [perform, scan_eq_nil scan hinactive]
    exact Py.bind_eq_ok.2 ⟨rows, rfl, endStatement_eq_ok.2 ⟨rfl, hrefers⟩⟩
  · rw [List.foldlM_cons]
    exact Py.bind_eq_ok.2 ⟨_, (insert_eq_ok hinactive hrefers).2 ⟨rfl, hadmissible⟩, rfl⟩

/-- The activation as it is described goes through only where no version is active. -/
theorem activation_commits_iff (takes : ConfigVersion → Bool) (registry : Registry)
    (version : ConfigVersion) (now : Instant) (scan : Scan ConfigVersion) :
    Commits takes registry (activation version now scan) ↔
      (∀ r ∈ registry.rows, active r = false) ∧ Admissible takes registry.rows version := by
  constructor
  · intro h
    obtain ⟨rows, hbody⟩ := h
    rw [Transaction.body, activation, List.foldlM_cons] at hbody
    obtain ⟨rows₁, hupdate, hbody⟩ := Py.bind_eq_ok.1 hbody
    rw [List.foldlM_cons] at hbody
    obtain ⟨rows₂, hinsert, -⟩ := Py.bind_eq_ok.1 hbody
    obtain ⟨hrows₁, hrefers⟩ := update_ok (fun _ => rfl) hupdate
    have hinactive₁ : ∀ r ∈ rows₁, active r = false := by
      rw [hrows₁]
      exact inactive_setRows rfl fun r hr hactive => mem_scan_ids scan hr hactive
    obtain ⟨-, hadmissible⟩ := (insert_eq_ok hinactive₁ hrefers).1 hinsert
    have hinactive : ∀ r ∈ registry.rows, active r = false := by
      intro r hr
      by_contra hactive
      rw [Bool.not_eq_false] at hactive
      -- The update leaves a pointer to the version that the insert must find missing.
      obtain ⟨r₁, hr₁, hpointer⟩ : ∃ r₁ ∈ rows₁, r₁.supersededByVersionId = some version.id := by
        rw [hrows₁]
        refine ⟨_, List.mem_map_of_mem hr, ?_⟩
        rw [if_pos (mem_scan_ids scan hr hactive)]
        rfl
      obtain ⟨r₂, hr₂, hid⟩ := List.mem_map.1 ((hrefers r₁ hr₁).2 version.id hpointer)
      exact (hadmissible.fresh r₂ hr₂).1 hid
    rw [scan_eq_nil scan hinactive] at hrows₁
    have hsame : rows₁ = registry.rows := hrows₁.trans (List.map_id _)
    exact ⟨hinactive, hsame ▸ hadmissible⟩
  · intro h
    exact ⟨_, activation_commits h.1 registry.constraints.refers h.2 now scan⟩

theorem checks_apply {r : ConfigVersion} (hr : Checks r)
    (hset : ∀ status ∈ set.status, ∀ r, status r ∈ statuses) : Checks (set.apply r) := by
  refine ⟨?_, hr.2⟩
  show set.status.getD (·.status) r ∈ statuses
  cases hstatus : set.status with
  | none => exact hr.1
  | some status => exact hset status hstatus r

theorem distinct_apply {old : ConfigVersion} (hrows : Sound rows) (hold : old ∈ rows)
    (hinactive : active (set.apply old) = false) :
    ∀ r ∈ rows, r.id ≠ old.id → Distinct r (set.apply old) := by
  intro r hr hid
  have hdistinct := hrows.distinct_of_ne hr hold fun heq => hid (congrArg ConfigVersion.id heq)
  refine ⟨hdistinct.1, hdistinct.2.1, ?_⟩
  rw [hinactive]
  exact fun hboth => Bool.false_ne_true hboth.2

theorem Admissible.setRow (h : Admissible takes rows version) (set : SetClause) (id : Int) :
    Admissible takes (ConfigRegistry.setRow set rows id) version := by
  refine ⟨h.taken, h.positive, ?_, ?_, ?_⟩
  · intro r hr
    obtain ⟨r₀, hr₀, rfl⟩ := List.mem_map.1 hr
    split_ifs
    · exact h.fresh r₀ hr₀
    · exact h.fresh r₀ hr₀
  · rw [setRow_ids]
    exact h.prior
  · rw [setRow_ids]
    exact h.successor

/-- What the described activation sets out to leave. -/
def activated (old version : ConfigVersion) (now : Instant) (rows : List ConfigVersion) :
    List ConfigVersion :=
  rows.map (fun r => if r.id = old.id then superseded version now r else r) ++
    [activeVersion version]

theorem filter_active {registry : Registry} {old : ConfigVersion} (hold : old ∈ registry.rows)
    (hactive : active old = true) : registry.rows.filter active = [old] := by
  have hmem : old ∈ registry.rows.filter active := List.mem_filter.2 ⟨hold, hactive⟩
  rcases active_cases registry with hnone | ⟨v, hone⟩
  · exact absurd (hnone ▸ hmem) List.not_mem_nil
  · rw [hone] at hmem ⊢
    rw [List.mem_singleton.1 hmem]

theorem linkedActivation_body {registry : Registry} {old : ConfigVersion}
    (hold : old ∈ registry.rows) (hactive : active old = true)
    (hadmissible : Admissible takes registry.rows version) (now : Instant)
    (scan scan' : Scan ConfigVersion) :
    (linkedActivation old version now scan scan').body takes registry.rows =
      .ok (activated old version now registry.rows) := by
  let supersede : SetClause :=
    { status := some fun _ => "SUPERSEDED", deactivatedAt := some fun _ => some now }
  let link : SetClause := { supersededByVersionId := some fun _ => some version.id }
  let rows₁ := setRow supersede registry.rows old.id
  let rows₂ := rows₁ ++ [activeVersion version]
  have hsound := registry.constraints.sound
  have hfilter := filter_active hold hactive
  have hfirst : execute takes .configAdminUser registry.rows (.update supersede active scan) =
      .ok rows₁ := by
    refine update_one rfl hsound hfilter ?_ (distinct_apply hsound hold rfl)
      (refers_setRow registry.constraints.refers nofun)
    refine checks_apply (hsound.checks old hold) ?_
    rintro status ⟨⟩ r
    exact List.mem_of_elem_eq_true rfl
  have hrows₁ := execute_constraints registry.constraints hfirst
  have hinactive₁ : ∀ r ∈ rows₁, active r = false := by
    show ∀ r ∈ setRow supersede registry.rows old.id, active r = false
    rw [← setRows_singleton]
    refine inactive_setRows rfl fun r hr hr' => ?_
    have hmem : r ∈ registry.rows.filter active := List.mem_filter.2 ⟨hr, hr'⟩
    rw [hfilter] at hmem
    rw [List.mem_singleton.1 hmem]
    exact .head _
  have hinsert : execute takes .configAdminUser rows₁ (.insert [activeVersion version]) =
      .ok rows₂ :=
    (insert_eq_ok hinactive₁ hrows₁.refers).2 ⟨rfl, hadmissible.setRow supersede old.id⟩
  have hrows₂ := execute_constraints hrows₁ hinsert
  have hold₂ : supersede.apply old ∈ rows₂ := by
    refine List.mem_append_left _ (List.mem_map.2 ⟨old, hold, ?_⟩)
    rw [if_pos rfl]
  have hlink : execute takes .configAdminUser rows₂
      (.update link (fun r => r.id = old.id) scan') =
        .ok (setRow link rows₂ (supersede.apply old).id) := by
    have hfilter₂ : rows₂.filter (fun r => r.id = old.id) = [supersede.apply old] :=
      hrows₂.sound.filter_id hold₂
    refine update_one rfl hrows₂.sound hfilter₂ (checks_apply (hrows₂.checks _ hold₂) nofun)
      (distinct_apply hrows₂.sound hold₂ rfl) (refers_setRow hrows₂.refers ?_)
    rintro p ⟨⟩ r q ⟨⟩
    have hnew : activeVersion version ∈ rows₂ := List.mem_append_right _ (.head _)
    show (activeVersion version).id ∈ rows₂.map (·.id)
    exact List.mem_map_of_mem hnew
  have hresult : setRow link rows₂ old.id = activated old version now registry.rows := by
    have hnew : (activeVersion version).id ≠ old.id := (hadmissible.fresh old hold).1.symm
    rw [setRow, List.map_append, List.map_singleton, if_neg hnew, activated]
    congr 1
    show List.map _ (setRow supersede registry.rows old.id) = _
    rw [setRow, List.map_map]
    apply List.map_congr_left
    intro r _
    rw [Function.comp_apply]
    by_cases hid : r.id = old.id
    · rw [if_pos hid, if_pos hid]
      exact if_pos hid
    · rw [if_neg hid, if_neg hid, if_neg hid]
  rw [Transaction.body, linkedActivation, List.foldlM_cons]
  refine Py.bind_eq_ok.2 ⟨rows₁, hfirst, ?_⟩
  rw [List.foldlM_cons]
  refine Py.bind_eq_ok.2 ⟨rows₂, hinsert, ?_⟩
  rw [List.foldlM_cons]
  exact Py.bind_eq_ok.2 ⟨_, hlink, congrArg Except.ok hresult⟩

end

/-- An activation as the migration describes it sets the pointer to a version that is not there yet:
it replaces no active version, and it adds one only where there is none. With the pointer set last
it replaces the active version. -/
theorem described_activation (takes : ConfigVersion → Bool) (registry : Registry)
    (version : ConfigVersion) (now : Instant) (scan scan' : Scan ConfigVersion) :
    (Commits takes registry (activation version now scan) ↔
      (∀ r ∈ registry.rows, active r = false) ∧ Admissible takes registry.rows version) ∧
    ∀ old ∈ registry.rows, active old = true →
      commit takes registry (activation version now scan) = registry ∧
      (Admissible takes registry.rows version →
        (commit takes registry (linkedActivation old version now scan scan')).rows =
          activated old version now registry.rows) := by
  have hcommits := activation_commits_iff takes registry version now scan
  refine ⟨hcommits, ?_⟩
  intro old hold hactive
  constructor
  · apply commit_of_not_commits
    intro h
    rw [(hcommits.1 h).1 old hold] at hactive
    exact Bool.false_ne_true hactive
  · intro hadmissible
    exact commit_of_body (linkedActivation_body hold hactive hadmissible now scan scan')

def secondVersion : ConfigVersion :=
  { seedVersion 5 with id := 2, versionNumber := 2, priorVersionId := some 1 }

/-- The second version does not replace the baseline as described, and it does with the pointer set
last. -/
theorem secondVersion_activation :
    commit (fun _ => true) (migrated 0) (activation secondVersion 5 .inserted) = migrated 0 ∧
      (commit (fun _ => true) (migrated 0)
        (linkedActivation (seedVersion 0) secondVersion 5 .inserted .inserted)).rows =
          [superseded secondVersion 5 (seedVersion 0), secondVersion] := by
  have hadmissible : Admissible (fun _ => true) (migrated 0).rows secondVersion := by
    refine ⟨rfl, Int.natCast_pos.2 Nat.two_pos, ?_, ?_, nofun⟩
    · intro r hr
      rw [List.mem_singleton.1 hr]
      exact ⟨nofun, nofun⟩
    · rintro p ⟨⟩
      exact .inr (.head _)
  obtain ⟨-, hreplace⟩ := described_activation (fun _ => true) (migrated 0) secondVersion 5
    .inserted .inserted
  obtain ⟨hkept, hlinked⟩ := hreplace (seedVersion 0) (.head _) rfl
  exact ⟨hkept, hlinked hadmissible⟩

end ConfigRegistry
end StudentSuccess
