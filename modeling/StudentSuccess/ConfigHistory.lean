import StudentSuccess.ConfigRegistry
import Mathlib.Order.WellFounded

namespace StudentSuccess
namespace ConfigRegistry
set_option autoImplicit true
open Bootstrap

/-- What no `UPDATE` of a role may touch. -/
def frozen (r : ConfigVersion) : ConfigVersion :=
  { r with status := "", supersededByVersionId := none, deactivatedAt := none }

/-- The versions of the rows are those of the later ones, which may have more. -/
def Extends (rows rows' : List ConfigVersion) : Prop := rows.map frozen <+: rows'.map frozen

def findVersion (registry : Registry) (versionNumber : Int) : Option ConfigVersion :=
  registry.rows.find? (·.versionNumber = versionNumber)

/-- Of every row the id and that of its prior version. -/
def lineage (rows : List ConfigVersion) : List (Int × Option Int) :=
  rows.map fun r => (r.id, r.priorVersionId)

/-- The version `p` is the prior version of `i`. -/
def PriorOf (rows : List ConfigVersion) (p i : Int) : Prop := (i, some p) ∈ lineage rows

/-- Walking back over the prior versions comes to an end, from whichever version. -/
def WalksEnd (rows : List ConfigVersion) : Prop := WellFounded (PriorOf rows)

def Statement.inserted : Statement → List ConfigVersion
  | .insert rows => rows
  | _ => []

def Transaction.inserted (tx : Transaction) : List ConfigVersion :=
  tx.statements.flatMap (·.inserted)

/-- None of the statements fails. -/
def Commits (takes : ConfigVersion → Bool) (registry : Registry) (tx : Transaction) : Prop :=
  ∃ rows, tx.body takes registry.rows = .ok rows

/-- Two relations that end, the first of which leads nowhere where the second goes on, end
together. -/
theorem wellFounded_or {r s : α → α → Prop} (hr : WellFounded r) (hs : WellFounded s)
    (h : ∀ q p i, r p i → ¬ s q p) : WellFounded fun p i => r p i ∨ s p i := by
  -- From where the first relation leads only the first goes on.
  have hbelow : ∀ p, (∃ i, r p i) → Acc (fun p i => r p i ∨ s p i) p := by
    intro p
    induction p using hr.induction with
    | _ p ih =>
      rintro ⟨i, hi⟩
      refine ⟨_, fun q hq => ?_⟩
      rcases hq with hq | hq
      · exact ih q hq ⟨p, hq⟩
      · exact absurd hq (h q p i hi)
  refine ⟨fun i => ?_⟩
  induction i using hs.induction with
  | _ i ih =>
    refine ⟨_, fun p hp => ?_⟩
    rcases hp with hp | hp
    · exact hbelow p ⟨i, hp⟩
    · exact ih p hp

section
variable {takes : ConfigVersion → Bool} {rows rows' : List ConfigVersion} {r r' : ConfigVersion}
  {set : SetClause} {id : Int}

theorem Extends.refl (rows : List ConfigVersion) : Extends rows rows := List.prefix_rfl

theorem Extends.trans {rows₁ : List ConfigVersion} (h : Extends rows rows₁)
    (h' : Extends rows₁ rows') : Extends rows rows' :=
  List.IsPrefix.trans h h'

theorem apply_of_columns (h : set.columns = []) (r : ConfigVersion) : set.apply r = r := by
  obtain ⟨status, supersededBy, deactivatedAt, others⟩ := set
  cases status with
  | some _ => exact absurd h (List.cons_ne_nil _ _)
  | none =>
    cases supersededBy with
    | some _ => exact absurd h (List.cons_ne_nil _ _)
    | none =>
      cases deactivatedAt with
      | some _ => exact absurd h (List.cons_ne_nil _ _)
      | none => rfl

def setRows (set : SetClause) (ids : List Int) (rows : List ConfigVersion) : List ConfigVersion :=
  rows.map fun r => if r.id ∈ ids then set.apply r else r

theorem setRows_cons (hset : ∀ r, set.apply (set.apply r) = set.apply r) (id : Int)
    (ids : List Int) (rows : List ConfigVersion) :
    setRows set ids (setRow set rows id) = setRows set (id :: ids) rows := by
  rw [setRows, setRow, List.map_map, setRows]
  apply List.map_congr_left
  intro r _
  rw [Function.comp_apply]
  by_cases hid : r.id = id
  · have hmem : r.id ∈ id :: ids := List.mem_cons.2 (.inl hid)
    rw [if_pos hid, if_pos hmem, hset]
    exact ite_self _
  · rw [if_neg hid]
    simp only [List.mem_cons, hid, false_or]

theorem setRows_singleton (set : SetClause) (id : Int) (rows : List ConfigVersion) :
    setRows set [id] rows = setRow set rows id := by
  simp only [setRows, setRow, List.mem_singleton]

theorem updateRows_eq {ids : List Int} (hset : ∀ r, set.apply (set.apply r) = set.apply r)
    (h : ids.foldlM (updateRow set) rows = .ok rows') : rows' = setRows set ids rows := by
  induction ids generalizing rows with
  | nil =>
    cases h
    exact (List.map_id _).symm
  | cons id ids ih =>
    rw [List.foldlM_cons] at h
    obtain ⟨rows₁, hone, hrest⟩ := Py.bind_eq_ok.1 h
    obtain ⟨rfl, -⟩ := updateRow_eq_ok.1 hone
    rw [ih hrest, setRows_cons hset]

theorem map_updateRows {ids : List Int} {f : ConfigVersion → α}
    (hf : ∀ r, f (set.apply r) = f r) (h : ids.foldlM (updateRow set) rows = .ok rows') :
    rows'.map f = rows.map f := by
  induction ids generalizing rows with
  | nil =>
    cases h
    rfl
  | cons id ids ih =>
    rw [List.foldlM_cons] at h
    obtain ⟨rows₁, hone, hrest⟩ := Py.bind_eq_ok.1 h
    obtain ⟨rfl, -⟩ := updateRow_eq_ok.1 hone
    rw [ih hrest, setRow, List.map_map]
    apply List.map_congr_left
    intro r _
    rw [Function.comp_apply]
    split_ifs
    · exact hf r
    · rfl

theorem lineage_of_frozen (h : rows'.map frozen = rows.map frozen) :
    lineage rows' = lineage rows := by
  have hmap : ∀ rows : List ConfigVersion,
      lineage rows = (rows.map frozen).map fun r => (r.id, r.priorVersionId) := by
    intro rows
    rw [lineage, List.map_map]
    rfl
  rw [hmap, hmap, h]

/-- What a statement that goes through does to the versions: it adds those that it inserts. -/
theorem execute_frozen {role : Role} (hrows : Constraints rows)
    (h : execute takes role rows statement = .ok rows') :
    rows'.map frozen = (rows ++ statement.inserted).map frozen := by
  rw [execute] at h
  split_ifs at h with hpermitted
  cases statement with
  | select =>
    cases h
    exact congrArg _ (List.append_nil _).symm
  | insert new =>
    obtain ⟨rows₁, hinsert, h⟩ := Py.bind_eq_ok.1 h
    obtain ⟨rfl, -⟩ := endStatement_eq_ok.1 h
    rw [(insertRows_ok hrows.sound hinsert).1]
    rfl
  | update set filter scan =>
    obtain ⟨rows₁, hupdate, h⟩ := Py.bind_eq_ok.1 h
    obtain ⟨rfl, -⟩ := endStatement_eq_ok.1 h
    rw [map_updateRows (fun _ => rfl) hupdate]
    exact congrArg _ (List.append_nil _).symm
  | delete filter =>
    rw [not_permitted_delete] at hpermitted
    exact absurd hpermitted Bool.false_ne_true

theorem execute_service {role : Role} (hrole : role ≠ .configAdminUser)
    (h : execute takes role rows statement = .ok rows') : rows' = rows := by
  have hgrants : grants role = [.select] := by
    cases role with
    | appServiceUser => rfl
    | finalizationServiceUser => rfl
    | configAdminUser => exact absurd rfl hrole
  rw [execute] at h
  split_ifs at h with hpermitted
  rw [Statement.permitted, hgrants] at hpermitted
  cases statement with
  | select =>
    cases h
    rfl
  | insert new => simp [Statement.needs] at hpermitted
  | update set filter scan =>
    have hcolumns : set.columns = [] := by
      rw [Statement.needs, List.all_map] at hpermitted
      exact List.eq_nil_iff_forall_not_mem.2 (by simpa using hpermitted)
    obtain ⟨rows₁, hrows, h⟩ := Py.bind_eq_ok.1 h
    obtain ⟨rfl, -⟩ := endStatement_eq_ok.1 h
    have hsame := map_updateRows (f := id) (apply_of_columns hcolumns) hrows
    rwa [List.map_id, List.map_id] at hsame
  | delete filter => simp [Statement.needs] at hpermitted

theorem body_frozen (tx : Transaction) (hrows : Constraints rows)
    (h : tx.body takes rows = .ok rows') :
    rows'.map frozen = (rows ++ tx.inserted).map frozen := by
  obtain ⟨role, statements⟩ := tx
  rw [Transaction.body] at h
  induction statements generalizing rows with
  | nil =>
    cases h
    exact congrArg _ (List.append_nil _).symm
  | cons statement statements ih =>
    rw [List.foldlM_cons] at h
    obtain ⟨rows₁, hone, hrest⟩ := Py.bind_eq_ok.1 h
    rw [ih (execute_constraints hrows hone) hrest, List.map_append, execute_frozen hrows hone,
      ← List.map_append, List.append_assoc]
    rfl

theorem body_service (tx : Transaction) (hrole : tx.role ≠ .configAdminUser)
    (h : tx.body takes rows = .ok rows') : rows' = rows := by
  obtain ⟨role, statements⟩ := tx
  rw [Transaction.body] at h
  induction statements generalizing rows with
  | nil =>
    cases h
    rfl
  | cons statement statements ih =>
    rw [List.foldlM_cons] at h
    obtain ⟨rows₁, hone, hrest⟩ := Py.bind_eq_ok.1 h
    rw [ih hrole hrest, execute_service hrole hone]

theorem commit_rows (takes : ConfigVersion → Bool) (registry : Registry) (tx : Transaction) :
    tx.body takes registry.rows = .ok (commit takes registry tx).rows ∨
      commit takes registry tx = registry := by
  rw [commit]
  split
  · next h => exact .inl h
  · exact .inr rfl

theorem commit_of_body {registry : Registry} {tx : Transaction}
    (h : tx.body takes registry.rows = .ok rows) : (commit takes registry tx).rows = rows := by
  rw [commit]
  split
  · next h' => exact Except.ok.inj (h'.symm.trans h)
  · next h' => cases h'.symm.trans h

theorem commit_of_not_commits {registry : Registry} {tx : Transaction}
    (h : ¬ Commits takes registry tx) : commit takes registry tx = registry := by
  rcases commit_rows takes registry tx with hbody | hsame
  · exact absurd ⟨_, hbody⟩ h
  · exact hsame

theorem commit_extends (takes : ConfigVersion → Bool) (registry : Registry) (tx : Transaction) :
    Extends registry.rows (commit takes registry tx).rows := by
  rcases commit_rows takes registry tx with h | h
  · rw [Extends, body_frozen tx registry.constraints h, List.map_append]
    exact List.prefix_append _ _
  · rw [h]
    exact .refl _

theorem registry_eq {registry registry' : Registry} (h : registry.rows = registry'.rows) :
    registry = registry' := by
  cases registry
  cases h
  rfl

theorem commit_service {registry : Registry} {tx : Transaction}
    (hrole : tx.role ≠ .configAdminUser) :
    commit takes registry tx = registry := by
  rcases commit_rows takes registry tx with h | h
  · exact registry_eq (body_service tx hrole h)
  · exact h

theorem run_extends (takes : ConfigVersion → Bool) (registry : Registry)
    (txs : List Transaction) :
    Extends registry.rows (Runs.final (commit takes) registry txs).rows :=
  Runs.related (R := fun registry registry' => Extends registry.rows registry'.rows)
    (fun registry => .refl registry.rows) (fun _ _ _ => Extends.trans)
    (fun registry tx => commit_extends takes registry tx) registry txs

theorem run_service (takes : ConfigVersion → Bool) (registry : Registry)
    (h : ∀ tx ∈ txs, tx.role ≠ .configAdminUser) :
    Runs.final (commit takes) registry txs = registry := by
  induction txs with
  | nil => rfl
  | cons tx txs ih =>
    rw [List.forall_mem_cons] at h
    rw [Runs.final_cons, commit_service h.1, ih h.2]

/-- A version can be looked up later by its number, with all that is frozen. -/
theorem findVersion_of_extends {registry registry' : Registry}
    (h : Extends registry.rows registry'.rows) (hr : r ∈ registry.rows) :
    ∃ r', findVersion registry' r.versionNumber = some r' ∧ frozen r' = frozen r := by
  have hmem : frozen r ∈ registry'.rows.map frozen := h.subset (List.mem_map_of_mem hr)
  obtain ⟨r', hr', hfrozen⟩ := List.mem_map.1 hmem
  have hnumber := congrArg ConfigVersion.versionNumber hfrozen
  cases hfind : findVersion registry' r.versionNumber with
  | none =>
    have hmissing := List.find?_eq_none.1 hfind r' hr'
    exact absurd (decide_eq_true (hnumber : r'.versionNumber = r.versionNumber)) hmissing
  | some found =>
    have hfound : found.versionNumber = r.versionNumber := by
      simpa using List.find?_some hfind
    obtain rfl : found = r' := by
      by_contra hne
      exact (registry'.constraints.sound.distinct_of_ne (List.mem_of_find?_eq_some hfind) hr'
        hne).2.1 (hfound.trans hnumber.symm)
    exact ⟨found, rfl, hfrozen⟩

theorem mem_lineage : (i, p) ∈ lineage rows ↔ ∃ r ∈ rows, r.id = i ∧ r.priorVersionId = p := by
  simp only [lineage, List.mem_map, Prod.mk.injEq]

theorem lineage_injective (hrows : Constraints rows) (h : (i, p) ∈ lineage rows)
    (h' : (i, p') ∈ lineage rows) : p = p' := by
  obtain ⟨r, hr, hid, rfl⟩ := mem_lineage.1 h
  obtain ⟨r', hr', hid', rfl⟩ := mem_lineage.1 h'
  rw [hrows.sound.eq_of_id hr hr' (hid.trans hid'.symm)]

/-- The foreign key: a prior version is a version. -/
theorem PriorOf.mem (hrows : Constraints rows) (h : PriorOf rows p i) : p ∈ rows.map (·.id) := by
  obtain ⟨r, hr, -, hprior⟩ := mem_lineage.1 h
  exact (hrows.refers r hr).1 p hprior

theorem Extends.lineage_subset (h : Extends rows rows') : lineage rows ⊆ lineage rows' := by
  rintro ⟨i, p⟩ he
  obtain ⟨r, hr, rfl, rfl⟩ := mem_lineage.1 he
  obtain ⟨r', hr', hfrozen⟩ := List.mem_map.1 (h.subset (List.mem_map_of_mem hr))
  have hid := congrArg ConfigVersion.id hfrozen
  have hprior := congrArg ConfigVersion.priorVersionId hfrozen
  exact mem_lineage.2 ⟨r', hr', hid, hprior⟩

/-- A version gets no other prior version. -/
theorem PriorOf.of_extends (hrows' : Constraints rows') (h : Extends rows rows')
    (hi : i ∈ rows.map (·.id)) (hprior : PriorOf rows' p i) : PriorOf rows p i := by
  obtain ⟨r, hr, rfl⟩ := List.mem_map.1 hi
  have hentry : (r.id, r.priorVersionId) ∈ lineage rows := mem_lineage.2 ⟨r, hr, rfl, rfl⟩
  have heq := lineage_injective hrows' hprior (h.lineage_subset hentry)
  show (r.id, some p) ∈ lineage rows
  rw [heq]
  exact hentry

theorem past_of_extends (hrows : Constraints rows) (hrows' : Constraints rows')
    (h : Extends rows rows') (hi : i ∈ rows.map (·.id)) :
    Relation.TransGen (PriorOf rows') p i ↔ Relation.TransGen (PriorOf rows) p i := by
  constructor
  · intro hpast
    have hkept : Relation.TransGen (PriorOf rows) p i ∧ p ∈ rows.map (·.id) := by
      induction hpast using Relation.TransGen.head_induction_on with
      | single hprior =>
        have hprior := hprior.of_extends hrows' h hi
        exact ⟨.single hprior, hprior.mem hrows⟩
      | head hprior _ ih =>
        have hprior := hprior.of_extends hrows' h ih.2
        exact ⟨.head hprior ih.1, hprior.mem hrows⟩
    exact hkept.1
  · intro hpast
    refine Relation.TransGen.mono ?_ p i hpast
    intro q j hprior
    exact h.lineage_subset hprior

theorem ids_nodup (registry : Registry) : (registry.rows.map (·.id)).Nodup :=
  List.pairwise_map.2 (registry.constraints.distinct.imp fun h => h.1)

/-- New versions lead back in a circle only among themselves. -/
theorem walksEnd_append (hrows : Constraints rows) (hall : ((rows ++ new).map (·.id)).Nodup) :
    WalksEnd (rows ++ new) ↔ WalksEnd rows ∧ WalksEnd new := by
  have hor : PriorOf (rows ++ new) = fun p i => PriorOf rows p i ∨ PriorOf new p i := by
    funext p i
    rw [PriorOf, lineage, List.map_append, List.mem_append]
    rfl
  rw [WalksEnd, hor]
  constructor
  · intro h
    exact ⟨Subrelation.wf (fun hp => .inl hp) h, Subrelation.wf (fun hp => .inr hp) h⟩
  · rintro ⟨hold, hnew⟩
    refine wellFounded_or hold hnew ?_
    intro q p i hprior hbefore
    obtain ⟨r, hr, hid, -⟩ := mem_lineage.1 hbefore
    rw [List.map_append] at hall
    exact List.disjoint_of_nodup_append hall (hprior.mem hrows) (List.mem_map.2 ⟨r, hr, hid⟩)

/-- The columns that the startup reads. -/
def view (registry : Registry) : List ConfigVersionRegistry :=
  registry.rows.map fun r => ⟨r.id, r.versionNumber, r.status⟩

theorem activeRows_view (registry : Registry) : activeRows (view registry) =
    (registry.rows.filter active).map fun r => ⟨r.id, r.versionNumber, r.status⟩ := by
  rw [activeRows, view, List.filter_map]
  rfl

/-- The partial unique index leaves at most one version active. -/
theorem active_cases (registry : Registry) :
    registry.rows.filter active = [] ∨ ∃ v, registry.rows.filter active = [v] := by
  have hdistinct : (registry.rows.filter active).Pairwise Distinct :=
    registry.constraints.distinct.filter _
  have hactive : ∀ r ∈ registry.rows.filter active, active r = true :=
    fun r hr => (List.mem_filter.1 hr).2
  match hrows : registry.rows.filter active with
  | [] => exact .inl rfl
  | [v] => exact .inr ⟨v, rfl⟩
  | v :: w :: rest =>
    rw [hrows] at hdistinct hactive
    have hpair := List.rel_of_pairwise_cons hdistinct (.head _)
    exact absurd ⟨hactive v (.head _), hactive w (.tail _ (.head _))⟩ hpair.2.2

/-- The version that a process starts with, and the degradation it reports: that of the active
version, or of none. -/
def StartsWith (registry : Registry) (str_ : ConfigVersionRow → String) : Prop :=
  match registry.rows.filter active with
  | [] => validateConfigV2 str_ (some (loadActiveConfigVersions (.ok (view registry)))) [] =
      ((Bootstrap.unknownV0, false), [degradeConfigV2NoActive])
  | v :: _ => validateConfigV2 str_ (some (loadActiveConfigVersions (.ok (view registry)))) [] =
      ((toString v.versionNumber, true), [])

theorem startsWith (registry : Registry) (str_ : ConfigVersionRow → String) :
    StartsWith registry str_ := by
  rw [StartsWith, loadActiveConfigVersions, activeRows_view]
  rcases active_cases registry with hnone | ⟨v, hone⟩
  · rw [hnone]
    rfl
  · rw [hone]
    show ((ConfigVersionRow.text str_ ⟨toString v.versionNumber, _, _, _⟩, true), _) = _
    rw [ConfigVersionRow.text, if_pos (Py.intText_ne_empty _)]

theorem walksEnd_of_frozen (h : rows'.map frozen = rows.map frozen) :
    WalksEnd rows' ↔ WalksEnd rows := by
  have hprior : PriorOf rows' = PriorOf rows := by
    funext p i
    rw [PriorOf, lineage_of_frozen h]
    rfl
  rw [WalksEnd, hprior]
  rfl

theorem walksEnd_commit (takes : ConfigVersion → Bool) (registry : Registry) (tx : Transaction) :
    WalksEnd (commit takes registry tx).rows ↔
      WalksEnd registry.rows ∧ (Commits takes registry tx → WalksEnd tx.inserted) := by
  by_cases hcommits : Commits takes registry tx
  · obtain ⟨rows, hbody⟩ := hcommits
    have hfrozen := body_frozen tx registry.constraints hbody
    have hnodup : ((registry.rows ++ tx.inserted).map (·.id)).Nodup := by
      have hids := congrArg (List.map (·.id)) hfrozen
      rw [List.map_map, List.map_map] at hids
      have hrows := ids_nodup (commit takes registry tx)
      rw [commit_of_body hbody] at hrows
      exact hids ▸ hrows
    rw [commit_of_body hbody, walksEnd_of_frozen hfrozen,
      walksEnd_append registry.constraints hnodup, forall_prop_of_true ⟨rows, hbody⟩]
  · rw [commit_of_not_commits hcommits]
    exact (and_iff_left fun h => absurd h hcommits).symm

/-- What a registry has kept of an earlier one. -/
structure Kept (registry later : Registry) : Prop where
  found : ∀ v ∈ registry.rows, ∃ v', findVersion later v.versionNumber = some v' ∧
    frozen v' = frozen v
  order : registry.rows.map frozen <+: later.rows.map frozen
  past : ∀ i ∈ registry.rows.map (·.id), ∀ p,
    Relation.TransGen (PriorOf later.rows) p i ↔ Relation.TransGen (PriorOf registry.rows) p i

theorem walksEnd_migrated (now : Instant) : WalksEnd (migrated now).rows := by
  refine ⟨fun i => ⟨_, fun p hp => ?_⟩⟩
  obtain ⟨r, hr, -, hprior⟩ := mem_lineage.1 hp
  rw [List.mem_singleton.1 hr] at hprior
  cases hprior

end

/-- Whatever transactions the roles run on the migrated registry: every version that was ever
committed, the baseline among them, is found by its number with its rules and its past, walking back
comes to an end exactly where no transaction has inserted versions that lead back in a circle, and a
process that starts finds the active version or none. -/
theorem config_versions_kept (takes : ConfigVersion → Bool) (now : Instant)
    (txs txs' : List Transaction) (str_ : ConfigVersionRow → String) :
    let registry := Runs.final (commit takes) (migrated now) txs
    let later := Runs.final (commit takes) registry txs'
    Kept registry later ∧
      (∃ v, findVersion later 1 = some v ∧ frozen v = frozen (seedVersion now)) ∧
      (WalksEnd later.rows ↔ Runs.EveryStep (commit takes)
        (fun registry tx => Commits takes registry tx → WalksEnd tx.inserted)
        (migrated now) (txs ++ txs')) ∧
      StartsWith later str_ ∧
      ((∀ tx ∈ txs', tx.role ≠ .configAdminUser) → later = registry) := by
  intro registry later
  have hregistry : Extends (migrated now).rows registry.rows :=
    run_extends takes (migrated now) txs
  have hlater : Extends registry.rows later.rows := run_extends takes registry txs'
  refine ⟨⟨fun v hv => findVersion_of_extends hlater hv, hlater, ?_⟩, ?_, ?_, ?_, ?_⟩
  · exact fun i hi p => past_of_extends registry.constraints later.constraints hlater hi
  · exact findVersion_of_extends (hregistry.trans hlater) (List.mem_singleton_self _)
  · have hiff := Runs.final_iff (I := fun registry => WalksEnd registry.rows)
      (walksEnd_commit takes) (migrated now) (txs ++ txs')
    rw [Runs.final_append] at hiff
    exact hiff.trans (and_iff_right (walksEnd_migrated now))
  · exact startsWith later str_
  · exact run_service takes registry

/-- Two versions of one `INSERT`, each the prior version of the other. -/
def circle : Transaction where
  role := .configAdminUser
  statements :=
    [.insert
      [{ seedVersion 5 with
          id := 2, versionNumber := 2, status := "PROPOSED", priorVersionId := some 3 },
        { seedVersion 5 with
          id := 3, versionNumber := 3, status := "PROPOSED", priorVersionId := some 2 }]]

/-- The table takes them: the baseline is still there, and the walk back from them does not end. -/
theorem circle_kept :
    let later := Runs.final (commit fun _ => true) (migrated 0) [circle]
    (∃ v, findVersion later 1 = some v ∧ frozen v = frozen (seedVersion 0)) ∧
      ¬ WalksEnd later.rows := by
  intro later
  obtain ⟨-, hbaseline, hwalks, -⟩ :=
    config_versions_kept (fun _ => true) 0 [circle] [] fun _ => ""
  refine ⟨hbaseline, fun hends => ?_⟩
  have hcommits : Commits (fun _ => true) (migrated 0) circle := ⟨_, rfl⟩
  have hinserted : WalksEnd circle.inserted := (hwalks.1 hends).1 hcommits
  have hback : PriorOf circle.inserted 3 2 := .head _
  have hforth : PriorOf circle.inserted 2 3 := .tail _ (.head _)
  exact hinserted.transGen.irrefl.irrefl 2 (.head hforth (.single hback))

end ConfigRegistry
end StudentSuccess
