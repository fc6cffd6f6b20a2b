import StudentSuccess.ReportHelpers
import Mathlib.Order.Basic

namespace StudentSuccess
namespace ResponseIntervals
set_option autoImplicit true
open Report
open Py (DateTime minDateTime notBefore timedeltaDays microsPerDay)

/-- The days from the earliest contact to the earliest response not before it. -/
def earliestInterval (contacts responses : List Int) : Option Int :=
  contacts.min?.bind fun contact =>
    (responses.filter (contact ≤ ·)).min?.map fun response => timedeltaDays (response - contact)

/-- The datetimes are all aware, or all naive with every response before every contact; or there
are none of one kind. -/
def Comparable (contacted responded : List DateTime) : Prop :=
  contacted = [] ∨ responded = [] ∨
    (∀ t ∈ contacted ++ responded, t.isAware = true) ∨
    (∀ t ∈ contacted ++ responded, t.isAware = false) ∧
      ∀ response ∈ responded, ∀ contact ∈ contacted, response.utc < contact.utc

/-- The average is read off the two lists as the wall clock of UTC has them. -/
structure Reads (contacted responded : List DateTime) : Prop where
  days : computeAvgDaysToResponse contacted responded =
    .ok (earliestInterval (contacted.map DateTime.utc) (responded.map DateTime.utc))
  nonneg : ∀ d, computeAvgDaysToResponse contacted responded = .ok (some d) → 0 ≤ d

theorem timedeltaDays_nonneg (h : 0 ≤ micros) : 0 ≤ timedeltaDays micros :=
  Int.ediv_nonneg h (by decide)

/-- The last steps of `_compute_avg_days_to_response`. -/
def daysSince (firstContact : DateTime) : List DateTime → Except Py.Error (Option Int)
  | [] => .ok none
  | response :: responses => do
    let firstResponse ← minDateTime response responses
    let delta ← firstResponse.sub (.aware firstContact.utc)
    return some (max 0 (timedeltaDays delta))

theorem computeAvgDaysToResponse_cons (first : DateTime) (contacted : List DateTime)
    (response : DateTime) (responded : List DateTime) :
    computeAvgDaysToResponse (first :: contacted) (response :: responded) =
      (minDateTime first contacted >>= fun firstContact =>
        notBefore firstContact (response :: responded) >>= daysSince firstContact) :=
  rfl

/-- Of responses of one kind the earliest is compared with an aware contact. -/
theorem daysSince_cons (contact : DateTime)
    (h : ∀ t ∈ responses, t.isAware = response.isAware) :
    ∃ least, (((response :: responses).map DateTime.utc).min? = some least) ∧
      daysSince contact (response :: responses) =
        if response.isAware then .ok (some (max 0 (timedeltaDays (least - contact.utc))))
        else .error .typeError := by
  obtain ⟨t, ht, haware, hmin⟩ := Py.minDateTime_same h
  refine ⟨t.utc, hmin, ?_⟩
  rw [daysSince, ht, ← haware]
  cases t with
  | naive t => rfl
  | aware t => rfl

theorem computeAvgDaysToResponse_mixed
    (h : ∃ t ∈ first :: contacted ++ response :: responded, t.isAware ≠ first.isAware) :
    computeAvgDaysToResponse (first :: contacted) (response :: responded) = .error .typeError := by
  rw [computeAvgDaysToResponse_cons]
  by_cases hcontacts : ∀ t ∈ contacted, t.isAware = first.isAware
  · obtain ⟨firstContact, hfirst, haware, -⟩ := Py.minDateTime_same hcontacts
    have hresponses : ∃ t ∈ response :: responded, t.isAware ≠ firstContact.isAware := by
      obtain ⟨t, ht, hmixed⟩ := h
      rw [haware]
      rcases List.mem_append.1 ht with ht | ht
      · rcases List.mem_cons.1 ht with rfl | ht
        · exact absurd rfl hmixed
        · exact absurd (hcontacts t ht) hmixed
      · exact ⟨t, ht, hmixed⟩
    rw [hfirst]
    change notBefore firstContact (response :: responded) >>= daysSince firstContact = _
    rw [Py.notBefore_mixed hresponses]
    rfl
  · simp only [not_forall, exists_prop] at hcontacts
    rw [Py.minDateTime_mixed hcontacts]
    rfl

/-- Where all are of one kind, naive datetimes fail once there is a response to count. -/
theorem computeAvgDaysToResponse_same
    (h : ∀ t ∈ first :: contacted ++ response :: responded, t.isAware = first.isAware) :
    ∃ contact : Int, ((first :: contacted).map DateTime.utc).min? = some contact ∧
      computeAvgDaysToResponse (first :: contacted) (response :: responded) =
        match (((response :: responded).map DateTime.utc).filter (contact ≤ ·)).min? with
        | none => .ok none
        | some least =>
          if first.isAware then .ok (some (max 0 (timedeltaDays (least - contact))))
          else .error .typeError := by
  have hcontacts : ∀ t ∈ contacted, t.isAware = first.isAware := fun t ht =>
    h t (List.mem_append_left _ (List.mem_cons_of_mem _ ht))
  obtain ⟨firstContact, hfirst, haware, hmin⟩ := Py.minDateTime_same hcontacts
  refine ⟨firstContact.utc, hmin, ?_⟩
  have hresponses : ∀ t ∈ response :: responded, t.isAware = firstContact.isAware := fun t ht =>
    (h t (List.mem_append_right _ ht)).trans haware.symm
  have hafter : ((response :: responded).map DateTime.utc).filter (firstContact.utc ≤ ·) =
      ((response :: responded).filter (firstContact.utc ≤ ·.utc)).map DateTime.utc := by
    rw [List.filter_map]
    rfl
  rw [computeAvgDaysToResponse_cons, hfirst, hafter]
  change notBefore firstContact (response :: responded) >>= daysSince firstContact = _
  rw [Py.notBefore_same hresponses]
  change daysSince firstContact _ = _
  cases hcase : (response :: responded).filter (firstContact.utc ≤ ·.utc) with
  | nil => rfl
  | cons later laters =>
    have hkind : ∀ t ∈ later :: laters, t.isAware = first.isAware := by
      intro t ht
      rw [← hcase] at ht
      exact (hresponses t (List.mem_of_mem_filter ht)).trans haware
    obtain ⟨least, hleast, hdays⟩ := daysSince_cons firstContact
      fun t ht => (hkind t (List.mem_cons_of_mem _ ht)).trans (hkind later List.mem_cons_self).symm
    rw [hdays, hleast, hkind later List.mem_cons_self]

theorem earliestInterval_nonneg (h : earliestInterval contacts responses = some d) : 0 ≤ d := by
  rw [earliestInterval, Option.bind_eq_some_iff] at h
  obtain ⟨contact, -, h⟩ := h
  obtain ⟨least, hleast, rfl⟩ := Option.map_eq_some_iff.1 h
  have hmem := (List.mem_filter.1 (List.min?_eq_some_iff.1 hleast).1).2
  exact timedeltaDays_nonneg (sub_nonneg.2 (of_decide_eq_true hmem))

theorem reads_iff_days : Reads contacted responded ↔ computeAvgDaysToResponse contacted responded =
    .ok (earliestInterval (contacted.map DateTime.utc) (responded.map DateTime.utc)) := by
  refine ⟨Reads.days, fun h => ⟨h, fun d hd => ?_⟩⟩
  rw [h] at hd
  exact earliestInterval_nonneg (Except.ok.inj hd)

theorem comparable_cons :
    Comparable (first :: contacted) (response :: responded) ↔
      (∀ t ∈ first :: contacted ++ response :: responded, t.isAware = first.isAware) ∧
        (first.isAware = true ∨ ∀ t ∈ response :: responded, ∀ contact ∈ first :: contacted,
          t.utc < contact.utc) := by
  have hfirst : first ∈ first :: contacted ++ response :: responded :=
    List.mem_append_left _ List.mem_cons_self
  constructor
  · rintro (h | h | h | ⟨h, hbefore⟩)
    · cases h
    · cases h
    · exact ⟨fun t ht => (h t ht).trans (h first hfirst).symm, .inl (h first hfirst)⟩
    · exact ⟨fun t ht => (h t ht).trans (h first hfirst).symm, .inr hbefore⟩
  · rintro ⟨hsame, hkind⟩
    cases hcase : first.isAware with
    | true => exact .inr (.inr (.inl fun t ht => (hsame t ht).trans hcase))
    | false =>
      rw [hcase] at hkind
      exact .inr (.inr (.inr ⟨fun t ht => (hsame t ht).trans hcase,
        hkind.resolve_left Bool.false_ne_true⟩))

theorem spec_of_same
    (h : ∀ t ∈ first :: contacted ++ response :: responded, t.isAware = first.isAware) :
    Comparable (first :: contacted) (response :: responded) ∧
        computeAvgDaysToResponse (first :: contacted) (response :: responded) =
          .ok (earliestInterval ((first :: contacted).map DateTime.utc)
            ((response :: responded).map DateTime.utc)) ∨
      ¬ Comparable (first :: contacted) (response :: responded) ∧
        computeAvgDaysToResponse (first :: contacted) (response :: responded) =
          .error .typeError := by
  obtain ⟨contact, hmin, hdays⟩ := computeAvgDaysToResponse_same h
  obtain ⟨hcontact, hearliest⟩ := List.min?_eq_some_iff.1 hmin
  rw [hdays, comparable_cons, and_iff_right h, earliestInterval, hmin, Option.bind_some]
  cases hleast : (((response :: responded).map DateTime.utc).filter (contact ≤ ·)).min? with
  | none =>
    refine .inl ⟨.inr fun t ht other hother => ?_, rfl⟩
    have hlate : ¬ contact ≤ t.utc := by
      intro hle
      rw [List.min?_eq_none_iff, List.filter_eq_nil_iff] at hleast
      exact hleast t.utc (List.mem_map_of_mem ht) (decide_eq_true hle)
    exact lt_of_lt_of_le (not_le.1 hlate) (hearliest _ (List.mem_map_of_mem hother))
  | some least =>
    obtain ⟨hmem, hlate⟩ := List.mem_filter.1 (List.min?_eq_some_iff.1 hleast).1
    have hle : contact ≤ least := of_decide_eq_true hlate
    cases hfirst : first.isAware with
    | true =>
      refine .inl ⟨.inl rfl, ?_⟩
      rw [Option.map_some, ← max_eq_right (timedeltaDays_nonneg (sub_nonneg.2 hle))]
      rfl
    | false =>
      refine .inr ⟨?_, rfl⟩
      rintro (haware | hbefore)
      · cases haware
      · -- the earliest contact is not after the response that is counted
        obtain ⟨t, ht, rfl⟩ := List.mem_map.1 hmem
        obtain ⟨other, hother, rfl⟩ := List.mem_map.1 hcontact
        exact absurd (hbefore t ht other hother) (not_lt.2 hle)

/-- The average is the earliest interval, or it raises. -/
theorem computeAvgDaysToResponse_spec (contacted responded : List DateTime) :
    Comparable contacted responded ∧ computeAvgDaysToResponse contacted responded =
        .ok (earliestInterval (contacted.map DateTime.utc) (responded.map DateTime.utc)) ∨
      ¬ Comparable contacted responded ∧
        computeAvgDaysToResponse contacted responded = .error .typeError := by
  match contacted, responded with
  | [], _ => exact .inl ⟨.inl rfl, rfl⟩
  | first :: contacted, [] =>
    refine .inl ⟨.inr (.inl rfl), ?_⟩
    rw [earliestInterval]
    cases ((first :: contacted).map DateTime.utc).min? with
    | none => rfl
    | some contact => rfl
  | first :: contacted, response :: responded =>
    by_cases hsame : ∀ t ∈ first :: contacted ++ response :: responded, t.isAware = first.isAware
    · exact spec_of_same hsame
    · have hmixed : ∃ t ∈ first :: contacted ++ response :: responded,
          t.isAware ≠ first.isAware := by
        simpa only [not_forall, exists_prop] using hsame
      exact .inr ⟨fun h => hsame (comparable_cons.1 h).1, computeAvgDaysToResponse_mixed hmixed⟩

theorem reads_iff (contacted responded : List DateTime) :
    Reads contacted responded ↔ Comparable contacted responded := by
  rw [reads_iff_days]
  rcases computeAvgDaysToResponse_spec contacted responded with ⟨h, hdays⟩ | ⟨h, herror⟩
  · exact iff_of_true hdays h
  · rw [herror]
    exact iff_of_false nofun h

def replied (e : Reached) : Bool := e.1 = .responded || e.1 = .analyzed

def contactTimes (log : List Reached) : List DateTime :=
  (log.filter (·.1 = .contacted)).map (·.2)

def responseTimes (log : List Reached) : List DateTime := (log.filter replied).map (·.2)

def TimeOrdered (log : List Reached) : Prop := log.Pairwise fun e e' => e.2.utc ≤ e'.2.utc

structure FirstContact (log before : List Reached) (contact : Reached) (after : List Reached) :
    Prop where
  split : before ++ contact :: after = log
  contacted : contact.1 = .contacted
  first : ∀ e ∈ before, e.1 ≠ .contacted

/-- The delta is the wait from the first contact to the first response after it. -/
structure Waits (log : List Reached) : Prop where
  days : ∀ before contact between response after,
    FirstContact log before contact (between ++ response :: after) →
      replied response = true → (∀ e ∈ between, replied e = false) →
        computeContactResponseDelta log = some (timedeltaDays (response.2.utc - contact.2.utc))
  missing : computeContactResponseDelta log = none ↔
    ∀ before contact after, FirstContact log before contact after → ∀ e ∈ after, replied e = false

theorem exists_firstContact (log : List Reached) :
    (∀ e ∈ log, e.1 ≠ .contacted) ∨
      ∃ before contact after, FirstContact log before contact after := by
  cases h : log.find? (·.1 = .contacted) with
  | none =>
    rw [List.find?_eq_none] at h
    exact .inl fun e he hcontacted => h e he (decide_eq_true hcontacted)
  | some contact =>
    obtain ⟨hcontacted, before, after, rfl, hfirst⟩ := List.find?_eq_some_iff_append.1 h
    refine .inr ⟨before, contact, after, rfl, of_decide_eq_true hcontacted, fun e he heq => ?_⟩
    have hnot := hfirst e he
    rw [decide_eq_true heq] at hnot
    cases hnot

theorem replied_iff : replied e = true ↔ e.1 = .responded ∨ e.1 = .analyzed := by
  rw [replied, Bool.or_eq_true, decide_eq_true_eq, decide_eq_true_eq]

/-- The scan, once it has its first contact, ends at the next response. -/
theorem contactResponseDelta_latched (contact : DateTime) (log : List Reached) :
    contactResponseDelta (some contact) log =
      (log.find? replied).map fun e => max 0 (timedeltaDays (e.2.utc - contact.utc)) := by
  induction log with
  | nil => rfl
  | cons e log ih =>
    rw [contactResponseDelta, List.find?_cons]
    simp only [reduceCtorEq, and_false, if_false]
    cases h : replied e with
    | true =>
      rw [if_pos (replied_iff.1 h)]
      rfl
    | false =>
      rw [if_neg (mt replied_iff.2 (Bool.eq_false_iff.1 h))]
      exact ih

theorem contactResponseDelta_skip (h : ∀ e ∈ before, e.1 ≠ .contacted) (rest : List Reached) :
    contactResponseDelta none (before ++ rest) = contactResponseDelta none rest := by
  induction before with
  | nil => rfl
  | cons e before ih =>
    rw [List.cons_append, contactResponseDelta]
    simp only [if_neg fun hcontact : _ ∧ _ => h e List.mem_cons_self hcontact.1]
    exact ih fun e' he' => h e' (List.mem_cons_of_mem e he')

theorem FirstContact.delta (h : FirstContact log before contact after) :
    computeContactResponseDelta log =
      (after.find? replied).map fun e => max 0 (timedeltaDays (e.2.utc - contact.2.utc)) := by
  obtain ⟨rfl, hcontacted, hfirst⟩ := h
  rw [computeContactResponseDelta, contactResponseDelta_skip hfirst, contactResponseDelta]
  simp only [hcontacted, and_self, if_true, reduceCtorEq, or_self, if_false]
  exact contactResponseDelta_latched contact.2 after

theorem delta_eq_none (h : ∀ e ∈ log, e.1 ≠ .contacted) :
    computeContactResponseDelta log = none := by
  have hscan := contactResponseDelta_skip h []
  rw [List.append_nil] at hscan
  exact hscan

theorem FirstContact.ordered (h : FirstContact log before contact after)
    (hordered : TimeOrdered log) :
    (∀ e ∈ before, e.2.utc ≤ contact.2.utc) ∧ (∀ e ∈ after, contact.2.utc ≤ e.2.utc) ∧
      TimeOrdered after := by
  rw [TimeOrdered, ← h.split, List.pairwise_append, List.pairwise_cons] at hordered
  obtain ⟨-, ⟨hafter, hrest⟩, hbefore⟩ := hordered
  exact ⟨fun e he => hbefore e he contact List.mem_cons_self, hafter, hrest⟩

theorem le_of_find? (hordered : TimeOrdered log) (hfind : log.find? replied = some response)
    (he : e ∈ log) (hreplied : replied e = true) : response.2.utc ≤ e.2.utc := by
  obtain ⟨-, between, rest, rfl, hbetween⟩ := List.find?_eq_some_iff_append.1 hfind
  rw [TimeOrdered, List.pairwise_append, List.pairwise_cons] at hordered
  rcases List.mem_append.1 he with he | he
  · have hnot := hbetween e he
    rw [hreplied] at hnot
    cases hnot
  · rcases List.mem_cons.1 he with rfl | he
    · exact le_rfl
    · exact hordered.2.1.1 e he

/-- A response logged before the first contact, at its very instant, is followed by another within
a day. -/
def Untied (log : List Reached) : Prop :=
  ∀ before contact after, FirstContact log before contact after →
    (∃ e ∈ before, replied e = true ∧ e.2.utc = contact.2.utc) →
      ∃ e ∈ after, replied e = true ∧ e.2.utc - contact.2.utc < microsPerDay

def loggedInterval (log : List Reached) : Option Int :=
  earliestInterval ((contactTimes log).map DateTime.utc) ((responseTimes log).map DateTime.utc)

theorem loggedInterval_eq_none (h : ∀ e ∈ log, e.1 ≠ .contacted) : loggedInterval log = none := by
  have hnone : contactTimes log = [] := by
    rw [contactTimes, List.filter_eq_nil_iff.2 fun e he => ?_, List.map_nil]
    rw [decide_eq_true_eq]
    exact h e he
  rw [loggedInterval, hnone]
  rfl

section FromFirstContact
variable {log before after : List Reached} {contact : Reached}

theorem FirstContact.loggedInterval (h : FirstContact log before contact after)
    (hordered : TimeOrdered log) :
    loggedInterval log =
      (((responseTimes log).map DateTime.utc).filter (contact.2.utc ≤ ·)).min?.map
        fun response => timedeltaDays (response - contact.2.utc) := by
  have hmin : ((contactTimes log).map DateTime.utc).min? = some contact.2.utc := by
    obtain ⟨hbefore, hafter, -⟩ := h.ordered hordered
    rw [List.min?_eq_some_iff]
    constructor
    · refine List.mem_map_of_mem (List.mem_map_of_mem (List.mem_filter.2 ⟨?_, ?_⟩))
      · rw [← h.split]
        exact List.mem_append_right _ List.mem_cons_self
      · exact decide_eq_true h.contacted
    · intro t ht
      rw [contactTimes, List.map_map] at ht
      obtain ⟨e, he, rfl⟩ := List.mem_map.1 ht
      obtain ⟨hmem, hcontacted⟩ := List.mem_filter.1 he
      rw [← h.split] at hmem
      rcases List.mem_append.1 hmem with hmem | hmem
      · exact absurd (of_decide_eq_true hcontacted) (h.first e hmem)
      · rcases List.mem_cons.1 hmem with rfl | hmem
        · exact le_rfl
        · exact hafter e hmem
  rw [ResponseIntervals.loggedInterval, earliestInterval, hmin, Option.bind_some]

theorem FirstContact.loggedInterval_tied (h : FirstContact log before contact after)
    (hordered : TimeOrdered log) (hreply : e ∈ before) (hreplied : replied e = true)
    (htie : e.2.utc = contact.2.utc) : ResponseIntervals.loggedInterval log = some 0 := by
  have hleast : (((responseTimes log).map DateTime.utc).filter (contact.2.utc ≤ ·)).min? =
      some contact.2.utc := by
    rw [List.min?_eq_some_iff]
    constructor
    · refine List.mem_filter.2 ⟨?_, decide_eq_true le_rfl⟩
      rw [← htie]
      refine List.mem_map_of_mem (List.mem_map_of_mem (List.mem_filter.2 ⟨?_, hreplied⟩))
      rw [← h.split]
      exact List.mem_append_left _ hreply
    · intro t ht
      exact of_decide_eq_true (List.mem_filter.1 ht).2
  rw [h.loggedInterval hordered, hleast, Option.map_some, sub_self]
  rfl

theorem FirstContact.loggedInterval_untied (h : FirstContact log before contact after)
    (hordered : TimeOrdered log)
    (huntied : ∀ e ∈ before, replied e = true → e.2.utc ≠ contact.2.utc) :
    ResponseIntervals.loggedInterval log =
      (after.find? replied).map fun e => timedeltaDays (e.2.utc - contact.2.utc) := by
  obtain ⟨hbefore, hafter, hrest⟩ := h.ordered hordered
  have hmem (t : Int) : t ∈ ((responseTimes log).map DateTime.utc).filter (contact.2.utc ≤ ·) ↔
      ∃ e ∈ after, replied e = true ∧ e.2.utc = t := by
    rw [List.mem_filter, responseTimes, List.map_map, List.mem_map]
    constructor
    · rintro ⟨⟨e, he, rfl⟩, hlate⟩
      obtain ⟨hlog, hreplied⟩ := List.mem_filter.1 he
      rw [← h.split] at hlog
      rcases List.mem_append.1 hlog with hlog | hlog
      · exact absurd ((hbefore e hlog).antisymm (of_decide_eq_true hlate)) (huntied e hlog hreplied)
      · rcases List.mem_cons.1 hlog with rfl | hlog
        · exact absurd (replied_iff.1 hreplied) (by rw [h.contacted]; decide)
        · exact ⟨e, hlog, hreplied, rfl⟩
    · rintro ⟨e, he, hreplied, rfl⟩
      refine ⟨⟨e, List.mem_filter.2 ⟨?_, hreplied⟩, rfl⟩, decide_eq_true (hafter e he)⟩
      rw [← h.split]
      exact List.mem_append_right _ (List.mem_cons_of_mem contact he)
  rw [h.loggedInterval hordered]
  cases hfind : after.find? replied with
  | none =>
    have hnone :
        (((responseTimes log).map DateTime.utc).filter (contact.2.utc ≤ ·)).min? = none := by
      rw [List.min?_eq_none_iff, List.eq_nil_iff_forall_not_mem]
      intro t ht
      obtain ⟨e, he, hreplied, -⟩ := (hmem t).1 ht
      exact List.find?_eq_none.1 hfind e he hreplied
    rw [hnone]
    rfl
  | some response =>
    have hleast : (((responseTimes log).map DateTime.utc).filter (contact.2.utc ≤ ·)).min? =
        some response.2.utc := by
      rw [List.min?_eq_some_iff]
      constructor
      · exact (hmem _).2 ⟨response, List.mem_of_find?_eq_some hfind, List.find?_some hfind, rfl⟩
      · intro t ht
        obtain ⟨e, he, hreplied, rfl⟩ := (hmem t).1 ht
        exact le_of_find? hrest hfind he hreplied
    rw [hleast]
    rfl

/-- After the first contact no response is earlier than it, so the clamp does nothing. -/
theorem FirstContact.delta_eq (h : FirstContact log before contact after)
    (hordered : TimeOrdered log) :
    computeContactResponseDelta log =
      (after.find? replied).map fun e => timedeltaDays (e.2.utc - contact.2.utc) := by
  rw [h.delta]
  cases hfind : after.find? replied with
  | none => rfl
  | some response =>
    have hle := (h.ordered hordered).2.1 response (List.mem_of_find?_eq_some hfind)
    exact congrArg some (max_eq_right (timedeltaDays_nonneg (sub_nonneg.2 hle)))

theorem timedeltaDays_eq_zero_iff (h : 0 ≤ micros) :
    timedeltaDays micros = 0 ↔ micros < microsPerDay := by
  rw [timedeltaDays, microsPerDay]
  omega

theorem FirstContact.delta_eq_zero_iff (h : FirstContact log before contact after)
    (hordered : TimeOrdered log) :
    computeContactResponseDelta log = some 0 ↔
      ∃ e ∈ after, replied e = true ∧ e.2.utc - contact.2.utc < microsPerDay := by
  obtain ⟨-, hafter, hrest⟩ := h.ordered hordered
  rw [h.delta_eq hordered, Option.map_eq_some_iff]
  constructor
  · rintro ⟨response, hfind, hzero⟩
    have hmem := List.mem_of_find?_eq_some hfind
    have hle := sub_nonneg.2 (hafter response hmem)
    exact ⟨response, hmem, List.find?_some hfind, (timedeltaDays_eq_zero_iff hle).1 hzero⟩
  · rintro ⟨e, he, hreplied, hday⟩
    cases hfind : after.find? replied with
    | none => exact absurd hreplied (List.find?_eq_none.1 hfind e he)
    | some response =>
      have hmem := List.mem_of_find?_eq_some hfind
      have hfirst := le_of_find? hrest hfind he hreplied
      have hle := sub_nonneg.2 (hafter response hmem)
      exact ⟨response, rfl, (timedeltaDays_eq_zero_iff hle).2 (by omega)⟩

end FromFirstContact

/-- On the events of one log the two agree unless a response ties with the first contact. -/
theorem loggedInterval_eq_delta_iff (hordered : TimeOrdered log) :
    loggedInterval log = computeContactResponseDelta log ↔ Untied log := by
  constructor
  · rintro heq before contact after h ⟨e, he, hreplied, htie⟩
    rw [h.loggedInterval_tied hordered he hreplied htie] at heq
    exact (h.delta_eq_zero_iff hordered).1 heq.symm
  · intro huntied
    rcases exists_firstContact log with hnone | ⟨before, contact, after, h⟩
    · rw [loggedInterval_eq_none hnone, delta_eq_none hnone]
    · by_cases htie : ∃ e ∈ before, replied e = true ∧ e.2.utc = contact.2.utc
      · have hzero := (h.delta_eq_zero_iff hordered).2 (huntied before contact after h htie)
        obtain ⟨e, he, hreplied, heq⟩ := htie
        rw [h.loggedInterval_tied hordered he hreplied heq, hzero]
      · rw [h.delta_eq hordered]
        exact h.loggedInterval_untied hordered fun e he hreplied heq =>
          htie ⟨e, he, hreplied, heq⟩

theorem waits_of_ordered (hordered : TimeOrdered log) : Waits log := by
  constructor
  · intro before contact between response after h hreplied hbetween
    have hfind : (between ++ response :: after).find? replied = some response := by
      rw [List.find?_eq_some_iff_append]
      exact ⟨hreplied, between, after, rfl, fun e he => by rw [hbetween e he]; rfl⟩
    rw [h.delta_eq hordered, hfind]
    rfl
  · constructor
    · intro hnone before contact after h e he
      rw [h.delta, Option.map_eq_none_iff, List.find?_eq_none] at hnone
      exact Bool.eq_false_iff.2 (hnone e he)
    · intro hmissing
      rcases exists_firstContact log with hnone | ⟨before, contact, after, h⟩
      · exact delta_eq_none hnone
      · rw [h.delta, Option.map_eq_none_iff, List.find?_eq_none]
        exact fun e he => Bool.eq_false_iff.1 (hmissing before contact after h e he)

/-- What is asked of the two functions, of one log and of one pair of lists. -/
structure Intervals (log : List Reached) (contacted responded : List DateTime) : Prop where
  waits : TimeOrdered log → Waits log
  agree : TimeOrdered log →
    computeAvgDaysToResponse (contactTimes log) (responseTimes log) =
      .ok (computeContactResponseDelta log)
  reads : Reads contacted responded

theorem agree_iff (hordered : TimeOrdered log) :
    computeAvgDaysToResponse (contactTimes log) (responseTimes log) =
        .ok (computeContactResponseDelta log) ↔
      Comparable (contactTimes log) (responseTimes log) ∧ Untied log := by
  rcases computeAvgDaysToResponse_spec (contactTimes log) (responseTimes log) with
    ⟨hcomparable, hdays⟩ | ⟨hmixed, herror⟩
  · rw [hdays, and_iff_right hcomparable, ← loggedInterval_eq_delta_iff hordered]
    exact Iff.of_eq (Except.ok.injEq _ _)
  · rw [herror]
    exact iff_of_false nofun fun h => hmixed h.1

theorem intervals_iff (log : List Reached) (contacted responded : List DateTime) :
    Intervals log contacted responded ↔
      Comparable contacted responded ∧
        (TimeOrdered log → Comparable (contactTimes log) (responseTimes log) ∧ Untied log) := by
  constructor
  · intro h
    exact ⟨(reads_iff _ _).1 h.reads, fun hordered => (agree_iff hordered).1 (h.agree hordered)⟩
  · rintro ⟨hcomparable, hlog⟩
    exact ⟨waits_of_ordered, fun hordered => (agree_iff hordered).2 (hlog hordered),
      (reads_iff _ _).2 hcomparable⟩

def tied : List Reached := [(.responded, .aware 0), (.contacted, .aware 0)]

theorem naive_response_raises :
    computeAvgDaysToResponse [.naive 0] [.naive microsPerDay] = .error .typeError ∧
      ¬ Intervals [] [.naive 0] [.naive microsPerDay] ∧
      TimeOrdered tied ∧
      computeAvgDaysToResponse (contactTimes tied) (responseTimes tied) = .ok (some 0) ∧
      computeContactResponseDelta tied = none := by
  refine ⟨rfl, fun h => ?_, ?_, rfl, rfl⟩
  · exact nomatch h.reads.days
  · exact List.pairwise_pair.2 le_rfl

def transitionLog (platform : Platform) (studentId : Int) : List Reached :=
  (orderBy (·.createdAt) (platform.stateTransitionLog.rows.filter (·.userId = studentId))).map
    fun t => (t.toState, .aware t.createdAt)

theorem transitionLog_ordered (platform : Platform) (studentId : Int) :
    TimeOrdered (transitionLog platform studentId) := by
  rw [TimeOrdered, transitionLog, List.pairwise_map]
  exact (orderBy_pairwise StateTransitionLog.createdAt _).imp Int.ofNat_le.2

theorem loadLifecyclePatterns_waits (platform : Platform) (w : Warehouse) (studentId : Int) :
    (loadLifecyclePatterns platform w studentId).daysFirstContactToResponse =
        computeContactResponseDelta (transitionLog platform studentId) ∧
      Waits (transitionLog platform studentId) :=
  ⟨rfl, waits_of_ordered (transitionLog_ordered platform studentId)⟩

theorem times_comparable (rows rows' : List OutreachHistory) :
    Comparable (times rows) (times rows') := by
  refine .inr (.inr (.inl fun t ht => ?_))
  rw [times, times, ← List.map_append] at ht
  obtain ⟨r, -, rfl⟩ := List.mem_map.1 ht
  rfl

/-- The average of a report never raises, and it is the earliest interval. -/
theorem loadOutreachIntelligence_avg (platform : Platform) (studentId : Int)
    (month : Calendar.Month) :
    ∃ intel, loadOutreachIntelligence platform studentId month = .ok intel ∧
      intel.avgDaysToResponse =
        earliestInterval
          ((times ((outreachRows platform studentId month).filter
            (·.stateAfter = some .contacted))).map DateTime.utc)
          ((times ((outreachRows platform studentId month).filter answered)).map
            DateTime.utc) := by
  have hreads := ((reads_iff _ _).2 (times_comparable
    ((outreachRows platform studentId month).filter (·.stateAfter = some .contacted))
    ((outreachRows platform studentId month).filter answered))).days
  rw [loadOutreachIntelligence]
  dsimp only
  rw [hreads]
  exact ⟨_, rfl, rfl⟩

end ResponseIntervals
end StudentSuccess
