import StudentSuccess.PyText
import StudentSuccess.Report
import StudentSuccess.Worker

set_option autoImplicit true

namespace Separators

theorem first_inj {xs xs' ys ys' : List α} (hx : c ∉ xs) (hx' : c ∉ xs')
    (h : xs ++ c :: ys = xs' ++ c :: ys') : xs = xs' ∧ ys = ys' := by
  induction xs generalizing xs' with
  | nil =>
    cases xs' with
    | nil => exact ⟨rfl, (List.cons.inj h).2⟩
    | cons x' xs' =>
      rw [(List.cons.inj h).1] at hx'
      exact absurd List.mem_cons_self hx'
  | cons x xs ih =>
    cases xs' with
    | nil =>
      rw [← (List.cons.inj h).1] at hx
      exact absurd List.mem_cons_self hx
    | cons x' xs' =>
      obtain ⟨rfl, htail⟩ := List.cons.inj h
      obtain ⟨rfl, hrest⟩ :=
        ih (mt (List.mem_cons_of_mem x) hx) (mt (List.mem_cons_of_mem x) hx') htail
      exact ⟨rfl, hrest⟩

/-- Text from the last separator on is read back from the right. -/
theorem last_inj {xs xs' ys ys' : List α} (hy : c ∉ ys) (hy' : c ∉ ys')
    (h : xs ++ c :: ys = xs' ++ c :: ys') : xs = xs' ∧ ys = ys' := by
  have hreverse := congrArg List.reverse h
  rw [List.reverse_append, List.reverse_append, List.reverse_cons, List.reverse_cons,
    List.append_assoc, List.append_assoc, List.singleton_append, List.singleton_append] at hreverse
  obtain ⟨hys, hxs⟩ := first_inj (mt List.mem_reverse.1 hy) (mt List.mem_reverse.1 hy') hreverse
  exact ⟨List.reverse_injective hxs, List.reverse_injective hys⟩

/-- A middle part may hold the separator when the parts around it do not. -/
theorem both_inj {xs xs' ys ys' zs zs' : List α} (hx : c ∉ xs) (hx' : c ∉ xs') (hz : c ∉ zs)
    (hz' : c ∉ zs') (h : xs ++ c :: (ys ++ c :: zs) = xs' ++ c :: (ys' ++ c :: zs')) :
    xs = xs' ∧ ys = ys' ∧ zs = zs' := by
  obtain ⟨hxs, hrest⟩ := first_inj hx hx' h
  exact ⟨hxs, last_inj hz hz' hrest⟩

end Separators

namespace StudentSuccess
namespace KeyTexts
set_option autoImplicit true
open Calendar (Month)
open GhlTransport Worker Report Py

/-- `str(student.get("PathName"))`. -/
def pathText (env : WorkerEnv) (student : Student) : String :=
  (field student "PathName").text env.repr

theorem makeIdempotencyKey_toList (env : WorkerEnv) (huser : field student "UserID" = .int user)
    (attempt : Int) :
    (makeIdempotencyKey env student attempt).toList =
      (toString user).toList ++
        ':' :: ((pathText env student).toList ++ ':' :: (toString attempt).toList) := by
  rw [makeIdempotencyKey, huser]
  simp only [String.toList_append, List.append_assoc]
  rfl

/-- The path stands between an id and an attempt without colons, so its own are no harm. -/
theorem makeIdempotencyKey_inj {env env' : WorkerEnv}
    (huser : field student "UserID" = .int user) (huser' : field student' "UserID" = .int user')
    (h : makeIdempotencyKey env student attempt = makeIdempotencyKey env' student' attempt') :
    user = user' ∧ pathText env student = pathText env' student' ∧ attempt = attempt' := by
  have hcolon (n : Int) : ':' ∉ (toString n).toList := not_mem_intText (by decide) (by decide) n
  have hlist := congrArg String.toList h
  rw [makeIdempotencyKey_toList env huser, makeIdempotencyKey_toList env' huser'] at hlist
  obtain ⟨hid, hname, hcount⟩ := Separators.both_inj (hcolon user) (hcolon user')
    (hcolon attempt) (hcolon attempt') hlist
  exact ⟨intText_injective (String.toList_inj.1 hid), String.toList_inj.1 hname,
    intText_injective (String.toList_inj.1 hcount)⟩

/-- A job without a path name has the key of one whose path is named `None`, and of no other. -/
theorem makeIdempotencyKey_null_iff (env env' : WorkerEnv)
    (huser : field student "UserID" = .int user) (huser' : field student' "UserID" = .int user)
    (hnull : field student "PathName" = .null) (hpath : field student' "PathName" = .str path)
    (attempt : Int) :
    makeIdempotencyKey env student attempt = makeIdempotencyKey env' student' attempt ↔
      path = "None" := by
  constructor
  · intro h
    have htext := (makeIdempotencyKey_inj huser huser' h).2.1
    rw [pathText, pathText, hnull, hpath] at htext
    exact htext.symm
  · rintro rfl
    rw [makeIdempotencyKey, makeIdempotencyKey, huser, huser', hnull, hpath]
    rfl

theorem padded_toList (width n : Nat) :
    (padded width n).toList =
      List.replicate (width - n.repr.toList.length) '0' ++ n.repr.toList := by
  rw [padded, String.toList_ofList]
  rfl

theorem ofDigitChars_padded (width n : Nat) :
    Nat.ofDigitChars 10 (padded width n).toList 0 = n := by
  rw [padded_toList, Nat.ofDigitChars_append, Nat.ofDigitChars_replicate_zero, Nat.mul_zero,
    Nat.toList_repr, Nat.ofDigitChars_ten_toDigits]

theorem padded_injective (h : padded width m = padded width n) : m = n := by
  rw [← ofDigitChars_padded width m, h, ofDigitChars_padded]

theorem isDigit_of_mem_padded {c : Char} (h : c ∈ (padded width n).toList) : c.isDigit = true := by
  rw [padded_toList] at h
  rcases List.mem_append.1 h with h | h
  · rw [List.eq_of_mem_replicate h]
    decide
  · exact isDigit_of_mem_natText h

theorem monthText_toList (month : Month) :
    (monthText month).toList =
      (padded 4 month.year).toList ++ '-' :: ((padded 2 month.month).toList ++ "-01".toList) := by
  have hdash : "-".toList = ['-'] := rfl
  simp only [monthText, String.toList_append, List.append_assoc, hdash, List.cons_append,
    List.nil_append]

theorem monthText_injective (h : monthText month = monthText month') : month = month' := by
  have hdash {width n : Nat} : '-' ∉ (padded width n).toList := fun hmem =>
    absurd (isDigit_of_mem_padded hmem) (by decide)
  have hlist := congrArg String.toList h
  rw [monthText_toList, monthText_toList] at hlist
  obtain ⟨hyear, hrest⟩ := Separators.first_inj hdash hdash hlist
  have hmonth := List.append_cancel_right hrest
  exact Month.ext (padded_injective (String.toList_inj.1 hyear))
    (padded_injective (String.toList_inj.1 hmonth))

theorem bar_not_mem_monthText (month : Month) : '|' ∉ (monthText month).toList := by
  intro h
  rw [monthText_toList] at h
  rcases List.mem_append.1 h with h | h
  · exact absurd (isDigit_of_mem_padded h) (by decide)
  · rcases List.mem_cons.1 h with h | h
    · exact absurd h (by decide)
    · rcases List.mem_append.1 h with h | h
      · exact absurd (isDigit_of_mem_padded h) (by decide)
      · exact absurd h (by decide)

theorem keyText_toList (studentId : Int) (month : Month) (lineageVersion : Int) :
    (keyText studentId month lineageVersion).toList =
      "student:".toList ++ ((toString studentId).toList ++ '|' :: ("month:".toList ++
        ((monthText month).toList ++ '|' :: ("lineage:".toList ++
          ((toString lineageVersion).toList ++ '|' ::
            ("template:".toList ++ templateVersion.toList)))))) := by
  rw [keyText]
  simp only [String.toList_append, List.append_assoc]
  rfl

/-- The parts of the key text hold no bar, so the bars tell where each ends. -/
theorem keyText_inj (h : keyText studentId month lineageVersion =
    keyText studentId' month' lineageVersion') :
    studentId = studentId' ∧ month = month' ∧ lineageVersion = lineageVersion' := by
  have hbar (n : Int) : '|' ∉ (toString n).toList := not_mem_intText (by decide) (by decide) n
  have hlist := congrArg String.toList h
  rw [keyText_toList, keyText_toList] at hlist
  obtain ⟨hid, hlist⟩ := Separators.first_inj (hbar studentId) (hbar studentId')
    (List.append_cancel_left hlist)
  obtain ⟨hmonth, hlist⟩ := Separators.first_inj (bar_not_mem_monthText month)
    (bar_not_mem_monthText month') (List.append_cancel_left hlist)
  obtain ⟨hlineage, -⟩ := Separators.first_inj (hbar lineageVersion) (hbar lineageVersion')
    (List.append_cancel_left hlist)
  exact ⟨intText_injective (String.toList_inj.1 hid),
    monthText_injective (String.toList_inj.1 hmonth),
    intText_injective (String.toList_inj.1 hlineage)⟩

theorem idempotency_keys_injective :
    (∀ (env env' : WorkerEnv) (record record' : Outreach.OutreachCoordinationRecord)
      (student student' : Student) (user user' : Int) (path path' : String)
      (attempt attempt' : Int) (jobId jobId' : String),
      field student "UserID" = .int user → field student "PathName" = .str path →
        field student' "UserID" = .int user' → field student' "PathName" = .str path' →
          (makeJobContext env record student attempt jobId).idempotencyKey =
              (makeJobContext env' record' student' attempt' jobId').idempotencyKey →
            user = user' ∧ path = path' ∧ attempt = attempt') ∧
    (∀ (studentId studentId' : Int) (month month' : Month) (lineageVersion lineageVersion' : Int),
      keyText studentId month lineageVersion = keyText studentId' month' lineageVersion' →
        studentId = studentId' ∧ month = month' ∧ lineageVersion = lineageVersion') := by
  constructor
  · intro env env' record record' student student' user user' path path' attempt attempt' jobId
      jobId' huser hpath huser' hpath' hkey
    obtain ⟨hid, htext, hcount⟩ := makeIdempotencyKey_inj huser huser' (Option.some.inj hkey)
    rw [pathText, pathText, hpath, hpath'] at htext
    exact ⟨hid, htext, hcount⟩
  · intro studentId studentId' month month' lineageVersion lineageVersion' htext
    exact keyText_inj htext

end KeyTexts
end StudentSuccess
