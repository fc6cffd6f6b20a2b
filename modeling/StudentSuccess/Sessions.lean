import StudentSuccess.PyValue

set_option autoImplicit true

namespace Sessions

/-- A session of an object mapper: what the database has committed, what the session's own
transaction has made of it, if one is open, and the new objects that it has yet to write. -/
structure Session (δ ω : Type) where
  committed : δ
  transaction : Option δ
  added : List ω

namespace Session

def idle (db : δ) : Session δ ω := ⟨db, none, []⟩

/-- What the statements of the session read. -/
def view (s : Session δ ω) : δ := s.transaction.getD s.committed

/-- There is nothing to commit. -/
def clean (s : Session δ ω) : Bool := s.transaction.isNone && s.added.isEmpty

end Session

/-- Code that works on a session. It may raise; what it did to the session until then stays. -/
abbrev Action (ε δ ω : Type) := ExceptT ε (StateM (Session δ ω))

variable {ε δ ω α β : Type}

namespace Action

/-- The result, and the session after it. -/
def after (x : Action ε δ ω α) (s : Session δ ω) : Except ε α × Session δ ω := x s

end Action

open Sessions.Action

/-- `session.execute(statement)`, which opens a transaction if there is none. -/
def execute (statement : δ → Except ε (δ × α)) : Action ε δ ω α := fun s =>
  match statement s.view with
  | .ok (db, a) => (.ok a, { s with transaction := some db })
  | .error e => (.error e, { s with transaction := some s.view })

def add (obj : ω) : Action ε δ ω Unit := fun s => (.ok (), { s with added := s.added ++ [obj] })

/-- What code does outside the session. -/
def lift (x : Except ε α) : Action ε δ ω α := fun s => (x, s)

def rollback : Action ε δ ω Unit := fun s => (.ok (), .idle s.committed)

/-- The inserts of the new objects. -/
def flush (insert : ω → δ → Except ε δ) (added : List ω) (db : δ) : Except ε δ :=
  added.foldlM (fun db obj => insert obj db) db

/-- `session.commit()`: the database keeps everything or nothing of the transaction, and `answer` is
what it says to that. Without anything to commit the session does not go to the database. -/
def commit (insert : ω → δ → Except ε δ) (answer : Except ε Unit) : Action ε δ ω Unit := fun s =>
  if s.clean then (.ok (), s)
  else
    match flush insert s.added s.view >>= fun db => answer.map fun _ => db with
    | .ok db => (.ok (), .idle db)
    | .error e => (.error e, .idle s.committed)

/-- `try: … except Exception as exc: …`. -/
def attempt (x : Action ε δ ω α) (handler : ε → Action ε δ ω α) : Action ε δ ω α := fun s =>
  match x.after s with
  | (.ok a, s') => (.ok a, s')
  | (.error e, s') => (handler e).after s'

/-- `async with` a new session: at the end, raised or not, what is not committed is rolled back. -/
def withSession (x : Action ε δ ω α) (db : δ) : Except ε α × δ :=
  match x.after (.idle db) with
  | (result, s) => (result, s.committed)

section
variable {s s' : Session δ ω} {x : Action ε δ ω α} {f : α → Action ε δ ω β}

@[simp] theorem after_pure (a : α) : (pure a : Action ε δ ω α).after s = (.ok a, s) := rfl

theorem after_bind : (x >>= f).after s = match x.after s with
    | (.ok a, s') => (f a).after s'
    | (.error e, s') => (.error e, s') := by
  show (match x.after s with | (result, s') => ExceptT.bindCont f result s') = _
  cases x.after s with
  | mk result s' =>
    cases result with
    | ok a => rfl
    | error e => rfl

theorem after_attempt {handler : ε → Action ε δ ω α} :
    (attempt x handler).after s = match x.after s with
    | (.ok a, s') => (.ok a, s')
    | (.error e, s') => (handler e).after s' := rfl

/-- The action leaves what is committed as it is, raised or not. -/
def Uncommitted (x : Action ε δ ω α) : Prop := ∀ s, (x.after s).2.committed = s.committed

theorem uncommitted_pure (a : α) : Uncommitted (pure a : Action ε δ ω α) := fun _ => rfl

theorem uncommitted_execute (statement : δ → Except ε (δ × α)) :
    Uncommitted (execute statement : Action ε δ ω α) := by
  intro s
  rw [after, execute]
  cases statement s.view with
  | ok result => rfl
  | error e => rfl

theorem uncommitted_add (obj : ω) : Uncommitted (add obj : Action ε δ ω Unit) := fun _ => rfl

theorem uncommitted_lift (a : Except ε α) : Uncommitted (lift a : Action ε δ ω α) := fun _ => rfl

theorem Uncommitted.bind (hx : Uncommitted x) (hf : ∀ a, Uncommitted (f a)) :
    Uncommitted (x >>= f) := by
  intro s
  have hs := hx s
  rw [after_bind]
  cases hresult : x.after s with
  | mk result s' =>
    rw [hresult] at hs
    cases result with
    | ok a => exact (hf a s').trans hs
    | error e => exact hs

/-- Where the action raises, it leaves what is committed as it was. -/
def Atomic (x : Action ε δ ω α) : Prop :=
  ∀ s e s', x.after s = (.error e, s') → s'.committed = s.committed

theorem atomic_pure (a : α) : Atomic (pure a : Action ε δ ω α) := by
  intro s e s' h
  cases h

theorem atomic_commit (insert : ω → δ → Except ε δ) (answer : Except ε Unit) :
    Atomic (commit insert answer) := by
  intro s e s' h
  rw [after, commit] at h
  split_ifs at h
  · cases h
  · split at h
    · cases h
    · cases h
      rfl

/-- Until something is committed, nothing can be left behind. -/
theorem Uncommitted.bind_atomic (hx : Uncommitted x) (hf : ∀ a, Atomic (f a)) :
    Atomic (x >>= f) := by
  intro s e s' h
  have hs := hx s
  rw [after_bind] at h
  cases hresult : x.after s with
  | mk result s₁ =>
    rw [hresult] at h hs
    cases result with
    | ok a => exact (hf a s₁ e s' h).trans hs
    | error e' =>
      cases h
      exact hs

/-- What cannot raise may follow a commit. -/
theorem Atomic.bind_pure (hx : Atomic x) (g : α → β) : Atomic (x >>= fun a => pure (g a)) := by
  intro s e s' h
  rw [after_bind] at h
  cases hresult : x.after s with
  | mk result s₁ =>
    rw [hresult] at h
    cases result with
    | ok a => cases h
    | error e' =>
      cases h
      exact hx s _ _ hresult

theorem commit_commit (insert : ω → δ → Except ε δ) (answer answer' : Except ε Unit) :
    (commit insert answer >>= fun _ => commit insert answer') = commit insert answer := by
  funext s
  show (commit insert answer >>= fun _ => commit insert answer').after s =
    (commit insert answer).after s
  rw [after_bind]
  cases hresult : (commit insert answer).after s with
  | mk result s' =>
    cases result with
    | error e => rfl
    | ok a =>
      have hclean : s'.clean = true := by
        rw [after, commit] at hresult
        split_ifs at hresult with hclean
        · cases hresult
          exact hclean
        · split at hresult
          · cases hresult
            rfl
          · cases hresult
      show commit insert answer' s' = _
      rw [commit, if_pos hclean]

theorem withSession_error (hx : Atomic x) (h : withSession x db = (.error e, db')) : db' = db := by
  rw [withSession] at h
  cases hresult : x.after (.idle db) with
  | mk result s =>
    rw [hresult] at h
    cases h
    exact hx _ _ _ hresult

theorem withSession_eq_ok :
    withSession x db = (.ok a, db') ↔ ∃ s, x.after (.idle db) = (.ok a, s) ∧ s.committed = db' := by
  rw [withSession]
  cases x.after (.idle db) with
  | mk result s =>
    constructor
    · rintro ⟨⟩
      exact ⟨s, rfl, rfl⟩
    · rintro ⟨s', ⟨⟩, rfl⟩
      rfl

theorem after_bind_eq_ok : (x >>= f).after s = (.ok b, s') ↔
    ∃ a s₁, x.after s = (.ok a, s₁) ∧ (f a).after s₁ = (.ok b, s') := by
  rw [after_bind]
  cases x.after s with
  | mk result s₁ =>
    cases result with
    | ok a =>
      constructor
      · intro h
        exact ⟨a, s₁, rfl, h⟩
      · rintro ⟨a', s₂, ⟨⟩, h⟩
        exact h
    | error e =>
      constructor
      · rintro ⟨⟩
      · rintro ⟨a, s₂, ⟨⟩, h⟩

theorem execute_eq_ok {statement : δ → Except ε (δ × α)} :
    (execute statement : Action ε δ ω α).after s = (.ok a, s') ↔
      ∃ db, statement s.view = .ok (db, a) ∧ s' = { s with transaction := some db } := by
  rw [after, execute]
  cases statement s.view with
  | error e =>
    constructor
    · rintro ⟨⟩
    · rintro ⟨db, ⟨⟩, h⟩
  | ok result =>
    obtain ⟨db, a'⟩ := result
    constructor
    · rintro ⟨⟩
      exact ⟨db, rfl, rfl⟩
    · rintro ⟨db', ⟨⟩, rfl⟩
      rfl

/-- A commit that has something to do goes through when every insert does and the database says
so. -/
theorem commit_eq_ok {insert : ω → δ → Except ε δ} {answer : Except ε Unit}
    (h : s.clean = false) : (commit insert answer).after s = (.ok u, s') ↔ ∃ db,
      flush insert s.added s.view = .ok db ∧ answer = .ok () ∧ s' = .idle db := by
  rw [after, commit, h, if_neg Bool.false_ne_true]
  cases flush insert s.added s.view with
  | error e =>
    constructor
    · rintro ⟨⟩
    · rintro ⟨db, ⟨⟩, h⟩
  | ok db =>
    cases answer with
    | error e =>
      constructor
      · rintro ⟨⟩
      · rintro ⟨db', -, ⟨⟩, h⟩
    | ok u' =>
      constructor
      · rintro ⟨⟩
        exact ⟨db, rfl, rfl, rfl⟩
      · rintro ⟨db', ⟨⟩, -, rfl⟩
        rfl

theorem commit_flush_error {insert : ω → δ → Except ε δ} {answer : Except ε Unit}
    (h : s.clean = false) (hflush : flush insert s.added s.view = .error e) :
    (commit insert answer).after s = (.error e, .idle s.committed) := by
  rw [after, commit, h, if_neg Bool.false_ne_true, hflush]
  rfl

/-- The action moves what is committed, and its transaction, only as `R` says. -/
def Advances (R : δ → δ → Prop) (x : Action ε δ ω α) : Prop :=
  ∀ s, R s.committed s.view →
    R s.committed (x.after s).2.committed ∧ R (x.after s).2.committed (x.after s).2.view

variable {R : δ → δ → Prop}

theorem advances_of_same (hrefl : ∀ db, R db db)
    (hcommitted : ∀ s, (x.after s).2.committed = s.committed)
    (hview : ∀ s, (x.after s).2.view = s.view) : Advances R x := by
  intro s hs
  rw [hcommitted, hview]
  exact ⟨hrefl _, hs⟩

theorem advances_pure (hrefl : ∀ db, R db db) (a : α) : Advances R (pure a : Action ε δ ω α) :=
  advances_of_same hrefl (fun _ => rfl) fun _ => rfl

theorem advances_lift (hrefl : ∀ db, R db db) (a : Except ε α) :
    Advances R (lift a : Action ε δ ω α) :=
  advances_of_same hrefl (fun _ => rfl) fun _ => rfl

theorem advances_add (hrefl : ∀ db, R db db) (obj : ω) :
    Advances R (add obj : Action ε δ ω Unit) :=
  advances_of_same hrefl (fun _ => rfl) fun _ => rfl

theorem advances_execute (hrefl : ∀ db, R db db) (htrans : ∀ a b c, R a b → R b c → R a c)
    {statement : δ → Except ε (δ × α)}
    (hstatement : ∀ db db' a, statement db = .ok (db', a) → R db db') :
    Advances R (execute statement : Action ε δ ω α) := by
  intro s hs
  rw [after, execute]
  cases hresult : statement s.view with
  | ok result => exact ⟨hrefl _, htrans _ _ _ hs (hstatement _ _ _ hresult)⟩
  | error e => exact ⟨hrefl _, hs⟩

theorem flush_related (hrefl : ∀ db, R db db) (htrans : ∀ a b c, R a b → R b c → R a c)
    {insert : ω → δ → Except ε δ} (hinsert : ∀ obj db db', insert obj db = .ok db' → R db db')
    (h : flush insert added db = .ok db') : R db db' := by
  induction added generalizing db with
  | nil =>
    cases h
    exact hrefl _
  | cons obj added ih =>
    rw [flush, List.foldlM_cons] at h
    cases hone : insert obj db with
    | error e =>
      rw [hone] at h
      cases h
    | ok db₁ =>
      rw [hone] at h
      exact htrans _ _ _ (hinsert _ _ _ hone) (ih h)

theorem advances_commit (hrefl : ∀ db, R db db) (htrans : ∀ a b c, R a b → R b c → R a c)
    {insert : ω → δ → Except ε δ} (hinsert : ∀ obj db db', insert obj db = .ok db' → R db db')
    (answer : Except ε Unit) : Advances R (commit insert answer) := by
  intro s hs
  rw [after, commit]
  split_ifs with hclean
  · exact ⟨hrefl _, hs⟩
  · cases hflush : flush insert s.added s.view with
    | error e => exact ⟨hrefl _, hrefl _⟩
    | ok db =>
      cases answer with
      | error e => exact ⟨hrefl _, hrefl _⟩
      | ok u => exact ⟨htrans _ _ _ hs (flush_related hrefl htrans hinsert hflush), hrefl _⟩

theorem Advances.bind (htrans : ∀ a b c, R a b → R b c → R a c) (hx : Advances R x)
    (hf : ∀ a, Advances R (f a)) : Advances R (x >>= f) := by
  intro s hs
  have hs₁ := hx s hs
  rw [after_bind]
  cases hresult : x.after s with
  | mk result s₁ =>
    rw [hresult] at hs₁
    cases result with
    | error e => exact hs₁
    | ok a =>
      obtain ⟨hcommitted, hview⟩ := hf a s₁ hs₁.2
      exact ⟨htrans _ _ _ hs₁.1 hcommitted, hview⟩

theorem Advances.withSession (hrefl : ∀ db, R db db) (hx : Advances R x) (db : δ) :
    R db (withSession x db).2 :=
  (hx (.idle db) (hrefl db)).1

end

end Sessions
