import AtlasErp.Lib.Runs

/-! # Transactions under READ COMMITTED

A statement reads what is committed together with what its own transaction wrote.  A row that is
locked or written, and a key of a unique index that is inserted, stay locked until the transaction
ends.  A transaction is given by the point it has reached: the locks it holds there, what it wrote so
far and where its next statement leads.

- `Program`: such transactions; `Program.machine`: any interleaving of them, with failures;
- `Program.exclusive`: no lock is held by two transactions;
- `Program.serves`, `Program.serves_if`: what a transaction relies on under its locks still holds when it
  commits, in every run and in the runs whose steps meet a condition. -/

namespace Lib

/-- Where the next statement of a transaction leads. -/
inductive Next (P : Type*) where
  | goto (point : P)
  | commit
  | rollback
  deriving DecidableEq

/-- Transactions over a store `σ`, asked for by requests `R`, that lock resources `K` and run through
points `P`.  Locks are held until the end. -/
structure Program (σ R K P : Type*) where
  /-- The point at which a request begins. -/
  start : R → P
  /-- The locks held at a point. -/
  locks : P → List K
  /-- What the transaction wrote so far, on top of what is committed. -/
  writes : P → σ → σ
  /-- The next statement, on what the transaction sees. -/
  next : P → σ → Next P
  locks_start (r : R) : locks (start r) = []
  locks_next {p p' : P} {s : σ} : next p s = .goto p' → ∀ k ∈ locks p, k ∈ locks p'

/-- What is committed, and the transactions in progress. -/
structure Sessions (σ P : Type*) where
  committed : σ
  active : List (Nat × P)

/-- What happens next: a transaction begins, proceeds by one statement, or fails. -/
inductive Act (R : Type*) where
  | start (t : Nat) (request : R)
  | advance (t : Nat)
  | fail (t : Nat)
  deriving DecidableEq

namespace Sessions

variable {σ P : Type*}

/-- The point a transaction has reached. -/
def find? (S : Sessions σ P) (t : Nat) : Option P := (S.active.find? (·.1 = t)).map (·.2)

/-- The transactions in progress but one. -/
def others (S : Sessions σ P) (t : Nat) : List (Nat × P) := S.active.filter (·.1 ≠ t)

theorem mem_others {S : Sessions σ P} {t : Nat} {x : Nat × P} :
    x ∈ S.others t ↔ x ∈ S.active ∧ x.1 ≠ t := by
  simp [others]

theorem mem_of_find? {S : Sessions σ P} {t : Nat} {p : P} (h : S.find? t = some p) :
    (t, p) ∈ S.active := by
  obtain ⟨⟨t', p'⟩, hfind, rfl⟩ := Option.map_eq_some_iff.mp h
  obtain rfl : t' = t := by simpa using List.find?_some hfind
  exact List.mem_of_find?_eq_some hfind

end Sessions

namespace Program

variable {σ R K P : Type*}

section Step

variable [DecidableEq K] (prog : Program σ R K P)

/-- A lock is free for a transaction when no other one holds it. -/
def free (S : Sessions σ P) (t : Nat) (k : K) : Bool := (S.others t).all fun x => k ∉ prog.locks x.2

/-- What a transaction sees: what is committed, and what it wrote. -/
def view (S : Sessions σ P) (p : P) : σ := prog.writes p S.committed

/-- One step.  A statement that needs a lock another transaction holds has to wait. -/
def step (S : Sessions σ P) : Act R → Option (Sessions σ P)
  | .start t request =>
    if (S.find? t).isNone then some { S with active := (t, prog.start request) :: S.others t }
    else none
  | .advance t =>
    (S.find? t).bind fun p =>
      match prog.next p (prog.view S p) with
      | .goto p' =>
        if (prog.locks p').all (prog.free S t) then some { S with active := (t, p') :: S.others t }
        else none
      | .commit => some ⟨prog.view S p, S.others t⟩
      | .rollback => some { S with active := S.others t }
  | .fail t => some { S with active := S.others t }

/-- Any interleaving, from a committed store and no transaction in progress. -/
def machine (init : σ → Prop) : Machine (Sessions σ P) (Act R) where
  init S := init S.committed ∧ S.active = []
  step := prog.step

/-- What one step does. -/
inductive StepCase (S : Sessions σ P) : Act R → Sessions σ P → Prop where
  | started {t request} :
      StepCase S (.start t request) { S with active := (t, prog.start request) :: S.others t }
  | moved {t p p'} (found : S.find? t = some p) (next : prog.next p (prog.view S p) = .goto p')
      (free : ∀ k ∈ prog.locks p', ∀ x ∈ S.others t, k ∉ prog.locks x.2) :
      StepCase S (.advance t) { S with active := (t, p') :: S.others t }
  | committed {t p} (found : S.find? t = some p) (next : prog.next p (prog.view S p) = .commit) :
      StepCase S (.advance t) ⟨prog.view S p, S.others t⟩
  | rolledBack {t p} (found : S.find? t = some p) (next : prog.next p (prog.view S p) = .rollback) :
      StepCase S (.advance t) { S with active := S.others t }
  | failed {t} : StepCase S (.fail t) { S with active := S.others t }

variable {prog}

/-- **All that a step can do.** -/
theorem step_cases {S S' : Sessions σ P} {a : Act R} (h : prog.step S a = some S') :
    prog.StepCase S a S' := by
  cases a with
  | start t request =>
    simp only [step] at h
    split at h
    · obtain rfl := Option.some.inj h
      exact .started
    · cases h
  | advance t =>
    obtain ⟨p, hfind, h⟩ := Option.bind_eq_some_iff.mp h
    cases hnext : prog.next p (prog.view S p) with
    | goto p' =>
      rw [hnext] at h
      dsimp only at h
      split at h
      · rename_i hfree
        obtain rfl := Option.some.inj h
        refine .moved hfind hnext fun k hk x hx => ?_
        have hall := List.all_eq_true.mp (List.all_eq_true.mp hfree k hk) x hx
        exact of_decide_eq_true hall
      · cases h
    | commit =>
      rw [hnext] at h
      obtain rfl := Option.some.inj h
      exact .committed hfind hnext
    | rollback =>
      rw [hnext] at h
      obtain rfl := Option.some.inj h
      exact .rolledBack hfind hnext
  | fail t =>
    obtain rfl := Option.some.inj h
    exact .failed

/-- A statement of a transaction changes nothing that is committed, unless it commits. -/
theorem committed_advance {S S' : Sessions σ P} {t : Nat} {p : P} (hfind : S.find? t = some p)
    (h : prog.step S (.advance t) = some S') :
    S'.committed = S.committed ∨
      prog.next p (prog.view S p) = .commit ∧ S'.committed = prog.view S p := by
  obtain ⟨q, hq, h⟩ := Option.bind_eq_some_iff.mp h
  obtain rfl : p = q := Option.some.inj (hfind.symm.trans hq)
  cases hnext : prog.next p (prog.view S p) with
  | goto p' =>
    rw [hnext] at h
    dsimp only at h
    split at h
    · obtain rfl := Option.some.inj h
      exact .inl rfl
    · cases h
  | commit =>
    rw [hnext] at h
    obtain rfl := Option.some.inj h
    exact .inr ⟨rfl, rfl⟩
  | rollback =>
    rw [hnext] at h
    obtain rfl := Option.some.inj h
    exact .inl rfl

end Step

/-! ## A transaction alone -/

/-- From one point to another, on a store that nobody else writes. -/
inductive Alone (prog : Program σ R K P) (s : σ) : P → P → Prop where
  | refl (p : P) : Alone prog s p p
  | step {p p' p'' : P} (next : prog.next p (prog.writes p s) = .goto p') (rest : Alone prog s p' p'') :
      Alone prog s p p''

theorem Alone.trans {prog : Program σ R K P} {s : σ} {p p' p'' : P} (h : prog.Alone s p p')
    (h' : prog.Alone s p' p'') : prog.Alone s p p'' := by
  induction h with
  | refl => exact h'
  | step hnext _ ih => exact .step hnext (ih h')

/-- Alone, no statement has to wait. -/
theorem Alone.run [DecidableEq K] {prog : Program σ R K P} {init : σ → Prop} {s : σ} {p p' : P} (t : Nat)
    (h : prog.Alone s p p') :
    ∃ as, (prog.machine init).Run (fun _ _ => True) ⟨s, [(t, p)]⟩ as ⟨s, [(t, p')]⟩ := by
  induction h with
  | refl p => exact ⟨[], .nil _⟩
  | @step p p' p'' hnext _ ih =>
    obtain ⟨as, hrun⟩ := ih
    refine ⟨.advance t :: as, .cons trivial ?_ hrun⟩
    simp [machine, Program.step, Sessions.find?, view, hnext, free, Sessions.others]

/-- A transaction that runs alone to its commit. -/
theorem Alone.run_commit [DecidableEq K] {prog : Program σ R K P} {init : σ → Prop} {s : σ} {request : R}
    {p : P} (h : prog.Alone s (prog.start request) p) (hcommit : prog.next p (prog.writes p s) = .commit) :
    ∃ as, (prog.machine init).Run (fun _ _ => True) ⟨s, []⟩ as ⟨prog.writes p s, []⟩ := by
  obtain ⟨as, hrun⟩ := @Alone.run σ R K P _ prog init s _ p 0 h
  refine ⟨.start 0 request :: (as ++ [.advance 0]), .cons trivial rfl (hrun.snoc trivial ?_)⟩
  simp [machine, Program.step, Sessions.find?, view, hcommit, Sessions.others]

/-! ## What locks give -/

section Rules

variable {prog : Program σ R K P}

/-- No lock is held by two transactions. -/
def Exclusive (prog : Program σ R K P) (S : Sessions σ P) : Prop :=
  ∀ x ∈ S.active, ∀ y ∈ S.active, x.1 ≠ y.1 → ∀ k ∈ prog.locks x.2, k ∉ prog.locks y.2

theorem Exclusive.others {S : Sessions σ P} (h : prog.Exclusive S) (t : Nat) (committed : σ) :
    prog.Exclusive ⟨committed, S.others t⟩ := by
  intro x hx y hy hne
  exact h x (Sessions.mem_others.mp hx).1 y (Sessions.mem_others.mp hy).1 hne

/-- A transaction that joins with locks no other one holds keeps the locks exclusive. -/
theorem Exclusive.join {S : Sessions σ P} (h : prog.Exclusive S) {t : Nat} {p : P}
    (hfree : ∀ k ∈ prog.locks p, ∀ x ∈ S.others t, k ∉ prog.locks x.2) :
    prog.Exclusive { S with active := (t, p) :: S.others t } := by
  intro x hx y hy hne k hk
  rcases List.mem_cons.mp hx with rfl | hx' <;> rcases List.mem_cons.mp hy with rfl | hy'
  · exact absurd rfl hne
  · exact hfree k hk y hy'
  · exact fun hk' => hfree k hk' x hx' hk
  · exact h.others t S.committed x hx' y hy' hne k hk

variable [DecidableEq K] {init : σ → Prop} {ok : Sessions σ P → Act R → Prop}

theorem Exclusive.step {S S' : Sessions σ P} {a : Act R} (h : prog.Exclusive S)
    (hstep : prog.step S a = some S') : prog.Exclusive S' := by
  cases step_cases hstep with
  | @started t request =>
    refine h.join fun k hk => ?_
    rw [prog.locks_start] at hk
    cases hk
  | moved _ _ hfree => exact h.join hfree
  | committed => exact h.others _ _
  | rolledBack => exact h.others _ _
  | failed => exact h.others _ _

/-- **Locks are exclusive** in every reachable state. -/
theorem exclusive {S : Sessions σ P} (h : (prog.machine init).Reachable ok S) : prog.Exclusive S := by
  refine Machine.invariant (P := prog.Exclusive) (fun S hinit x hx => ?_)
    (fun _ _ _ _ hstep hex => hex.step hstep) h
  rw [hinit.2] at hx
  cases hx

/-- What the locking discipline of a program promises about a store invariant `I` and the facts `J`
that its transactions rely on at each point.  `keeps k s s'` says that a change of the store leaves
what a holder of the lock `k` relies on. -/
structure Disciplined (prog : Program σ R K P) (I : σ → Prop) (J : P → σ → Prop)
    (keeps : K → σ → σ → Prop) : Prop where
  start (r : R) (s : σ) : I s → J (prog.start r) s
  goto {p p' : P} {s : σ} : I s → J p s → prog.next p (prog.writes p s) = .goto p' → J p' s
  commit {p : P} {s : σ} : I s → J p s → prog.next p (prog.writes p s) = .commit → I (prog.writes p s)
  /-- Only what is locked is written. -/
  guarded {p : P} {s : σ} : I s → J p s → prog.next p (prog.writes p s) = .commit →
    ∀ k, k ∉ prog.locks p → keeps k s (prog.writes p s)
  /-- Only what is locked is relied on. -/
  locked {p : P} {s s' : σ} : (∀ k ∈ prog.locks p, keeps k s s') → J p s → J p s'

/-- The store invariant, and what every transaction in progress relies on. -/
def Serves (I : σ → Prop) (J : P → σ → Prop) (S : Sessions σ P) : Prop :=
  I S.committed ∧ ∀ x ∈ S.active, J x.2 S.committed

/-- The same promise, when a transaction proceeds only where `ok` holds of what is committed. -/
structure DisciplinedIf (prog : Program σ R K P) (ok : P → σ → Prop) (I : σ → Prop) (J : P → σ → Prop)
    (keeps : K → σ → σ → Prop) : Prop where
  start (r : R) (s : σ) : I s → J (prog.start r) s
  goto {p p' : P} {s : σ} : I s → J p s → ok p s → prog.next p (prog.writes p s) = .goto p' → J p' s
  commit {p : P} {s : σ} : I s → J p s → ok p s → prog.next p (prog.writes p s) = .commit →
    I (prog.writes p s)
  /-- Only what is locked is written. -/
  guarded {p : P} {s : σ} : I s → J p s → ok p s → prog.next p (prog.writes p s) = .commit →
    ∀ k, k ∉ prog.locks p → keeps k s (prog.writes p s)
  /-- Only what is locked is relied on. -/
  locked {p : P} {s s' : σ} : (∀ k ∈ prog.locks p, keeps k s s') → J p s → J p s'

/-- A transaction proceeds only where `okAt` holds of what is committed: a condition on a step. -/
def Meets (okAt : P → σ → Prop) (S : Sessions σ P) : Act R → Prop
  | .advance t => ∀ p ∈ S.find? t, okAt p S.committed
  | _ => True

instance {okAt : P → σ → Prop} [∀ p s, Decidable (okAt p s)] (S : Sessions σ P) (a : Act R) :
    Decidable (Meets okAt S a) :=
  match a with
  | .advance _ => inferInstanceAs (Decidable (∀ p ∈ _, _))
  | .start .. | .fail _ => .isTrue trivial

theorem DisciplinedIf.step {okAt : P → σ → Prop} {I : σ → Prop} {J : P → σ → Prop} {keeps : K → σ → σ → Prop}
    (h : prog.DisciplinedIf okAt I J keeps) {S S' : Sessions σ P} {a : Act R} (hex : prog.Exclusive S)
    (hok : Meets okAt S a) (hstep : prog.step S a = some S') (hS : Serves I J S) : Serves I J S' := by
  obtain ⟨hI, hJ⟩ := hS
  have hothers : ∀ t, ∀ x ∈ S.others t, J x.2 S.committed := fun t x hx =>
    hJ x (Sessions.mem_others.mp hx).1
  cases step_cases hstep with
  | @started t request =>
    refine ⟨hI, fun x hx => ?_⟩
    rcases List.mem_cons.mp hx with rfl | hx
    · exact h.start request _ hI
    · exact hothers t x hx
  | @moved t p p' hfind hnext _ =>
    refine ⟨hI, fun x hx => ?_⟩
    rcases List.mem_cons.mp hx with rfl | hx
    · exact h.goto hI (hJ _ (S.mem_of_find? hfind)) (hok p hfind) hnext
    · exact hothers t x hx
  | @committed t p hfind hnext =>
    have hmem := S.mem_of_find? hfind
    have hp := hJ _ hmem
    refine ⟨h.commit hI hp (hok p hfind) hnext, fun x hx => ?_⟩
    obtain ⟨hx, hne⟩ := Sessions.mem_others.mp hx
    -- what another transaction relies on is under its own locks, which this one does not hold
    refine h.locked (fun k hk => h.guarded hI hp (hok p hfind) hnext k ?_) (hJ x hx)
    exact hex x hx (t, p) hmem hne k hk
  | rolledBack => exact ⟨hI, hothers _⟩
  | failed => exact ⟨hI, hothers _⟩

/-- **Rule of locks.** Under a locking discipline the store invariant holds in every reachable state,
and so does what each transaction in progress relies on. -/
theorem serves_if {okAt : P → σ → Prop} {I : σ → Prop} {J : P → σ → Prop} {keeps : K → σ → σ → Prop}
    (h : prog.DisciplinedIf okAt I J keeps) (hinit : ∀ s, init s → I s) {S : Sessions σ P}
    (hS : (prog.machine init).Reachable (Meets okAt) S) : Serves I J S := by
  have hboth : prog.Exclusive S ∧ Serves I J S := by
    have hfirst : ∀ S, (prog.machine init).init S → prog.Exclusive S ∧ Serves I J S := by
      intro S hS
      have hstart : (prog.machine init).Reachable (fun _ _ => True) S := .of_init hS
      refine ⟨exclusive hstart, hinit _ hS.1, fun x hx => ?_⟩
      rw [hS.2] at hx
      cases hx
    exact Machine.invariant hfirst
      (fun _ _ _ hok hstep hS => ⟨hS.1.step hstep, h.step hS.1 hok hstep hS.2⟩) hS
  exact hboth.2

/-! Without a condition. -/

omit [DecidableEq K] in
theorem Disciplined.toIf {I : σ → Prop} {J : P → σ → Prop} {keeps : K → σ → σ → Prop}
    (h : prog.Disciplined I J keeps) : prog.DisciplinedIf (fun _ _ => True) I J keeps where
  start := h.start
  goto hI hJ _ := h.goto hI hJ
  commit hI hJ _ := h.commit hI hJ
  guarded hI hJ _ := h.guarded hI hJ
  locked := h.locked

theorem meets_true (S : Sessions σ P) (a : Act R) : Meets (fun _ _ => True) S a := by
  cases a <;> simp [Meets]

theorem Disciplined.step {I : σ → Prop} {J : P → σ → Prop} {keeps : K → σ → σ → Prop}
    (h : prog.Disciplined I J keeps) {S S' : Sessions σ P} {a : Act R} (hex : prog.Exclusive S)
    (hstep : prog.step S a = some S') (hS : Serves I J S) : Serves I J S' :=
  h.toIf.step hex (meets_true S a) hstep hS

theorem serves {I : σ → Prop} {J : P → σ → Prop} {keeps : K → σ → σ → Prop}
    (h : prog.Disciplined I J keeps) (hinit : ∀ s, init s → I s) {S : Sessions σ P}
    (hS : (prog.machine init).Reachable ok S) : Serves I J S := by
  obtain ⟨s₀, as, hinit₀, hrun⟩ := hS
  exact serves_if h.toIf hinit ⟨s₀, as, hinit₀, hrun.mono fun S a _ => meets_true S a⟩

end Rules

end Program

end Lib
