import AtlasErp.Lib.ReadCommitted

/-! # Workers over a shared store

A worker reads the store, keeps a copy of what it read, talks to something outside and writes later:
nothing is locked meanwhile, except the resources it is said to hold.  It is given by the point it has
reached and, there, by what it does with the next answer.

- `Workers`, `Workers.machine`: any interleaving of them, with crashes and with changes that others make;
- `Workers.exclusive`: no resource is held by two workers;
- `Workers.Promises`, `Workers.keeps`: the store invariant and what each worker relies on, in every run
  whose steps meet a condition.  One such result may be used in the next. -/

namespace Lib

/-- Workers over a store `σ` that begin tasks `T`, get answers `E`, hold resources `K` and run through
points `P`; others change the store by events `A`. -/
structure Workers (σ T E A K P : Type*) where
  /-- A task begins: what it reads first; `none` when there is nothing to do. -/
  start : T → σ → Option P
  holds : P → List K
  /-- The store after the next action, and the next point unless the worker is done. -/
  next : P → E → σ → Option (σ × Option P)
  outside : A → σ → Option σ

/-- What happens next. -/
inductive WorkerAct (T E A : Type*) where
  | start (w : Nat) (task : T)
  | go (w : Nat) (answer : E)
  /-- A worker dies, or an error ends what it does. -/
  | die (w : Nat)
  | outside (event : A)
  deriving DecidableEq

namespace Workers

variable {σ T E A K P : Type*}

section Step

variable [DecidableEq K] (W : Workers σ T E A K P)

/-- No other worker holds what is held at a point. -/
def free (S : Sessions σ P) (w : Nat) (p : P) : Bool :=
  (W.holds p).all fun k => (S.others w).all fun x => k ∉ W.holds x.2

def step (S : Sessions σ P) : WorkerAct T E A → Option (Sessions σ P)
  | .start w task =>
    if (S.find? w).isNone then
      match W.start task S.committed with
      | none => none
      | some p => if W.free S w p then some { S with active := (w, p) :: S.others w } else none
    else none
  | .go w answer =>
    match S.find? w with
    | none => none
    | some p =>
      match W.next p answer S.committed with
      | none => none
      | some (store, none) => some ⟨store, S.others w⟩
      | some (store, some q) => if W.free S w q then some ⟨store, (w, q) :: S.others w⟩ else none
  | .die w => some { S with active := S.others w }
  | .outside event => (W.outside event S.committed).map fun store => { S with committed := store }

/-- Any interleaving, from a store and no worker. -/
def machine (init : σ → Prop) : Machine (Sessions σ P) (WorkerAct T E A) where
  init S := init S.committed ∧ S.active = []
  step := W.step

/-- What one step does. -/
inductive StepCase (S : Sessions σ P) : WorkerAct T E A → Sessions σ P → Prop where
  | started {w task p} (start : W.start task S.committed = some p) (free : W.free S w p = true) :
      StepCase S (.start w task) { S with active := (w, p) :: S.others w }
  | moved {w answer p q store} (found : S.find? w = some p)
      (next : W.next p answer S.committed = some (store, some q)) (free : W.free S w q = true) :
      StepCase S (.go w answer) ⟨store, (w, q) :: S.others w⟩
  | done {w answer p store} (found : S.find? w = some p)
      (next : W.next p answer S.committed = some (store, none)) :
      StepCase S (.go w answer) ⟨store, S.others w⟩
  | died {w} : StepCase S (.die w) { S with active := S.others w }
  | changed {event store} (outside : W.outside event S.committed = some store) :
      StepCase S (.outside event) { S with committed := store }

variable {W}

/-- **All that a step can do.** -/
theorem step_cases {S S' : Sessions σ P} {a : WorkerAct T E A} (h : W.step S a = some S') :
    W.StepCase S a S' := by
  cases a with
  | start w task =>
    simp only [step] at h
    split at h
    · cases hstart : W.start task S.committed with
      | none => simp [hstart] at h
      | some p =>
        rw [hstart] at h
        dsimp only at h
        split at h
        · obtain rfl := Option.some.inj h
          exact .started hstart ‹_›
        · cases h
    · cases h
  | go w answer =>
    simp only [step] at h
    cases hfind : S.find? w with
    | none => simp [hfind] at h
    | some p =>
      rw [hfind] at h
      dsimp only at h
      rcases hnext : W.next p answer S.committed with _ | ⟨store, _ | q⟩
      · simp [hnext] at h
      · rw [hnext] at h
        obtain rfl := Option.some.inj h
        exact .done hfind hnext
      · rw [hnext] at h
        dsimp only at h
        split at h
        · obtain rfl := Option.some.inj h
          exact .moved hfind hnext ‹_›
        · cases h
  | die w =>
    obtain rfl := Option.some.inj h
    exact .died
  | outside event =>
    obtain ⟨store, hstore, rfl⟩ := Option.map_eq_some_iff.mp h
    exact .changed hstore

/-- A worker that goes on does its next action. -/
theorem next_of_step {S S' : Sessions σ P} {w : Nat} {answer : E} {p : P} (h : W.step S (.go w answer) = some S')
    (hfind : S.find? w = some p) : ∃ q, W.next p answer S.committed = some (S'.committed, q) := by
  have hcase : W.StepCase S (.go w answer) S' := step_cases h
  cases hcase with
  | moved hfound hnext _ =>
    obtain rfl := Option.some.inj (hfind.symm.trans hfound)
    exact ⟨_, hnext⟩
  | done hfound hnext =>
    obtain rfl := Option.some.inj (hfind.symm.trans hfound)
    exact ⟨_, hnext⟩

end Step

/-! ## Rules -/

section Rules

variable {W : Workers σ T E A K P}

/-- No resource is held by two workers. -/
def Exclusive (W : Workers σ T E A K P) (S : Sessions σ P) : Prop :=
  ∀ x ∈ S.active, ∀ y ∈ S.active, x.1 ≠ y.1 → ∀ k ∈ W.holds x.2, k ∉ W.holds y.2

theorem Exclusive.others {S : Sessions σ P} (h : W.Exclusive S) (w : Nat) (store : σ) :
    W.Exclusive ⟨store, S.others w⟩ := by
  intro x hx y hy hne
  exact h x (Sessions.mem_others.mp hx).1 y (Sessions.mem_others.mp hy).1 hne

variable [DecidableEq K] {init : σ → Prop} {ok : Sessions σ P → WorkerAct T E A → Prop}

theorem free_spec {S : Sessions σ P} {w : Nat} {p : P} (h : W.free S w p = true) {k : K} (hk : k ∈ W.holds p)
    {x : Nat × P} (hx : x ∈ S.others w) : k ∉ W.holds x.2 :=
  of_decide_eq_true (List.all_eq_true.mp (List.all_eq_true.mp h k hk) x hx)

theorem Exclusive.join {S : Sessions σ P} (h : W.Exclusive S) {w : Nat} {p : P} (hfree : W.free S w p = true)
    (store : σ) : W.Exclusive ⟨store, (w, p) :: S.others w⟩ := by
  intro x hx y hy hne k hk
  rcases List.mem_cons.mp hx with rfl | hx' <;> rcases List.mem_cons.mp hy with rfl | hy'
  · exact absurd rfl hne
  · exact free_spec hfree hk hy'
  · exact fun hk' => free_spec hfree hk' hx' hk
  · exact h.others w store x hx' y hy' hne k hk

theorem Exclusive.step {S S' : Sessions σ P} {a : WorkerAct T E A} (h : W.Exclusive S)
    (hstep : W.step S a = some S') : W.Exclusive S' := by
  cases step_cases hstep with
  | started _ hfree => exact h.join hfree _
  | moved _ _ hfree => exact h.join hfree _
  | done => exact h.others _ _
  | died => exact h.others _ _
  | changed => exact h

/-- **Resources are exclusive** in every reachable state. -/
theorem exclusive {S : Sessions σ P} (h : (W.machine init).Reachable ok S) : W.Exclusive S := by
  refine Machine.invariant (P := W.Exclusive) (fun S hinit x hx => ?_)
    (fun _ _ _ _ hstep hex => hex.step hstep) h
  rw [hinit.2] at hx
  cases hx

/-- The store invariant, and what each worker relies on. -/
structure Keeps (I : σ → Prop) (J : P → σ → Prop) (S : Sessions σ P) : Prop where
  store : I S.committed
  worker : ∀ x ∈ S.active, J x.2 S.committed

theorem Keeps.at {I : σ → Prop} {J : P → σ → Prop} {S : Sessions σ P} (h : Keeps I J S) {w : Nat} {p : P}
    (hfind : S.find? w = some p) : J p S.committed := h.worker _ (S.mem_of_find? hfind)

/-- What workers promise about a store invariant `I` and the facts `J` they rely on at each point, when
each step meets `ok` and `G` is known of every state. -/
structure Promises (W : Workers σ T E A K P) (G : Sessions σ P → Prop) (ok : Sessions σ P → WorkerAct T E A → Prop)
    (I : σ → Prop) (J : P → σ → Prop) : Prop where
  start {S : Sessions σ P} {task : T} {p : P} : G S → Keeps I J S → W.start task S.committed = some p → J p S.committed
  next {S : Sessions σ P} {w : Nat} {answer : E} {p : P} {store : σ} {q : Option P} :
    G S → Keeps I J S → S.find? w = some p → ok S (.go w answer) →
      W.next p answer S.committed = some (store, q) → I store ∧ ∀ p' ∈ q, J p' store
  /-- What the other workers rely on stays. -/
  stable {S : Sessions σ P} {w : Nat} {answer : E} {p : P} {store : σ} {q : Option P} :
    G S → Keeps I J S → S.find? w = some p → ok S (.go w answer) →
      W.next p answer S.committed = some (store, q) → ∀ x ∈ S.others w, J x.2 store
  outside {S : Sessions σ P} {event : A} {store : σ} : G S → Keeps I J S → ok S (.outside event) →
    W.outside event S.committed = some store → Keeps I J { S with committed := store }

/-- A worker goes on only where `okAt` holds of the store: a condition on a step. -/
def GoesWhere (okAt : P → σ → Prop) (S : Sessions σ P) : WorkerAct T E A → Prop
  | .go w _ => ∀ p ∈ S.find? w, okAt p S.committed
  | _ => True

instance {okAt : P → σ → Prop} [∀ p s, Decidable (okAt p s)] (S : Sessions σ P) (a : WorkerAct T E A) :
    Decidable (GoesWhere okAt S a) :=
  match a with
  | .go _ _ => inferInstanceAs (Decidable (∀ p ∈ _, _))
  | .start .. | .die _ | .outside _ => .isTrue trivial

variable {G : Sessions σ P → Prop}

theorem Promises.step {I : σ → Prop} {J : P → σ → Prop} (h : W.Promises G ok I J) {S S' : Sessions σ P}
    {a : WorkerAct T E A} (hG : G S) (hok : ok S a) (hstep : W.step S a = some S')
    (hS : Keeps I J S) : Keeps I J S' := by
  have hothers : ∀ w, ∀ x ∈ S.others w, J x.2 S.committed := fun w x hx =>
    hS.worker x (Sessions.mem_others.mp hx).1
  cases step_cases hstep with
  | @started w task p hstart _ =>
    refine ⟨hS.store, fun x hx => ?_⟩
    rcases List.mem_cons.mp hx with rfl | hx
    · exact h.start (S := S) hG hS hstart
    · exact hothers w x hx
  | @moved w answer p q store hfind hnext _ =>
    obtain ⟨hstore, hq⟩ := h.next hG hS hfind hok hnext
    refine ⟨hstore, fun x hx => ?_⟩
    rcases List.mem_cons.mp hx with rfl | hx
    · exact hq _ rfl
    · exact h.stable hG hS hfind hok hnext x hx
  | @done w answer p store hfind hnext =>
    exact ⟨(h.next hG hS hfind hok hnext).1, h.stable hG hS hfind hok hnext⟩
  | died => exact ⟨hS.store, hothers _⟩
  | changed hchange => exact h.outside hG hS hok hchange

/-- **Rule of promises.** The store invariant holds in every reachable state, and so does what each worker
relies on. -/
theorem keeps {I : σ → Prop} {J : P → σ → Prop} (h : W.Promises G ok I J) (hinit : ∀ s, init s → I s)
    (hG : ∀ S, (W.machine init).Reachable ok S → G S) {S : Sessions σ P}
    (hS : (W.machine init).Reachable ok S) : Keeps I J S := by
  have hboth : (W.machine init).Reachable ok S ∧ Keeps I J S := by
    refine Machine.invariant (P := fun S => (W.machine init).Reachable ok S ∧ Keeps I J S) (fun S hS => ?_)
      (fun S _ _ hok hstep hS => ⟨hS.1.step hok hstep, h.step (hG S hS.1) hok hstep hS.2⟩) hS
    refine ⟨.of_init hS, hinit _ hS.1, fun x hx => ?_⟩
    rw [hS.2] at hx
    cases hx
  exact hboth.2

end Rules

end Workers

end Lib
