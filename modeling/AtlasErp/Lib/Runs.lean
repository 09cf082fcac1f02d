import Mathlib.Data.List.Basic

/-! # Labelled machines and their runs

A `Machine` is a partial, executable step function together with its initial states.  A run may be
restricted by a condition `ok` on the state before a step and on the label of the step: this is how
"in every run whose steps all meet the condition" is said.

- `Machine.Run.preserves`: what one step preserves, a run preserves;
- `Machine.invariant`: what holds initially and is preserved holds in every reachable state;
- `Machine.observed`: a machine beside which a history is written;
- `Machine.run_of_exec`: an executed schedule is a run, so a concrete schedule can be replayed by
  `decide`. -/

namespace Lib

/-- A labelled transition system whose step can be computed; `none` is "not enabled". -/
structure Machine (σ α : Type*) where
  /-- The states a run may start from. -/
  init : σ → Prop
  /-- One step under a label. -/
  step : σ → α → Option σ

namespace Machine

section Runs

variable {σ α : Type*} (M : Machine σ α) (ok : σ → α → Prop)

/-- `M.Run ok s as s'`: from `s`, the labels `as` lead to `s'` and each step meets `ok`. -/
inductive Run : σ → List α → σ → Prop where
  | nil (s : σ) : Run s [] s
  | cons {s s' s'' : σ} {a : α} {as : List α} :
      ok s a → M.step s a = some s' → Run s' as s'' → Run s (a :: as) s''

/-- The states reached from an initial one by a run whose steps all meet `ok`. -/
def Reachable (s : σ) : Prop := ∃ s₀ as, M.init s₀ ∧ M.Run ok s₀ as s

variable {M ok}

theorem Run.snoc {s s' s'' : σ} {as : List α} {a : α} (h : M.Run ok s as s') (hok : ok s' a)
    (hstep : M.step s' a = some s'') : M.Run ok s (as ++ [a]) s'' := by
  induction h with
  | nil s => exact .cons hok hstep (.nil _)
  | cons hok' hstep' _ ih => exact .cons hok' hstep' (ih hok hstep)

theorem Run.append {s s' s'' : σ} {as bs : List α} (h : M.Run ok s as s')
    (h' : M.Run ok s' bs s'') : M.Run ok s (as ++ bs) s'' := by
  induction h with
  | nil s => exact h'
  | cons hok hstep _ ih => exact .cons hok hstep (ih h')

theorem Run.mono {ok' : σ → α → Prop} (himp : ∀ s a, ok s a → ok' s a) {s s' : σ} {as : List α}
    (h : M.Run ok s as s') : M.Run ok' s as s' := by
  induction h with
  | nil s => exact .nil s
  | cons hok hstep _ ih => exact .cons (himp _ _ hok) hstep ih

/-- **Run rule.** What every step preserves, a run preserves. -/
theorem Run.preserves {P : σ → Prop}
    (hP : ∀ s a s', ok s a → M.step s a = some s' → P s → P s')
    {s s' : σ} {as : List α} (h : M.Run ok s as s') : P s → P s' := by
  induction h with
  | nil s => exact id
  | cons hok hstep _ ih => exact fun hs => ih (hP _ _ _ hok hstep hs)

/-- A relation that is reflexive, transitive and holds across each step holds across a run. -/
theorem Run.relates {R : σ → σ → Prop} {P : σ → Prop} (hrefl : ∀ s, R s s)
    (htrans : ∀ {a b c}, R a b → R b c → R a c)
    (hP : ∀ s a s', ok s a → M.step s a = some s' → P s → P s')
    (hR : ∀ s a s', ok s a → M.step s a = some s' → P s → R s s')
    {s s' : σ} {as : List α} (h : M.Run ok s as s') : P s → R s s' := by
  induction h with
  | nil s => exact fun _ => hrefl s
  | cons hok hstep _ ih =>
    exact fun hs => htrans (hR _ _ _ hok hstep hs) (ih (hP _ _ _ hok hstep hs))

theorem Reachable.of_init {s : σ} (h : M.init s) : M.Reachable ok s := ⟨s, [], h, .nil s⟩

theorem Reachable.mono {ok' : σ → α → Prop} (himp : ∀ s a, ok s a → ok' s a) {s : σ} (h : M.Reachable ok s) :
    M.Reachable ok' s := by
  obtain ⟨s₀, as, h₀, hrun⟩ := h
  exact ⟨s₀, as, h₀, hrun.mono himp⟩

theorem Reachable.step {s s' : σ} {a : α} (h : M.Reachable ok s) (hok : ok s a)
    (hstep : M.step s a = some s') : M.Reachable ok s' := by
  obtain ⟨s₀, as, h₀, hrun⟩ := h
  exact ⟨s₀, as ++ [a], h₀, hrun.snoc hok hstep⟩

theorem Reachable.run {s s' : σ} {as : List α} (h : M.Reachable ok s) (hrun : M.Run ok s as s') :
    M.Reachable ok s' := by
  obtain ⟨s₀, bs, h₀, hrun₀⟩ := h
  exact ⟨s₀, bs ++ as, h₀, hrun₀.append hrun⟩

/-- **Invariant rule.** What holds initially and is preserved by every step holds of every
reachable state. -/
theorem invariant {P : σ → Prop} (hinit : ∀ s, M.init s → P s)
    (hP : ∀ s a s', ok s a → M.step s a = some s' → P s → P s')
    {s : σ} (h : M.Reachable ok s) : P s := by
  obtain ⟨s₀, as, h₀, hrun⟩ := h
  exact hrun.preserves hP (hinit s₀ h₀)

end Runs

section Observed

variable {σ α η : Type*} (M : Machine σ α) (begins : σ → η → Prop) (note : σ → η → α → η)

/-- The machine with a history beside its state: each step notes what it finds, and the history decides nothing. -/
def observed : Machine (σ × η) α where
  init s := M.init s.1 ∧ begins s.1 s.2
  step s a := (M.step s.1 a).map fun s' => (s', note s.1 s.2 a)

variable {M begins note}

theorem observed_step {s s' : σ × η} {a : α} :
    (M.observed begins note).step s a = some s' ↔ M.step s.1 a = some s'.1 ∧ s'.2 = note s.1 s.2 a := by
  refine Option.map_eq_some_iff.trans ⟨?_, fun h => ⟨s'.1, h.1, Prod.ext rfl h.2.symm⟩⟩
  rintro ⟨_, hstep, rfl⟩
  exact ⟨hstep, rfl⟩

/-- What is observed is a run of the machine. -/
theorem Reachable.of_observed {ok : σ × η → α → Prop} {s : σ × η} (h : (M.observed begins note).Reachable ok s) :
    M.Reachable (fun _ _ => True) s.1 :=
  invariant (M := M.observed begins note) (P := fun s => M.Reachable (fun _ _ => True) s.1)
    (fun _ hinit => .of_init hinit.1)
    (fun _ _ _ _ hstep hreach => hreach.step trivial (observed_step.mp hstep).1) h

/-- Every run of the machine can be observed. -/
theorem Run.observed {ok : σ → α → Prop} {s s' : σ} {as : List α} (h : M.Run ok s as s') (history : η) :
    ∃ history', (M.observed begins note).Run (fun s a => ok s.1 a) (s, history) as (s', history') := by
  induction h generalizing history with
  | nil s => exact ⟨history, .nil _⟩
  | cons hok hstep _ ih =>
    obtain ⟨history', hrun⟩ := ih (note _ history _)
    exact ⟨history', .cons hok (observed_step.mpr ⟨hstep, rfl⟩) hrun⟩

end Observed

section Exec

variable {σ α : Type*} (M : Machine σ α)

/-- Run a schedule; `none` when some label is not enabled. -/
def exec : σ → List α → Option σ
  | s, [] => some s
  | s, a :: as =>
    match M.step s a with
    | none => none
    | some s' => exec s' as

/-- An executed schedule is a run. -/
theorem run_of_exec {s s' : σ} {as : List α} (h : M.exec s as = some s') :
    M.Run (fun _ _ => True) s as s' := by
  induction as generalizing s with
  | nil =>
    obtain rfl : s = s' := Option.some.inj h
    exact .nil _
  | cons a as ih =>
    cases hstep : M.step s a with
    | none => simp [exec, hstep] at h
    | some t => exact .cons trivial hstep (ih (by simpa [exec, hstep] using h))

theorem reachable_of_exec {s s' : σ} {as : List α} (hinit : M.init s)
    (h : M.exec s as = some s') : M.Reachable (fun _ _ => True) s' :=
  ⟨s, as, hinit, M.run_of_exec h⟩

/-- The state after a schedule, or the initial one when some label is not enabled. -/
def after (s : σ) (as : List α) : σ := (M.exec s as).getD s

/-- A schedule that is enabled to its end is a run. -/
theorem run_after {s : σ} {as : List α} (h : (M.exec s as).isSome = true) :
    M.Run (fun _ _ => True) s as (M.after s as) := by
  obtain ⟨s', hs'⟩ := Option.isSome_iff_exists.mp h
  rw [after, hs', Option.getD_some]
  exact M.run_of_exec hs'

theorem reachable_after {s : σ} (hinit : M.init s) (as : List α) :
    M.Reachable (fun _ _ => True) (M.after s as) := by
  unfold after
  cases h : M.exec s as with
  | none => exact .of_init hinit
  | some s' => exact M.reachable_of_exec hinit h

variable (ok : σ → α → Prop) [∀ s a, Decidable (ok s a)]

/-- Run a schedule as long as its steps meet a condition. -/
def execIf : σ → List α → Option σ
  | s, [] => some s
  | s, a :: as =>
    if ok s a then
      match M.step s a with
      | none => none
      | some s' => execIf s' as
    else none

/-- A schedule executed under a condition is a run under it. -/
theorem run_of_execIf {s s' : σ} {as : List α} (h : M.execIf ok s as = some s') : M.Run ok s as s' := by
  induction as generalizing s with
  | nil =>
    obtain rfl : s = s' := Option.some.inj h
    exact .nil _
  | cons a as ih =>
    by_cases hok : ok s a
    · cases hstep : M.step s a with
      | none => simp [execIf, hok, hstep] at h
      | some t => exact .cons hok hstep (ih (by simpa [execIf, hok, hstep] using h))
    · simp [execIf, hok] at h

/-- The state after a schedule that meets a condition, or the initial one. -/
def afterIf (s : σ) (as : List α) : σ := (M.execIf ok s as).getD s

/-- A schedule that meets the condition and is enabled to its end is a run under it. -/
theorem run_afterIf {s : σ} {as : List α} (h : (M.execIf ok s as).isSome = true) :
    M.Run ok s as (M.afterIf ok s as) := by
  obtain ⟨s', hs'⟩ := Option.isSome_iff_exists.mp h
  rw [afterIf, hs', Option.getD_some]
  exact M.run_of_execIf ok hs'

theorem reachable_afterIf {s : σ} (hinit : M.init s) (as : List α) : M.Reachable ok (M.afterIf ok s as) := by
  unfold afterIf
  cases h : M.execIf ok s as with
  | none => exact .of_init hinit
  | some s' => exact ⟨s, as, hinit, M.run_of_execIf ok h⟩

end Exec

end Machine

end Lib
