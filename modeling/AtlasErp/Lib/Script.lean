import AtlasErp.Lib.ReadCommitted

/-! # Transactions that keep a journal

A transaction of a `Script` is at a stage, holds locks and has a journal of what it wrote.  A statement
takes more locks, writes more entries and leads to another stage, so locks are held and writes are kept
by construction.

- `Script.program`: a script as a `Program`;
- `Script.Fits`: each entry of a journal meets its precondition where it is applied;
- `Script.Fits.replay`: a journal that fits keeps an invariant. -/

namespace Lib

universe u

/-- What a statement leads to. -/
inductive Move (K W T E : Type*) where
  | on (locks : List K) (writes : List W) (stage : T)
  | commit
  | rollback (error : E)
  deriving DecidableEq

/-- Transactions over a store `σ`, asked for by requests `R`, with locks `K`, journal entries `W`, stages
`T` and errors `E`. -/
structure Script (σ R K W T E : Type*) where
  start : R → T
  /-- The effect of a journal entry. -/
  apply : W → σ → σ
  /-- The statement of a stage, on what the transaction sees. -/
  move : T → σ → Move K W T E

namespace Script

variable {σ R K W T E : Type*} (S : Script σ R K W T E)

/-- How far a transaction got. -/
structure Point (K W T : Type*) where
  held : List K
  journal : List W
  stage : T
  deriving DecidableEq

/-- The effect of a journal. -/
def replay (journal : List W) (s : σ) : σ := journal.foldl (fun s w => S.apply w s) s

@[simp] theorem replay_nil (s : σ) : S.replay [] s = s := rfl

@[simp] theorem replay_cons (w : W) (ws : List W) (s : σ) :
    S.replay (w :: ws) s = S.replay ws (S.apply w s) := rfl

theorem replay_append (ws ws' : List W) (s : σ) : S.replay (ws ++ ws') s = S.replay ws' (S.replay ws s) :=
  List.foldl_append

/-- The point after a move. -/
def follow (p : Point K W T) : Move K W T E → Next (Point K W T)
  | .on locks writes stage => .goto ⟨locks ++ p.held, p.journal ++ writes, stage⟩
  | .commit => .commit
  | .rollback _ => .rollback

theorem follow_eq_goto {p p' : Point K W T} {m : Move K W T E} (h : follow p m = .goto p') :
    ∃ locks writes, m = .on locks writes p'.stage ∧ p'.held = locks ++ p.held ∧
      p'.journal = p.journal ++ writes := by
  cases m with
  | on locks writes stage =>
    obtain rfl := Next.goto.inj h
    exact ⟨locks, writes, rfl, rfl, rfl⟩
  | commit => cases h
  | rollback => cases h

theorem follow_eq_commit {p : Point K W T} {m : Move K W T E} : follow p m = .commit ↔ m = .commit := by
  cases m <;> simp [follow]

/-- A script as transactions under READ COMMITTED. -/
def program : Program σ R K (Point K W T) where
  start r := ⟨[], [], S.start r⟩
  locks p := p.held
  writes p s := S.replay p.journal s
  next p s := follow p (S.move p.stage s)
  locks_start _ := rfl
  locks_next h k hk := by
    obtain ⟨locks, writes, -, hheld, -⟩ := follow_eq_goto h
    rw [hheld]
    exact List.mem_append_right _ hk

/-! ## Journals that fit -/

section Fits

variable (fits : W → σ → Prop)

/-- Each entry meets its precondition where it is applied. -/
def Fits : List W → σ → Prop
  | [], _ => True
  | w :: ws, s => fits w s ∧ Fits ws (S.apply w s)

variable {S fits}

theorem fits_append {ws ws' : List W} {s : σ} :
    S.Fits fits (ws ++ ws') s ↔ S.Fits fits ws s ∧ S.Fits fits ws' (S.replay ws s) := by
  induction ws generalizing s with
  | nil => simp [Fits]
  | cons w ws ih => simp [Fits, ih, and_assoc]

/-- **Journal rule.** What each entry that fits preserves, a journal that fits preserves. -/
theorem Fits.replay {I : σ → Prop} (happly : ∀ w s, fits w s → I s → I (S.apply w s)) {ws : List W} {s : σ}
    (h : S.Fits fits ws s) (hI : I s) : I (S.replay ws s) := by
  induction ws generalizing s with
  | nil => exact hI
  | cons w ws ih => exact ih h.2 (happly w s h.1 hI)

/-- A journal fits when an invariant of its entries gives each its precondition. -/
theorem fits_of_invariant {I : σ → Prop} {ws : List W} (happly : ∀ w ∈ ws, ∀ s, I s → I (S.apply w s))
    (hfits : ∀ w ∈ ws, ∀ s, I s → fits w s) {s : σ} (hI : I s) : S.Fits fits ws s := by
  induction ws generalizing s with
  | nil => trivial
  | cons w ws ih =>
    refine ⟨hfits w List.mem_cons_self s hI, ?_⟩
    exact ih (fun w' hw' => happly w' (List.mem_cons_of_mem w hw'))
      (fun w' hw' => hfits w' (List.mem_cons_of_mem w hw')) (happly w List.mem_cons_self s hI)

/-- A journal relates stores that its entries relate. -/
theorem replay_relates {r : σ → σ → Prop} (happly : ∀ w s s', r s s' → r (S.apply w s) (S.apply w s'))
    {ws : List W} {s s' : σ} (h : r s s') : r (S.replay ws s) (S.replay ws s') := by
  induction ws generalizing s s' with
  | nil => exact h
  | cons w ws ih => exact ih (happly w s s' h)

/-- A journal fits wherever its preconditions follow. -/
theorem Fits.transfer {r : σ → σ → Prop} {fits' : W → σ → Prop}
    (happly : ∀ w s s', r s s' → r (S.apply w s) (S.apply w s')) {ws : List W}
    (hfits : ∀ w ∈ ws, ∀ s s', r s s' → fits w s → fits' w s') {s s' : σ} (hr : r s s')
    (h : S.Fits fits ws s) : S.Fits fits' ws s' := by
  induction ws generalizing s s' with
  | nil => trivial
  | cons w ws ih =>
    refine ⟨hfits w List.mem_cons_self s s' hr h.1, ?_⟩
    exact ih (fun w' hw' => hfits w' (List.mem_cons_of_mem w hw')) (happly w s s' hr) h.2

theorem Fits.mono {fits' : W → σ → Prop} {ws : List W} (hfits : ∀ w ∈ ws, ∀ s, fits w s → fits' w s) {s : σ}
    (h : S.Fits fits ws s) : S.Fits fits' ws s :=
  h.transfer (r := Eq) (fun w _ _ heq => congrArg (S.apply w) heq)
    (fun w hw t _ heq hfit => heq ▸ hfits w hw t hfit) rfl

/-- What each entry of a journal preserves, the journal preserves. -/
theorem replay_preserves {I : σ → Prop} {ws : List W} (happly : ∀ w ∈ ws, ∀ s, I s → I (S.apply w s)) {s : σ}
    (hI : I s) : I (S.replay ws s) := by
  induction ws generalizing s with
  | nil => exact hI
  | cons w ws ih =>
    exact ih (fun w' hw' => happly w' (List.mem_cons_of_mem _ hw')) (happly w List.mem_cons_self s hI)

end Fits

end Script

end Lib
