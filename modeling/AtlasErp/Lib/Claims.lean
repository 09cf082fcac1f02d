import AtlasErp.Lib.Workers

/-! # Workers that claim

A worker claims an item by a conditional write: the item was not taken before, and it is afterwards.  Nothing is
locked; that no two workers have claimed one item follows from what the writes say.

- `Workers.Claims`: what the writes do to what is taken;
- `Workers.owned`: in every reachable state what a worker owns is taken, and no other worker owns it. -/

namespace Lib

namespace Workers

variable {σ T E A K P C : Type*}

/-- What a worker owns at a point is `owns`; that an item is taken is read off the store. -/
structure Claims (W : Workers σ T E A K P) (owns : P → List C) (taken : C → σ → Prop) : Prop where
  start {task : T} {s : σ} {p : P} : W.start task s = some p → owns p = []
  /-- What a worker owns afterwards, it owned and keeps taken, or it has just taken. -/
  claim {p q : P} {answer : E} {s s' : σ} : W.next p answer s = some (s', some q) →
    ∀ c ∈ owns q, c ∈ owns p ∧ (taken c s → taken c s') ∨ ¬ taken c s ∧ taken c s'
  /-- What a worker does not own stays taken. -/
  keep {p : P} {q : Option P} {answer : E} {s s' : σ} : W.next p answer s = some (s', q) →
    ∀ c, c ∉ owns p → taken c s → taken c s'
  outside {event : A} {s s' : σ} : W.outside event s = some s' → ∀ c, taken c s → taken c s'

/-- What is owned is taken, and it is owned once. -/
structure Owned (owns : P → List C) (taken : C → σ → Prop) (S : Sessions σ P) : Prop where
  taken : ∀ x ∈ S.active, ∀ c ∈ owns x.2, taken c S.committed
  once : ∀ x ∈ S.active, ∀ y ∈ S.active, x.1 ≠ y.1 → ∀ c ∈ owns x.2, c ∉ owns y.2

section

variable {owns : P → List C} {taken : C → σ → Prop} {S : Sessions σ P}

theorem Owned.at (h : Owned owns taken S) {w : Nat} {p : P} (hfind : S.find? w = some p) {c : C} (hc : c ∈ owns p) :
    taken c S.committed := h.taken _ (S.mem_of_find? hfind) c hc

/-- What a worker owns, the others do not. -/
theorem Owned.others (h : Owned owns taken S) {w : Nat} {p : P} (hfind : S.find? w = some p) {c : C}
    (hc : c ∈ owns p) {x : Nat × P} (hx : x ∈ S.others w) : c ∉ owns x.2 := by
  obtain ⟨hx, hne⟩ := Sessions.mem_others.mp hx
  exact h.once _ (S.mem_of_find? hfind) x hx (Ne.symm hne) c hc

/-- Some workers end, and what those that remain own is taken in the new store. -/
theorem Owned.remain (h : Owned owns taken S) (w : Nat) {store : σ}
    (htaken : ∀ x ∈ S.others w, ∀ c ∈ owns x.2, taken c store) : Owned owns taken ⟨store, S.others w⟩ where
  taken := htaken
  once x hx y hy hne := h.once x (Sessions.mem_others.mp hx).1 y (Sessions.mem_others.mp hy).1 hne

/-- A worker goes on at a point where it owns nothing that the others own. -/
theorem Owned.join {w : Nat} {store : σ} (h : Owned owns taken ⟨store, S.others w⟩) {q : P}
    (hq : ∀ c ∈ owns q, taken c store ∧ ∀ x ∈ S.others w, c ∉ owns x.2) :
    Owned owns taken ⟨store, (w, q) :: S.others w⟩ := by
  refine ⟨fun x hx c hc => ?_, fun x hx y hy hne c hc => ?_⟩
  · rcases List.mem_cons.mp hx with rfl | hx
    · exact (hq c hc).1
    · exact h.taken x hx c hc
  · rcases List.mem_cons.mp hx with rfl | hx <;> rcases List.mem_cons.mp hy with rfl | hy
    · exact absurd rfl hne
    · exact (hq c hc).2 y hy
    · exact fun hc' => (hq c hc').2 x hx hc
    · exact h.once x hx y hy hne c hc

variable {W : Workers σ T E A K P} [DecidableEq K]

theorem Claims.step (h : W.Claims owns taken) {S' : Sessions σ P} {a : WorkerAct T E A}
    (hstep : W.step S a = some S') (hS : Owned owns taken S) : Owned owns taken S' := by
  have hothers : ∀ w, ∀ x ∈ S.others w, ∀ c ∈ owns x.2, taken c S.committed := fun w x hx =>
    hS.taken x (Sessions.mem_others.mp hx).1
  cases step_cases hstep with
  | started hstart _ =>
    refine (hS.remain _ (hothers _)).join fun c hc => ?_
    rw [h.start hstart] at hc
    cases hc
  | @moved w answer p q store hfind hnext _ =>
    have hkeep : ∀ x ∈ S.others w, ∀ c ∈ owns x.2, taken c store := fun x hx c hc =>
      h.keep hnext c (fun hp => hS.others hfind hp hx hc) (hothers w x hx c hc)
    refine (hS.remain w hkeep).join fun c hc => ?_
    rcases h.claim hnext c hc with ⟨howned, htaken⟩ | ⟨hfree, htaken⟩
    · exact ⟨htaken (hS.at hfind howned), fun x hx => hS.others hfind howned hx⟩
    · exact ⟨htaken, fun x hx hx' => hfree (hothers w x hx c hx')⟩
  | @done w answer p store hfind hnext =>
    exact hS.remain w fun x hx c hc =>
      h.keep hnext c (fun hp => hS.others hfind hp hx hc) (hothers w x hx c hc)
  | died => exact hS.remain _ (hothers _)
  | changed hchange => exact ⟨fun x hx c hc => h.outside hchange c (hS.taken x hx c hc), hS.once⟩

/-- **Rule of claims.** What a worker owns is taken, and no other worker owns it. -/
theorem owned (h : W.Claims owns taken) {init : σ → Prop} {ok : Sessions σ P → WorkerAct T E A → Prop}
    (hS : (W.machine init).Reachable ok S) : Owned owns taken S := by
  refine Machine.invariant (P := Owned owns taken) (fun S hinit => ?_) (fun _ _ _ _ hstep hown => h.step hstep hown) hS
  refine ⟨fun x hx => ?_, fun x hx => ?_⟩ <;>
  · rw [hinit.2] at hx
    cases hx

end

end Workers

end Lib
