import Mathlib

/-! # The newest of many

A place that keeps what has the greatest stamp of what it was offered: the first of them, when several have it.

- `IsNewest`, `IsNewest.offer`, `IsNewest.foldl`: the place after what was offered so far, in any order and with
  repetitions;
- `isNewest_head?`, `isNewest_find?`: the first of a list that goes down;
- `IsNewest.map_eq`: offered the same things, two places agree on what the newest ones agree on. -/

namespace Lib

variable {α β γ : Type*} [LinearOrder β] (stamp : α → β)

/-- A new value is kept if it is newer than the one there. -/
def newest (kept : Option α) (a : α) : Option α :=
  match kept with
  | none => some a
  | some b => if stamp b < stamp a then some a else some b

/-- One of the values, and none has a greater stamp. -/
structure IsNewest (offered : α → Prop) (kept : Option α) : Prop where
  isOffered : ∀ a, kept = some a → offered a
  greatest : ∀ a, offered a → ∃ b, kept = some b ∧ stamp a ≤ stamp b

variable {stamp} {offered offered' : α → Prop} {kept kept' : Option α} {a : α}

theorem isNewest_none : IsNewest stamp (fun _ => False) none := ⟨nofun, nofun⟩

theorem IsNewest.congr (h : IsNewest stamp offered kept) (hsame : ∀ a, offered' a ↔ offered a) :
    IsNewest stamp offered' kept :=
  ⟨fun a ha => (hsame a).mpr (h.isOffered a ha), fun a ha => h.greatest a ((hsame a).mp ha)⟩

/-- The stamp that is kept does not go back. -/
theorem le_newest (hkept : kept = some a) (x : α) : ∃ b, newest stamp kept x = some b ∧ stamp a ≤ stamp b := by
  subst hkept
  by_cases hlt : stamp a < stamp x
  · exact ⟨x, if_pos hlt, hlt.le⟩
  · exact ⟨a, if_neg hlt, le_rfl⟩

/-- **One more value.** -/
theorem IsNewest.offer (h : IsNewest stamp offered kept) (x : α) :
    IsNewest stamp (fun a => a = x ∨ offered a) (newest stamp kept x) := by
  constructor
  · intro a ha
    cases hkept : kept with
    | none =>
      rw [hkept] at ha
      exact .inl (Option.some.inj ha).symm
    | some b =>
      rw [hkept] at ha
      dsimp only [newest] at ha
      split at ha
      · exact .inl (Option.some.inj ha).symm
      · exact .inr (Option.some.inj ha ▸ h.isOffered b hkept)
  · rintro a (rfl | ha)
    · cases hkept : kept with
      | none => exact ⟨a, rfl, le_rfl⟩
      | some b =>
        by_cases hlt : stamp b < stamp a
        · exact ⟨a, if_pos hlt, le_rfl⟩
        · exact ⟨b, if_neg hlt, not_lt.mp hlt⟩
    · obtain ⟨b, hb, hle⟩ := h.greatest a ha
      obtain ⟨c, hc, hbc⟩ := @le_newest _ _ _ stamp _ _ hb x
      exact ⟨c, hc, hle.trans hbc⟩

/-- A list of values, one after another. -/
theorem IsNewest.foldl (h : IsNewest stamp offered kept) (l : List α) :
    IsNewest stamp (fun a => a ∈ l ∨ offered a) (l.foldl (newest stamp) kept) := by
  induction l generalizing offered kept with
  | nil => exact h.congr fun a => by simp
  | cons x l ih =>
    refine (ih (h.offer x)).congr fun a => ?_
    rw [List.mem_cons]
    tauto

/-- The first of a list whose stamps go down. -/
theorem isNewest_head? {l : List α} (hdown : l.Pairwise fun a b => stamp b ≤ stamp a) :
    IsNewest stamp (· ∈ l) l.head? := by
  cases l with
  | nil => exact isNewest_none.congr fun a => iff_of_false List.not_mem_nil id
  | cons b l =>
    refine ⟨fun a ha => Option.some.inj ha ▸ List.mem_cons_self, fun a ha => ⟨b, rfl, ?_⟩⟩
    rcases List.mem_cons.mp ha with rfl | ha
    · exact le_rfl
    · exact (List.pairwise_cons.mp hdown).1 a ha

/-- The first of those wanted, in a list whose stamps go down. -/
theorem isNewest_find? {l : List α} (wanted : α → Bool) (hdown : l.Pairwise fun a b => stamp b ≤ stamp a) :
    IsNewest stamp (fun a => a ∈ l ∧ wanted a = true) (l.find? wanted) := by
  rw [← List.head?_filter]
  exact (isNewest_head? (hdown.filter wanted)).congr fun a => List.mem_filter.symm

/-- A part of what was offered, with its own stamp. -/
theorem IsNewest.map {stamp' : γ → β} {value : α → γ} (h : IsNewest stamp offered kept)
    (hstamp : ∀ a, stamp' (value a) = stamp a) :
    IsNewest stamp' (fun c => ∃ a, offered a ∧ value a = c) (kept.map value) := by
  constructor
  · intro c hc
    obtain ⟨a, ha, rfl⟩ := Option.map_eq_some_iff.mp hc
    exact ⟨a, h.isOffered a ha, rfl⟩
  · rintro c ⟨a, ha, rfl⟩
    obtain ⟨b, hb, hle⟩ := h.greatest a ha
    exact ⟨value b, Option.map_eq_some_iff.mpr ⟨b, hb, rfl⟩, by rwa [hstamp, hstamp]⟩

/-- **Order does not matter** to what all of the newest values agree on. -/
theorem IsNewest.map_eq (h : IsNewest stamp offered kept) (h' : IsNewest stamp offered' kept')
    (hsame : ∀ a, offered' a ↔ offered a) {value : α → γ}
    (hties : ∀ a b, offered a → offered b → (∀ c, offered c → stamp c ≤ stamp a) →
      (∀ c, offered c → stamp c ≤ stamp b) → value a = value b) : kept.map value = kept'.map value := by
  have hnew := h'.congr fun a => (hsame a).symm
  have htop : ∀ {k : Option α} {a : α}, IsNewest stamp offered k → k = some a → ∀ c, offered c → stamp c ≤ stamp a := by
    intro k a hk ha c hc
    obtain ⟨b, hb, hle⟩ := hk.greatest c hc
    rwa [Option.some.inj (ha.symm.trans hb)]
  cases hkept : kept with
  | none =>
    cases hkept' : kept' with
    | none => rfl
    | some b =>
      obtain ⟨a, ha, -⟩ := h.greatest b (hnew.isOffered b hkept')
      rw [hkept] at ha
      cases ha
  | some a =>
    obtain ⟨b, hb, -⟩ := hnew.greatest a (h.isOffered a hkept)
    rw [hb]
    exact congrArg some (hties a b (h.isOffered a hkept) (hnew.isOffered b hb) (htop h hkept) (htop hnew hb))

end Lib
