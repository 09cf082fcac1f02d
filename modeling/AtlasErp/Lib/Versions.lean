import AtlasErp.Lib.Table

/-! # Versions and a pointer to the present

A table to which the versions of a subject are only added.  A new version takes the place of the one in force, which is
kept without its mark.

- `supersede`, `supersedeEach`: the writes; `current?`: the version of a subject in force;
- `OneCurrent`: no subject has two versions in force;
- `current?_supersede`, `current?_supersedeEach`: the version in force after a write, for every subject;
- `Follows`: rows are never lost, and a mark that is gone does not come back;
- `currents_perm`, `sum_currents`: the versions in force, subject by subject. -/

namespace Lib

open HasKey (key)

/-- Rows that are versions of a subject. -/
class Versioned (α : Type*) extends HasKey α where
  subject : α → Nat
  isCurrent : α → Bool
  /-- The row without its mark. -/
  retire : α → α
  key_retire (r : α) : key (retire r) = key r
  subject_retire (r : α) : subject (retire r) = subject r
  isCurrent_retire (r : α) : isCurrent (retire r) = false

namespace Table

open Versioned

variable {α : Type*} [Versioned α]

/-- The version of a subject in force. -/
def current? (t : Table α) (s : Nat) : Option α := t.findBy fun r => subject r = s && isCurrent r

/-- A version of a subject takes the place of the one in force. -/
def supersede (t : Table α) (s : Nat) (mk : Nat → α) : Table α :=
  (t.updateWhere (fun r => subject r = s && isCurrent r) retire).create mk

/-- The versions in force. -/
def currents (t : Table α) : List α := t.rowsWhere isCurrent

/-- No subject has two versions in force. -/
def OneCurrent (t : Table α) : Prop :=
  ∀ a ∈ t, ∀ b ∈ t, isCurrent a = true → isCurrent b = true → subject a = subject b → a = b

/-- A row that is built under a key is a version in force of a subject. -/
structure IsVersion (s : Nat) (mk : Nat → α) : Prop where
  key : ∀ k, HasKey.key (mk k) = k
  subject : ∀ k, Versioned.subject (mk k) = s
  current : ∀ k, Versioned.isCurrent (mk k) = true

section Supersede

variable {t t' : Table α} {s s' : Nat} {mk : Nat → α} {r x : α}

theorem oneCurrent_empty : (empty : Table α).OneCurrent := fun a ha => absurd ha (not_mem_empty a)

theorem current?_eq_some (h : t.OneCurrent) : t.current? s = some r ↔ r ∈ t ∧ subject r = s ∧ isCurrent r = true := by
  constructor
  · intro hfind
    obtain ⟨hr, hp⟩ := findBy_eq_some hfind
    exact ⟨hr, by simpa using hp⟩
  · rintro ⟨hr, rfl, hcurrent⟩
    refine findBy_unique hr (by simp [hcurrent]) fun x hx hp => ?_
    obtain ⟨hsubject, hx'⟩ : subject x = subject r ∧ isCurrent x = true := by simpa using hp
    rw [h x hx r hr hx' hcurrent hsubject]

theorem current?_eq_none : t.current? s = none ↔ ∀ r ∈ t, subject r = s → isCurrent r = false := by
  refine findBy_eq_none.trans (forall₂_congr fun r _ => ?_)
  simp

/-- The rows after a version took the place of another. -/
theorem mem_supersede (hmk : IsVersion s mk) : ∃ k, mk k ∈ t.supersede s mk ∧
    ∀ x, x ∈ t.supersede s mk ↔ (x ∈ t ∧ ¬(subject x = s ∧ isCurrent x = true)) ∨
      (∃ y ∈ t, subject y = s ∧ isCurrent y = true ∧ x = retire y) ∨ x = mk k := by
  refine ⟨_, (mem_create hmk.key).mpr (.inr rfl), fun x => ?_⟩
  rw [supersede, mem_create hmk.key, mem_updateWhere Versioned.key_retire]
  constructor
  · rintro (⟨y, hy, rfl⟩ | rfl)
    · by_cases hp : subject y = s ∧ isCurrent y = true
      · exact .inr (.inl ⟨y, hy, hp.1, hp.2, if_pos (by simp [hp])⟩)
      · rw [if_neg (by simpa using hp)]
        exact .inl ⟨hy, hp⟩
    · exact .inr (.inr rfl)
  · rintro (⟨hx, hp⟩ | ⟨y, hy, hs, hcurrent, rfl⟩ | rfl)
    · exact .inl ⟨x, hx, if_neg (by simpa using hp)⟩
    · exact .inl ⟨y, hy, if_pos (by simp [hs, hcurrent])⟩
    · exact .inr rfl

/-- The versions in force after a version took the place of another. -/
theorem mem_supersede_current (hmk : IsVersion s mk) : ∃ k, mk k ∈ t.supersede s mk ∧
    ∀ x ∈ t.supersede s mk, isCurrent x = true → (x ∈ t ∧ subject x ≠ s) ∨ x = mk k := by
  obtain ⟨k, hk, hmem⟩ := mem_supersede (t := t) hmk
  refine ⟨k, hk, fun x hx hcurrent => ?_⟩
  rcases (hmem x).mp hx with ⟨hx, hp⟩ | ⟨y, -, -, -, rfl⟩ | rfl
  · exact .inl ⟨hx, fun hs => hp ⟨hs, hcurrent⟩⟩
  · rw [isCurrent_retire] at hcurrent
    cases hcurrent
  · exact .inr rfl

/-- **One version in force** stays one. -/
theorem OneCurrent.supersede (h : t.OneCurrent) (hmk : IsVersion s mk) : (t.supersede s mk).OneCurrent := by
  obtain ⟨k, -, hcurrents⟩ := mem_supersede_current (t := t) hmk
  intro a ha b hb hca hcb hsubject
  rcases hcurrents a ha hca with ⟨ha, hne⟩ | rfl <;> rcases hcurrents b hb hcb with ⟨hb, hne'⟩ | rfl
  · exact h a ha b hb hca hcb hsubject
  · exact absurd (hsubject.trans (hmk.subject k)) hne
  · exact absurd (hsubject.symm.trans (hmk.subject k)) hne'
  · rfl

/-- **The version in force** of the subject is the new one, and those of other subjects are what they were. -/
theorem current?_supersede (h : t.OneCurrent) (hmk : IsVersion s mk) :
    (∃ k, (t.supersede s mk).current? s = some (mk k)) ∧
      ∀ s', s' ≠ s → (t.supersede s mk).current? s' = t.current? s' := by
  obtain ⟨k, hk, hmem⟩ := mem_supersede (t := t) hmk
  have hafter := h.supersede hmk
  refine ⟨⟨k, (current?_eq_some hafter).mpr ⟨hk, hmk.subject k, hmk.current k⟩⟩, fun s' hne => ?_⟩
  refine Option.ext fun x => ?_
  rw [current?_eq_some hafter, current?_eq_some h]
  refine ⟨fun ⟨hx, hs, hcurrent⟩ => ⟨?_, hs, hcurrent⟩, fun ⟨hx, hs, hcurrent⟩ =>
    ⟨(hmem x).mpr (.inl ⟨hx, fun hp => hne (hs.symm.trans hp.1)⟩), hs, hcurrent⟩⟩
  rcases (hmem x).mp hx with ⟨hx, -⟩ | ⟨y, -, hy, -, rfl⟩ | rfl
  · exact hx
  · exact absurd (hs.symm.trans ((subject_retire y).trans hy)) hne
  · exact absurd (hs.symm.trans (hmk.subject k)) hne

/-! ## What is kept -/

/-- Every row is still there, perhaps without its mark. -/
def Follows (t t' : Table α) : Prop := ∀ r ∈ t, r ∈ t' ∨ (isCurrent r = true ∧ retire r ∈ t')

theorem Follows.refl (t : Table α) : Follows t t := fun _ hr => .inl hr

/-- A mark that is gone does not come back. -/
theorem Follows.trans {t'' : Table α} (h : Follows t t') (h' : Follows t' t'') : Follows t t'' := by
  intro r hr
  rcases h r hr with hr' | ⟨hcurrent, hr'⟩
  · exact h' r hr'
  · rcases h' _ hr' with hr'' | ⟨hretired, -⟩
    · exact .inr ⟨hcurrent, hr''⟩
    · rw [isCurrent_retire] at hretired
      cases hretired

theorem follows_supersede (hmk : IsVersion s mk) : Follows t (t.supersede s mk) := by
  obtain ⟨k, -, hmem⟩ := mem_supersede (t := t) hmk
  intro r hr
  by_cases hp : subject r = s ∧ isCurrent r = true
  · exact .inr ⟨hp.2, (hmem _).mpr (.inr (.inl ⟨r, hr, hp.1, hp.2, rfl⟩))⟩
  · exact .inl ((hmem r).mpr (.inl ⟨hr, hp⟩))

end Supersede

/-! ## Several subjects -/

section Each

variable {β : Type*} {subj : β → Nat} {mk : β → Option α → Nat → α} {t : Table α} {items : List β} {s : Nat}

/-- A new version for each item, which knows the one that it takes the place of. -/
def supersedeEach (subj : β → Nat) (mk : β → Option α → Nat → α) (t : Table α) (items : List β) : Table α :=
  items.foldl (fun t item => t.supersede (subj item) (mk item (t.current? (subj item)))) t

/-- What a version that takes the place of others keeps of a table, versions that take their places one after the other
keep. -/
theorem supersedeEach_keeps {P : Table α → Prop} (hmk : ∀ item previous, IsVersion (subj item) (mk item previous))
    (hP : ∀ t item previous, item ∈ items → P t → IsVersion (subj item) (mk item previous) →
      P (t.supersede (subj item) (mk item previous))) (h : P t) : P (t.supersedeEach subj mk items) := by
  induction items generalizing t with
  | nil => exact h
  | cons item items ih =>
    refine ih (fun t item previous hitem => hP t item previous (List.mem_cons_of_mem _ hitem)) ?_
    exact hP t item _ List.mem_cons_self h (hmk item _)

theorem OneCurrent.supersedeEach (h : t.OneCurrent) (hmk : ∀ item previous, IsVersion (subj item) (mk item previous)) :
    (t.supersedeEach subj mk items).OneCurrent :=
  supersedeEach_keeps hmk (fun _ _ _ _ h hmk => h.supersede hmk) h

theorem follows_supersedeEach (hmk : ∀ item previous, IsVersion (subj item) (mk item previous)) :
    Follows t (t.supersedeEach subj mk items) :=
  supersedeEach_keeps hmk (fun _ _ _ _ h hmk => h.trans (follows_supersede hmk)) (.refl t)

/-- **The versions in force** after new ones for different subjects. -/
theorem current?_supersedeEach (h : t.OneCurrent) (hmk : ∀ item previous, IsVersion (subj item) (mk item previous))
    (hitems : (items.map subj).Nodup) :
    (∀ item ∈ items, ∃ k, (t.supersedeEach subj mk items).current? (subj item) =
      some (mk item (t.current? (subj item)) k)) ∧
    ∀ s, (∀ item ∈ items, subj item ≠ s) → (t.supersedeEach subj mk items).current? s = t.current? s := by
  induction items generalizing t with
  | nil => exact ⟨fun _ h => absurd h List.not_mem_nil, fun _ _ => rfl⟩
  | cons first items ih =>
    rw [List.map_cons, List.nodup_cons] at hitems
    have hne : ∀ item ∈ items, subj item ≠ subj first := fun item hitem heq => hitems.1 (heq ▸ List.mem_map_of_mem hitem)
    have hfirst := hmk first (t.current? (subj first))
    obtain ⟨⟨k, hk⟩, hother⟩ := current?_supersede h hfirst
    obtain ⟨hnew, hkept⟩ := ih (h.supersede hfirst) hitems.2
    refine ⟨fun item hitem => ?_, fun s hs => ?_⟩
    · rcases List.mem_cons.mp hitem with rfl | hitem
      · exact ⟨k, (hkept _ hne).trans hk⟩
      · obtain ⟨k', hk'⟩ := hnew item hitem
        exact ⟨k', hk'.trans (by rw [hother _ (hne item hitem)])⟩
    · refine (hkept s fun item hitem => hs item (List.mem_cons_of_mem _ hitem)).trans ?_
      exact hother s (hs first List.mem_cons_self).symm

end Each

/-! ## Subject by subject -/

/-- **The versions in force** are those of the subjects, in some order. -/
theorem currents_perm {t : Table α} (h : t.OneCurrent) {subjects : List Nat} (hnodup : subjects.Nodup)
    (hall : ∀ r ∈ t, isCurrent r = true → subject r ∈ subjects) : t.currents.Perm (subjects.filterMap t.current?) := by
  have hleft : t.currents.Nodup := (List.Nodup.of_map key t.nodup).filter _
  have hright : (subjects.filterMap t.current?).Nodup := by
    refine hnodup.filterMap fun s s' r hr hr' => ?_
    exact ((current?_eq_some h).mp hr).2.1.symm.trans ((current?_eq_some h).mp hr').2.1
  refine (List.perm_ext_iff_of_nodup hleft hright).mpr fun r => ?_
  rw [currents, mem_rowsWhere, List.mem_filterMap]
  constructor
  · rintro ⟨hr, hcurrent⟩
    exact ⟨subject r, hall r hr hcurrent, (current?_eq_some h).mpr ⟨hr, rfl, hcurrent⟩⟩
  · rintro ⟨s, -, hs⟩
    obtain ⟨hr, -, hcurrent⟩ := (current?_eq_some h).mp hs
    exact ⟨hr, hcurrent⟩

/-- What the versions in force add up to, subject by subject. -/
theorem sum_currents {M : Type*} [AddCommMonoid M] {t : Table α} (h : t.OneCurrent) {subjects : List Nat}
    (hnodup : subjects.Nodup) (hall : ∀ r ∈ t, isCurrent r = true → subject r ∈ subjects) (g : α → M) :
    (t.currents.map g).sum = (subjects.map fun s => ((t.current? s).map g).getD 0).sum := by
  rw [((currents_perm h hnodup hall).map g).sum_eq]
  clear hnodup hall
  induction subjects with
  | nil => rfl
  | cons s subjects ih =>
    rw [List.map_cons, List.sum_cons, ← ih]
    cases hs : t.current? s with
    | none => rw [List.filterMap_cons_none hs, Option.map_none, Option.getD_none, zero_add]
    | some r => rw [List.filterMap_cons_some hs, List.map_cons, List.sum_cons, Option.map_some, Option.getD_some]

end Table

end Lib
