import Mathlib.Algebra.Order.BigOperators.Group.List
import Mathlib.Data.List.Nodup
import Mathlib.Tactic.Linarith
import Mathlib.Tactic.Ring

/-! # Keyed tables

A table of rows with a primary key.  The structure carries the uniqueness of the key, so a table
with two rows of one key cannot be built.

- `find?`, `findBy`, `rowsWhere`: the reads;
- `put`, `updateWhere`, `create`: the writes, which keep the key unique;
- `Indexed`: a unique index over the rows, with one rule for each write;
- `total`: the sum of a weight over the rows, with one rule for each write
  (`total_put`, `total_create`, `total_updateWhere`). -/

namespace Lib

/-- Rows with a primary key. -/
class HasKey (α : Type*) where
  /-- The primary key of a row. -/
  key : α → Nat
  /-- The row under another key. -/
  withKey : Nat → α → α
  key_withKey (k : Nat) (r : α) : key (withKey k r) = k
  withKey_key (r : α) : withKey (key r) r = r

open HasKey (key withKey)

/-- A table: a list of rows, no two of which have the same key. -/
structure Table (α : Type*) [HasKey α] where
  rows : List α
  nodup : (rows.map key).Nodup

namespace Table

variable {α : Type*} [HasKey α]

instance : Membership α (Table α) := ⟨fun t r => r ∈ t.rows⟩

instance [DecidableEq α] : DecidableEq (Table α) := fun t u =>
  decidable_of_iff (t.rows = u.rows) ⟨fun h => by cases t; cases u; simp_all, fun h => by rw [h]⟩

instance (t : Table α) (P : α → Prop) [DecidablePred P] : Decidable (∀ r ∈ t, P r) :=
  inferInstanceAs (Decidable (∀ r ∈ t.rows, P r))

instance (t : Table α) (P : α → Prop) [DecidablePred P] : Decidable (∃ r ∈ t, P r) :=
  inferInstanceAs (Decidable (∃ r ∈ t.rows, P r))

theorem mem_rows {t : Table α} {r : α} : r ∈ t.rows ↔ r ∈ t := Iff.rfl

theorem eq_of_key_eq {t : Table α} {a b : α} (ha : a ∈ t) (hb : b ∈ t) (h : key a = key b) : a = b :=
  List.inj_on_of_nodup_map t.nodup ha hb h

/-- The table without rows. -/
def empty : Table α := ⟨[], List.nodup_nil⟩

@[simp] theorem not_mem_empty (r : α) : r ∉ (empty : Table α) := List.not_mem_nil

/-! ## Reads -/

/-- The row with a key. -/
def find? (t : Table α) (k : Nat) : Option α := t.rows.find? (fun r => key r = k)

/-- The first row that meets a condition. -/
def findBy (t : Table α) (p : α → Bool) : Option α := t.rows.find? p

/-- The rows that meet a condition, in insertion order. -/
def rowsWhere (t : Table α) (p : α → Bool) : List α := t.rows.filter p

theorem find?_eq_some {t : Table α} {k : Nat} {r : α} : t.find? k = some r ↔ r ∈ t ∧ key r = k := by
  constructor
  · intro h
    exact ⟨List.mem_of_find?_eq_some h, by simpa using List.find?_some h⟩
  · rintro ⟨hr, rfl⟩
    cases h : t.find? (key r) with
    | none => exact absurd (List.find?_eq_none.mp h r hr) (by simp)
    | some x =>
      have hx : x ∈ t ∧ key x = key r :=
        ⟨List.mem_of_find?_eq_some h, by simpa using List.find?_some h⟩
      rw [eq_of_key_eq hx.1 hr hx.2]

theorem find?_eq_none {t : Table α} {k : Nat} : t.find? k = none ↔ ∀ r ∈ t, key r ≠ k := by
  simp only [find?, List.find?_eq_none, decide_eq_true_eq]
  rfl

theorem find?_key {t : Table α} {r : α} (h : r ∈ t) : t.find? (key r) = some r :=
  find?_eq_some.mpr ⟨h, rfl⟩

theorem findBy_eq_some {t : Table α} {p : α → Bool} {r : α} (h : t.findBy p = some r) :
    r ∈ t ∧ p r = true :=
  ⟨List.mem_of_find?_eq_some h, List.find?_some h⟩

theorem findBy_eq_none {t : Table α} {p : α → Bool} : t.findBy p = none ↔ ∀ r ∈ t, p r = false := by
  simp only [findBy, List.find?_eq_none, Bool.not_eq_true]
  rfl

theorem findBy_isSome {t : Table α} {p : α → Bool} :
    (t.findBy p).isSome = true ↔ ∃ r ∈ t, p r = true := by
  cases h : t.findBy p with
  | none =>
    have hnone := findBy_eq_none.mp h
    simp only [Option.isSome_none, Bool.false_eq_true, false_iff, not_exists, not_and]
    intro r hr
    simp [hnone r hr]
  | some r => simpa using ⟨r, findBy_eq_some h⟩

/-- A condition that only the key of one row meets finds that row. -/
theorem findBy_unique {t : Table α} {p : α → Bool} {r : α} (hr : r ∈ t) (hp : p r = true)
    (h : ∀ x ∈ t, p x = true → key x = key r) : t.findBy p = some r := by
  cases hfind : t.findBy p with
  | none => simp [findBy_eq_none.mp hfind r hr] at hp
  | some x =>
    obtain ⟨hx, hpx⟩ := findBy_eq_some hfind
    rw [eq_of_key_eq hx hr (h x hx hpx)]

theorem mem_rowsWhere {t : Table α} {p : α → Bool} {r : α} :
    r ∈ t.rowsWhere p ↔ r ∈ t ∧ p r = true := List.mem_filter

/-- A condition that only one key meets selects one row at most. -/
theorem length_rowsWhere_le_one {t : Table α} {p : α → Bool}
    (h : ∀ a ∈ t, ∀ b ∈ t, p a = true → p b = true → key a = key b) : (t.rowsWhere p).length ≤ 1 := by
  have hnodup : (t.rowsWhere p).Nodup := (List.Nodup.of_map key t.nodup).filter _
  rcases hrows : t.rowsWhere p with _ | ⟨a, _ | ⟨b, l⟩⟩
  · exact Nat.zero_le 1
  · exact le_rfl
  · obtain ⟨ha, hpa⟩ := mem_rowsWhere.mp (hrows ▸ List.mem_cons_self : a ∈ t.rowsWhere p)
    obtain ⟨hb, hpb⟩ := mem_rowsWhere.mp (hrows ▸ List.mem_cons_of_mem a List.mem_cons_self : b ∈ t.rowsWhere p)
    rw [hrows, eq_of_key_eq ha hb (h a ha b hb hpa hpb)] at hnodup
    exact absurd List.mem_cons_self (List.nodup_cons.mp hnodup).1

/-! ## Writes -/

/-- A key that no row has: one past the largest. -/
def nextKey (t : Table α) : Nat := (t.rows.map key).foldr max 0 + 1

theorem le_foldr_max (l : List Nat) (n : Nat) (h : n ∈ l) : n ≤ l.foldr max 0 := by
  induction l with
  | nil => cases h
  | cons m l ih =>
    rcases List.mem_cons.mp h with rfl | h
    · exact Nat.le_max_left _ _
    · exact le_trans (ih h) (Nat.le_max_right _ _)

theorem foldr_max_le {l : List Nat} {b : Nat} (h : ∀ n ∈ l, n ≤ b) : l.foldr max 0 ≤ b := by
  induction l with
  | nil => exact Nat.zero_le b
  | cons n l ih =>
    exact max_le (h n List.mem_cons_self) (ih fun m hm => h m (List.mem_cons_of_mem _ hm))

theorem key_lt_nextKey {t : Table α} {r : α} (h : r ∈ t) : key r < t.nextKey :=
  Nat.lt_succ_of_le (le_foldr_max _ _ (List.mem_map_of_mem h))

/-- Insert the row built for a fresh key. -/
def create (t : Table α) (mk : Nat → α) : Table α where
  rows := t.rows ++ [withKey t.nextKey (mk t.nextKey)]
  nodup := by
    rw [List.map_append, List.map_singleton, HasKey.key_withKey]
    refine List.Nodup.append t.nodup (List.nodup_singleton _) ?_
    intro k hk hk'
    obtain ⟨r, hr, rfl⟩ := List.mem_map.mp hk
    exact absurd (List.mem_singleton.mp hk') (Nat.ne_of_lt (key_lt_nextKey hr))

/-- Insert rows that come with their keys; `none` when a key would be there twice. -/
def append? (t : Table α) (rows : List α) : Option (Table α) :=
  if h : ((t.rows ++ rows).map key).Nodup then some ⟨t.rows ++ rows, h⟩ else none

theorem mem_append? {t t' : Table α} {rows : List α} (h : t.append? rows = some t') {x : α} :
    x ∈ t' ↔ x ∈ t ∨ x ∈ rows := by
  unfold append? at h
  split at h
  · obtain rfl := Option.some.inj h
    exact List.mem_append
  · cases h

/-- A row that is inserted was not there. -/
theorem not_mem_of_append? {t t' : Table α} {rows : List α} (h : t.append? rows = some t') {x : α} (hx : x ∈ rows) :
    x ∉ t := by
  unfold append? at h
  split at h
  · next hnodup =>
    rw [List.map_append] at hnodup
    exact fun hmem => List.disjoint_of_nodup_append hnodup (List.mem_map_of_mem hmem) (List.mem_map_of_mem hx)
  · cases h

/-- Replace the row that has the key of `r`. -/
def put (t : Table α) (r : α) : Table α where
  rows := t.rows.map (fun x => if key x = key r then r else x)
  nodup := by
    have hkeys : (t.rows.map (fun x => if key x = key r then r else x)).map key = t.rows.map key := by
      rw [List.map_map]
      refine List.map_congr_left fun x _ => ?_
      by_cases h : key x = key r <;> simp [h]
    rw [hkeys]
    exact t.nodup

/-- Rewrite the rows that meet a condition; the keys stay. -/
def updateWhere (t : Table α) (p : α → Bool) (f : α → α) : Table α where
  rows := t.rows.map (fun x => if p x then withKey (key x) (f x) else x)
  nodup := by
    have hkeys : (t.rows.map (fun x => if p x then withKey (key x) (f x) else x)).map key =
        t.rows.map key := by
      rw [List.map_map]
      refine List.map_congr_left fun x _ => ?_
      by_cases h : p x <;> simp [h, HasKey.key_withKey]
    rw [hkeys]
    exact t.nodup

section Create

variable {t : Table α} {mk : Nat → α}

theorem rows_create (hmk : ∀ k, key (mk k) = k := by exact fun _ => rfl) :
    (t.create mk).rows = t.rows ++ [mk t.nextKey] := by
  have hrow := HasKey.withKey_key (mk t.nextKey)
  rw [hmk] at hrow
  exact congrArg (t.rows ++ [·]) hrow

theorem mem_create (hmk : ∀ k, key (mk k) = k := by exact fun _ => rfl)
    {x : α} : x ∈ t.create mk ↔ x ∈ t ∨ x = mk t.nextKey := by
  change x ∈ (t.create mk).rows ↔ _
  rw [rows_create hmk, List.mem_append, List.mem_singleton]
  rfl

theorem mem_create_of_mem (hmk : ∀ k, key (mk k) = k := by exact fun _ => rfl)
    {x : α} (h : x ∈ t) : x ∈ t.create mk := (mem_create hmk).mpr (.inl h)

theorem find?_create (hmk : ∀ k, key (mk k) = k := by exact fun _ => rfl) {k : Nat} {r : α} (h : t.find? k = some r) :
    (t.create mk).find? k = some r := by
  obtain ⟨hr, hk⟩ := find?_eq_some.mp h
  exact find?_eq_some.mpr ⟨mem_create_of_mem hmk hr, hk⟩

end Create

/-- What several inserts add. -/
theorem mem_foldl_create {β : Type*} {mk : β → Nat → α} (hmk : ∀ b k, key (mk b k) = k) {l : List β} {x : α}
    {t : Table α} (h : x ∈ l.foldl (fun t b => t.create (mk b)) t) : x ∈ t ∨ ∃ b ∈ l, ∃ k, x = mk b k := by
  induction l generalizing t with
  | nil => exact .inl h
  | cons b l ih =>
    rcases ih h with hx | ⟨b', hb', k, rfl⟩
    · rcases (mem_create (hmk b)).mp hx with hx | rfl
      · exact .inl hx
      · exact .inr ⟨b, List.mem_cons_self, _, rfl⟩
    · exact .inr ⟨b', List.mem_cons_of_mem b hb', k, rfl⟩

/-- The rows that were there stay. -/
theorem mem_foldl_create_of_mem {β : Type*} {mk : β → Nat → α} (hmk : ∀ b k, key (mk b k) = k) {l : List β} {x : α}
    {t : Table α} (h : x ∈ t) : x ∈ l.foldl (fun t b => t.create (mk b)) t := by
  induction l generalizing t with
  | nil => exact h
  | cons b l ih => exact ih ((mem_create (hmk b)).mpr (.inl h))

/-- Each insert is there, under some key. -/
theorem exists_foldl_create {β : Type*} {mk : β → Nat → α} (hmk : ∀ b k, key (mk b k) = k) {l : List β} {b : β}
    (h : b ∈ l) {t : Table α} : ∃ k, mk b k ∈ l.foldl (fun t b => t.create (mk b)) t := by
  induction l generalizing t with
  | nil => cases h
  | cons first l ih =>
    simp only [List.foldl_cons]
    rcases List.mem_cons.mp h with rfl | h
    · have hnew : mk b t.nextKey ∈ t.create (mk b) := (mem_create (hmk b)).mpr (.inr rfl)
      exact ⟨t.nextKey, mem_foldl_create_of_mem hmk hnew⟩
    · exact ih h

/-- The rows of several inserts follow those that were there, one for each. -/
theorem rows_foldl_create {β : Type*} {mk : β → Nat → α} (hmk : ∀ b k, key (mk b k) = k) (l : List β) (t : Table α) :
    ∃ rows, (l.foldl (fun t b => t.create (mk b)) t).rows = t.rows ++ rows ∧
      List.Forall₂ (fun b r => ∃ k, r = mk b k) l rows := by
  induction l generalizing t with
  | nil => exact ⟨[], (List.append_nil _).symm, .nil⟩
  | cons b l ih =>
    obtain ⟨rows, hrows, hall⟩ := ih (t.create (mk b))
    refine ⟨mk b t.nextKey :: rows, ?_, .cons ⟨_, rfl⟩ hall⟩
    rw [List.foldl_cons, hrows, rows_create (hmk b), List.append_assoc, List.singleton_append]

section Put

variable {t : Table α} {old r : α}

/-- The rows after `put`, when the key was there. -/
theorem mem_put (hold : old ∈ t) (hk : key r = key old) {x : α} :
    x ∈ t.put r ↔ x = r ∨ (x ∈ t ∧ key x ≠ key r) := by
  change x ∈ t.rows.map _ ↔ _
  rw [List.mem_map]
  constructor
  · rintro ⟨y, hy, rfl⟩
    by_cases h : key y = key r
    · exact .inl (by simp [h])
    · exact .inr ⟨by simpa [h, mem_rows] using hy, by simp [h]⟩
  · rintro (rfl | ⟨hx, hne⟩)
    · exact ⟨old, hold, by simp [hk]⟩
    · exact ⟨x, hx, by simp [hne]⟩

theorem mem_put_self (hold : old ∈ t) (hk : key r = key old) : r ∈ t.put r :=
  (mem_put hold hk).mpr (.inl rfl)

theorem forall_mem_put {P : α → Prop} (h : ∀ x ∈ t, key x ≠ key r → P x) (hr : P r) :
    ∀ x ∈ t.put r, P x := by
  intro x hx
  obtain ⟨y, hy, rfl⟩ := List.mem_map.mp hx
  by_cases hk : key y = key r
  · simpa [hk] using hr
  · simpa [hk] using h y hy hk

theorem find?_put_self (hold : old ∈ t) (hk : key r = key old) : (t.put r).find? (key r) = some r :=
  find?_key (mem_put_self hold hk)

theorem find?_put_ne {k : Nat} (h : k ≠ key r) : (t.put r).find? k = t.find? k := by
  cases hf : t.find? k with
  | none =>
    refine find?_eq_none.mpr (forall_mem_put ?_ (Ne.symm h))
    exact fun x hx _ => find?_eq_none.mp hf x hx
  | some x =>
    obtain ⟨hx, rfl⟩ := find?_eq_some.mp hf
    refine find?_key (List.mem_map.mpr ⟨x, hx, ?_⟩)
    simp [h]

theorem mem_put_ne {x : α} (h : key x ≠ key r) : x ∈ t.put r ↔ x ∈ t := by
  constructor
  · intro hx
    obtain ⟨y, hy, rfl⟩ := List.mem_map.mp hx
    by_cases hk : key y = key r
    · simp [hk] at h
    · simpa [hk, mem_rows] using hy
  · exact fun hx => List.mem_map.mpr ⟨x, hx, by simp [h]⟩

/-- What a condition selects after a replacement that does not change whether it selects the row. -/
theorem rowsWhere_put {p : α → Bool} (hold : old ∈ t) (hk : key r = key old) (hp : p r = p old) :
    (t.put r).rowsWhere p = (t.rowsWhere p).map fun x => if key x = key r then r else x := by
  refine List.filter_map.trans (congrArg _ (List.filter_congr fun x hx => ?_))
  by_cases hkey : key x = key r
  · obtain rfl : x = old := eq_of_key_eq hx hold (hkey.trans hk)
    simp [hk, hp]
  · simp [hkey]

/-- A replacement leaves what a condition selects alone, when it selects neither the old row nor the new. -/
theorem rowsWhere_put_of_not {p : α → Bool} (hold : old ∈ t) (hk : key r = key old) (hpr : p r = false)
    (hpold : p old = false) : (t.put r).rowsWhere p = t.rowsWhere p := by
  rw [rowsWhere_put hold hk (hpr.trans hpold.symm)]
  refine (List.map_congr_left fun x hx => if_neg fun hkey => ?_).trans (List.map_id _)
  obtain ⟨hmem, hpx⟩ := mem_rowsWhere.mp hx
  rw [eq_of_key_eq hmem hold (hkey.trans hk), hpold] at hpx
  cases hpx

/-- The rows after several of them were replaced, each under its own key. -/
theorem mem_foldl_put {f : α → α} (hf : ∀ r, key (f r) = key r) {l : List α}
    (hl : (l.map key).Nodup) (hmem : ∀ r ∈ l, r ∈ t) {x : α} :
    x ∈ l.foldl (fun t r => t.put (f r)) t ↔ (∃ r ∈ l, x = f r) ∨ (x ∈ t ∧ ∀ r ∈ l, key x ≠ key r) := by
  induction l generalizing t with
  | nil => simp
  | cons r l ih =>
    rw [List.map_cons, List.nodup_cons] at hl
    have hr := hmem r List.mem_cons_self
    have hkey : ∀ y ∈ l, key y ≠ key r := fun y hy heq => hl.1 (heq ▸ List.mem_map_of_mem hy)
    have hrest : ∀ y ∈ l, y ∈ t.put (f r) := fun y hy =>
      (mem_put hr (hf r)).mpr (.inr ⟨hmem y (List.mem_cons_of_mem r hy), hf r ▸ hkey y hy⟩)
    rw [List.foldl_cons, ih hl.2 hrest, mem_put hr (hf r), hf]
    simp only [List.mem_cons, exists_eq_or_imp, forall_eq_or_imp]
    constructor
    · rintro (hin | ⟨rfl | ⟨hx, hne⟩, hall⟩)
      · exact .inl (.inr hin)
      · exact .inl (.inl rfl)
      · exact .inr ⟨hx, hne, hall⟩
    · rintro ((rfl | hin) | ⟨hx, hne, hall⟩)
      · exact .inr ⟨.inl rfl, fun y hy => hf r ▸ (hkey y hy).symm⟩
      · exact .inl hin
      · exact .inr ⟨.inr ⟨hx, hne⟩, hall⟩

/-- Replacing rows that a condition selects neither before nor after. -/
theorem rowsWhere_foldl_put_of_not {f : α → α} (hf : ∀ r, key (f r) = key r) {p : α → Bool} {l : List α}
    (hl : (l.map key).Nodup) (hmem : ∀ r ∈ l, r ∈ t) (hp : ∀ r ∈ l, p r = false ∧ p (f r) = false) :
    (l.foldl (fun t r => t.put (f r)) t).rowsWhere p = t.rowsWhere p := by
  induction l generalizing t with
  | nil => rfl
  | cons r l ih =>
    rw [List.map_cons, List.nodup_cons] at hl
    have hr := hmem r List.mem_cons_self
    have hrest : ∀ y ∈ l, y ∈ t.put (f r) := fun y hy => by
      refine (mem_put hr (hf r)).mpr (.inr ⟨hmem y (List.mem_cons_of_mem r hy), ?_⟩)
      rw [hf]
      exact fun heq => hl.1 (heq ▸ List.mem_map_of_mem hy)
    obtain ⟨hold, hnew⟩ := hp r List.mem_cons_self
    rw [List.foldl_cons, ih hl.2 hrest fun y hy => hp y (List.mem_cons_of_mem r hy)]
    exact rowsWhere_put_of_not hr (hf r) hnew hold

end Put

section UpdateWhere

variable {t : Table α} {p : α → Bool} {f : α → α}

theorem rows_updateWhere (hf : ∀ r, key (f r) = key r := by exact fun _ => rfl) :
    (t.updateWhere p f).rows = t.rows.map (fun x => if p x then f x else x) := by
  refine List.map_congr_left fun x _ => ?_
  rw [← hf x, HasKey.withKey_key]

theorem mem_updateWhere (hf : ∀ r, key (f r) = key r := by exact fun _ => rfl) {x : α} :
    x ∈ t.updateWhere p f ↔ ∃ y ∈ t, (if p y then f y else y) = x := by
  change x ∈ (t.updateWhere p f).rows ↔ _
  rw [rows_updateWhere hf]
  exact List.mem_map

/-- A row is there afterwards, as it was or rewritten. -/
theorem exists_updateWhere (hf : ∀ r, key (f r) = key r := by exact fun _ => rfl)
    {R : α → α → Prop} (hrefl : ∀ r, R r r) (hR : ∀ r, R r (f r)) {r : α} (hr : r ∈ t) :
    ∃ r' ∈ t.updateWhere p f, R r r' := by
  refine ⟨_, (mem_updateWhere hf).mpr ⟨r, hr, rfl⟩, ?_⟩
  split
  · exact hR r
  · exact hrefl r

/-- The rows before and after, in both directions. -/
theorem updateWhere_relates (hf : ∀ r, key (f r) = key r := by exact fun _ => rfl)
    {R : α → α → Prop} (hrefl : ∀ r, R r r) (hR : ∀ r ∈ t, p r = true → R r (f r)) :
    (∀ r ∈ t, ∃ r' ∈ t.updateWhere p f, R r r') ∧ ∀ r' ∈ t.updateWhere p f, ∃ r ∈ t, R r r' := by
  have hrow : ∀ r ∈ t, R r (if p r then f r else r) := by
    intro r hr
    split
    · exact hR r hr ‹_›
    · exact hrefl r
  constructor
  · intro r hr
    exact ⟨_, (mem_updateWhere hf).mpr ⟨r, hr, rfl⟩, hrow r hr⟩
  · intro r' hr'
    obtain ⟨r, hr, rfl⟩ := (mem_updateWhere hf).mp hr'
    exact ⟨r, hr, hrow r hr⟩

/-- A condition that rewriting keeps. -/
theorem forall_updateWhere (hf : ∀ r, key (f r) = key r := by exact fun _ => rfl)
    {P : α → Prop} (h : ∀ r ∈ t, P r) (hP : ∀ r ∈ t, p r = true → P r → P (f r)) :
    ∀ r ∈ t.updateWhere p f, P r := by
  intro r' hr'
  obtain ⟨r, hr, rfl⟩ := (mem_updateWhere hf).mp hr'
  split
  · exact hP r hr ‹_› (h r hr)
  · exact h r hr

/-- Rewriting rows to what they are. -/
theorem updateWhere_eq_self (hf : ∀ r, key (f r) = key r := by exact fun _ => rfl)
    (h : ∀ r ∈ t, p r = true → f r = r) : t.updateWhere p f = t := by
  have hrows : (t.updateWhere p f).rows = t.rows := by
    rw [rows_updateWhere hf]
    refine (List.map_congr_left fun r hr => ?_).trans (List.map_id _)
    by_cases hp : p r = true
    · simp [hp, h r hr hp]
    · simp [hp]
  cases t
  simpa only [updateWhere, mk.injEq] using hrows

/-- Two ways to rewrite the same rows to the same. -/
theorem updateWhere_congr (hf : ∀ r, key (f r) = key r := by exact fun _ => rfl)
    {g : α → α} (hg : ∀ r, key (g r) = key r)
    (h : ∀ r ∈ t, p r = true → f r = g r) : t.updateWhere p f = t.updateWhere p g := by
  have hrows : (t.updateWhere p f).rows = (t.updateWhere p g).rows := by
    rw [rows_updateWhere hf, rows_updateWhere hg]
    refine List.map_congr_left fun r hr => ?_
    by_cases hp : p r = true
    · simp [hp, h r hr hp]
    · simp [hp]
  simpa only [updateWhere, mk.injEq] using hrows

/-- Rewriting the row that was just inserted, and no other. -/
theorem updateWhere_create (hf : ∀ r, key (f r) = key r := by exact fun _ => rfl)
    {row row' : Nat → α} (hk : ∀ k, key (row k) = k) (hk' : ∀ k, key (row' k) = k)
    (hold : ∀ r ∈ t, p r = false) (hnew : p (row t.nextKey) = true) (hrow : f (row t.nextKey) = row' t.nextKey) :
    (t.create row).updateWhere p f = t.create row' := by
  have hrows : ((t.create row).updateWhere p f).rows = (t.create row').rows := by
    have hsame : t.rows.map (fun x => if p x then f x else x) = t.rows :=
      (List.map_congr_left fun r hr => by simp [hold r hr]).trans (List.map_id _)
    rw [rows_updateWhere hf, rows_create hk, rows_create hk', List.map_append, List.map_singleton, hsame, hnew,
      if_pos rfl, hrow]
  simpa only [updateWhere, create, mk.injEq] using hrows

theorem find?_updateWhere (hf : ∀ r, key (f r) = key r := by exact fun _ => rfl)
    {k : Nat} {r : α} (h : t.find? k = some r) :
    (t.updateWhere p f).find? k = some (if p r then f r else r) := by
  obtain ⟨hr, rfl⟩ := find?_eq_some.mp h
  refine find?_eq_some.mpr ⟨(mem_updateWhere hf).mpr ⟨r, hr, rfl⟩, ?_⟩
  split <;> simp [hf]

/-- What is found under a key after an update, whether it was there or not. -/
theorem find?_updateWhere_map (hf : ∀ r, key (f r) = key r := by exact fun _ => rfl) (k : Nat) :
    (t.updateWhere p f).find? k = (t.find? k).map fun r => if p r then f r else r := by
  cases hfind : t.find? k with
  | some r => exact find?_updateWhere hf hfind
  | none =>
    refine find?_eq_none.mpr fun x hx => ?_
    obtain ⟨y, hy, rfl⟩ := (mem_updateWhere hf).mp hx
    have hkey := find?_eq_none.mp hfind y hy
    split
    · rwa [hf]
    · exact hkey

/-- A column of what is found under a key after an update. -/
theorem map_find?_updateWhere (hf : ∀ r, key (f r) = key r := by exact fun _ => rfl)
    {β : Type*} (g : α → β) (k : Nat) :
    ((t.updateWhere p f).find? k).map g = (t.find? k).map fun r => g (if p r then f r else r) := by
  rw [find?_updateWhere_map hf, Option.map_map]
  rfl

end UpdateWhere

/-- A table that kept the rows of another is those rows and its new ones. -/
theorem perm_append_new [DecidableEq α] {t u : Table α} (h : ∀ r ∈ t, r ∈ u) :
    u.rows.Perm (t.rows ++ u.rows.filter (fun r => r ∉ t.rows)) := by
  have hnew : (t.rows ++ u.rows.filter (fun r => r ∉ t.rows)).Nodup := by
    refine List.Nodup.append (List.Nodup.of_map key t.nodup)
      ((List.Nodup.of_map key u.nodup).filter _) fun r hr hr' => ?_
    exact absurd hr (of_decide_eq_true (List.mem_filter.mp hr').2)
  refine (List.perm_ext_iff_of_nodup (List.Nodup.of_map key u.nodup) hnew).mpr fun r => ?_
  rw [List.mem_append, List.mem_filter, decide_eq_true_eq]
  constructor
  · intro hr
    by_cases hold : r ∈ t.rows
    · exact .inl hold
    · exact .inr ⟨hr, hold⟩
  · rintro (hr | ⟨hr, -⟩)
    · exact h r hr
    · exact hr

/-! ## Unique indexes -/

section Indexed

variable {κ : Type*} [DecidableEq κ] {entries : α → List κ} {t : Table α}

/-- No two rows have an entry of a unique index in common. -/
def Indexed (entries : α → List κ) (t : Table α) : Prop :=
  ∀ a ∈ t, ∀ b ∈ t, ∀ k ∈ entries a, k ∈ entries b → a = b

/-- Some row, other than the one of a key, has one of these entries. -/
def conflicts (entries : α → List κ) (t : Table α) (but : Option Nat) (ks : List κ) : Bool :=
  t.rows.any fun r => but ≠ some (key r) ∧ ∃ k ∈ ks, k ∈ entries r

theorem conflicts_eq_false {but : Option Nat} {ks : List κ} :
    t.conflicts entries but ks = false ↔ ∀ r ∈ t, but ≠ some (key r) → ∀ k ∈ ks, k ∉ entries r := by
  simp only [conflicts, List.any_eq_false, decide_eq_true_eq, not_and, not_exists]
  rfl

/-- A new row without an entry of another keeps a unique index. -/
theorem Indexed.create (h : t.Indexed entries) {mk : Nat → α} (hmk : ∀ k, key (mk k) = k)
    (hfree : t.conflicts entries none (entries (mk t.nextKey)) = false) : (t.create mk).Indexed entries := by
  have hnone := conflicts_eq_false.mp hfree
  intro a ha b hb k hka hkb
  rcases (mem_create hmk).mp ha with ha | rfl <;> rcases (mem_create hmk).mp hb with hb | rfl
  · exact h a ha b hb k hka hkb
  · exact absurd hka (hnone a ha nofun k hkb)
  · exact absurd hkb (hnone b hb nofun k hka)
  · rfl

omit [DecidableEq κ] in
/-- A row that is written with entries it had keeps a unique index. -/
theorem Indexed.put (h : t.Indexed entries) {old r : α} (hold : old ∈ t) (hk : key r = key old)
    (hsub : ∀ k ∈ entries r, k ∈ entries old) : (t.put r).Indexed entries := by
  intro a ha b hb k hka hkb
  rcases (mem_put hold hk).mp ha with rfl | ⟨ha', hane⟩ <;> rcases (mem_put hold hk).mp hb with rfl | ⟨hb', hbne⟩
  · rfl
  · exact absurd (congrArg key (h old hold b hb' k (hsub k hka) hkb)) (hk ▸ hbne.symm)
  · exact absurd (congrArg key (h a ha' old hold k hka (hsub k hkb))) (hk ▸ hane)
  · exact h a ha' b hb' k hka hkb

/-- A row that is put without an entry of another keeps a unique index. -/
theorem Indexed.putFree (h : t.Indexed entries) {old r : α} (hold : old ∈ t) (hk : key r = key old)
    (hfree : t.conflicts entries (some (key old)) (entries r) = false) : (t.put r).Indexed entries := by
  have hother : ∀ x ∈ t, key x ≠ key r → ∀ k ∈ entries r, k ∉ entries x := fun x hx hne =>
    conflicts_eq_false.mp hfree x hx fun heq => hne (hk.trans (Option.some.inj heq)).symm
  intro a ha b hb k hka hkb
  rcases (mem_put hold hk).mp ha with rfl | ⟨ha', hane⟩ <;> rcases (mem_put hold hk).mp hb with rfl | ⟨hb', hbne⟩
  · rfl
  · exact absurd hkb (hother b hb' hbne k hka)
  · exact absurd hka (hother a ha' hane k hkb)
  · exact h a ha' b hb' k hka hkb

/-- A row that is written without an entry of another keeps a unique index. -/
theorem Indexed.updateRow (h : t.Indexed entries) {f : α → α} (hf : ∀ r, key (f r) = key r) {r : α} (hr : r ∈ t)
    (hfree : t.conflicts entries (some (key r)) (entries (f r)) = false) :
    (t.updateWhere (key · = key r) f).Indexed entries := by
  have hnone := conflicts_eq_false.mp hfree
  -- every row is the one written, or another one as it was
  have hcases : ∀ x ∈ t.updateWhere (key · = key r) f, x = f r ∨ x ∈ t ∧ key x ≠ key r := by
    intro x hx
    obtain ⟨y, hy, rfl⟩ := (mem_updateWhere hf).mp hx
    by_cases hkey : key y = key r
    · obtain rfl := eq_of_key_eq hy hr hkey
      exact .inl (if_pos (by simp))
    · rw [if_neg (by simpa using hkey)]
      exact .inr ⟨hy, hkey⟩
  have hother : ∀ x ∈ t, key x ≠ key r → ∀ k ∈ entries (f r), k ∉ entries x := fun x hx hne =>
    hnone x hx fun heq => hne (Option.some.inj heq).symm
  intro a ha b hb k hka hkb
  rcases hcases a ha with rfl | ⟨ha, hane⟩ <;> rcases hcases b hb with rfl | ⟨hb, hbne⟩
  · rfl
  · exact absurd hkb (hother b hb hbne k hka)
  · exact absurd hka (hother a ha hane k hkb)
  · exact h a ha b hb k hka hkb

end Indexed

/-! ## Totals -/

section Total

variable {t : Table α}

/-- The sum of a weight over the rows. -/
def total (t : Table α) (w : α → Int) : Int := (t.rows.map w).sum

@[simp] theorem total_empty (w : α → Int) : (empty : Table α).total w = 0 := rfl

theorem total_create {mk : Nat → α} (w : α → Int)
    (hmk : ∀ k, key (mk k) = k := by exact fun _ => rfl) :
    (t.create mk).total w = t.total w + w (mk t.nextKey) := by
  simp [total, rows_create hmk]

private theorem sum_map_replace (l : List α) (w : α → Int) (old r : α) (hk : key r = key old)
    (hold : old ∈ l) (hl : (l.map key).Nodup) :
    ((l.map (fun x => if key x = key r then r else x)).map w).sum = (l.map w).sum - w old + w r := by
  induction l with
  | nil => cases hold
  | cons x l ih =>
    simp only [List.map_cons, List.nodup_cons, List.mem_map, not_exists, not_and] at hl
    rcases List.mem_cons.mp hold with rfl | hold
    · have hrest : l.map (fun x => if key x = key r then r else x) = l := by
        refine (List.map_congr_left fun y hy => ?_).trans (List.map_id _)
        simp [hk, hl.1 y hy]
      simp only [List.map_cons, hrest, List.sum_cons, if_pos hk.symm]
      ring
    · have hx : key x ≠ key r := fun h => hl.1 old hold (by rw [h, hk])
      simp only [List.map_cons, List.sum_cons, ih hold hl.2, hx, if_false]
      ring

/-- Replacing one row moves the total by the difference of the two weights. -/
theorem total_put {old r : α} (hold : old ∈ t) (hk : key r = key old) (w : α → Int) :
    (t.put r).total w = t.total w - w old + w r :=
  sum_map_replace t.rows w old r hk hold t.nodup

theorem total_updateWhere {p : α → Bool} {f : α → α} (w : α → Int)
    (h : ∀ r ∈ t, p r = true → w (f r) = w r)
    (hf : ∀ r, key (f r) = key r := by exact fun _ => rfl) : (t.updateWhere p f).total w = t.total w := by
  rw [total, rows_updateWhere hf, List.map_map]
  refine congrArg List.sum (List.map_congr_left fun x hx => ?_)
  by_cases hp : p x
  · simpa [hp] using h x hx hp
  · simp [hp]

/-- Rewriting one row moves the total by the difference of the two weights. -/
theorem total_updateWhere_row {p : α → Bool} {f : α → α} {r : α} (hr : r ∈ t) (hp : p r = true)
    (hone : ∀ x ∈ t, p x = true → x = r) (w : α → Int)
    (hf : ∀ r, key (f r) = key r := by exact fun _ => rfl) :
    (t.updateWhere p f).total w = t.total w - w r + w (f r) := by
  have hput : (t.updateWhere p f).rows = (t.put (f r)).rows := by
    rw [rows_updateWhere hf]
    refine List.map_congr_left fun x hx => ?_
    by_cases hkey : key x = key (f r)
    · obtain rfl : x = r := eq_of_key_eq hx hr (hkey.trans (hf r))
      simp [hp, hf]
    · have hpx : ¬p x = true := fun hpx => hkey (by rw [hone x hx hpx, hf])
      simp [hpx, hkey]
  rw [total, hput]
  exact total_put hr (hf r) w

theorem le_total {w : α → Int} (hnonneg : ∀ r ∈ t, 0 ≤ w r) {r : α} (hr : r ∈ t) : w r ≤ t.total w := by
  refine List.single_le_sum ?_ _ (List.mem_map_of_mem hr)
  intro x hx
  obtain ⟨y, hy, rfl⟩ := List.mem_map.mp hx
  exact hnonneg y hy

theorem total_congr {w w' : α → Int} (h : ∀ r ∈ t, w r = w' r) : t.total w = t.total w' :=
  congrArg List.sum (List.map_congr_left h)

theorem total_nonneg {w : α → Int} (h : ∀ r ∈ t, 0 ≤ w r) : 0 ≤ t.total w := by
  refine List.sum_nonneg fun x hx => ?_
  obtain ⟨r, hr, rfl⟩ := List.mem_map.mp hx
  exact h r hr

theorem total_eq_zero {w : α → Int} (h : ∀ r ∈ t, w r = 0) : t.total w = 0 := by
  have hzero : t.total w = t.total (fun _ => 0) := total_congr h
  rw [hzero]
  simp [total]

/-- Replacing several rows, each under its own key. -/
theorem total_foldl_put {f : α → α} (hf : ∀ r, key (f r) = key r) (w : α → Int) {l : List α}
    (hl : (l.map key).Nodup) (hmem : ∀ r ∈ l, r ∈ t) :
    (l.foldl (fun t r => t.put (f r)) t).total w =
      t.total w + (l.map fun r => w (f r) - w r).sum := by
  induction l generalizing t with
  | nil => simp
  | cons r l ih =>
    rw [List.map_cons, List.nodup_cons] at hl
    have hr := hmem r List.mem_cons_self
    have hrest : ∀ x ∈ l, x ∈ t.put (f r) := by
      intro x hx
      refine (mem_put hr (hf r)).mpr (.inr ⟨hmem x (List.mem_cons_of_mem r hx), ?_⟩)
      rw [hf]
      exact fun heq => hl.1 (heq ▸ List.mem_map_of_mem hx)
    rw [List.foldl_cons, ih hl.2 hrest, total_put hr (hf r), List.map_cons, List.sum_cons]
    ring

/-- Inserting several rows, each of a weight that does not depend on its key. -/
theorem total_foldl_create {β : Type*} {mk : β → Nat → α} (hmk : ∀ b k, key (mk b k) = k) {w : α → Int}
    {v : β → Int} (hv : ∀ b k, w (mk b k) = v b) (l : List β) :
    (l.foldl (fun t b => t.create (mk b)) t).total w = t.total w + (l.map v).sum := by
  induction l generalizing t with
  | nil => simp
  | cons b l ih =>
    rw [List.foldl_cons, ih, total_create w (hmk b), hv, List.map_cons, List.sum_cons]
    ring

/-- When a single row carries all the weight, the total is its weight. -/
theorem total_eq_of_unique {w : α → Int} {r : α} (hr : r ∈ t) (h : ∀ x ∈ t, x ≠ r → w x = 0) :
    t.total w = w r := by
  obtain ⟨l, l', hl⟩ := List.append_of_mem hr
  have hnd := t.nodup
  rw [hl] at hnd
  have hne : ∀ x ∈ l ++ l', x ≠ r := by
    rintro x hx rfl
    rw [List.map_append, List.map_cons, List.nodup_middle, List.nodup_cons, ← List.map_append] at hnd
    exact hnd.1 (List.mem_map_of_mem hx)
  have hz : ((l ++ l').map w).sum = 0 := by
    refine List.sum_eq_zero fun y hy => ?_
    obtain ⟨x, hx, rfl⟩ := List.mem_map.mp hy
    refine h x ?_ (hne x hx)
    change x ∈ t.rows
    rw [hl]
    rcases List.mem_append.mp hx with hx | hx <;> simp [hx]
  simp only [List.map_append, List.sum_append] at hz
  simp only [total, hl, List.map_append, List.map_cons, List.sum_append, List.sum_cons]
  linarith

/-- The sum over selected rows, as a total. -/
theorem sum_rowsWhere (p : α → Bool) (f : α → Int) :
    ((t.rowsWhere p).map f).sum = t.total (fun r => if p r then f r else 0) := by
  unfold rowsWhere total
  induction t.rows with
  | nil => rfl
  | cons x l ih => by_cases hp : p x <;> simp [hp, ih]

/-- How many rows are selected, as a total. -/
theorem length_rowsWhere (p : α → Bool) :
    ((t.rowsWhere p).length : Int) = t.total (fun r => if p r then 1 else 0) := by
  rw [← sum_rowsWhere]
  simp

end Total

end Table

end Lib
