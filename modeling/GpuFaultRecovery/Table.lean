import Mathlib.Data.List.AList

/-!
# Tables of records

A table is a finite map that stores each record under the record's own key, as a dictionary of rows does. The
lemmas describe a lookup after a write, after a removal and after a batch of writes.
-/

universe u v

/-- A finite map in which every record sits under its own key. -/
structure Table {κ : Type u} {α : Type v} [DecidableEq κ] (key : α → κ) where
  dict : AList fun _ : κ => α
  keyed : ∀ k a, dict.lookup k = some a → key a = k

namespace Table

variable {κ : Type u} {α : Type v} [DecidableEq κ] {key : α → κ}

def empty : Table key := ⟨∅, fun k a h => by simp at h⟩

/-- The row under `k`. -/
def get? (t : Table key) (k : κ) : Option α := t.dict.lookup k

def rows (t : Table key) : List α := t.dict.entries.map Sigma.snd

def put (t : Table key) (a : α) : Table key where
  dict := t.dict.insert (key a) a
  keyed k b h := by
    by_cases hk : k = key a
    · subst hk
      rw [AList.lookup_insert] at h
      rw [Option.some.inj h]
    · rw [AList.lookup_insert_ne hk] at h
      exact t.keyed k b h

/-- Delete the row under `k`. -/
def remove (t : Table key) (k : κ) : Table key where
  dict := t.dict.erase k
  keyed k' b h := by
    by_cases hk : k' = k
    · subst hk
      rw [AList.lookup_erase] at h
      cases h
    · rw [AList.lookup_erase_ne hk] at h
      exact t.keyed k' b h

def putAll (t : Table key) (l : List α) : Table key := l.foldl put t

def removeAll (t : Table key) (l : List κ) : Table key := l.foldl remove t

@[simp] theorem get?_empty (k : κ) : (empty : Table key).get? k = none := rfl

theorem key_of_get? {t : Table key} {k : κ} {a : α} (h : t.get? k = some a) : key a = k := t.keyed k a h

theorem get?_put (t : Table key) (a : α) (k : κ) : (t.put a).get? k = if k = key a then some a else t.get? k := by
  split
  · rename_i h
    subst h
    exact AList.lookup_insert _
  · rename_i h
    exact AList.lookup_insert_ne h

@[simp] theorem get?_put_self (t : Table key) (a : α) : (t.put a).get? (key a) = some a := by
  rw [get?_put, if_pos rfl]

theorem get?_put_ne {t : Table key} {a : α} {k : κ} (h : k ≠ key a) : (t.put a).get? k = t.get? k := by
  rw [get?_put, if_neg h]

theorem get?_remove (t : Table key) (k k' : κ) : (t.remove k).get? k' = if k' = k then none else t.get? k' := by
  split
  · rename_i h
    subst h
    exact AList.lookup_erase _ _
  · rename_i h
    exact AList.lookup_erase_ne h

theorem mem_rows {t : Table key} {a : α} : a ∈ t.rows ↔ t.get? (key a) = some a := by
  have hmem : ∀ k, t.get? k = some a ↔ (⟨k, a⟩ : Sigma fun _ : κ => α) ∈ t.dict.entries :=
    fun k => AList.mem_lookup_iff
  constructor
  · intro h
    obtain ⟨⟨k, b⟩, hb, rfl⟩ := List.mem_map.mp h
    have hget := (hmem k).mpr hb
    rw [t.keyed k b hget]
    exact hget
  · intro h
    exact List.mem_map.mpr ⟨⟨key a, a⟩, (hmem _).mp h, rfl⟩

theorem nodup_rows (t : Table key) : (t.rows.map key).Nodup := by
  have hfst : t.rows.map key = t.dict.keys := by
    rw [rows, List.map_map]
    refine List.map_congr_left ?_
    rintro ⟨k, a⟩ hmem
    exact t.keyed k a (AList.mem_lookup_iff.mpr hmem)
  rw [hfst]
  exact t.dict.keys_nodup

theorem get?_putAll_of_forall_ne {t : Table key} {l : List α} {k : κ} (h : ∀ a ∈ l, key a ≠ k) :
    (t.putAll l).get? k = t.get? k := by
  induction l generalizing t with
  | nil => rfl
  | cons b l ih =>
    have hrest : ((t.put b).putAll l).get? k = (t.put b).get? k := ih fun a ha => h a (List.mem_cons_of_mem _ ha)
    have hb : k ≠ key b := fun e => h b (by simp) e.symm
    rw [get?_put_ne hb] at hrest
    exact hrest

/-- After a batch of writes a key named in the batch holds one of the rows written under it. -/
theorem get?_putAll_of_mem {t : Table key} {l : List α} {k : κ} (h : ∃ a ∈ l, key a = k) :
    ∃ b ∈ l, key b = k ∧ (t.putAll l).get? k = some b := by
  induction l generalizing t with
  | nil => simp at h
  | cons c l ih =>
    by_cases hl : ∃ a ∈ l, key a = k
    · obtain ⟨b, hb, hk, hget⟩ := ih (t := t.put c) hl
      exact ⟨b, List.mem_cons_of_mem _ hb, hk, hget⟩
    · obtain ⟨a, ha, rfl⟩ := h
      have hac : a = c := by
        rcases List.mem_cons.mp ha with h | h
        · exact h
        · exact absurd ⟨a, h, rfl⟩ hl
      subst hac
      have hrest : ((t.put a).putAll l).get? (key a) = (t.put a).get? (key a) :=
        get?_putAll_of_forall_ne fun b hb hk => hl ⟨b, hb, hk⟩
      rw [get?_put_self] at hrest
      exact ⟨a, by simp, rfl, hrest⟩

/-- Rows of `t'` that count can be matched, key by key and without repetition, with rows of `t` that count. -/
private theorem countP_le_of_map {t t' : Table key} {p p' : α → Bool} (f : κ → κ)
    (hmap : ∀ a, t'.get? (key a) = some a → p' a = true →
      ∃ b, t.get? (key b) = some b ∧ p b = true ∧ key b = f (key a))
    (hinj : ∀ a a', t'.get? (key a) = some a → p' a = true → t'.get? (key a') = some a' → p' a' = true →
      f (key a) = f (key a') → key a = key a') : t'.rows.countP p' ≤ t.rows.countP p := by
  rw [List.countP_eq_length_filter, List.countP_eq_length_filter]
  have hmem : ∀ {t : Table key} {p : α → Bool} {a : α}, a ∈ t.rows.filter p ↔ t.get? (key a) = some a ∧ p a = true :=
    fun {t p a} => by rw [List.mem_filter, mem_rows]
  have hnodup : (((t'.rows.filter p').map key).map f).Nodup := by
    refine List.Nodup.map_on ?_ ((t'.nodup_rows).sublist (List.Sublist.map key List.filter_sublist))
    intro k hk k' hk' hf
    obtain ⟨a, ha, rfl⟩ := List.mem_map.mp hk
    obtain ⟨a', ha', rfl⟩ := List.mem_map.mp hk'
    exact hinj a a' (hmem.mp ha).1 (hmem.mp ha).2 (hmem.mp ha').1 (hmem.mp ha').2 hf
  have hsub : ((t'.rows.filter p').map key).map f ⊆ (t.rows.filter p).map key := by
    intro k hk
    obtain ⟨k', hk', rfl⟩ := List.mem_map.mp hk
    obtain ⟨a, ha, rfl⟩ := List.mem_map.mp hk'
    obtain ⟨b, hb, hp, hf⟩ := hmap a (hmem.mp ha).1 (hmem.mp ha).2
    exact List.mem_map.mpr ⟨b, hmem.mpr ⟨hb, hp⟩, hf⟩
  have hlen := List.Nodup.length_le_of_subset hnodup hsub
  simpa using hlen

/-- A table in which every row that counts, counted before. -/
theorem countP_le_of_subset {t t' : Table key} {p p' : α → Bool}
    (h : ∀ a, t'.get? (key a) = some a → p' a = true → ∃ b, t.get? (key b) = some b ∧ p b = true ∧ key b = key a) :
    t'.rows.countP p' ≤ t.rows.countP p :=
  countP_le_of_map id h fun _ _ _ _ _ _ he => he

/-- A table in which one row that counts, under `k`, takes the place of a row `b` that no longer counts. -/
theorem countP_le_of_exchange {t t' : Table key} {p p' : α → Bool} (k : κ) {b : α} (hb : t.get? (key b) = some b)
    (hpb : p b = true)
    (h : ∀ a, t'.get? (key a) = some a → p' a = true → key a ≠ k →
      key a ≠ key b ∧ ∃ c, t.get? (key c) = some c ∧ p c = true ∧ key c = key a) :
    t'.rows.countP p' ≤ t.rows.countP p := by
  refine countP_le_of_map (fun j => if j = k then key b else j) (fun a ha hp => ?_) ?_
  · by_cases hk : key a = k
    · exact ⟨b, hb, hpb, by rw [if_pos hk]⟩
    · obtain ⟨-, c, hc, hpc, hkey⟩ := h a ha hp hk
      exact ⟨c, hc, hpc, by rw [if_neg hk, hkey]⟩
  · intro a a' ha hp ha' hp' hf
    by_cases hk : key a = k <;> by_cases hk' : key a' = k
    · rw [hk, hk']
    · rw [if_pos hk, if_neg hk'] at hf
      exact absurd hf.symm (h a' ha' hp' hk').1
    · rw [if_neg hk, if_pos hk'] at hf
      exact absurd hf (h a ha hp hk).1
    · rwa [if_neg hk, if_neg hk'] at hf

private theorem countP_le_add (p q : α → Bool) (l : List α) :
    l.countP p ≤ l.countP (fun a => p a && !q a) + l.countP q := by
  induction l with
  | nil => simp
  | cons a l ih =>
    simp only [List.countP_cons]
    cases p a <;> cases q a <;> simp <;> omega

/-- A table in which every row that counts, the one under `k` apart, counted before. -/
theorem countP_le_succ {t t' : Table key} {p p' : α → Bool} (k : κ)
    (h : ∀ a, t'.get? (key a) = some a → p' a = true → key a ≠ k →
      ∃ b, t.get? (key b) = some b ∧ p b = true ∧ key b = key a) :
    t'.rows.countP p' ≤ t.rows.countP p + 1 := by
  have hsplit := countP_le_add p' (fun a => decide (key a = k)) t'.rows
  have hrest : t'.rows.countP (fun a => p' a && !decide (key a = k)) ≤ t.rows.countP p := by
    refine countP_le_of_subset fun a ha hp => ?_
    simp only [Bool.and_eq_true, Bool.not_eq_true', decide_eq_false_iff_not] at hp
    exact h a ha hp.1 hp.2
  have hone : t'.rows.countP (fun a => decide (key a = k)) ≤ 1 := by
    have hcount := List.nodup_iff_count_le_one.mp t'.nodup_rows k
    rw [List.count, List.countP_map] at hcount
    exact hcount
  omega

theorem get?_removeAll (t : Table key) (l : List κ) (k : κ) :
    (t.removeAll l).get? k = if k ∈ l then none else t.get? k := by
  induction l generalizing t with
  | nil => rfl
  | cons b l ih =>
    change ((t.remove b).removeAll l).get? k = _
    rw [ih, get?_remove]
    by_cases hl : k ∈ l
    · simp [hl]
    · by_cases hb : k = b <;> simp [hl, hb]

end Table
