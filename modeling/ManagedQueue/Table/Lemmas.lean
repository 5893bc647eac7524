import ManagedQueue.Table

namespace ManagedQueue.Table

section Entries

variable {κ α β : Type} [DecidableEq κ]

theorem findEntry_filter (p : κ → Bool) (k : κ) (l : List (κ × α)) :
    findEntry k (l.filter fun e => p e.1) = if p k then findEntry k l else none := by
  induction l with
  | nil => simp [findEntry]
  | cons e rest ih => by_cases hp : p e.1 <;> by_cases hk : e.1 = k <;> simp_all [findEntry]

theorem findEntry_map (f : κ → α → β) (k : κ) (l : List (κ × α)) :
    findEntry k (l.map fun e => (e.1, f e.1 e.2)) = (findEntry k l).map (f k) := by
  induction l with
  | nil => rfl
  | cons e rest ih => by_cases hk : e.1 = k <;> simp_all [findEntry]

theorem mem_of_findEntry {k : κ} {v : α} {l : List (κ × α)} (h : findEntry k l = some v) :
    (k, v) ∈ l := by
  induction l with
  | nil => simp [findEntry] at h
  | cons e rest ih =>
    by_cases hk : e.1 = k
    · simp [findEntry, hk] at h
      exact List.mem_cons.mpr (.inl (Prod.ext hk.symm h.symm))
    · simp [findEntry, hk] at h
      exact List.mem_cons_of_mem _ (ih h)

end Entries

section Lookup

variable {κ α β : Type} [LT κ] [DecidableEq κ]

@[simp]
theorem get?_empty (k : κ) : (∅ : Table κ α).get? k = none := rfl

@[simp]
theorem get?_mapValues (f : κ → α → β) (t : Table κ α) (k : κ) :
    (t.mapValues f).get? k = (t.get? k).map (f k) :=
  findEntry_map f k t.entries

@[simp]
theorem get?_filterKeys (p : κ → Bool) (t : Table κ α) (k : κ) :
    (t.filterKeys p).get? k = if p k then t.get? k else none :=
  findEntry_filter p k t.entries

theorem get?_erase (t : Table κ α) (k j : κ) :
    (t.erase k).get? j = if j = k then none else t.get? j := by
  have h := findEntry_filter (fun i => decide (i ≠ k)) j t.entries
  by_cases hj : j = k <;> simpa [get?, erase, hj] using h

@[simp]
theorem get?_erase_self (t : Table κ α) (k : κ) : (t.erase k).get? k = none := by
  simp [get?_erase]

theorem contains_erase (t : Table κ α) (k j : κ) :
    (t.erase k).contains j = if j = k then false else t.contains j := by
  unfold contains
  rw [get?_erase]
  by_cases hj : j = k <;> simp [hj]

theorem get?_of_contains (t : Table κ α) (k : κ) (default : α) :
    t.get? k = if t.contains k then some (t.getD k default) else none := by
  unfold contains getD
  cases t.get? k <;> rfl

omit [DecidableEq κ] in
theorem mapValues_mapValues {γ : Type} (f : κ → α → β) (g : κ → β → γ) (t : Table κ α) :
    (t.mapValues f).mapValues g = t.mapValues fun k v => g k (f k v) := by
  simp only [mapValues, List.map_map, Function.comp_def]

omit [DecidableEq κ] in
theorem mapValues_numbered (start : Nat) (t : Table κ α) :
    (t.numbered start).mapValues (fun _ e => e.2) = t := by
  obtain ⟨entries, hascending⟩ := t
  have hentries : ((entries.zipIdx start).map fun e => (e.1.1, e.2, e.1.2)).map
      (fun e => (e.1, e.2.2)) = entries := by
    rw [List.map_map]
    exact List.zipIdx_map_fst start entries
  simp only [numbered, mapValues, hentries]

theorem lt_of_get?_numbered {start : Nat} {t : Table κ α} {k : κ} {e : Nat × α}
    (h : (t.numbered start).get? k = some e) : e.1 < start + t.size := by
  obtain ⟨⟨entry, i⟩, hmem, he⟩ := List.mem_map.mp (mem_of_findEntry h)
  cases he
  exact List.snd_lt_add_of_mem_zipIdx hmem

theorem key_of_get?_numbered {start : Nat} {t : Table κ α} {k j : κ} {e f : Nat × α}
    (h : (t.numbered start).get? k = some e) (h' : (t.numbered start).get? j = some f)
    (hnumber : e.1 = f.1) : k = j := by
  obtain ⟨⟨entry, i⟩, hentry, he⟩ := List.mem_map.mp (mem_of_findEntry h)
  obtain ⟨⟨other, n⟩, hother, hf⟩ := List.mem_map.mp (mem_of_findEntry h')
  cases he
  cases hf
  obtain rfl : i = n := hnumber
  obtain ⟨-, hplace⟩ := List.mk_mem_zipIdx_iff_le_and_getElem?_sub.mp hentry
  obtain ⟨-, hplace'⟩ := List.mk_mem_zipIdx_iff_le_and_getElem?_sub.mp hother
  obtain rfl : entry = other := Option.some.inj (hplace.symm.trans hplace')
  rfl

theorem contains_iff_mem_keys (t : Table κ α) (k : κ) : t.contains k ↔ k ∈ t.keys := by
  unfold contains get? keys
  induction t.entries with
  | nil => simp [findEntry]
  | cons e rest ih =>
    by_cases hk : e.1 = k
    · simp [findEntry, hk]
    · simpa [findEntry, hk, Ne.symm hk] using ih

end Lookup

section Update

variable {κ α : Type} [LE κ] [LT κ] [Std.LawfulOrderLT κ] [Std.IsLinearOrder κ] [DecidableEq κ]

omit [Std.IsLinearOrder κ] in
theorem findEntry_eq_none {k : κ} {l : List (κ × α)} (h : ∀ e ∈ l, k < e.1) :
    findEntry k l = none := by
  induction l with
  | nil => rfl
  | cons e rest ih =>
    have he : e.1 ≠ k := fun he => Std.lt_irrefl (he ▸ h e (by simp))
    simp [findEntry, he, ih fun a ha => h a (by simp [ha])]

/-- The first key of one ascending list cannot lie before all keys of the other. -/
theorem not_lt_of_findEntry_eq {a b : κ × α} {l m : List (κ × α)} (hm : ∀ e ∈ m, b.1 < e.1)
    (h : findEntry a.1 (a :: l) = findEntry a.1 (b :: m)) : ¬ a.1 < b.1 := by
  intro hlt
  have hnone : findEntry a.1 (b :: m) = none := findEntry_eq_none fun e he => by
    rcases List.mem_cons.mp he with rfl | he
    · exact hlt
    · exact Std.lt_trans hlt (hm e he)
  rw [hnone] at h
  simp [findEntry] at h

theorem entries_eq_of_findEntry {l m : List (κ × α)}
    (hl : l.Pairwise (fun a b => a.1 < b.1)) (hm : m.Pairwise (fun a b => a.1 < b.1))
    (h : ∀ k, findEntry k l = findEntry k m) : l = m := by
  induction l generalizing m with
  | nil =>
    cases m with
    | nil => rfl
    | cons b m => simpa [findEntry] using h b.1
  | cons a l ih =>
    obtain ⟨ha, hl⟩ := List.pairwise_cons.mp hl
    cases m with
    | nil => simpa [findEntry] using h a.1
    | cons b m =>
      obtain ⟨hb, hm⟩ := List.pairwise_cons.mp hm
      have hkey : a.1 = b.1 := Std.le_antisymm
        (Std.not_lt.mp (not_lt_of_findEntry_eq ha (h b.1).symm))
        (Std.not_lt.mp (not_lt_of_findEntry_eq hb (h a.1)))
      have hvalue : a.2 = b.2 := by simpa [findEntry, hkey] using h a.1
      have hrest : l = m := ih hl hm fun k => by
        by_cases hk : b.1 = k
        · rw [findEntry_eq_none fun e he => hk ▸ hkey ▸ ha e he,
            findEntry_eq_none fun e he => hk ▸ hb e he]
        · simpa [findEntry, hk, hkey] using h k
      rw [hrest, Prod.ext hkey hvalue]

theorem ext_get? {s t : Table κ α} (h : ∀ k, s.get? k = t.get? k) : s = t := by
  obtain ⟨l, hl⟩ := s
  obtain ⟨m, hm⟩ := t
  obtain rfl : l = m := entries_eq_of_findEntry hl hm h
  rfl

theorem erase_comm (t : Table κ α) (j k : κ) : (t.erase k).erase j = (t.erase j).erase k := by
  apply ext_get?
  intro i
  simp only [get?_erase]
  split <;> split <;> rfl

omit [Std.IsLinearOrder κ] [DecidableEq κ] in
theorem keys_nodup (t : Table κ α) : t.keys.Nodup := by
  refine List.Pairwise.imp ?_ t.keys_ascending
  intro a b hlt he
  exact Std.lt_irrefl (he ▸ hlt)

omit [Std.IsLinearOrder κ] in
theorem get?_eq_some_iff (t : Table κ α) (k : κ) (v : α) :
    t.get? k = some v ↔ (k, v) ∈ t.entries := by
  refine ⟨mem_of_findEntry, fun h => ?_⟩
  obtain ⟨l, hl⟩ := t
  change (k, v) ∈ l at h
  change findEntry k l = some v
  induction l with
  | nil => simp at h
  | cons e rest ih =>
    obtain ⟨he, hrest⟩ := List.pairwise_cons.mp hl
    rcases List.mem_cons.mp h with rfl | h
    · simp [findEntry]
    · have hk : e.1 ≠ k := fun hk => Std.lt_irrefl (hk ▸ he _ h)
      simp [findEntry, hk, ih hrest h]

omit [Std.IsLinearOrder κ] in
theorem filterMap_get?_keys (t : Table κ α) : t.keys.filterMap t.get? = t.entries.map (·.2) := by
  have hentries (l : List (κ × α)) (hl : ∀ e ∈ l, e ∈ t.entries) :
      (l.map (·.1)).filterMap t.get? = l.map (·.2) := by
    induction l with
    | nil => rfl
    | cons e rest ih =>
      have he := (get?_eq_some_iff t e.1 e.2).mpr (hl e (by simp))
      simp [he, ih fun a ha => hl a (by simp [ha])]
  exact hentries t.entries fun _ he => he

variable [DecidableLT κ]

theorem findEntry_insertEntry (k j : κ) (v : α) (l : List (κ × α)) :
    findEntry j (insertEntry k v l) = if j = k then some v else findEntry j l := by
  induction l with
  | nil => simp [insertEntry, findEntry, eq_comm]
  | cons e rest ih =>
    unfold insertEntry
    split
    · simp [findEntry, eq_comm]
    · split
      · next hlt =>
        by_cases hj : j = k
        · have : e.1 ≠ k := fun he => Std.lt_irrefl (he ▸ hlt)
          simp_all [findEntry]
        · simp_all [findEntry]
      · next h₁ h₂ =>
        have he : e.1 = k := Std.le_antisymm (Std.not_lt.mp h₁) (Std.not_lt.mp h₂)
        by_cases hj : k = j
        · simp [findEntry, hj]
        · simp [findEntry, he, hj, Ne.symm hj]

theorem get?_insert (t : Table κ α) (k j : κ) (v : α) :
    (t.insert k v).get? j = if j = k then some v else t.get? j :=
  findEntry_insertEntry k j v t.entries

theorem contains_insert (t : Table κ α) (k j : κ) (v : α) :
    (t.insert k v).contains j = if j = k then true else t.contains j := by
  unfold contains
  rw [get?_insert]
  by_cases hj : j = k <;> simp [hj]

@[simp]
theorem get?_insert_self (t : Table κ α) (k : κ) (v : α) : (t.insert k v).get? k = some v := by
  simp [get?_insert]

theorem insert_erase_comm (t : Table κ α) {j k : κ} (hjk : j ≠ k) (v : α) :
    (t.erase k).insert j v = (t.insert j v).erase k := by
  apply ext_get?
  intro i
  simp only [get?_insert, get?_erase]
  by_cases hi : i = j
  · simp [hi, hjk]
  · simp [hi]

theorem insert_of_get? {t : Table κ α} {k : κ} {v : α} (h : t.get? k = some v) : t.insert k v = t := by
  apply ext_get?
  intro j
  rw [get?_insert]
  split
  · next hj => rw [hj, h]
  · rfl

theorem erase_insert (t : Table κ α) (k : κ) (v : α) : (t.insert k v).erase k = t.erase k := by
  apply ext_get?
  intro j
  rw [get?_erase, get?_erase, get?_insert]
  split <;> simp [*]

/-- The order of keys apart, an insertion puts its entry before those of the other keys. -/
theorem entries_insert_perm (t : Table κ α) (k : κ) (v : α) :
    (t.insert k v).entries.Perm ((k, v) :: (t.erase k).entries) := by
  have hnodup (s : Table κ α) : s.entries.Nodup := List.Pairwise.of_map _ (fun _ _ h he => h (he ▸ rfl)) s.keys_nodup
  have hmem (s : Table κ α) (e : κ × α) : e ∈ s.entries ↔ s.get? e.1 = some e.2 :=
    (get?_eq_some_iff s e.1 e.2).symm
  refine (List.perm_ext_iff_of_nodup (hnodup _) (List.nodup_cons.mpr ⟨?_, hnodup _⟩)).mpr fun e => ?_
  · rw [hmem]
    simp
  · rw [List.mem_cons, hmem, hmem, get?_insert, get?_erase]
    by_cases hk : e.1 = k
    · subst hk
      simp [Prod.ext_iff, eq_comm]
    · simp [hk, Prod.ext_iff]

omit [LE κ] [Std.LawfulOrderLT κ] [Std.IsLinearOrder κ] [DecidableEq κ] [DecidableLT κ] in
theorem ext_entries {s t : Table κ α} (h : s.entries = t.entries) : s = t := by
  cases s
  cases t
  cases h
  rfl

omit [DecidableEq κ] in
theorem insertEntry_last {k : κ} {v : α} {l : List (κ × α)} (h : ∀ e ∈ l, e.1 < k) :
    insertEntry k v l = l ++ [(k, v)] := by
  induction l with
  | nil => rfl
  | cons e rest ih =>
    have he : e.1 < k := h e (.head _)
    unfold insertEntry
    rw [if_neg fun hk => Std.lt_irrefl (Std.lt_trans he hk), if_pos he, ih fun a ha => h a (.tail _ ha)]
    rfl

omit [DecidableEq κ] in
theorem ofList_entries (t : Table κ α) : ofList t.entries = t := by
  have hfold (l : List (κ × α)) (s : Table κ α)
      (h : (s.entries ++ l).Pairwise fun a b => a.1 < b.1) :
      (l.foldl (fun s e => s.insert e.1 e.2) s).entries = s.entries ++ l := by
    induction l generalizing s with
    | nil => simp
    | cons e l ih =>
      have hlast : (s.insert e.1 e.2).entries = s.entries ++ [e] :=
        insertEntry_last fun a ha => (List.pairwise_append.mp h).2.2 a ha e (.head _)
      rw [List.foldl_cons, ih, hlast, List.append_assoc]
      · rfl
      · rwa [hlast, List.append_assoc]
  exact ext_entries (hfold t.entries ∅ t.ascending)

end Update

end ManagedQueue.Table
