namespace ManagedQueue

/-- A finite map. The order is part of the value, so tables with the same bindings are equal. -/
structure Table (κ α : Type) [LT κ] where
  entries : List (κ × α)
  ascending : entries.Pairwise (fun a b => a.1 < b.1)
deriving DecidableEq

/-- Names are compared by code point. -/
abbrev NameMap := Table String

namespace Table

section Listing

variable {κ α β : Type} [LT κ]

instance : EmptyCollection (Table κ α) := ⟨⟨[], .nil⟩⟩
instance : Inhabited (Table κ α) := ⟨∅⟩

def keys (t : Table κ α) : List κ := t.entries.map (·.1)

def size (t : Table κ α) : Nat := t.entries.length

theorem keys_ascending (t : Table κ α) : t.keys.Pairwise (· < ·) := by
  simpa [keys, List.pairwise_map] using t.ascending

def mapValues (f : κ → α → β) (t : Table κ α) : Table κ β where
  entries := t.entries.map fun e => (e.1, f e.1 e.2)
  ascending := by simpa [List.pairwise_map] using t.ascending

def filterKeys (p : κ → Bool) (t : Table κ α) : Table κ α where
  entries := t.entries.filter fun e => p e.1
  ascending := t.ascending.sublist List.filter_sublist

def numbered (start : Nat) (t : Table κ α) : Table κ (Nat × α) where
  entries := (t.entries.zipIdx start).map fun e => (e.1.1, e.2, e.1.2)
  ascending := by
    have h := t.ascending
    rw [← List.zipIdx_map_fst start t.entries, List.pairwise_map] at h
    exact List.pairwise_map.mpr h

end Listing

section Lookup

variable {κ α : Type} [LT κ] [DecidableEq κ]

def findEntry (k : κ) : List (κ × α) → Option α
  | [] => none
  | e :: rest => if e.1 = k then some e.2 else findEntry k rest

def get? (t : Table κ α) (k : κ) : Option α := findEntry k t.entries

def contains (t : Table κ α) (k : κ) : Bool := (t.get? k).isSome

def getD (t : Table κ α) (k : κ) (default : α) : α := (t.get? k).getD default

def erase (t : Table κ α) (k : κ) : Table κ α where
  entries := t.entries.filter fun e => e.1 ≠ k
  ascending := t.ascending.sublist List.filter_sublist

end Lookup

section Update

variable {κ α : Type} [LE κ] [LT κ] [Std.LawfulOrderLT κ] [Std.IsLinearOrder κ] [DecidableLT κ]

def insertEntry (k : κ) (v : α) : List (κ × α) → List (κ × α)
  | [] => [(k, v)]
  | e :: rest =>
    if k < e.1 then (k, v) :: e :: rest
    else if e.1 < k then e :: insertEntry k v rest
    else (k, v) :: rest

omit [LE κ] [Std.LawfulOrderLT κ] [Std.IsLinearOrder κ] in
theorem mem_insertEntry {k : κ} {v : α} {e : κ × α} {l : List (κ × α)}
    (h : e ∈ insertEntry k v l) : e = (k, v) ∨ e ∈ l := by
  induction l with
  | nil => simpa [insertEntry] using h
  | cons a rest ih =>
    unfold insertEntry at h
    split at h
    · simpa using h
    · split at h
      · rcases List.mem_cons.mp h with rfl | h
        · simp
        · rcases ih h with rfl | h <;> simp [*]
      · rcases List.mem_cons.mp h with rfl | h <;> simp [*]

theorem insertEntry_ascending (k : κ) (v : α) {l : List (κ × α)}
    (h : l.Pairwise (fun a b => a.1 < b.1)) :
    (insertEntry k v l).Pairwise (fun a b => a.1 < b.1) := by
  induction l with
  | nil => simp [insertEntry]
  | cons e rest ih =>
    obtain ⟨he, hrest⟩ := List.pairwise_cons.mp h
    unfold insertEntry
    split
    · next hk =>
      refine List.pairwise_cons.mpr ⟨fun a ha => ?_, h⟩
      rcases List.mem_cons.mp ha with rfl | ha
      · exact hk
      · exact Std.lt_trans hk (he a ha)
    · split
      · next hk =>
        refine List.pairwise_cons.mpr ⟨fun a ha => ?_, ih hrest⟩
        rcases mem_insertEntry ha with rfl | ha
        · exact hk
        · exact he a ha
      · next h₁ h₂ =>
        have : e.1 = k := Std.le_antisymm (Std.not_lt.mp h₁) (Std.not_lt.mp h₂)
        exact List.pairwise_cons.mpr ⟨fun a ha => this ▸ he a ha, hrest⟩

def insert (t : Table κ α) (k : κ) (v : α) : Table κ α :=
  ⟨insertEntry k v t.entries, insertEntry_ascending k v t.ascending⟩

/-- A later entry replaces an earlier one of the same key. -/
def ofList (entries : List (κ × α)) : Table κ α :=
  entries.foldl (fun t e => t.insert e.1 e.2) ∅

end Update

end Table

end ManagedQueue
