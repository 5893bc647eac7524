import ManagedQueue.Proofs.CachedNames

namespace ManagedQueue

namespace Registry

variable {r r' : Registry} {u : Use} {uses : List Use} {name other : String} {i : Nat}

/-- Numbers are given in turn, and no two topics have one number. -/
structure Distinct (r : Registry) : Prop where
  below : ∀ {name i}, r.incarnation? name = some i → i < r.nextIncarnation
  inj : ∀ {name other i}, r.incarnation? name = some i → r.incarnation? other = some i → other = name

/-- The number was given, and no topic has it any more. -/
structure Spent (r : Registry) (i : Nat) : Prop where
  below : i < r.nextIncarnation
  unused : ∀ name, r.incarnation? name ≠ some i

def Use.isCreate : Use → Bool
  | .create _ _ => true
  | .exist _ _ | .list _ | .delete _ => false

theorem use_next (r : Registry) (u : Use) : r.nextIncarnation ≤ (r.use u).nextIncarnation ∧
    (r.use u).nextIncarnation ≤ r.nextIncarnation + u.isCreate.toNat := by
  have heffect := r.use_effect u
  generalize r.use u = r' at heffect ⊢
  cases heffect with
  | kept | renewed => exact ⟨Nat.le_refl _, Nat.le_add_right _ _⟩
  | created _ _ _ hr =>
      rw [(create_incarnation hr).2.1]
      exact ⟨Nat.le_succ _, Nat.le_refl _⟩
  | deleted _ _ hr =>
      rw [(delete_incarnation hr).2.1]
      exact ⟨Nat.le_refl _, Nat.le_refl _⟩

theorem incarnation_cases (hi : (r.use u).incarnation? name = some i) : r.incarnation? name = some i ∨
    i = r.nextIncarnation ∧ i < (r.use u).nextIncarnation ∧ ∃ layout, u = .create name layout := by
  have heffect := r.use_effect u
  generalize r.use u = r' at heffect hi ⊢
  cases heffect with
  | kept | renewed => exact .inl hi
  | created made layout _ hr =>
      obtain ⟨-, hnext, hnumbers⟩ := create_incarnation hr
      rw [hnumbers] at hi
      split at hi
      · next hname =>
        cases hi
        exact .inr ⟨rfl, hnext ▸ Nat.lt_succ_self _, layout, by rw [hname]⟩
      · exact .inl hi
  | deleted gone _ hr =>
      rw [(delete_incarnation hr).2.2] at hi
      split at hi
      · cases hi
      · exact .inl hi

theorem incarnation_use (hi : r.incarnation? name = some i) (hu : u ≠ .delete name) :
    (r.use u).incarnation? name = some i := by
  have heffect := r.use_effect u
  generalize r.use u = r' at heffect ⊢
  cases heffect with
  | kept | renewed => exact hi
  | created made layout _ hr =>
      obtain ⟨hnone, -, hnumbers⟩ := create_incarnation hr
      have hname : name ≠ made := by
        rintro rfl
        rw [hnone] at hi
        cases hi
      rw [hnumbers, if_neg hname, hi]
  | deleted gone _ hr =>
      have hname : name ≠ gone := fun hname => hu (hname ▸ rfl)
      rw [(delete_incarnation hr).2.2, if_neg hname, hi]

theorem Distinct.use (h : r.Distinct) (u : Use) : (r.use u).Distinct where
  below hi := by
    obtain hbefore | ⟨-, hlt, -⟩ := incarnation_cases hi
    · exact Nat.lt_of_lt_of_le (h.below hbefore) (r.use_next u).1
    · exact hlt
  inj hi hother := by
    obtain hbefore | ⟨hnext, -, layout, hu⟩ := incarnation_cases hi <;>
      obtain hbefore' | ⟨hnext', -, layout', hu'⟩ := incarnation_cases hother
    · exact h.inj hbefore hbefore'
    · exact absurd (h.below hbefore) (Nat.not_lt_of_le (Nat.le_of_eq hnext'.symm))
    · exact absurd (h.below hbefore') (Nat.not_lt_of_le (Nat.le_of_eq hnext.symm))
    · cases hu.symm.trans hu'
      rfl

theorem Spent.use (h : r.Spent i) (u : Use) : (r.use u).Spent i where
  below := Nat.lt_of_lt_of_le h.below (r.use_next u).1
  unused name hi := by
    obtain hbefore | ⟨hnext, -⟩ := incarnation_cases hi
    · exact h.unused name hbefore
    · exact Nat.ne_of_lt h.below hnext

theorem Distinct.spent (h : r.Distinct) (hi : r.incarnation? name = some i) :
    (r.use (.delete name)).Spent i where
  below := Nat.lt_of_lt_of_le (h.below hi) (r.use_next _).1
  unused other hother := by
    obtain hbefore | ⟨-, -, layout, hu⟩ := incarnation_cases hother
    · obtain rfl := h.inj hi hbefore
      have hlive := live_of_incarnation hother
      rw [contains_use] at hlive
      simp at hlive
    · cases hu

theorem Distinct.after (h : r.Distinct) (uses : List Use) : (r.after uses).Distinct := by
  induction uses generalizing r with
  | nil => exact h
  | cons u rest ih => exact ih (h.use u)

theorem Spent.after (h : r.Spent i) (uses : List Use) : (r.after uses).Spent i := by
  induction uses generalizing r with
  | nil => exact h
  | cons u rest ih => exact ih (h.use u)

/-- Later on, just the topic that has the number now has it, for as long as it is not deleted. -/
theorem Distinct.incarnation_after (h : r.Distinct) (hi : r.incarnation? name = some i) (uses : List Use)
    (other : String) : (r.after uses).incarnation? other = some i ↔ other = name ∧ .delete name ∉ uses := by
  induction uses generalizing r with
  | nil =>
      refine ⟨fun hother => ⟨h.inj hi hother, List.not_mem_nil⟩, ?_⟩
      rintro ⟨rfl, -⟩
      exact hi
  | cons u rest ih =>
      by_cases hu : u = .delete name
      · subst hu
        have hspent := (h.spent hi).after rest
        exact iff_of_false (hspent.unused other) fun hkept => hkept.2 (.head _)
      · rw [List.mem_cons, not_or, and_iff_right (Ne.symm hu)]
        exact ih (h.use u) (incarnation_use hi hu)

theorem after_next (r : Registry) (uses : List Use) :
    (r.after uses).nextIncarnation ≤ r.nextIncarnation + uses.countP Use.isCreate := by
  induction uses generalizing r with
  | nil => exact Nat.le_refl _
  | cons u rest ih =>
      have hfirst := (r.use_next u).2
      have hrest : (r.after (u :: rest)).nextIncarnation ≤
          (r.use u).nextIncarnation + rest.countP Use.isCreate := ih (r.use u)
      have hcount : (u :: rest).countP Use.isCreate = rest.countP Use.isCreate + u.isCreate.toNat := by
        cases hu : u.isCreate <;> simp [hu]
      omega

theorem made_distinct (saved : Option (NameMap Layout)) : (made saved).Distinct := by
  cases saved with
  | none => constructor <;> simp [made, incarnation?]
  | some layouts =>
      have hnumber {name : String} {i : Nat} (hi : (restore layouts).incarnation? name = some i) :
          ∃ e, (layouts.numbered 1).get? name = some e ∧ e.1 = i := by
        simpa [incarnation?, restore] using hi
      constructor
      · intro name i hi
        obtain ⟨e, he, rfl⟩ := hnumber hi
        have hlt := Table.lt_of_get?_numbered he
        rw [Nat.add_comm] at hlt
        exact hlt
      · intro name other i hi hother
        obtain ⟨e, he, rfl⟩ := hnumber hi
        obtain ⟨f, hf, hsame⟩ := hnumber hother
        exact Table.key_of_get?_numbered hf he hsame

theorem made_next (saved : Option (NameMap Layout)) :
    (made saved).nextIncarnation ≤ (saved.getD ∅).size + 1 := by
  cases saved with
  | none => exact Nat.zero_le _
  | some layouts => exact Nat.le_refl _

theorem made_contains (saved : Option (NameMap Layout)) (name : String) :
    (made saved).topics.contains name = (saved.getD ∅).contains name := by
  cases saved with
  | none => rfl
  | some layouts =>
      rw [← contains_layouts, made, layouts_restore]
      rfl

end Registry

/-- The layouts and the numbers of topics as two tables. -/
structure TopicTables where
  layouts : NameMap Layout := ∅
  numbers : NameMap Nat := ∅
  next : Nat := 0

namespace TopicTables

def made : Option (NameMap Layout) → TopicTables
  | none => {}
  | some layouts =>
    let numbers := (layouts.numbered 1).mapValues fun _ e => e.1
    { layouts, numbers, next := numbers.size + 1 }

/-- Either table is changed for itself; whether there is a topic is asked of the layouts. -/
def use (t : TopicTables) : Registry.Use → TopicTables
  | .create name layout =>
    if t.layouts.contains name then t
    else ⟨t.layouts.insert name layout, t.numbers.insert name t.next, t.next + 1⟩
  | .delete name =>
    if t.layouts.contains name then ⟨t.layouts.erase name, t.numbers.erase name, t.next⟩ else t
  | .exist _ _ | .list _ => t

def after (t : TopicTables) (uses : List Registry.Use) : TopicTables := uses.foldl use t

end TopicTables

namespace Registry

def tables (r : Registry) : TopicTables :=
  ⟨r.layouts, r.topics.mapValues fun _ t => t.incarnation, r.nextIncarnation⟩

theorem use_tables (r : Registry) (u : Use) : (r.use u).tables = r.tables.use u := by
  have hlayouts (name : String) : r.tables.layouts.contains name = r.topics.contains name := r.contains_layouts name
  have heffect := r.use_effect u
  generalize r.use u = r' at heffect ⊢
  -- Renewing the list is not a matter of the tables. The rest is done to the registry and to them alike.
  cases heffect with
  | kept _ _ hcreate hdelete =>
      cases u with
      | exist | list => rfl
      | create name layout => rw [TopicTables.use, hlayouts, if_pos (hcreate name layout rfl)]
      | delete name => rw [TopicTables.use, hlayouts, hdelete name rfl]; rfl
  | renewed _ hrenews =>
      cases u with
      | exist | list => rfl
      | create | delete => cases hrenews
  | created name layout _ hr =>
      unfold create at hr
      split at hr
      · cases hr
      · next hfree =>
        cases hr
        rw [TopicTables.use, hlayouts, if_neg hfree]
        simp only [tables, layouts, Table.mapValues_insert]
  | deleted name _ hr =>
      unfold delete at hr
      split at hr
      · next hfound =>
        cases hr
        rw [TopicTables.use, hlayouts, if_pos hfound]
        simp only [tables, layouts, Table.mapValues_erase]
      · cases hr

theorem made_tables (saved : Option (NameMap Layout)) : (made saved).tables = TopicTables.made saved := by
  cases saved with
  | none => rfl
  | some layouts =>
      have hsize : ((layouts.numbered 1).mapValues fun _ e => e.1).size = layouts.size := by
        simp [Table.size, Table.mapValues, Table.numbered]
      rw [tables, made, TopicTables.made, layouts_restore, hsize, restore, Table.mapValues_mapValues]

theorem after_tables (r : Registry) (uses : List Use) : (r.after uses).tables = r.tables.after uses := by
  induction uses generalizing r with
  | nil => rfl
  | cons u rest ih =>
      have hrest : (r.after (u :: rest)).tables = (r.use u).tables.after rest := ih (r.use u)
      rw [hrest, use_tables]
      rfl

/-- The name has a topic from the start or is given one on the way, and it is not deleted after that. -/
def Lives (saved : Option (NameMap Layout)) (uses : List Use) (name : String) : Prop :=
  ((saved.getD ∅).contains name ∧ .delete name ∉ uses) ∨
    ∃ before layout since, uses = before ++ .create name layout :: since ∧ .delete name ∉ since

/-- In every run of a registry, new or with saved topics: exactly the topics that live have a number, and
so it is when layouts and numbers are two tables of which each is changed for itself. No two topics have
one number, every number is below the next, and the next is at most one more than there were saved topics
and creations. Whatever number a topic had at any time, it has now, unless it has been deleted since; no
other topic ever has it, whatever its name. -/
theorem numbers_tell_topics_apart (saved : Option (NameMap Layout)) (uses : List Use) :
    let start := made saved
    let r := start.after uses
    let tables := (TopicTables.made saved).after uses
    (∀ name, (Lives saved uses name ↔ r.topics.contains name = true) ∧
      (Lives saved uses name ↔ ∃ i, r.incarnation? name = some i)) ∧
    (tables.layouts = r.layouts ∧ (∀ name, tables.numbers.get? name = r.incarnation? name) ∧
      tables.next = r.nextIncarnation) ∧
    (∀ name other i, r.incarnation? name = some i → r.incarnation? other = some i → other = name) ∧
    (∀ name i, r.incarnation? name = some i → i < r.nextIncarnation) ∧
    r.nextIncarnation ≤ (saved.getD ∅).size + uses.countP Use.isCreate + 1 ∧
    ∀ before since, uses = before ++ since →
      ∀ name i, (start.after before).incarnation? name = some i →
        ∀ other, r.incarnation? other = some i ↔ other = name ∧ .delete name ∉ since := by
  intro start r tables
  have hdistinct : r.Distinct := (made_distinct saved).after uses
  have hlives (name : String) : Lives saved uses name ↔ r.topics.contains name := by
    rw [contains_after, made_contains]
    rfl
  have htables : tables = r.tables := by
    rw [after_tables, made_tables]
  refine ⟨fun name => ⟨hlives name, ?_⟩, ⟨congrArg TopicTables.layouts htables, fun name => ?_,
    congrArg TopicTables.next htables⟩, fun _ _ _ => hdistinct.inj, fun _ _ => hdistinct.below, ?_, ?_⟩
  · rw [hlives, ← isSome_incarnation, Option.isSome_iff_exists]
  · rw [htables]
    exact Table.get?_mapValues _ _ name
  · have hmade : start.nextIncarnation ≤ (saved.getD ∅).size + 1 := made_next saved
    have hafter : r.nextIncarnation ≤ start.nextIncarnation + uses.countP Use.isCreate := after_next start uses
    omega
  · rintro before since hsplit name i hi other
    have hthen : (start.after before).Distinct := (made_distinct saved).after before
    -- The rest of the uses run from the registry in between, whose numbers are distinct as well.
    have hnow : r = (start.after before).after since := by
      rw [← after_append, ← hsplit]
    rw [hnow]
    exact hthen.incarnation_after hi since other

/-- A creation that is refused takes no number, and a topic that is made again takes a new one. -/
example :
    let r := (made (some (.ofList [("a", ⟨1, 1⟩), ("b", ⟨1, 1⟩)]))).after
      [.create "b" ⟨2, 2⟩, .delete "a", .create "a" ⟨1, 1⟩]
    r.incarnation? "a" = some 3 ∧ r.incarnation? "b" = some 2 := by decide +kernel

end Registry

end ManagedQueue
