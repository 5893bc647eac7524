import ManagedQueue.Proofs.IdleHosts
import ManagedQueue.Proofs.QueueStanding

namespace ManagedQueue

namespace Registry

inductive Use where
  | exist (name : String) (force : Bool)
  | list (force : Bool)
  | create (name : String) (layout : Layout)
  | delete (name : String)
deriving DecidableEq

/-- The registry after it; what is refused changes nothing. -/
def use (r : Registry) : Use → Registry
  | .exist name force => (r.exist name force).2
  | .list force => (r.list force).2
  | .create name layout => (r.create name layout).toOption.getD r
  | .delete name => (r.delete name).toOption.getD r

def after (r : Registry) (uses : List Use) : Registry := uses.foldl use r

/-- A registry at its first use: a new one, or one with the topics that were saved. -/
def made : Option (NameMap Layout) → Registry
  | none => {}
  | some layouts => restore layouts

/-- Whether it renews the list of names. What is not forced does so only where it misses a name. -/
def renews (r : Registry) : Use → Bool
  | .exist name force => force || !r.cached.contains name
  | .list force => force
  | .create _ _ | .delete _ => false

def renewals (r : Registry) : List Use → Nat
  | [] => 0
  | u :: uses => (r.renews u).toNat + (r.use u).renewals uses

/-- The list was last renewed by `u`, which changes no topic. -/
structure LastRenewal (start : Registry) (uses before : List Use) (u : Use) (since : List Use) : Prop where
  split : uses = before ++ u :: since
  renews : (start.after before).renews u = true
  none_since : (start.after (before ++ [u])).renewals since = 0

variable {r r' : Registry} {u : Use} {uses before since : List Use} {name : String} {layout : Layout}

theorem create_list (h : r.create name layout = .ok r') :
    r'.cached = r.cached ∧ r'.refreshes = r.refreshes := by
  unfold create at h
  split at h
  · cases h
  · cases h
    exact ⟨rfl, rfl⟩

theorem delete_list (h : r.delete name = .ok r') :
    r'.cached = r.cached ∧ r'.refreshes = r.refreshes := by
  unfold delete at h
  split at h
  · cases h
    exact ⟨rfl, rfl⟩
  · cases h

theorem contains_of_create_error {e : CollaboratorError} (h : r.create name layout = .error e) :
    r.topics.contains name = true := by
  unfold create at h
  split at h
  · assumption
  · cases h

theorem missing_of_delete_error {e : CollaboratorError} (h : r.delete name = .error e) :
    r.topics.contains name = false := by
  unfold delete at h
  split at h
  · cases h
  · next hmissing => exact Bool.eq_false_iff.mpr hmissing

/-- All that a use may come to. -/
inductive Effect (r : Registry) : Use → Registry → Prop
  | kept (u : Use) (hquiet : r.renews u = false)
      (hcreate : ∀ name layout, u = .create name layout → r.topics.contains name = true)
      (hdelete : ∀ name, u = .delete name → r.topics.contains name = false) : Effect r u r
  | renewed (u : Use) (hrenews : r.renews u = true) : Effect r u r.refresh
  | created (name : String) (layout : Layout) (r' : Registry) (hr : r.create name layout = .ok r') :
      Effect r (.create name layout) r'
  | deleted (name : String) (r' : Registry) (hr : r.delete name = .ok r') : Effect r (.delete name) r'

theorem use_effect (r : Registry) (u : Use) : r.Effect u (r.use u) := by
  cases u with
  | exist name force =>
      -- An unforced look renews the list just where it misses, so both tests are one.
      have hfound : (!force && r.cached.contains name) = !r.renews (.exist name force) := by simp [renews]
      rw [use, exist, hfound]
      cases hrenews : r.renews (.exist name force) with
      | false => exact .kept _ hrenews (by simp) (by simp)
      | true => exact .renewed _ hrenews
  | list force =>
      cases force with
      | false => exact .kept _ rfl (by simp) (by simp)
      | true => exact .renewed _ rfl
  | create name layout =>
      cases hr : r.create name layout with
      | ok r' =>
          rw [use, hr]
          exact .created name layout r' hr
      | error e =>
          rw [use, hr]
          refine .kept _ rfl (fun n l hu => ?_) (by simp)
          cases hu
          exact contains_of_create_error hr
  | delete name =>
      cases hr : r.delete name with
      | ok r' =>
          rw [use, hr]
          exact .deleted name r' hr
      | error e =>
          rw [use, hr]
          refine .kept _ rfl (by simp) (fun n hu => ?_)
          cases hu
          exact missing_of_delete_error hr

theorem use_list (r : Registry) (u : Use) :
    (r.use u).cached = (if r.renews u then r.topics.keys else r.cached) ∧
      (r.use u).refreshes = r.refreshes + (r.renews u).toNat := by
  have h := r.use_effect u
  generalize r.use u = r' at h ⊢
  cases h with
  | kept _ hquiet => rw [hquiet]; exact ⟨rfl, rfl⟩
  | renewed _ hrenews => rw [hrenews]; exact ⟨rfl, rfl⟩
  | created _ _ _ hr => exact create_list hr
  | deleted _ _ hr => exact delete_list hr

theorem use_topics (hrenews : r.renews u = true) : (r.use u).topics = r.topics := by
  have h := r.use_effect u
  generalize r.use u = r' at h ⊢
  cases h with
  | kept | renewed => rfl
  | created | deleted => cases hrenews

theorem contains_use (r : Registry) (u : Use) (name : String) : (r.use u).topics.contains name ↔
    (r.topics.contains name ∧ u ≠ .delete name) ∨ ∃ layout, u = .create name layout := by
  have h := r.use_effect u
  generalize r.use u = r' at h ⊢
  cases h with
  | kept _ _ hcreate hdelete =>
      refine ⟨fun hname => .inl ⟨hname, fun hu => ?_⟩, ?_⟩
      · rw [hdelete name hu] at hname
        cases hname
      · rintro (⟨hname, -⟩ | ⟨layout, hu⟩)
        · exact hname
        · exact hcreate name layout hu
  | renewed _ hrenews =>
      refine ⟨fun hname => .inl ⟨hname, ?_⟩, ?_⟩
      · rintro rfl
        cases hrenews
      · rintro (⟨hname, -⟩ | ⟨layout, rfl⟩)
        · exact hname
        · cases hrenews
  | created other layout _ hr =>
      rw [create_contains hr]
      by_cases hname : name = other
      · simp [hname]
      · simp [hname, Ne.symm hname]
  | deleted other _ hr =>
      rw [delete_contains hr]
      by_cases hname : name = other
      · simp [hname]
      · simp [hname, Ne.symm hname]

theorem after_append (r : Registry) (uses later : List Use) :
    r.after (uses ++ later) = (r.after uses).after later := List.foldl_append

theorem after_refreshes (r : Registry) (uses : List Use) :
    (r.after uses).refreshes = r.refreshes + r.renewals uses := by
  induction uses generalizing r with
  | nil => rfl
  | cons u rest ih =>
      have hrest : (r.after (u :: rest)).refreshes = (r.use u).refreshes + (r.use u).renewals rest := ih (r.use u)
      rw [hrest, (r.use_list u).2, Nat.add_assoc]
      rfl

theorem after_cached (h : r.renewals uses = 0) : (r.after uses).cached = r.cached := by
  induction uses generalizing r with
  | nil => rfl
  | cons u rest ih =>
      obtain ⟨hu, hrest⟩ := Nat.add_eq_zero_iff.mp h
      have hquiet : r.renews u = false := by simpa using hu
      have hlast : (r.after (u :: rest)).cached = (r.use u).cached := ih hrest
      rw [hlast, (r.use_list u).1, hquiet]
      rfl

/-- A topic is there at the end if it was made, at first or by a creation, and not deleted after that. -/
theorem contains_after (r : Registry) (uses : List Use) (name : String) : (r.after uses).topics.contains name ↔
    (r.topics.contains name ∧ .delete name ∉ uses) ∨
      ∃ before layout since, uses = before ++ .create name layout :: since ∧ .delete name ∉ since := by
  -- Along the uses, with the registry free: the first use either spares the name or makes it.
  induction uses generalizing r with
  | nil => simp [after]
  | cons u rest ih =>
      have hrest : (r.after (u :: rest)).topics.contains name ↔ ((r.use u).after rest).topics.contains name := Iff.rfl
      rw [hrest, ih, contains_use]
      constructor
      · rintro (⟨⟨hname, hu⟩ | ⟨layout, rfl⟩, hdelete⟩ | ⟨before, layout, since, rfl, hdelete⟩)
        · exact .inl ⟨hname, by simp [Ne.symm hu, hdelete]⟩
        · exact .inr ⟨[], layout, rest, rfl, hdelete⟩
        · exact .inr ⟨u :: before, layout, since, rfl, hdelete⟩
      · rintro (⟨hname, hdelete⟩ | ⟨before, layout, since, hsplit, hdelete⟩)
        · rw [List.mem_cons, not_or] at hdelete
          obtain ⟨hu, hrest⟩ := hdelete
          exact .inl ⟨.inl ⟨hname, Ne.symm hu⟩, hrest⟩
        · cases before with
          | nil =>
              cases hsplit
              exact .inl ⟨.inr ⟨layout, rfl⟩, hdelete⟩
          | cons v before =>
              cases hsplit
              exact .inr ⟨before, layout, since, rfl, hdelete⟩

theorem renewals_cases (r : Registry) (uses : List Use) :
    r.renewals uses = 0 ∨ ∃ before u since, LastRenewal r uses before u since := by
  induction uses generalizing r with
  | nil => exact .inl rfl
  | cons u rest ih =>
      obtain hnone | ⟨before, v, since, hlast⟩ := ih (r.use u)
      · cases hu : r.renews u with
        | false => exact .inl (by rw [renewals, hu, hnone]; rfl)
        | true => exact .inr ⟨[], u, rest, rfl, hu, hnone⟩
      · exact .inr ⟨u :: before, v, since, congrArg (u :: ·) hlast.split, hlast.renews, hlast.none_since⟩

namespace LastRenewal

variable {start : Registry}

theorem after_eq (h : LastRenewal start uses before u since) :
    start.after uses = (start.after (before ++ [u])).after since := by
  rw [← after_append, h.split, List.append_assoc]
  rfl

theorem cached (h : LastRenewal start uses before u since) :
    (start.after uses).cached = (start.after before).topics.keys := by
  have hthen : (start.after (before ++ [u])).cached = (start.after before).topics.keys := by
    rw [after_append]
    exact (use_list _ u).1.trans (if_pos h.renews)
  rw [h.after_eq, after_cached h.none_since, hthen]

theorem deleted (h : LastRenewal start uses before u since) (hthen : (start.after before).topics.contains name)
    (hnow : (start.after uses).topics.contains name = false) : .delete name ∈ since := by
  by_contra hkept
  have htopics : (start.after (before ++ [u])).topics = (start.after before).topics := by
    rw [after_append]
    exact use_topics h.renews
  have hstill := (contains_after (start.after (before ++ [u])) since name).mpr (.inl ⟨htopics ▸ hthen, hkept⟩)
  rw [← h.after_eq, hnow] at hstill
  cases hstill

end LastRenewal

theorem made_cached (saved : Option (NameMap Layout)) : (made saved).cached = [] := by
  cases saved <;> rfl

theorem made_refreshes (saved : Option (NameMap Layout)) : (made saved).refreshes = 0 := by
  cases saved <;> rfl

theorem cached_cases (saved : Option (NameMap Layout)) (uses : List Use) :
    ((made saved).renewals uses = 0 ∧ ((made saved).after uses).cached = []) ∨
    ∃ before u since, LastRenewal (made saved) uses before u since ∧
      ((made saved).after uses).cached = ((made saved).after before).topics.keys := by
  obtain hnone | ⟨before, u, since, hlast⟩ := renewals_cases (made saved) uses
  · exact .inl ⟨hnone, (after_cached hnone).trans (made_cached saved)⟩
  · exact .inr ⟨before, u, since, hlast, hlast.cached⟩

/-- In every run of a registry, new or with saved topics: a forced check tells whether the name has a
topic. Any other check finds every topic, and a name without a topic exactly if it had one when the list
was last renewed; this topic has been deleted since. A forced list has the topics of now, and any other
those of the last renewal, or none before the first, both in ascending order. The count of refreshes is
that of the renewals: one more for each use that is forced and each check that misses a name, and for
nothing else. -/
theorem cached_as_of_renewal (saved : Option (NameMap Layout)) (uses : List Use) :
    let start := made saved
    let r := start.after uses
    (∀ name, (r.exist name true).1 = r.topics.contains name ∧
      (r.topics.contains name = true → (r.exist name false).1 = true) ∧
      (r.topics.contains name = false → ((r.exist name false).1 = true ↔
        ∃ before u since, LastRenewal start uses before u since ∧
          (start.after before).topics.contains name = true ∧ .delete name ∈ since))) ∧
    (r.list true).1 = r.topics.keys ∧ (r.list true).1.Pairwise (· < ·) ∧
    ((start.renewals uses = 0 ∧ (r.list false).1 = []) ∨
      ∃ before u since, LastRenewal start uses before u since ∧
        (r.list false).1 = (start.after before).topics.keys) ∧
    (r.list false).1.Pairwise (· < ·) ∧
    r.refreshes = start.renewals uses ∧
    ∀ u, (r.use u).refreshes = if r.renews u then r.refreshes + 1 else r.refreshes := by
  intro start r
  have hlisted : (r.list false).1 = r.cached := rfl
  have hcached := cached_cases saved uses
  refine ⟨fun name => ⟨?_, fun hlive => ?_, fun hmissing => ?_⟩, rfl, r.topics.keys_ascending, hcached, ?_, ?_,
    fun u => ?_⟩
  · rw [exist_forced]
  · rw [exist_lenient, knows, hlive, Bool.or_true]
  -- A missing topic is known only by its name in the list, which the last renewal saw alive.
  · rw [exist_lenient, knows, hmissing, Bool.or_false, List.contains_iff_mem]
    constructor
    · intro hname
      obtain ⟨-, hnone⟩ | ⟨before, u, since, hlast, hkeys⟩ := hcached
      · rw [hnone] at hname
        cases hname
      · rw [hkeys, ← Table.contains_iff_mem_keys] at hname
        exact ⟨before, u, since, hlast, hname, hlast.deleted hname hmissing⟩
    · rintro ⟨before, u, since, hlast, hthen, -⟩
      rw [hlast.cached, ← Table.contains_iff_mem_keys]
      exact hthen
  · obtain ⟨-, hnone⟩ | ⟨before, u, since, -, hkeys⟩ := hcached
    · rw [hlisted, hnone]
      exact .nil
    · rw [hlisted, hkeys]
      exact Table.keys_ascending _
  · rw [after_refreshes, made_refreshes, Nat.zero_add]
  · rw [(r.use_list u).2]
    cases r.renews u <;> rfl

/-- A name is listed after its topic was deleted, and after a forced check it is not. -/
example :
    let r := (made none).after [.create "a" ⟨1, 1⟩, .exist "a" true, .delete "a"]
    (r.exist "a" false).1 = true ∧ (r.exist "a" true).1 = false ∧
      ((r.exist "a" true).2.exist "a" false).1 = false := by decide +kernel

end Registry

end ManagedQueue
