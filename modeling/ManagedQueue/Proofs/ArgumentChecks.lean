import ManagedQueue.Proofs.HostMoves

namespace ManagedQueue

namespace Operation

variable {α β : Type}

/-- Whether an argument is refused does not depend on the site, and no collaborator is called then. -/
def ChecksFirst (x : Operation α) : Prop :=
  ∀ s message, (x s).1 = .error (.invalidArgument message) →
    ∀ t, x t = (.error (.invalidArgument message), t)

/-- No argument is refused. -/
def Accepts (x : Operation α) : Prop := ∀ s message, (x s).1 ≠ .error (.invalidArgument message)

namespace Accepts

theorem pure (a : α) : Accepts (Pure.pure a : Operation α) := fun _ _ h => by cases h

theorem throw {e : ServiceError} (he : ∀ message, e ≠ .invalidArgument message) :
    Accepts (MonadExcept.throw e : Operation α) := by
  intro s message h
  cases h
  exact he message rfl

theorem bind {x : Operation α} {f : α → Operation β} (hx : Accepts x) (hf : ∀ a, Accepts (f a)) :
    Accepts (x >>= f) := by
  intro s message
  rw [bind_run]
  rcases hr : x s with ⟨e | a, t⟩
  · intro h
    cases h
    exact hx s message (by rw [hr])
  · exact hf a t message

theorem note (level : Level) (component : Component) (text : String) :
    Accepts (Operation.note level component text) := fun _ _ h => by cases h

variable {failed : CollaboratorError → ServiceError}

theorem call (c : Call) (hfailed : ∀ e message, failed e ≠ .invalidArgument message)
    (task : Task (Except CollaboratorError α)) : Accepts (call c failed task) := by
  intro s message
  rw [call_run]
  rcases attempt c task s with ⟨e | a, t⟩
  · intro h
    exact hfailed e message (Except.error.inj h)
  · simp

theorem ask (c : Call) (hfailed : ∀ e message, failed e ≠ .invalidArgument message) (task : Task α) :
    Accepts (ask c failed task) := call c hfailed _

theorem requireTopic (freshness : Freshness) (operation queue : String) :
    Accepts (requireTopic freshness operation queue) := by
  refine bind (ask _ (by simp) _) fun found => ?_
  split
  · exact pure _
  · exact throw (by simp)

theorem checksFirst {x : Operation α} (hx : Accepts x) : ChecksFirst x :=
  fun s message h => absurd h (hx s message)

end Accepts

/-- The answer does not depend on the site. -/
def Settled (x : Operation α) : Prop := ∃ answer, ∀ s, x s = (answer, s)

theorem requireName_settled (kind value : String) : Settled (requireName kind value) := by
  unfold requireName
  split
  · exact ⟨_, fun _ => rfl⟩
  · exact ⟨_, fun _ => rfl⟩

theorem requireWindow_settled (w : Window) : Settled (Volume.requireWindow w) := by
  unfold Volume.requireWindow
  split
  · exact ⟨_, fun _ => rfl⟩
  · exact ⟨_, fun _ => rfl⟩

namespace ChecksFirst

theorem after {x : Operation α} {f : α → Operation β} (hx : Settled x)
    (hf : ∀ a, ChecksFirst (f a)) : ChecksFirst (x >>= f) := by
  obtain ⟨answer, hanswer⟩ := hx
  have hrun (s : Site) : (x >>= f) s = match answer with
      | .ok a => f a s
      | .error e => (.error e, s) := by
    rw [bind_run, hanswer]
    cases answer <;> rfl
  intro s message h t
  rw [hrun] at h ⊢
  cases answer with
  | error e =>
      cases h
      rfl
  | ok a => exact hf a s message h t

theorem bind {x : Operation α} {f : α → Operation β} (hx : ChecksFirst x) (hf : ∀ a, Accepts (f a)) :
    ChecksFirst (x >>= f) := by
  intro s message h t
  have hfirst : (x s).1 = .error (.invalidArgument message) := by
    rcases hr : x s with ⟨e | a, u⟩
    · rw [bind_of_error hr] at h
      exact congrArg Except.error (Except.error.inj h)
    · rw [bind_of_ok hr] at h
      exact absurd h (hf a u message)
  exact bind_of_error (hx s message hfirst t) f

end ChecksFirst

end Operation

open Operation

namespace Lifecycle

theorem recordNew_checksFirst (queue : String) : ChecksFirst (recordNew queue) := by
  refine .after (requireName_settled _ _) fun _ => Accepts.checksFirst ?_
  refine .bind (.ask _ (by simp) _) fun found => ?_
  split
  · exact .throw (by simp)
  · refine .bind (.ask _ (by simp) _) fun recorded => ?_
    split
    · exact .throw (by simp)
    · exact .call _ (by simp) _

theorem unrecord_checksFirst (queue : String) : ChecksFirst (unrecord queue) := by
  refine .after (requireName_settled _ _) fun _ => Accepts.checksFirst ?_
  refine .bind (.requireTopic _ _ _) fun _ => .bind (.ask _ (by simp) _) fun recorded => ?_
  split
  · exact .throw (by simp)
  · exact .call _ (by simp) _

theorem secondWrite_accepts (c : Call) (op queue : String) (task : Task (Except CollaboratorError Unit))
    (complaint : CollaboratorError → String) (report : String) :
    Accepts (secondWrite c op queue task complaint report) := by
  intro s message
  unfold secondWrite
  rw [lift_bind_run]
  rcases attempt c task s with ⟨e | ⟨⟩, t⟩
  · exact Accepts.bind (.note _ _ _) (fun _ => .throw (by simp)) t message
  · exact Accepts.note _ _ _ t message

theorem create_checksFirst (settings : Settings) (queue : String) : ChecksFirst (create settings queue) :=
  (recordNew_checksFirst queue).bind fun _ => secondWrite_accepts _ _ _ _ _ _

theorem delete_checksFirst (settings : Settings) (queue : String) : ChecksFirst (delete settings queue) :=
  (unrecord_checksFirst queue).bind fun _ => secondWrite_accepts _ _ _ _ _ _

theorem update_checksFirst (queue : String) : ChecksFirst (update queue) :=
  .after (requireName_settled _ _) fun _ => Accepts.checksFirst (.requireTopic _ _ _)

theorem groupConfigs_accepts (op queue : String) (groups : List String) :
    Accepts (groupConfigs op queue groups) := by
  induction groups with
  | nil => exact .pure _
  | cons group groups ih =>
      refine .bind (.ask _ (by simp) _) fun found => ?_
      cases found with
      | some record => exact .bind ih fun _ => .pure _
      | none => exact .bind (.note _ _ _) fun _ => ih

theorem queueInfo_accepts (op queue : String) (groups : List GroupConfig) :
    Accepts (queueInfo op queue groups) :=
  .bind (.call _ (by simp) _) fun _ => .pure _

theorem queueInfos_accepts (op : String) (index : List (String × List String)) :
    Accepts (queueInfos op index) := by
  induction index with
  | nil => exact .pure _
  | cons entry rest ih =>
      refine .bind (groupConfigs_accepts op entry.1 entry.2) fun configs => ?_
      exact .bind (queueInfo_accepts op entry.1 configs) fun _ => .bind ih fun _ => .pure _

theorem lookup_accepts (queue group : String) : Accepts (lookup queue group) := by
  refine .bind (.note _ _ _) fun _ => ?_
  split
  · exact .bind (.ask _ (by simp) _) fun index => queueInfos_accepts _ _
  · split
    · refine .bind (.ask _ (by simp) _) fun index => ?_
      split
      · exact .pure _
      · exact queueInfos_accepts _ _
    · refine .bind (.ask _ (by simp) _) fun found => ?_
      split
      · refine .bind (.ask _ (by simp) _) fun record => ?_
        exact .bind (queueInfo_accepts _ _ _) fun _ => .pure _
      · exact .pure _

theorem warnAll_accepts (findings : List Finding) : Accepts (warnAll findings) := by
  induction findings with
  | nil => exact .pure _
  | cons f rest ih => exact .bind (.note _ _ _) fun _ => ih

theorem audit_accepts : Accepts audit := by
  refine .bind (.ask _ (by simp) _) fun topics => .bind (.ask _ (by simp) _) fun index => ?_
  exact .bind (warnAll_accepts _) fun _ => .pure _

end Lifecycle

namespace Groups

theorem checkNames_checksFirst (op group queue : String) : ChecksFirst (checkNames op group queue) :=
  .after (requireName_settled _ _) fun _ =>
    .after (requireName_settled _ _) fun _ => Accepts.checksFirst (.requireTopic _ _ _)

theorem add_checksFirst (group queue : String) (access : Access) : ChecksFirst (add group queue access) :=
  (checkNames_checksFirst _ _ _).bind fun _ => .bind (.call _ (by simp) _) fun _ => .note _ _ _

theorem update_checksFirst (group queue : String) (access : Access) :
    ChecksFirst (update group queue access) :=
  (checkNames_checksFirst _ _ _).bind fun _ => .bind (.call _ (by simp) _) fun _ => .note _ _ _

theorem delete_checksFirst (group queue : String) : ChecksFirst (delete group queue) :=
  (checkNames_checksFirst _ _ _).bind fun _ => .bind (.call _ (by simp) _) fun _ => .note _ _ _

theorem single_checksFirst (group queue : String) : ChecksFirst (single group queue) :=
  (checkNames_checksFirst _ _ _).bind fun _ => .bind (.ask _ (by simp) _) fun _ =>
    .bind (.note _ _ _) fun _ => .pure _

theorem queueConfigs_accepts (op group : String) (queues : List String) :
    Accepts (queueConfigs op group queues) := by
  induction queues with
  | nil => exact .pure _
  | cons queue queues ih =>
      refine .bind (.ask _ (by simp) _) fun found => ?_
      cases found with
      | some record => exact .bind ih fun _ => .pure _
      | none => exact .bind (.note _ _ _) fun _ => ih

theorem groupInfos_accepts (op : String) (index : List (String × List String)) :
    Accepts (groupInfos op index) := by
  induction index with
  | nil => exact .pure _
  | cons entry rest ih =>
      refine .bind (queueConfigs_accepts op entry.1 entry.2) fun _ => ?_
      exact .bind ih fun _ => .pure _

theorem lookup_accepts (group : String) : Accepts (lookup group) :=
  .bind (.note _ _ _) fun _ => .bind (.ask _ (by simp) _) fun _ => groupInfos_accepts _ _

end Groups

theorem Volume.query_checksFirst (direction : Direction) (queue group : String) (w : Window) :
    ChecksFirst (query direction queue group w) := by
  refine .after (requireName_settled _ _) fun _ => ?_
  extract_lets context afterNames
  have hrest (u : Unit) : ChecksFirst (afterNames u) :=
    .after (requireWindow_settled w) fun _ => Accepts.checksFirst <|
      .bind (.requireTopic _ _ _) fun _ => .bind (.call _ (by simp) _) fun _ =>
        .bind (.note .debug _ _) fun _ => .pure _
  split
  · exact .after (requireName_settled _ _) hrest
  · exact hrest ()

namespace Host

theorem send_checksFirst (queue group : String) (payload : Payload) :
    ChecksFirst (send queue group payload) := by
  refine .after (requireName_settled _ _) fun _ => .after (requireName_settled _ _) fun _ => ?_
  refine Accepts.checksFirst (.bind (.requireTopic _ _ _) fun _ => .bind (.call _ (by simp) _) fun _ => ?_)
  intro s message h
  rw [lift_bind_run] at h
  cases h

theorem checkReceive_checksFirst (queue group : String) : ChecksFirst (checkReceive queue group) :=
  .after (requireName_settled _ _) fun _ =>
    .after (requireName_settled _ _) fun _ => Accepts.checksFirst (.requireTopic _ _ _)

end Host

end ManagedQueue
