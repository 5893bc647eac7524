import ManagedQueue.Proofs.StateFiles

namespace ManagedQueue

open CommandLine (Command)

/-- A command, the time at which it is given, and how its answer is to be shown. -/
structure Order where
  millis : Int
  presentation : Presentation
  command : Command

namespace Order

def now (o : Order) : Int64 := Int64.ofInt (o.millis.fdiv 1000)

def isReceive (queue group : String) (o : Order) : Bool :=
  match o.command with
  | .receive q g _ => q = queue ∧ g = group
  | _ => false

end Order

/-- Each command is a program of its own. -/
def executeAll (log : Journal → StateM Machine Unit) (s : Setting) :
    List Order → StateM Machine (List (Except ProgramError String))
  | [] => return []
  | o :: rest => do
    modify fun machine => { machine with millis := o.millis }
    let result ← execute Machine.surroundings log { s with presentation := o.presentation } o.command
    return result :: (← executeAll log s rest)

namespace Host

/-- The command at a service that is up. -/
def dispatch (b : Build) (o : Order) : HostM (Except ProgramError String) :=
  match o.command.request? o.now with
  | none => return .ok b.versionLine
  | some r => do
    discard (onSite (Site.apply (.clock o.now)))
    return outcome o.presentation o.command (some (← perform r))

def dispatchAll (b : Build) : List Order → HostM (List (Except ProgramError String))
  | [] => return []
  | o :: rest => do
    let result ← dispatch b o
    return result :: (← dispatchAll b rest)

end Host

/-- The results of one command, first at the service that stays up. -/
inductive SameResult (gone : String → Prop) :
    Command → Except ProgramError String → Except ProgramError String → Prop
  | same (c result) : SameResult gone c result result
  | send (queue group message) (hgone : gone queue) : SameResult gone (.send queue group message)
      (.error (.service (.collaborator "SendMessage" queue (some group) (.missingTopic queue))))
      (.error (.service (.notFound "SendMessage" queue none)))
  | receive (queue group timeout) (hgone : gone queue) : SameResult gone (.receive queue group timeout)
      (.error (.service (.collaborator "ReceiveMessage" queue (some group) (.missingTopic queue))))
      (.error (.service (.notFound "ReceiveMessage" queue none)))

/-- One of the commands before this one has deleted the queue. -/
def DeletedBefore (orders : List Order) (results : List (Except ProgramError String)) (i : Nat)
    (queue : String) : Prop :=
  ∃ j < i, ∃ o text, orders[j]? = some o ∧ o.command = .deleteQueue queue ∧ results[j]? = some (.ok text)

section Requests

variable {now : Int64} {c : Command} {r : Request}

theorem commanded_of_request (hr : c.request? now = some r) : r.commanded := by
  cases c <;> cases hr <;> rfl

theorem command_of_send {queue group : String} {payload : Payload}
    (hr : c.request? now = some (.send queue group payload)) : ∃ message, c = .send queue group message := by
  cases c <;> cases hr
  exact ⟨_, rfl⟩

theorem command_of_receive {queue group : String} (hr : c.request? now = some (.receive queue group)) :
    ∃ timeout, c = .receive queue group timeout := by
  cases c <;> cases hr
  exact ⟨_, rfl⟩

theorem Order.isReceive_of_request {o : Order} (hr : o.command.request? o.now = some r)
    (queue group : String) : (if r = .receive queue group then 1 else 0) ≤
      if o.isReceive queue group then 1 else 0 := by
  split
  · next hreceive =>
    subst hreceive
    obtain ⟨timeout, hcommand⟩ := command_of_receive hr
    simp [isReceive, hcommand]
  · exact Nat.zero_le _

theorem command_of_delete {queue : String} (hr : c.request? now = some (.deleteQueue queue)) :
    c = .deleteQueue queue := by
  cases c <;> cases hr
  rfl

end Requests

namespace SameResult

variable {gone later : String → Prop} {c : Command} {a b : Except ProgramError String}

theorem mono (h : SameResult gone c a b) (hlater : ∀ queue, gone queue → later queue) :
    SameResult later c a b := by
  cases h with
  | same => exact .same _ _
  | send queue group message hgone => exact .send queue group message (hlater queue hgone)
  | receive queue group timeout hgone => exact .receive queue group timeout (hlater queue hgone)

theorem of_agree {now : Int64} {r : Request} {answer other : Outcome} (hr : c.request? now = some r)
    (h : Agree gone r answer other) (p : Presentation) :
    SameResult gone c (outcome p c (some answer)) (outcome p c (some other)) := by
  cases h with
  | same => exact .same _ _
  | send queue group payload hgone =>
      obtain ⟨message, rfl⟩ := command_of_send hr
      exact .send queue group message hgone
  | receive queue group hgone =>
      obtain ⟨timeout, rfl⟩ := command_of_receive hr
      exact .receive queue group timeout hgone

end SameResult

namespace Host

theorem dispatch_version {b : Build} {o : Order} (hr : o.command.request? o.now = none) (h : Host) :
    dispatch b o h = (.ok b.versionLine, h) := by
  unfold dispatch
  rw [hr]
  rfl

theorem dispatch_request {b : Build} {o : Order} {r : Request} (hr : o.command.request? o.now = some r)
    (h : Host) : dispatch b o h =
      (outcome o.presentation o.command (some (perform r (onSite (Site.apply (.clock o.now)) h).2).1),
        (perform r (onSite (Site.apply (.clock o.now)) h).2).2) := by
  unfold dispatch
  rw [hr]
  rfl

end Host

/-- A service that stays up, beside the machine on which its commands are executed one by one. -/
structure Abreast (gone : String → Prop) (path : String) (setting : Setting) (s : Snapshot) (h : Host)
    (m : Machine) : Prop where
  mirrored : h.Mirrored gone s
  settings : h.service.settings = setting.configuration.settings
  saved : Machine.Saved s (m.files.find path)

namespace Abreast

variable {gone : String → Prop} {path : String} {log : Journal → StateM Machine Unit} {setting : Setting}
variable {s : Snapshot} {h : Host} {m : Machine}

/-- The command is a program of its own on the machine. -/
def next (log : Journal → StateM Machine Unit) (setting : Setting) (o : Order) (m : Machine) :
    Except ProgramError String × Machine :=
  execute Machine.surroundings log { setting with presentation := o.presentation } o.command
    { m with millis := o.millis }

theorem step (ha : Abreast gone path setting s h m) (hlog : Machine.LogsAside path log)
    (hpath : setting.stateFile = some path) (hvalid : setting.configuration.fault? = none) (o : Order)
    (hfew : ∀ queue group, (s.kept queue group).2 + (if o.isReceive queue group then 1 else 0) < UInt64.size) :
    SameResult gone o.command (Host.dispatch setting.build o h).1 (next log setting o m).1 ∧
    ∃ later saved, Abreast later path setting saved (Host.dispatch setting.build o h).2
        (next log setting o m).2 ∧
      (∀ queue, later queue → gone queue ∨
        o.command = .deleteQueue queue ∧ ∃ text, (Host.dispatch setting.build o h).1 = .ok text) ∧
      ∀ queue group, (saved.kept queue group).2 ≤
        (s.kept queue group).2 + if o.isReceive queue group then 1 else 0 := by
  cases hr : o.command.request? o.now with
  | none =>
      have hnext : next log setting o m = (.ok setting.build.versionLine, { m with millis := o.millis }) :=
        Machine.execute_version hr
      rw [Host.dispatch_version hr, hnext]
      exact ⟨.same _ _, gone, s, ⟨ha.mirrored, ha.settings, ha.saved⟩, fun _ => .inl,
        fun _ _ => Nat.le_add_right _ _⟩
  | some r =>
      -- The long-lived service lets the time pass, then both perform the request, the other one as a newcomer
      -- with the saved snapshot.
      let waited := (Host.onSite (Site.apply (.clock o.now)) h).2
      let k := Host.newcomer s waited.site.backend.clock waited.service.settings
      let saved := (Host.visit r k).site.backend.snapshot
      have hwaited : waited.Mirrored gone s := ha.mirrored.wait o.now
      have hcommanded := commanded_of_request hr
      obtain ⟨e, hfound⟩ := ha.saved.found
      obtain ⟨n, hrun, hwritten⟩ := Machine.execute_saves (m := { m with millis := o.millis })
        (fun _ => none) { setting with presentation := o.presentation } hlog rfl hpath hvalid hr
        (Machine.Saved.stored (m := { m with millis := o.millis }) ha.saved) hfound
      have hk : Machine.newcomer { m with millis := o.millis } s
          { setting with presentation := o.presentation } = k := by
        change Host.newcomer s o.now setting.configuration.settings = Host.newcomer s o.now h.service.settings
        rw [ha.settings]
      rw [Machine.refusing_none, hk] at hrun
      rw [hk] at hwritten
      have hnext : next log setting o m = _ := hrun
      have hkept (queue group : String) : (saved.kept queue group).2 ≤
          (s.kept queue group).2 + if o.isReceive queue group then 1 else 0 :=
        Nat.le_trans (hwaited.kept_le r queue group)
          (Nat.add_le_add_left (Order.isReceive_of_request hr queue group) _)
      rw [Host.dispatch_request hr, hnext]
      refine ⟨.of_agree hr (hwaited.renews.perform hcommanded).1 o.presentation,
        Host.Renews.Later gone r waited, saved, ⟨hwaited.perform hcommanded, ?_, ?_⟩, ?_, hkept⟩
      · exact (Host.perform_settings r waited).trans ha.settings
      · rw [hwritten]
        exact .written saved fun queue group => Nat.lt_of_le_of_lt (hkept queue group) (hfew queue group)
      · rintro queue (hgone | hdeleted)
        · exact .inl hgone
        · obtain ⟨rfl, answer, hanswer⟩ := Host.deleted_of_happenings hdeleted
          refine .inr ⟨command_of_delete hr, o.presentation.output o.command answer, ?_⟩
          change outcome o.presentation o.command (some (Host.perform _ waited).1) = _
          rw [hanswer]
          rfl

theorem run (ha : Abreast gone path setting s h m) (hlog : Machine.LogsAside path log)
    (hpath : setting.stateFile = some path) (hvalid : setting.configuration.fault? = none)
    (orders : List Order)
    (hfew : ∀ queue group, (s.kept queue group).2 + orders.countP (·.isReceive queue group) < UInt64.size)
    (i : Nat) (o : Order) (hi : orders[i]? = some o) :
    let results := (Host.dispatchAll setting.build orders h).1
    ∃ a b, results[i]? = some a ∧ (executeAll log setting orders m).1[i]? = some b ∧
      SameResult (fun queue => gone queue ∨ DeletedBefore orders results i queue) o.command a b := by
  -- Along the orders, with both machines free: what one order leaves is abreast again for the rest.
  induction orders generalizing gone s h m i with
  | nil => cases hi
  | cons first rest ih =>
      have hcount (queue group : String) : (first :: rest).countP (·.isReceive queue group) =
          rest.countP (·.isReceive queue group) + if first.isReceive queue group then 1 else 0 :=
        List.countP_cons
      obtain ⟨hsame, later, saved, hnext, hlater, hkept⟩ := ha.step hlog hpath hvalid first
        fun queue group => by
          have hbound := hfew queue group
          rw [hcount] at hbound
          omega
      cases i with
      | zero =>
          cases hi
          exact ⟨_, _, rfl, rfl, hsame.mono fun _ => .inl⟩
      | succ i =>
          obtain ⟨a, b, hlong, hbrief, hresults⟩ := ih hnext (fun queue group => by
            have hbound := hfew queue group
            have hstep := hkept queue group
            rw [hcount] at hbound
            omega) i hi
          refine ⟨a, b, hlong, hbrief, hresults.mono fun queue hgone => ?_⟩
          obtain hgone | ⟨j, hj, o', text, horder, hcommand, hresult⟩ := hgone
          · obtain hgone | ⟨hcommand, text, hresult⟩ := hlater queue hgone
            · exact .inl hgone
            · exact .inr ⟨0, Nat.succ_pos i, first, text, rfl, hcommand, congrArg some hresult⟩
          · exact .inr ⟨j + 1, Nat.succ_lt_succ hj, o', text, horder, hcommand, hresult⟩

end Abreast

theorem Configuration.brokers_of_valid {c : Configuration} (h : c.fault? = none) : c.settings.brokers ≠ [] := by
  intro hbrokers
  have hempty : c.brokers.isEmpty := List.isEmpty_iff.mpr hbrokers
  unfold fault? at h
  rw [if_pos hempty] at h
  split at h
  · cases h
  · split at h <;> cases h

/-- With a valid configuration and a state file that is not there yet, for every list of commands at any
times: executing each with the state file gives the results of giving all of them to one service over an
empty backend. Both fail alike, unless a message is sent to or received from a queue that a command
before has deleted. The state file counts messages in 64-bit words, so no group may ask for more. -/
theorem state_file_transparent (log : Journal → StateM Machine Unit) (setting : Setting) (path : String)
    (machine : Machine) (clock : Int64) (orders : List Order) (hlog : Machine.LogsAside path log)
    (hpath : setting.stateFile = some path) (hvalid : setting.configuration.fault? = none)
    (hmissing : machine.files.find path = .ok none)
    (hfew : ∀ queue group, orders.countP (·.isReceive queue group) < UInt64.size) :
    let service : Host := ⟨{ backend := .fresh clock }, { settings := setting.configuration.settings }⟩
    let results := (Host.dispatchAll setting.build orders service).1
    ∀ i o, orders[i]? = some o →
      ∃ a b, results[i]? = some a ∧ (executeAll log setting orders machine).1[i]? = some b ∧
        SameResult (DeletedBefore orders results i) o.command a b := by
  intro service results i o hi
  have hbegin : Abreast (fun _ => False) path setting {} service machine :=
    ⟨.fresh (Configuration.brokers_of_valid hvalid) clock, rfl, hmissing ▸ .missing⟩
  obtain ⟨a, b, ha, hb, hsame⟩ := hbegin.run hlog hpath hvalid orders
    (fun queue group => (Nat.zero_add _).symm ▸ hfew queue group) i o hi
  exact ⟨a, b, ha, hb, hsame.mono fun queue hgone => hgone.resolve_left id⟩

/-- A message is kept from one program to the next, and only until its queue is deleted. -/
theorem state_file_keeps_message :
    let orders : List Order := [⟨0, .text false, .createQueue "q"⟩, ⟨1000, .text false, .send "q" "g" "hello"⟩,
      ⟨2000, .text false, .receive "q" "g" 1⟩, ⟨3000, .text false, .deleteQueue "q"⟩,
      ⟨4000, .text false, .receive "q" "g" 1⟩]
    let setting : Setting := ⟨{}, some "state.json", .text false, {}⟩
    let logger : Logger := ⟨⟨[], []⟩, {}, none⟩
    let executed := (executeAll (logger.log Machine.surroundings) setting orders { millis := 0 }).1
    executed[2]? = some (.ok "hello") ∧ ∃ e, executed[4]? = some (.error e) := by
  intro orders setting logger executed
  have hsame := state_file_transparent (logger.log Machine.surroundings) setting "state.json" { millis := 0 } 0
    orders (Machine.logsAside_of_apart logger fun _ hfile => by cases hfile) rfl (by decide)
    (by decide +kernel) fun queue group => Nat.lt_of_le_of_lt List.countP_le_length (by decide)
  dsimp only at hsame
  constructor
  · obtain ⟨a, b, ha, hb, hab⟩ := hsame 2 _ rfl
    have hlong : (Host.dispatchAll setting.build orders ⟨{ backend := .fresh 0 },
        { settings := setting.configuration.settings }⟩).1[2]? = some (.ok "hello") := by decide +kernel
    rw [hlong] at ha
    cases ha
    cases hab
    exact hb
  · obtain ⟨a, b, ha, hb, hab⟩ := hsame 4 _ rfl
    have hlong : (Host.dispatchAll setting.build orders ⟨{ backend := .fresh 0 },
        { settings := setting.configuration.settings }⟩).1[4]? = some (.error (.service
          (.collaborator "ReceiveMessage" "q" (some "g") (.missingTopic "q")))) := by decide +kernel
    rw [hlong] at ha
    cases ha
    cases hab
    · exact ⟨_, hb⟩
    · exact ⟨_, hb⟩

end ManagedQueue
