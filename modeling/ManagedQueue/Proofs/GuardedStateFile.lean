import ManagedQueue.Proofs.FailedCommands
import ManagedQueue.Proofs.StateFileRuns

namespace ManagedQueue

open CommandLine (Command)

namespace Host

variable {gone : String → Prop} {h : Host} {r : Request}

theorem visit_snapshot (r : Request) (h : Host) :
    (visit r h).site.backend.snapshot = (perform r h).2.site.backend.snapshot := (shutdown_spares _).snapshot

/-- Nobody holds the lock when an idle host is shut down after a request, so all sessions are closed. -/
theorem Idle.visit_sessions (hi : h.Idle gone) (r : Request) : (visit r h).service.sessions = ∅ := by
  have hsound : (Host.perform r h).2.Sound := hi.sound.step (.request r)
  have hfree := hsound.lock_free_of_alone (hi.perform_alone r)
  have hd := shutdown_shutsDown (Host.perform r h).2
  unfold visit
  generalize shutdown (Host.perform r h).2 = out at hd ⊢
  rcases out with ⟨answer, h'⟩
  cases hd with
  | busy howner => exact absurd (by rw [hfree]) howner
  | done => rfl

end Host

theorem outcome_failed {p : Presentation} {c : Command} {answer : Outcome} {e : ProgramError}
    (h : outcome p c (some answer) = .error e) (a : Answer) : answer ≠ .ready (.ok a) := by
  rintro rfl
  cases h

/-- The command has failed and left the state as it was, but for the offset of a group whose receive had
to wait. -/
inductive LeftAlone (c : Command) (e : ProgramError) (before : Snapshot) : Snapshot → Prop
  | same : LeftAlone c e before before
  | begun (queue group timeout) (hc : c = .receive queue group timeout)
      (he : e = .receiveTimeout queue group timeout)
      (hnew : Transport.offset? before.offsets queue group = none) :
      LeftAlone c e before (before.begin queue group)

theorem failed_leftAlone {now : Int64} {c : Command} {r : Request} (hr : c.request? now = some r)
    (s : Snapshot) (clock : Int64) {settings : Settings} (hbrokers : settings.brokers ≠ [])
    {p : Presentation} {e : ProgramError} :
    let k := Host.newcomer s clock settings
    outcome p c (some (Host.perform r k).1) = .error e →
      LeftAlone c e k.site.backend.snapshot (Host.perform r k).2.site.backend.snapshot := by
  intro k hfailed
  obtain hsame | ⟨queue, group, rfl, hpending, hnew, hbegun⟩ :=
    Host.failed_snapshot s clock hbrokers (commanded_of_request hr) (outcome_failed hfailed)
  · rw [hsame]
    exact .same
  · obtain ⟨timeout, rfl⟩ := command_of_receive hr
    rw [hpending] at hfailed
    rw [hbegun]
    exact .begun queue group timeout rfl (Except.error.inj hfailed).symm hnew

/-- For every command that asks something of the service, every configuration, every way of logging and
every content of the state file, where writing a file may be refused. With an invalid configuration, and
with a file from which no state can be loaded, the run fails and changes nothing. Otherwise the service
of the command has the state that was loaded. Afterwards no service is installed and no session is left,
and the run ends with a file of what the command has left, or with an error if that cannot be written. A
command that fails has left what there was. If the log is elsewhere, the state is loaded as of now, and
nothing but a refusal keeps a file that is there or is free from being written. -/
theorem state_file_guarded (refused : String → Option FileFault) (log : Journal → StateM Machine Unit)
    (setting : Setting) (path : String) (m : Machine) (c : Command) (r : Request)
    (hpath : setting.stateFile = some path) (hr : c.request? m.now = some r) :
    let run := execute (Machine.refusing refused) log setting c m
    (∀ fault, setting.configuration.fault? = some fault →
      run = (.error (.invalidConfiguration fault.message), m)) ∧
    (setting.configuration.fault? = none → m.stored? path = none → ∃ e, run = (.error (.state e), m)) ∧
    ∀ s, setting.configuration.fault? = none → m.stored? path = some s →
      ∃ loaded : Machine,
        let k := loaded.newcomer s setting
        let told := outcome setting.presentation c (some (Host.perform r k).1)
        let left := (Host.perform r k).2.site.backend.snapshot
        (∃ server served, serve (Machine.refusing refused) setting c r (s.restore loaded.now) loaded =
            ((told, server), served) ∧
          server.site.backend.snapshot = left ∧ server.installed = none ∧
          ∀ n service, server.services.get? n = some service → service.sessions = ∅) ∧
        Machine.Ends refused path left told run ∧
        (∀ e, told = .error e → LeftAlone c e (s.restore loaded.now).snapshot left) ∧
        (Machine.LogsAside path log → ∀ e, m.files.find path = .ok e → loaded.now = m.now ∧
          (refused path = none → run.1 = told ∧
            run.2.files.find path = .ok (some (.file (Text.toBytes left.write))))) := by
  intro run
  refine ⟨fun fault hfault => Machine.execute_invalid refused log hfault hr,
    fun hvalid => Machine.execute_unloaded refused log hpath hvalid hr, fun s hvalid hstored => ?_⟩
  obtain ⟨journal, server, served, hserve, hleft, -, hrun⟩ :=
    Machine.execute_run refused log setting hpath hvalid hr hstored
  have hbrokers := Configuration.brokers_of_valid hvalid
  have hidle : Host.Idle (fun _ => False) (Machine.newcomer (log journal m).2 s setting) :=
    Host.newcomer_idle s _ hbrokers
  have hsnapshot := Host.visit_snapshot r (Machine.newcomer (log journal m).2 s setting)
  rw [← hleft.site] at hsnapshot
  refine ⟨(log journal m).2, ⟨server, served, hserve, hsnapshot, hleft.installed, ?_⟩, ?_,
    fun e => failed_leftAlone hr s _ hbrokers, fun hlog e hfound => ?_⟩
  · intro n service hn
    rw [hleft.services n service hn]
    exact hidle.visit_sessions r
  · have hends := Machine.save_ends refused log path server.site.backend
      (outcome setting.presentation c
        (some (Host.perform r (Machine.newcomer (log journal m).2 s setting)).1))
      (log server.site.journal served).2
    rw [← hrun, hsnapshot] at hends
    exact hends
  -- A log that stays off the file leaves the clock and the file as they were, so the machine that loads is
  -- the one that was started.
  · have hnow : Machine.now (log journal m).2 = m.now := by
      rw [Machine.now, (hlog journal m.millis e m ⟨rfl, hfound⟩).1]
      rfl
    have hk : Machine.newcomer (log journal m).2 s setting = m.newcomer s setting := by
      unfold Machine.newcomer
      rw [hnow]
    refine ⟨hnow, fun hopen => ?_⟩
    obtain ⟨n, hsaved, hwritten⟩ :=
      Machine.execute_saves refused setting hlog hopen hpath hvalid hr hstored hfound
    rw [← hk] at hsaved hwritten
    rw [Host.visit_snapshot] at hwritten
    have hrun : run = _ := hsaved
    rw [hrun]
    exact ⟨rfl, hwritten⟩

/-- Where nothing can be written, a command that fails tells its own error and any other that of the
file. -/
theorem state_file_refused :
    let setting : Setting := ⟨{}, some "state.json", .text false, {}⟩
    let logger : Logger := ⟨⟨[], []⟩, {}, none⟩
    let run (c : Command) := (execute (Machine.refusing fun _ => some (.other "No space left"))
      (logger.log Machine.surroundings) setting c { millis := 0 }).1
    run (.deleteQueue "ghost") = .error (.service (.notFound "DeleteQueue" "ghost" none)) ∧
      ∃ e, run (.createQueue "orders") = .error (.state e) := by
  intro setting logger run
  have hlog : Machine.LogsAside "state.json" (logger.log Machine.surroundings) :=
    Machine.logsAside_of_apart logger fun _ hfile => by cases hfile
  have hfound : ({ millis := 0 } : Machine).files.find "state.json" = .ok none := by decide +kernel
  -- The command is served by a newcomer with an empty store at the time 0.
  have hends (c : Command) (r : Request) (hr : c.request? 0 = some r) :
      ∃ last ending, Machine.Ends (fun _ => some (.other "No space left")) "state.json" last
        (outcome (.text false) c (some (Host.perform r (Host.newcomer {} 0 setting.configuration.settings)).1))
        (run c, ending) := by
    obtain ⟨-, -, hserved⟩ := state_file_guarded (fun _ => some (.other "No space left"))
      (logger.log Machine.surroundings) setting "state.json" { millis := 0 } c r rfl hr
    obtain ⟨loaded, -, hends, -, haside⟩ := hserved {} (by decide) (by decide +kernel)
    have hnow : loaded.now = 0 := (haside hlog none hfound).1
    unfold Machine.newcomer at hends
    rw [hnow] at hends
    exact ⟨_, _, hends⟩
  constructor
  · obtain ⟨last, ending, hghost⟩ := hends (.deleteQueue "ghost") _ rfl
    have htold : outcome (.text false) (.deleteQueue "ghost") (some (Host.perform (.deleteQueue "ghost")
        (Host.newcomer {} 0 setting.configuration.settings)).1) =
          .error (.service (.notFound "DeleteQueue" "ghost" none)) := by decide +kernel
    rw [htold] at hghost
    generalize run (.deleteQueue "ghost") = result at hghost ⊢
    cases hghost with
    | written => rfl
    | unsaved _ _ _ _ hok => cases hok
    | failed _ _ _ _ herror => exact herror.symm
  · obtain ⟨last, ending, hcreated⟩ := hends (.createQueue "orders") _ rfl
    have htold : outcome (.text false) (.createQueue "orders") (some (Host.perform (.createQueue "orders")
        (Host.newcomer {} 0 setting.configuration.settings)).1) = .ok "Created queue orders" := by decide +kernel
    rw [htold] at hcreated
    generalize run (.createQueue "orders") = result at hcreated ⊢
    cases hcreated with
    | written _ hopen => cases hopen
    | unsaved => exact ⟨_, rfl⟩
    | failed _ _ _ _ herror => cases herror

end ManagedQueue
