import ManagedQueue.Program.Execute
import ManagedQueue.Proofs.LikeHosts
import ManagedQueue.Proofs.SnapshotText

namespace ManagedQueue

open CommandLine (Command)

namespace Files

def find (f : Files) (path : String) : Except FileFault (Option FileEntry) := (f.place path).map f.entry?

variable {f : Files} {path : String} {place : List String} {content : Text.Bytes}

theorem get?_of_not_directory {e : Option FileEntry} (h : f.entry? place = e) (he : e ≠ some .directory) :
    f.entries.get? (keyOf place) = e ∧ place.isEmpty = false := by
  unfold entry? at h
  split at h
  · exact absurd h.symm he
  · next hplace => exact ⟨h, Bool.eq_false_iff.mpr hplace⟩

theorem found_put (hplace : place.isEmpty = false) (e : FileEntry) :
    Files.entry? (f.put place e) place = some e := by
  unfold entry?
  rw [hplace, if_neg (by simp)]
  exact Table.get?_insert_self _ _ _

theorem enter_put (h : f.entry? place ≠ some .directory) {above : List String}
    (habove : f.enter above = .ok ()) : (f.put place (.file content)).enter above = .ok () := by
  have hdirectory : f.entry? above = some .directory := by
    unfold enter at habove
    split at habove
    · assumption
    · cases habove
    · cases habove
  have hafter : Files.entry? (f.put place (.file content)) above = some .directory := by
    unfold entry? at hdirectory ⊢
    split
    · rfl
    · next hnonempty =>
      rw [if_neg hnonempty] at hdirectory
      have hkey : keyOf above ≠ keyOf place := by
        intro hkey
        rw [hkey, (get?_of_not_directory rfl h).1] at hdirectory
        exact h hdirectory
      exact (Table.get?_insert _ _ _ _).trans ((if_neg hkey).trans hdirectory)
  unfold enter
  rw [hafter]

theorem walk_put (h : f.entry? place ≠ some .directory) {above : List String} {parts last : List String}
    (hwalk : f.walk above parts = .ok last) : (f.put place (.file content)).walk above parts = .ok last := by
  induction parts generalizing above with
  | nil => exact hwalk
  | cons part rest ih =>
      cases henter : f.enter above with
      | error fault =>
          rw [walk, henter] at hwalk
          cases hwalk
      | ok =>
          rw [walk, henter] at hwalk
          rw [walk, enter_put h henter]
          dsimp only [bind, Except.bind] at hwalk ⊢
          split
          · next hstay => exact ih (by rwa [if_pos hstay] at hwalk)
          · next hstay =>
            rw [if_neg hstay] at hwalk
            split
            · next hup => exact ih (by rwa [if_pos hup] at hwalk)
            · next hup => exact ih (by rwa [if_neg hup] at hwalk)

theorem place_put (h : f.entry? place ≠ some .directory) {last : List String}
    (hplace : f.place path = .ok last) : (f.put place (.file content)).place path = .ok last := by
  unfold Files.place at hplace ⊢
  split
  · next hempty =>
    rw [if_pos hempty] at hplace
    cases hplace
  · next hempty =>
    rw [if_neg hempty] at hplace
    split
    · next hnul =>
      rw [if_pos hnul] at hplace
      cases hplace
    · next hnul =>
      rw [if_neg hnul] at hplace
      split
      · next hroot =>
        rw [hroot] at hplace
        exact walk_put h hplace
      · next cs hroot =>
        split at hplace
        · next cs' heq => exact absurd heq (hroot _)
        · exact walk_put h hplace

theorem find_eq_ok {e : Option FileEntry} (h : f.find path = .ok e) :
    ∃ place, f.place path = .ok place ∧ f.entry? place = e := by
  unfold find at h
  cases hplace : f.place path with
  | error fault =>
      rw [hplace] at h
      cases h
  | ok place =>
      rw [hplace] at h
      exact ⟨place, rfl, Except.ok.inj h⟩

theorem write_found {e : Option FileEntry} (h : f.find path = .ok e) (he : e ≠ some .directory)
    (content : Text.Bytes) :
    ∃ g, f.write path content = .ok g ∧ g.find path = .ok (some (.file content)) := by
  obtain ⟨place, hplace, hentry⟩ := find_eq_ok h
  have hfree : f.entry? place ≠ some .directory := hentry ▸ he
  refine ⟨f.put place (.file content), ?_, ?_⟩
  · rw [write, hplace]
    dsimp only [bind, Except.bind]
    split
    · next hdirectory => exact absurd hdirectory hfree
    · rfl
  · rw [find, place_put hfree hplace]
    exact congrArg Except.ok (found_put (get?_of_not_directory hentry he).2 _)

theorem write_inv {g : Files} (h : f.write path content = .ok g) : ∃ place, f.place path = .ok place ∧
    f.entry? place ≠ some .directory ∧ g = f.put place (.file content) := by
  unfold write at h
  cases hplace : f.place path with
  | error fault =>
      rw [hplace] at h
      cases h
  | ok place =>
      rw [hplace] at h
      dsimp only [bind, Except.bind] at h
      split at h
      · cases h
      · next hfree => exact ⟨place, rfl, hfree, (Except.ok.inj h).symm⟩

/-- The two paths never lead to the same place. -/
def Apart (path other : String) : Prop :=
  ∀ (f : Files) (place last : List String), f.place path = .ok place → f.place other = .ok last →
    keyOf place ≠ keyOf last

theorem find_write {g : Files} {other : String} {e : Option FileEntry} (happart : Apart path other)
    (h : f.find path = .ok e) (hwrite : f.write other content = .ok g) : g.find path = .ok e := by
  obtain ⟨place, hplace, hentry⟩ := find_eq_ok h
  obtain ⟨last, hlast, hfree, rfl⟩ := write_inv hwrite
  have hkept : Files.entry? (f.put last (.file content)) place = f.entry? place := by
    unfold entry?
    split
    · rfl
    · exact (Table.get?_insert _ _ _ _).trans (if_neg (happart f place last hplace hlast))
  rw [find, place_put hfree hplace]
  exact congrArg Except.ok (hkept.trans hentry)

theorem read_missing (h : f.find path = .ok none) : f.read path = .error .missing := by
  obtain ⟨place, hplace, hentry⟩ := find_eq_ok h
  rw [read, hplace]
  dsimp only [bind, Except.bind]
  rw [hentry]

theorem read_directory (h : f.find path = .ok (some .directory)) : f.read path = .error .isDirectory := by
  obtain ⟨place, hplace, hentry⟩ := find_eq_ok h
  rw [read, hplace]
  dsimp only [bind, Except.bind]
  rw [hentry]

theorem read_file (h : f.find path = .ok (some (.file content))) : f.read path = .ok content := by
  obtain ⟨place, hplace, hentry⟩ := find_eq_ok h
  rw [read, hplace]
  dsimp only [bind, Except.bind]
  rw [hentry]

end Files

namespace Machine

def now (m : Machine) : Int64 := Int64.ofInt (m.millis.fdiv 1000)

def refusing (refused : String → Option FileFault) : Surroundings (StateM Machine) :=
  { surroundings with
    write := fun path content =>
      match refused path with
      | some fault => return .error fault
      | none => surroundings.write path content }

/-- What is stored in the file; one that is not there stands for an empty store. -/
def stored? (m : Machine) (path : String) : Option Snapshot :=
  match m.files.read path with
  | .error .missing => some {}
  | .error _ => none
  | .ok bytes => (Text.ofBytes? bytes).bind Snapshot.read?

/-- The time, and what is found at the path. -/
def Shows (path : String) (millis : Int) (e : Option FileEntry) (m : Machine) : Prop :=
  m.millis = millis ∧ m.files.find path = .ok e

/-- Logging leaves the time and what is found at the path alone. -/
def LogsAside (path : String) (log : Journal → StateM Machine Unit) : Prop :=
  ∀ journal millis e, Keeps (Shows path millis e) (log journal)

/-- What is found at the path stands for what was saved; nothing is saved before the first run. -/
inductive Saved : Snapshot → Except FileFault (Option FileEntry) → Prop
  | missing : Saved {} (.ok none)
  | written (s) (hs : s.Storable) : Saved s (.ok (some (.file (Text.toBytes s.write))))

variable {path : String} {s : Snapshot} {log : Journal → StateM Machine Unit} {m : Machine}

theorem changeFiles_shows {change : Files → Except FileFault Files} {millis : Int} {e : Option FileEntry}
    (h : ∀ f g, change f = .ok g → f.find path = .ok e → g.find path = .ok e) :
    Keeps (Shows path millis e) (changeFiles change) := by
  rintro m ⟨hmillis, hfound⟩
  unfold changeFiles
  cases hchange : change m.files with
  | error fault => exact ⟨hmillis, hfound⟩
  | ok files => exact ⟨hmillis, h m.files files hchange hfound⟩

theorem logsAside_of_apart (l : Logger) (happart : ∀ file, l.file = some file → Files.Apart path file) :
    LogsAside path (l.log surroundings) := by
  intro journal millis e
  have hput (line : String) : Keeps (Shows path millis e) (l.put surroundings line) := by
    unfold Logger.put
    split
    · next file hfile =>
      -- The answer of an append is dropped, so it does what writing the longer file does.
      have hwritten : Keeps (Shows path millis e) (changeFiles fun files => do
          files.write file ((← files.read file) ++ Text.toBytes (line ++ "\n"))) := by
        refine changeFiles_shows fun f g hchange hfound => ?_
        cases hread : f.read file with
        | error fault =>
            rw [hread] at hchange
            cases hchange
        | ok content =>
            rw [hread] at hchange
            exact Files.find_write (happart file hfile) hfound hchange
      exact fun m hm => hwritten m hm
    · exact .update fun m h => h
  have hlines (rs : Journal) (now : Int) : Keeps (Shows path millis e)
      (rs.forM fun r => l.put surroundings (l.style.line now r)) := by
    induction rs with
    | nil => exact .pure _
    | cons r rest ih => exact .bind (hput _) fun _ => ih
  exact .bind (fun m h => h) fun now => hlines _ now

theorem refusing_none : refusing (fun _ => none) = surroundings := by simp only [refusing]

theorem readText_run (path : String) (m : Machine) : surroundings.readText path m =
    (match m.files.read path with
      | .error fault => .error fault
      | .ok bytes =>
        match Text.ofBytes? bytes with
        | some text => .ok text
        | none => .error .notText, m) := by
  have hread : surroundings.read path m = (m.files.read path, m) := rfl
  unfold Surroundings.readText
  rw [bind_apply, hread]
  rcases m.files.read path with fault | bytes
  · rfl
  · dsimp only
    cases Text.ofBytes? bytes <;> rfl

theorem load_run (refused : String → Option FileFault) (log : Journal → StateM Machine Unit) (path : String)
    (m : Machine) :
    (m.stored? path = none ∧ ∃ e, loadState (refusing refused) log (some path) m = (.error (.state e), m)) ∨
    ∃ s journal, m.stored? path = some s ∧ loadState (refusing refused) log (some path) m =
      (.ok (s.restore (log journal m).2.now), (log journal m).2) := by
  have hrun : loadState (refusing refused) log (some path) m = loadState surroundings log (some path) m := rfl
  rw [hrun]
  unfold loadState stored?
  dsimp only
  rw [bind_apply, readText_run]
  rcases hread : m.files.read path with fault | bytes
  -- A file that is missing counts as an empty snapshot, every other fault stops the command.
  · cases fault with
    | missing => exact .inr ⟨{}, _, rfl, rfl⟩
    | notDirectory | isDirectory | hasNul | notText | other => exact .inl ⟨rfl, _, rfl⟩
  · dsimp only
    cases Text.ofBytes? bytes with
    | none => exact .inl ⟨rfl, _, rfl⟩
    | some text =>
        dsimp only
        rw [Option.bind_some]
        cases Snapshot.read? text with
        | none => exact .inl ⟨rfl, _, rfl⟩
        | some s => exact .inr ⟨s, [⟨.debug, .stateFile, s!"loaded state from {path}"⟩], rfl, rfl⟩

theorem Saved.stored (h : Saved s (m.files.find path)) : m.stored? path = some s := by
  generalize hfound : m.files.find path = found at h
  unfold stored?
  cases h with
  | missing => rw [Files.read_missing hfound]
  | written s hs =>
      rw [Files.read_file hfound]
      dsimp only
      rw [Text.ofBytes?_toBytes, Option.bind_some, hs.read?_write]

theorem Saved.found {found : Except FileFault (Option FileEntry)} (h : Saved s found) : ∃ e, found = .ok e := by
  cases h <;> exact ⟨_, rfl⟩

theorem free_of_stored {e : Option FileEntry} (h : m.stored? path = some s) (hfound : m.files.find path = .ok e) :
    e ≠ some .directory := by
  rintro rfl
  rw [stored?, Files.read_directory hfound] at h
  cases h

theorem letPass_files (c : Command) (answer : Option Outcome) (m : Machine) :
    (letPass surroundings c answer m).2.files = m.files := by
  unfold letPass
  split <;> rfl

theorem onService_run {α : Type} {n : Nat} {p : Server} {service : Service}
    (h : p.services.get? n = some service) (action : HostM α) : Server.onService n action p =
      (some (action ⟨p.site, service⟩).1, { p with
        site := (action ⟨p.site, service⟩).2.site
        services := p.services.insert n (action ⟨p.site, service⟩).2.service }) := by
  unfold Server.onService
  rw [h]
  rfl

theorem uninstall_run {p : Server} {service : Service} {n : Nat} (hinstalled : p.installed = some n)
    (h : p.services.get? n = some service) : (Server.uninstall p).2 = { p with
      installed := none
      site := (Host.shutdown ⟨p.site, service⟩).2.site
      services := p.services.insert n (Host.shutdown ⟨p.site, service⟩).2.service } := by
  have hrun := onService_run (p := { p with installed := none }) h Host.shutdown
  unfold Server.uninstall
  rw [bind_apply, get_apply, hinstalled]
  dsimp only
  rw [bind_apply, modify_apply, bind_apply, hrun]
  cases (Host.shutdown ⟨p.site, service⟩).1 <;> rfl

/-- The host that a command has been served at is all that is left of the server. -/
structure Left (h : Host) (p : Server) : Prop where
  site : p.site = h.site
  installed : p.installed = none
  services : ∀ n service, p.services.get? n = some service → service = h.service

theorem serve_run (refused : String → Option FileFault) (setting : Setting) (c : Command) (r : Request)
    (b : Backend) (m : Machine) :
    let k : Host := ⟨{ backend := b }, { settings := setting.configuration.settings }⟩
    ∃ server n, serve (refusing refused) setting c r b m =
        ((outcome setting.presentation c (some (Host.perform r k).1), server), n) ∧
      Left (Host.visit r k) server ∧ n.files = m.files := by
  intro k
  let start := { Server.init { backend := b } setting.configuration.settings with installed := some 0 }
  let answered : Server := { start with
    site := (Host.perform r k).2.site
    services := start.services.insert 0 (Host.perform r k).2.service }
  -- The one service that was installed answers, and shutting it down leaves no other.
  have hserved : (do discard Server.install; Server.request r : ServerM _)
      (Server.init { backend := b } setting.configuration.settings) =
        (some (Host.perform r k).1, answered) :=
    onService_run (p := start) (Table.get?_insert_self _ _ _) (Host.perform r)
  have hshut := uninstall_run (p := answered) rfl (Table.get?_insert_self _ _ _)
  have hleft : Left (Host.visit r k) (Server.uninstall answered).2 := by
    rw [hshut]
    refine ⟨rfl, rfl, fun n service hn => ?_⟩
    simp only [answered, start, Server.init, Table.get?_insert, Table.get?_empty] at hn
    split at hn
    · exact (Option.some.inj hn).symm
    · cases hn
  have hwait : letPass (refusing refused) c (some (Host.perform r k).1) m =
      letPass surroundings c (some (Host.perform r k).1) m := rfl
  unfold serve
  rw [hserved]
  exact ⟨_, _, rfl, hleft, (congrArg (·.2.files) hwait).trans (letPass_files _ _ _)⟩

def newcomer (m : Machine) (s : Snapshot) (setting : Setting) : Host :=
  Host.newcomer s m.now setting.configuration.settings

/-- A run that has told its result ends with a file of what is to be saved. If that cannot be written the
result is an error: the command's own, or else that of the file. -/
inductive Ends (refused : String → Option FileFault) (path : String) (s : Snapshot)
    (told : Except ProgramError String) : Except ProgramError String × Machine → Prop
  | written (n) (hopen : refused path = none)
      (hfound : n.files.find path = .ok (some (.file (Text.toBytes s.write)))) :
      Ends refused path s told (told, n)
  | unsaved (text fault m n) (htold : told = .ok text)
      (hwrite : (refusing refused).write path (Text.toBytes s.write) m = (.error fault, m)) :
      Ends refused path s told
        (.error (.state ⟨.unavailable, s!"cannot write state file {path}: {fault.message}"⟩), n)
  | failed (e fault m n) (htold : told = .error e)
      (hwrite : (refusing refused).write path (Text.toBytes s.write) m = (.error fault, m)) :
      Ends refused path s told (.error e, n)

theorem write_run (refused : String → Option FileFault) (path : String) (content : Text.Bytes) (m : Machine) :
    (refusing refused).write path content m = match refused path with
      | some fault => (.error fault, m)
      | none => changeFiles (·.write path content) m := by
  unfold refusing
  dsimp only
  cases refused path <;> rfl

theorem write_cases (refused : String → Option FileFault) (path : String) (content : Text.Bytes) (m : Machine) :
    (∃ fault, (refusing refused).write path content m = (.error fault, m)) ∨
    ∃ n, (refusing refused).write path content m = (.ok (), n) ∧ refused path = none ∧
      n.files.find path = .ok (some (.file content)) := by
  rw [write_run]
  cases refused path with
  | some fault => exact .inl ⟨fault, rfl⟩
  | none =>
      dsimp only [changeFiles]
      cases hwrite : m.files.write path content with
      | error fault => exact .inl ⟨fault, rfl⟩
      | ok files =>
          obtain ⟨place, hplace, hfree, -⟩ := Files.write_inv hwrite
          have hfound : m.files.find path = .ok (m.files.entry? place) := by
            rw [Files.find, hplace]
            rfl
          obtain ⟨written, hsame, hwritten⟩ := Files.write_found hfound hfree content
          rw [hwrite] at hsame
          cases hsame
          exact .inr ⟨_, rfl, rfl, hwritten⟩

theorem write_succeeds {refused : String → Option FileFault} {e : Option FileEntry} (hopen : refused path = none)
    (hfound : m.files.find path = .ok e) (he : e ≠ some .directory) (content : Text.Bytes) :
    ∃ n, (refusing refused).write path content m = (.ok (), n) ∧
      n.files.find path = .ok (some (.file content)) := by
  obtain ⟨files, hwrite, hwritten⟩ := Files.write_found hfound he content
  refine ⟨{ m with files }, ?_, hwritten⟩
  rw [write_run, hopen]
  dsimp only [changeFiles]
  rw [hwrite]

section Saving

variable (refused : String → Option FileFault) (log : Journal → StateM Machine Unit) (path : String)
variable (b : Backend) (told : Except ProgramError String)

def save : StateM Machine (Except ProgramError String) :=
  saveState (refusing refused) path b >>= settleSave log path told

theorem save_ends (m : Machine) : Ends refused path b.snapshot told (save refused log path b told m) := by
  unfold save saveState
  rw [bind_apply, bind_apply]
  obtain ⟨fault, hwrite⟩ | ⟨n, hwrite, hopen, hfound⟩ :=
    write_cases refused path (Text.toBytes b.snapshot.write) m
  · rw [hwrite]
    cases told with
    | ok text => exact .unsaved text fault m _ rfl hwrite
    | error e => exact .failed e fault m _ rfl hwrite
  · rw [hwrite]
    exact .written n hopen hfound

theorem save_written {m : Machine} {e : Option FileEntry} (hopen : refused path = none)
    (hfound : m.files.find path = .ok e) (he : e ≠ some .directory) :
    ∃ n, save refused log path b told m = (told, n) ∧
      n.files.find path = .ok (some (.file (Text.toBytes b.snapshot.write))) := by
  obtain ⟨n, hwrite, hwritten⟩ := write_succeeds hopen hfound he (Text.toBytes b.snapshot.write)
  refine ⟨n, ?_, hwritten⟩
  unfold save saveState
  rw [bind_apply, bind_apply, hwrite]
  rfl

end Saving

/-- A command on a machine with a stored state is served by a newcomer that knows this state, and then the
state is saved. -/
theorem execute_run (refused : String → Option FileFault) (log : Journal → StateM Machine Unit)
    (setting : Setting) {c : Command} {r : Request} (hpath : setting.stateFile = some path)
    (hvalid : setting.configuration.fault? = none) (hr : c.request? m.now = some r)
    (hstored : m.stored? path = some s) :
    ∃ journal server served,
      let loaded := (log journal m).2
      let k := loaded.newcomer s setting
      let told := outcome setting.presentation c (some (Host.perform r k).1)
      serve (refusing refused) setting c r (s.restore loaded.now) loaded = ((told, server), served) ∧
      Left (Host.visit r k) server ∧ served.files = loaded.files ∧
      execute (refusing refused) log setting c m =
        save refused log path server.site.backend told (log server.site.journal served).2 := by
  obtain ⟨hnone, -⟩ | ⟨s', journal, hsome, hload⟩ := load_run refused log path m
  · rw [hstored] at hnone
    cases hnone
  rw [hstored] at hsome
  cases hsome
  obtain ⟨server, served, hserve, hleft, hfiles⟩ :=
    serve_run refused setting c r (s.restore (log journal m).2.now) (log journal m).2
  refine ⟨journal, server, served, hserve, hleft, hfiles, ?_⟩
  have hseconds : (refusing refused).seconds m = (m.now, m) := rfl
  unfold execute
  rw [bind_apply, hseconds, hr, hvalid]
  dsimp only
  rw [hpath, bind_apply, hload]
  dsimp only
  rw [bind_apply, hserve]
  rfl

theorem execute_saves (refused : String → Option FileFault) (setting : Setting) {c : Command} {r : Request}
    (hlog : LogsAside path log) (hopen : refused path = none) (hpath : setting.stateFile = some path)
    (hvalid : setting.configuration.fault? = none) (hr : c.request? m.now = some r)
    (hstored : m.stored? path = some s) {e : Option FileEntry} (hfound : m.files.find path = .ok e) :
    ∃ n, execute (refusing refused) log setting c m =
        (outcome setting.presentation c (some (Host.perform r (m.newcomer s setting)).1), n) ∧
      n.files.find path = .ok (some (.file (Text.toBytes
        (Host.visit r (m.newcomer s setting)).site.backend.snapshot.write))) := by
  obtain ⟨journal, server, served, -, hleft, hfiles, hrun⟩ :=
    execute_run refused log setting hpath hvalid hr hstored
  obtain ⟨hmillis, hkept⟩ := hlog journal m.millis e m ⟨rfl, hfound⟩
  have hk : Machine.newcomer (log journal m).2 s setting = m.newcomer s setting := by
    unfold newcomer now
    rw [hmillis]
  rw [hk] at hleft hrun
  have hlogged := (hlog server.site.journal served.millis e served ⟨rfl, by rw [hfiles]; exact hkept⟩).2
  rw [hrun, ← hleft.site]
  exact save_written refused log path server.site.backend _ hopen hlogged (free_of_stored hstored hfound)

theorem execute_invalid (refused : String → Option FileFault) (log : Journal → StateM Machine Unit)
    {setting : Setting} {c : Command} {r : Request} {fault : ConfigurationFault}
    (hfault : setting.configuration.fault? = some fault) (hr : c.request? m.now = some r) :
    execute (refusing refused) log setting c m = (.error (.invalidConfiguration fault.message), m) := by
  have hseconds : (refusing refused).seconds m = (m.now, m) := rfl
  unfold execute
  rw [bind_apply, hseconds, hr, hfault]
  rfl

theorem execute_unloaded (refused : String → Option FileFault) (log : Journal → StateM Machine Unit)
    {setting : Setting} {c : Command} {r : Request} (hpath : setting.stateFile = some path)
    (hvalid : setting.configuration.fault? = none) (hr : c.request? m.now = some r)
    (hstored : m.stored? path = none) :
    ∃ e, execute (refusing refused) log setting c m = (.error (.state e), m) := by
  obtain ⟨-, e, hload⟩ | ⟨s, journal, hsome, -⟩ := load_run refused log path m
  · refine ⟨e, ?_⟩
    have hseconds : (refusing refused).seconds m = (m.now, m) := rfl
    unfold execute
    rw [bind_apply, hseconds, hr, hvalid]
    dsimp only
    rw [hpath, bind_apply, hload]
    rfl
  · rw [hstored] at hsome
    cases hsome

theorem execute_version {setting : Setting} {c : Command} (hr : c.request? m.now = none) :
    execute surroundings log setting c m = (.ok setting.build.versionLine, m) := by
  have hseconds : surroundings.seconds m = (m.now, m) := rfl
  unfold execute
  rw [bind_apply, hseconds, hr]
  rfl

end Machine

end ManagedQueue
