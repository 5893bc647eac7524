import ManagedQueue.CommandLine.Writer
import ManagedQueue.Proofs.JsonText
import Mathlib.Data.List.Chain

namespace ManagedQueue

namespace Text

theorem intOf?_natChars (n : Nat) : intOf? (natChars n) = some (n : Int) := by
  cases hchars : natChars n with
  | nil => exact absurd hchars (natChars_ne_nil n)
  | cons c cs =>
      have hdigit : c.isDigit := isDigit_of_mem_natChars (n := n) (by simp [hchars])
      have hminus : c ≠ '-' := by rintro rfl; exact absurd hdigit (by decide)
      have hplus : c ≠ '+' := by rintro rfl; exact absurd hdigit (by decide)
      have hread : intOf? (c :: cs) = (natOf? (c :: cs)).map fun n => (n : Int) := by
        unfold intOf?
        split
        · next heq => exact absurd (List.cons.inj heq).1 hminus
        · next heq => exact absurd (List.cons.inj heq).1 hplus
        · rfl
      rw [hread, ← hchars, natOf?_natChars]
      rfl

theorem intOf?_intChars (n : Int) : intOf? (intChars n) = some n := by
  cases n with
  | ofNat n => exact intOf?_natChars n
  | negSucc n =>
      rw [intChars, intOf?, natOf?_natChars]
      rfl

end Text

namespace CommandLine

theorem wholeNumber_shown {low high n : Int} {written : String} (hwritten : written.toList = Text.intChars n)
    (hlow : low ≤ n) (hhigh : n ≤ high) : wholeNumber low high written = .ok n := by
  rw [wholeNumber, hwritten, Text.intOf?_intChars]
  exact if_pos ⟨hlow, hhigh⟩

theorem toList_showNat (n : Nat) : (Text.showNat n).toList = Text.intChars n := String.toList_ofList

theorem signed64_timeText (t : Int64) : signed64 (timeText t) = .ok t := by
  have hread : wholeNumber Int64.minValue.toInt Int64.maxValue.toInt (timeText t) = .ok t.toInt :=
    wholeNumber_shown String.toList_ofList t.minValue_le_toInt t.toInt_le
  rw [signed64, hread, Except.map, Int64.ofInt_toInt]

theorem unsigned32_showNat (n : UInt32) : unsigned32 (Text.showNat n.toNat) = .ok n := by
  have hbound : (n.toNat : Int) ≤ (UInt32.size : Int) - 1 := by
    have := n.toNat_lt_size
    omega
  rw [unsigned32, wholeNumber_shown (toList_showNat _) (Int.natCast_nonneg _) hbound, Except.map]
  simp

theorem unsigned64_showNat (n : UInt64) : unsigned64 (Text.showNat n.toNat) = .ok n := by
  have hbound : (n.toNat : Int) ≤ (UInt64.size : Int) - 1 := by
    have := n.toNat_lt_size
    omega
  have hsign : (Text.showNat n.toNat).toList.head? ≠ some '-' := by
    intro hhead
    have hmem : '-' ∈ Text.natChars n.toNat := List.mem_of_mem_head? (by
      rw [toList_showNat] at hhead
      exact hhead)
    exact absurd (Text.isDigit_of_mem_natChars hmem) (by decide)
  rw [unsigned64, if_neg hsign, wholeNumber_shown (toList_showNat _) (Int.natCast_nonneg _) hbound, Except.map]
  simp

namespace Grammar

variable {σ : Type} {g : Grammar σ} {d d' : σ}

structure Has (g : Grammar σ) (name : String) (effect : Effect σ) : Prop where
  found : (g.switches.find? (·.long = name)).map (·.effect) = some effect
  named : name ≠ ""
  plain : '=' ∉ name.toList

namespace Has

variable {name : String} {effect : Effect σ}

theorem long? (h : g.Has name effect) :
    ∃ switch, CommandLine.long? g name.toList = some switch ∧ switch.effect = effect := by
  obtain ⟨switch, hfind, heffect⟩ := Option.map_eq_some_iff.mp h.found
  refine ⟨switch, ?_, heffect⟩
  rw [CommandLine.long?, ← hfind]
  simp only [String.toList_inj]

theorem noEquals (h : g.Has name effect) : ∀ c ∈ name.toList, decide (c ≠ '=') = true :=
  fun _ hc => decide_eq_true fun heq => h.plain (heq ▸ hc)

end Has

theorem toList_option (name : String) : (option name).toList = '-' :: '-' :: name.toList := by
  rw [option, String.toList_append]
  rfl

theorem toList_assigned (name value : String) :
    (assigned name value).toList = '-' :: '-' :: (name.toList ++ '=' :: value.toList) := by
  rw [assigned, String.toList_append, String.toList_append, toList_option]
  simp

theorem take_dashes {argument : String} {cs : List Char} (hargument : argument.toList = '-' :: '-' :: cs)
    (hcs : cs ≠ []) : g.take { draft := d } argument = g.takeLong { draft := d } cs := by
  obtain ⟨c, cs, rfl⟩ := List.exists_cons_of_ne_nil hcs
  unfold take
  rw [if_neg (by simp), if_neg (by simp [Scan.awaited]), hargument]
  simp

theorem take_option {name : String} {set : σ → Except Refusal σ} (h : g.Has name (.flag set))
    (hset : set d = .ok d') : g.take { draft := d } (option name) = .ok { draft := d' } := by
  obtain ⟨switch, hswitch, heffect⟩ := h.long?
  rw [take_dashes (toList_option name) (by simpa using h.named), takeLong,
    List.takeWhile_eq_self_iff.mpr h.noEquals, List.dropWhile_eq_nil_iff.mpr h.noEquals, hswitch]
  simp only [heffect, afterEquals, Scan.use, Scan.change, Scan.settle, bind, Except.bind, hset, pure, Except.pure]

theorem take_assigned {name value : String} {anything : Bool} {set : σ → String → Except Refusal σ}
    (h : g.Has name (.value anything set)) (hset : set d value = .ok d') :
    g.take { draft := d } (assigned name value) = .ok { draft := d' } := by
  obtain ⟨switch, hswitch, heffect⟩ := h.long?
  rw [take_dashes (toList_assigned name value) (by simp), takeLong, List.takeWhile_append_of_pos h.noEquals,
    List.dropWhile_append_of_pos h.noEquals]
  simp [hswitch, heffect, afterEquals, Scan.use, Scan.change, Scan.settle, bind, Except.bind, hset, pure,
    Except.pure]

/-- The arguments are options, and they make the second draft out of the first. -/
inductive Reads (g : Grammar σ) : List String → σ → σ → Prop
  | nil (d : σ) : Reads g [] d d
  | cons {argument : String} {rest : List String} {d d' d'' : σ} (hoption : argument.toList.head? = some '-')
      (htake : g.take { draft := d } argument = .ok { draft := d' }) (hrest : Reads g rest d' d'') :
      Reads g (argument :: rest) d d''

namespace Reads

variable {α : Type} {name : String} {d'' : σ} {first rest : List String}

theorem append (h : g.Reads first d d') (k : g.Reads rest d' d'') : g.Reads (first ++ rest) d d'' := by
  induction h with
  | nil => exact k
  | cons hoption htake _ ih => exact .cons hoption htake (ih k)

theorem foldlM (h : g.Reads first d d') :
    first.foldlM g.take ({ draft := d } : Scan σ) = .ok { draft := d' } := by
  induction h with
  | nil => rfl
  | cons _ htake _ ih =>
      rw [List.foldlM_cons, htake]
      exact ih

theorem flag {set : σ → Except Refusal σ} (h : g.Has name (.flag set)) (hset : set d = .ok d') :
    g.Reads [option name] d d' :=
  .cons (by rw [toList_option]; rfl) (take_option h hset) (.nil _)

theorem value {written : String} {anything : Bool} {set : σ → String → Except Refusal σ}
    (h : g.Has name (.value anything set)) (hset : set d written = .ok d') :
    g.Reads [assigned name written] d d' :=
  .cons (by rw [toList_assigned]; rfl) (take_assigned h hset) (.nil _)

theorem ifSet {given : σ → Bool} {put : σ → σ} (h : g.Has name (.flag (flagOnce given put)))
    (hgiven : given d = false) {set : Bool} (hput : (if set then put d else d) = d') :
    g.Reads (ifSet name set) d d' := by
  subst hput
  cases set with
  | false => exact .nil d
  | true => exact flag h (by rw [flagOnce, hgiven]; rfl)

section Once

variable {anything : Bool} {field : σ → Option α} {put : σ → α → σ} {value? : String → Except Refusal α}

theorem once (h : g.Has name (.value anything (once field put value?))) (hfield : field d = none)
    {written : String} {a : α} (hvalue : value? written = .ok a) :
    g.Reads [assigned name written] d (put d a) :=
  value h (by rw [CommandLine.once, hfield, hvalue]; rfl)

theorem ifGiven (h : g.Has name (.value anything (CommandLine.once field put value?))) (hfield : field d = none)
    {v : Option α} {shown : α → String} (hvalue : ∀ a, v = some a → value? (shown a) = .ok a)
    (hput : v.elim d (put d) = d') : g.Reads (ifGiven name (v.map shown)) d d' := by
  subst hput
  cases v with
  | none => exact .nil d
  | some a => exact once h hfield (hvalue a rfl)

end Once

end Reads

theorem take_mark (g : Grammar σ) (d : σ) :
    g.take { draft := d } "--" = .ok { draft := d, literal := true } := rfl

end Grammar

namespace Form

variable {f : Form}

theorem foldlM_words {words : List String} {d : Draft} (hroom : d.words.length + words.length ≤ f.words) :
    words.foldlM f.grammar.take { draft := d, literal := true } =
      .ok { draft := { d with words := d.words ++ words }, literal := true } := by
  induction words generalizing d with
  | nil => simp [pure, Except.pure]
  | cons word words ih =>
      rw [List.length_cons] at hroom
      have hfits : f.grammar.hasRoom d = true := decide_eq_true (by omega)
      have htake : f.grammar.take { draft := d, literal := true } word =
          .ok { draft := { d with words := d.words ++ [word] }, literal := true } := by
        unfold Grammar.take Grammar.takeWord
        rw [if_pos rfl, if_pos hfits]
        rfl
      have hleft : (d.words ++ [word]).length + words.length ≤ f.words := by
        rw [List.length_append, List.length_singleton]
        omega
      rw [List.foldlM_cons, htake]
      refine Eq.trans (ih (d := { d with words := d.words ++ [word] }) hleft) ?_
      simp

theorem foldlM_afterMark {words : List String} {d : Draft} (hwords : d.words = [])
    (hroom : words.length ≤ f.words) : ∃ literal, (Command.afterMark words).foldlM f.grammar.take { draft := d } =
      .ok { draft := { d with words }, literal } := by
  cases words with
  | nil =>
      have hsame : { d with words := [] } = d := by rw [← hwords]
      rw [hsame]
      exact ⟨false, rfl⟩
  | cons word words =>
      have hleft : d.words.length + (word :: words).length ≤ f.words := by
        rw [hwords, List.length_nil, Nat.zero_add]
        exact hroom
      have hrest := foldlM_words hleft
      rw [hwords, List.nil_append] at hrest
      refine ⟨true, ?_⟩
      change ("--" :: word :: words).foldlM f.grammar.take { draft := d } = _
      rw [List.foldlM_cons, Grammar.take_mark]
      exact hrest

theorem read_written {options words : List String} {d : Draft} {c : Command}
    (hoptions : f.grammar.Reads options {} d) (hwords : d.words = []) (hroom : words.length ≤ f.words)
    (hbuild : f.build { d with words } = some c) : f.read (options ++ Command.afterMark words) = .ok c := by
  obtain ⟨literal, hafter⟩ := foldlM_afterMark hwords hroom
  have hread : f.grammar.read {} (options ++ Command.afterMark words) = .ok { d with words } := by
    rw [Grammar.read, List.foldlM_append, hoptions.foldlM]
    change ((Command.afterMark words).foldlM f.grammar.take { draft := d } >>= _) = _
    rw [hafter]
    rfl
  simp only [read, hread, bind, Except.bind, hbuild]
  rfl

end Form

namespace Draft

open Grammar

variable {f : Form}

theorem has_own {switches : List (Switch Draft)} {name : String} {effect : Effect Draft}
    (hf : f.switches = switches) (hfound : (switches.find? (·.long = name)).map (·.effect) = some effect)
    (hname : name ≠ "") (hplain : '=' ∉ name.toList) : f.grammar.Has name effect := by
  obtain ⟨switch, hfind, heffect⟩ := Option.map_eq_some_iff.mp hfound
  refine ⟨?_, hname, hplain⟩
  rw [Form.grammar, hf, List.find?_append, hfind, ← heffect]
  rfl

theorem reads_group (hf : f.switches = [groupSwitch]) (group : String) :
    f.grammar.Reads [assigned "group" group] {} { group := some group } := by
  have hgroup : f.grammar.Has "group" groupSwitch.effect := has_own hf rfl (by decide) (by decide)
  exact .once hgroup rfl rfl

theorem reads_timeout (hf : f.switches = [timeoutSwitch]) (timeout : UInt64) :
    f.grammar.Reads [assigned "timeout" (Text.showNat timeout.toNat)] {} { timeout := some timeout } := by
  have htimeout : f.grammar.Has "timeout" timeoutSwitch.effect := has_own hf rfl (by decide) (by decide)
  exact .once htimeout rfl (unsigned64_showNat timeout)

theorem reads_lookup (hf : f.switches = [queueSwitch, groupSwitch]) (queue group : String) :
    f.grammar.Reads [assigned "queue" queue, assigned "group" group] {}
      { queue := some queue, group := some group } := by
  have hqueue : f.grammar.Has "queue" queueSwitch.effect := has_own hf rfl (by decide) (by decide)
  have hgroup : f.grammar.Has "group" groupSwitch.effect := has_own hf rfl (by decide) (by decide)
  have hfirst : f.grammar.Reads [assigned "queue" queue] {} { queue := some queue } := .once hqueue rfl rfl
  exact hfirst.append (.once hgroup rfl rfl)

theorem reads_addresses (hf : f.switches = accessSwitches) (addresses : List String) (d : Draft) :
    f.grammar.Reads (addresses.map (assigned "ip")) d { d with ips := d.ips ++ addresses } := by
  have hip : f.grammar.Has "ip" (.value false fun d v => .ok { d with ips := d.ips ++ [v] }) :=
    has_own hf rfl (by decide) (by decide)
  induction addresses generalizing d with
  | nil =>
      rw [List.append_nil]
      exact .nil d
  | cons address rest ih =>
      have hfirst : f.grammar.Reads [assigned "ip" address] d { d with ips := d.ips ++ [address] } :=
        .value hip rfl
      have hrest := ih { d with ips := d.ips ++ [address] }
      simp only [List.append_assoc, List.singleton_append] at hrest
      exact hfirst.append hrest

theorem reads_access (hf : f.switches = accessSwitches) (a : Access) :
    f.grammar.Reads (accessArguments a) {}
      { write := a.write, read := a.read, url := some a.url, ips := a.ips } := by
  have hwrite : f.grammar.Has "write" (.flag (flagOnce Draft.write fun d => { d with write := true })) :=
    has_own hf rfl (by decide) (by decide)
  have hread : f.grammar.Has "read" (.flag (flagOnce Draft.read fun d => { d with read := true })) :=
    has_own hf rfl (by decide) (by decide)
  have hurl : f.grammar.Has "url"
      (.value false (once Draft.url (fun d v => { d with url := some v }) anyText)) :=
    has_own hf rfl (by decide) (by decide)
  have hfirst : f.grammar.Reads (ifSet "write" a.write) {} { write := a.write } :=
    .ifSet hwrite rfl (by cases a.write <;> rfl)
  have hsecond : f.grammar.Reads (ifSet "read" a.read) { write := a.write }
      { write := a.write, read := a.read } :=
    .ifSet hread rfl (by cases a.read <;> rfl)
  have hthird : f.grammar.Reads [assigned "url" a.url] { write := a.write, read := a.read }
      { write := a.write, read := a.read, url := some a.url } := .once hurl rfl rfl
  exact ((hfirst.append hsecond).append hthird).append (reads_addresses hf a.ips _)

theorem reads_span (hf : f.switches = spanSwitches) (group : String) (s : Span) :
    f.grammar.Reads (spanArguments group s) {}
      { group := some group, start := s.start, stop := s.stop, buckets := some s.buckets } := by
  have hgroup : f.grammar.Has "group" groupSwitch.effect := has_own hf rfl (by decide) (by decide)
  have hstart : f.grammar.Has "start"
      (.value true (once Draft.start (fun d v => { d with start := some v }) signed64)) :=
    has_own hf rfl (by decide) (by decide)
  have hstop : f.grammar.Has "end"
      (.value true (once Draft.stop (fun d v => { d with stop := some v }) signed64)) :=
    has_own hf rfl (by decide) (by decide)
  have hbuckets : f.grammar.Has "buckets"
      (.value false (once Draft.buckets (fun d v => { d with buckets := some v }) unsigned32)) :=
    has_own hf rfl (by decide) (by decide)
  have hfirst : f.grammar.Reads [assigned "group" group] {} { group := some group } := .once hgroup rfl rfl
  have hsecond : f.grammar.Reads (ifGiven "start" (s.start.map timeText)) { group := some group }
      { group := some group, start := s.start } :=
    .ifGiven hstart rfl (fun t _ => signed64_timeText t) (by cases s.start <;> rfl)
  have hthird : f.grammar.Reads (ifGiven "end" (s.stop.map timeText)) { group := some group, start := s.start }
      { group := some group, start := s.start, stop := s.stop } :=
    .ifGiven hstop rfl (fun t _ => signed64_timeText t) (by cases s.stop <;> rfl)
  exact ((hfirst.append hsecond).append hthird).append (.once hbuckets rfl (unsigned32_showNat s.buckets))

end Draft

namespace Command

theorem read_form (c : Command) :
    ∃ f, Form.named? c.name = some f ∧ f.read (c.options ++ afterMark c.words) = .ok c := by
  cases c with
  | createQueue queue | updateQueue queue | deleteQueue queue =>
      exact ⟨_, rfl, Form.read_written (d := {}) (.nil _) rfl le_rfl rfl⟩
  | deleteGroup group queue | getGroup group queue | acknowledge queue group =>
      exact ⟨_, rfl, Form.read_written (d := {}) (.nil _) rfl le_rfl rfl⟩
  | send queue group message => exact ⟨_, rfl, Form.read_written (d := {}) (.nil _) rfl le_rfl rfl⟩
  | audit | version => exact ⟨_, rfl, Form.read_written (d := {}) (.nil _) rfl le_rfl rfl⟩
  | lookupQueue queue group =>
      exact ⟨_, rfl, Form.read_written (Draft.reads_lookup rfl queue group) rfl le_rfl rfl⟩
  | lookupGroup group => exact ⟨_, rfl, Form.read_written (Draft.reads_group rfl group) rfl le_rfl rfl⟩
  | addGroup group queue access | updateGroup group queue access =>
      exact ⟨_, rfl, Form.read_written (Draft.reads_access rfl access) rfl le_rfl rfl⟩
  | receive queue group timeout =>
      exact ⟨_, rfl, Form.read_written (Draft.reads_timeout rfl timeout) rfl le_rfl rfl⟩
  | volume direction queue group span =>
      cases direction with
      | send | receive => exact ⟨_, rfl, Form.read_written (Draft.reads_span rfl group span) rfl le_rfl rfl⟩

end Command

namespace Options

variable {o : Options}

theorem pathText_of_ne {path : String} (h : path ≠ "") : pathText path = .ok path := by
  rw [pathText, if_neg (by simpa using h)]

theorem oneOf_level (t : Logging.Threshold) : oneOf Logging.Threshold.ofName? t.name = .ok t := by
  cases t <;> rfl

theorem oneOf_format (f : Logging.Format) : oneOf Logging.Format.ofName? f.name = .ok f := by
  cases f <;> rfl

def painted (o : Options) (last : Option Bool) : Options :=
  { o with color := last = some true, noColor := last = some false }

theorem colorChoice_painted (o : Options) (last : Option Bool) : (o.painted last).colorChoice = last := by
  rcases last with _ | _ | _ <;> rfl

theorem painted_colorChoice (h : o.color = false ∨ o.noColor = false) : o.painted o.colorChoice = o := by
  obtain ⟨_, _, _, _, _, color, noColor, _⟩ := o
  cases color <;> cases noColor <;> simp_all [painted, colorChoice]

theorem has_color : grammar.Has "color" (toggle color fun o => { o with color := true, noColor := false }) :=
  ⟨rfl, by decide, by decide⟩

theorem has_noColor :
    grammar.Has "no-color" (toggle noColor fun o => { o with color := false, noColor := true }) :=
  ⟨rfl, by decide, by decide⟩

theorem reads_colorFlag (o : Options) {last : Option Bool} {choice : Bool} (hlast : last ≠ some choice) :
    grammar.Reads [option (if choice then "color" else "no-color")] (o.painted last)
      (o.painted (some choice)) := by
  cases choice with
  | true => exact .flag has_color (by rw [flagOnce, painted, if_neg (by simpa using hlast)]; rfl)
  | false => exact .flag has_noColor (by rw [flagOnce, painted, if_neg (by simpa using hlast)]; rfl)

/-- Of colour flags that alternate, each cancels the one before it. -/
theorem reads_colorFlags (o : Options) {choices : List Bool} (hchain : choices.IsChain (· ≠ ·))
    {last : Option Bool} (hlast : ∀ choice ∈ choices.head?, last ≠ some choice) :
    grammar.Reads (colorFlags choices) (o.painted last) (o.painted (choices.getLast?.or last)) := by
  induction choices generalizing last with
  | nil => exact .nil _
  | cons choice rest ih =>
      obtain ⟨hnext, hrest⟩ := List.isChain_cons.mp hchain
      have hfirst := reads_colorFlag o (hlast choice rfl)
      have hlater : grammar.Reads (colorFlags rest) (o.painted (some choice))
          (o.painted (rest.getLast?.or (some choice))) :=
        ih hrest fun next hmem => by simpa using hnext next hmem
      have hend : (choice :: rest).getLast?.or last = rest.getLast?.or (some choice) := by
        rw [List.getLast?_cons]
        cases rest.getLast? <;> rfl
      rw [hend]
      exact hfirst.append hlater

theorem reads_path {name : String} {field : Options → Option String} {put : Options → String → Options}
    (h : grammar.Has name (.value false (once field put pathText))) {path : Option String}
    (hpath : path ≠ some "") {d d' : Options} (hfield : field d = none) (hput : path.elim d (put d) = d') :
    grammar.Reads (ifGiven name path) d d' := by
  have hreads : grammar.Reads (ifGiven name (path.map id)) d d' := by
    refine .ifGiven h hfield (fun written hwritten => pathText_of_ne ?_) hput
    rintro rfl
    exact hpath hwritten
  rwa [Option.map_id] at hreads

theorem reads_valued {configFile stateFile logFile : Option String} (logLevel : Option Logging.Threshold)
    (logFormat : Option Logging.Format) (hconfigFile : configFile ≠ some "") (hstateFile : stateFile ≠ some "")
    (hlogFile : logFile ≠ some "") :
    grammar.Reads (ifGiven "config-file" configFile ++ ifGiven "state-file" stateFile ++
        ifGiven "log-level" (logLevel.map (·.name)) ++ ifGiven "log-format" (logFormat.map (·.name)) ++
        ifGiven "log-file" logFile) {} { configFile, stateFile, logLevel, logFormat, logFile } := by
  have hconfig : grammar.Has "config-file"
      (.value false (once Options.configFile (fun o v => { o with configFile := some v }) pathText)) :=
    ⟨rfl, by decide, by decide⟩
  have hstate : grammar.Has "state-file"
      (.value false (once Options.stateFile (fun o v => { o with stateFile := some v }) pathText)) :=
    ⟨rfl, by decide, by decide⟩
  have hlevel : grammar.Has "log-level" (.value false (once Options.logLevel
      (fun o v => { o with logLevel := some v }) (oneOf Logging.Threshold.ofName?))) :=
    ⟨rfl, by decide, by decide⟩
  have hformat : grammar.Has "log-format" (.value false (once Options.logFormat
      (fun o v => { o with logFormat := some v }) (oneOf Logging.Format.ofName?))) :=
    ⟨rfl, by decide, by decide⟩
  have hlog : grammar.Has "log-file"
      (.value false (once Options.logFile (fun o v => { o with logFile := some v }) pathText)) :=
    ⟨rfl, by decide, by decide⟩
  -- Option by option, each setting its own field of those read so far.
  have hfirst : grammar.Reads (ifGiven "config-file" configFile) {} { configFile } :=
    reads_path hconfig hconfigFile rfl (by cases configFile <;> rfl)
  have hsecond : grammar.Reads (ifGiven "state-file" stateFile) { configFile } { configFile, stateFile } :=
    reads_path hstate hstateFile rfl (by cases stateFile <;> rfl)
  have hthird : grammar.Reads (ifGiven "log-level" (logLevel.map (·.name))) { configFile, stateFile }
      { configFile, stateFile, logLevel } :=
    .ifGiven hlevel rfl (fun t _ => oneOf_level t) (by cases logLevel <;> rfl)
  have hfourth : grammar.Reads (ifGiven "log-format" (logFormat.map (·.name)))
      { configFile, stateFile, logLevel } { configFile, stateFile, logLevel, logFormat } :=
    .ifGiven hformat rfl (fun f _ => oneOf_format f) (by cases logFormat <;> rfl)
  exact (((hfirst.append hsecond).append hthird).append hfourth).append
    (reads_path hlog hlogFile rfl (by cases logFile <;> rfl))

/-- What is written of the options is read as they are, with the last of the colour flags. -/
theorem reads_argumentsWith (hpaths : ∀ path ∈ [o.configFile, o.stateFile, o.logFile], path ≠ some "")
    {choices : List Bool} (hchain : choices.IsChain (· ≠ ·)) :
    grammar.Reads (o.argumentsWith choices) {} (o.painted choices.getLast?) := by
  obtain ⟨configFile, stateFile, logLevel, logFormat, logFile, color, noColor, json⟩ := o
  obtain ⟨hconfigFile, hstateFile, hlogFile⟩ :
      configFile ≠ some "" ∧ stateFile ≠ some "" ∧ logFile ≠ some "" := by
    simpa using hpaths
  let valued : Options := { configFile, stateFile, logLevel, logFormat, logFile }
  have hvalued := reads_valued logLevel logFormat hconfigFile hstateFile hlogFile
  have hcolors : grammar.Reads (colorFlags choices) (valued.painted none) (valued.painted choices.getLast?) := by
    have hflags := reads_colorFlags valued hchain fun choice _ (hnone : none = some choice) => nomatch hnone
    rwa [Option.or_none] at hflags
  have hflag : grammar.Has "json" (.flag (flagOnce Options.json fun o => { o with json := true })) :=
    ⟨rfl, by decide, by decide⟩
  have hjson : grammar.Reads (ifSet "json" json) (valued.painted choices.getLast?)
      { valued.painted choices.getLast? with json } :=
    .ifSet hflag rfl (by cases json <;> rfl)
  exact (hvalued.append hcolors).append hjson

end Options

theorem name_plain : ∀ f ∈ Form.all, f.name.toList.head? ≠ some '-' ∧ f.name ≠ Options.helpName := by
  decide

theorem named?_option {argument : String} (h : argument.toList.head? = some '-') :
    Form.named? argument = none := by
  refine List.find?_eq_none.mpr fun f hf hname => (name_plain f hf).1 ?_
  rw [of_decide_eq_true hname]
  exact h

theorem readFrom_options {arguments : List String} {o o' : Options} (h : Options.grammar.Reads arguments o o')
    (rest : List String) : readFrom { draft := o } (arguments ++ rest) = readFrom { draft := o' } rest := by
  induction h with
  | nil => rfl
  | @cons argument later o _ _ hoption htake _ ih =>
      have hhelp : argument ≠ Options.helpName := by
        rintro rfl
        exact absurd hoption (by decide)
      rw [List.cons_append, readFrom, if_neg (by simp [Scan.awaited]), if_neg hhelp, named?_option hoption,
        ← ih]
      simp only [htake]
      rfl

theorem readFrom_command (o : Options) (c : Command) : readFrom { draft := o } c.arguments = .ok ⟨o, c⟩ := by
  obtain ⟨f, hnamed, hread⟩ := c.read_form
  have hhelp : c.name ≠ Options.helpName := by
    have hname := List.find?_some hnamed
    rw [← of_decide_eq_true hname]
    exact (name_plain f (List.mem_of_find?_eq_some hnamed)).2
  have harguments : c.arguments = c.name :: (c.options ++ Command.afterMark c.words) := rfl
  rw [harguments, readFrom, if_neg (by simp [Scan.awaited]), if_neg hhelp, hnamed]
  simp only [hread]
  rfl

/-- A command and options that are written out are read as they were. Any flags for colour that alternate may
stand for the one that was given; the last of them counts. -/
theorem arguments_read_back (i : Invocation)
    (hpaths : ∀ path ∈ [i.options.configFile, i.options.stateFile, i.options.logFile], path ≠ some "")
    (hcolor : i.options.color = false ∨ i.options.noColor = false) :
    read i.arguments = .ok i ∧
    ∀ choices : List Bool, choices.IsChain (· ≠ ·) → ∃ options,
      read (i.options.argumentsWith choices ++ i.command.arguments) = .ok { options, command := i.command } ∧
      options = { i.options with
        color := choices.getLast? = some true, noColor := choices.getLast? = some false } ∧
      options.colorChoice = choices.getLast? := by
  have hread {choices : List Bool} (hchain : choices.IsChain (· ≠ ·)) :
      read (i.options.argumentsWith choices ++ i.command.arguments) =
        .ok { options := i.options.painted choices.getLast?, command := i.command } := by
    rw [read, readFrom_options (Options.reads_argumentsWith hpaths hchain), readFrom_command]
  constructor
  -- The invocation writes its own choice once, which is a chain of at most one.
  · have hchain : i.options.colorChoice.toList.IsChain (· ≠ ·) := by
      cases i.options.colorChoice with
      | none => exact .nil
      | some choice => exact .singleton _
    have hlast : i.options.colorChoice.toList.getLast? = i.options.colorChoice := by
      cases i.options.colorChoice <;> rfl
    have hown := hread hchain
    rw [hlast, Options.painted_colorChoice hcolor] at hown
    exact hown
  · intro choices hchain
    exact ⟨_, hread hchain, rfl, Options.colorChoice_painted _ _⟩

/-- Values with hyphens before them, equals signs, spaces and nothing in them, and the lowest number. -/
theorem arguments_read_back_of_odd :
    let i : Invocation :=
      ⟨{ configFile := some "-c=x", logLevel := some .off, noColor := true, json := true },
        .volume .receive "--" "-g =" ⟨some (-9223372036854775808), none, 0⟩⟩
    read i.arguments = .ok i ∧ ∃ options,
      read (i.options.argumentsWith [true, false, true] ++ i.command.arguments) =
        .ok { options, command := i.command } ∧ options.colorChoice = some true := by
  intro i
  obtain ⟨hown, hflags⟩ := arguments_read_back i (by decide) (.inl rfl)
  obtain ⟨options, hread, -, hlast⟩ := hflags [true, false, true] (by decide)
  exact ⟨hown, options, hread, hlast⟩

end CommandLine

end ManagedQueue
