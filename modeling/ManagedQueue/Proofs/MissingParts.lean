import ManagedQueue.Proofs.SnapshotText

namespace ManagedQueue

namespace Json

mutual

/-- The value without the members to which one of the paths leads. -/
def without : (List String → Bool) → Json → Json
  | gone, .obj members => .obj (membersWithout gone members)
  | _, v => v

def membersWithout :
    (List String → Bool) → List (Option String × Json) → List (Option String × Json)
  | _, [] => []
  | gone, (none, v) :: rest => (none, v) :: membersWithout gone rest
  | gone, (some key, v) :: rest =>
    if gone [key] then membersWithout gone rest
    else (some key, v.without fun path => gone (key :: path)) :: membersWithout gone rest

end

def fieldsWithout (gone : List String → Bool) (fields : List (String × Json)) : List (String × Json) :=
  (fields.filter fun f => !gone [f.1]).map fun f => (f.1, f.2.without fun path => gone (f.1 :: path))

variable {gone : List String → Bool}

theorem without_record (gone : List String → Bool) (fields : List (String × Json)) :
    (record fields).without gone = record (fieldsWithout gone fields) := by
  have hmembers : membersWithout gone (fields.map fun f => (some f.1, f.2)) =
      (fieldsWithout gone fields).map fun f => (some f.1, f.2) := by
    induction fields with
    | nil => rfl
    | cons f fields ih =>
        rw [List.map_cons, membersWithout, ih]
        cases hgone : gone [f.1] <;> simp [fieldsWithout, hgone]
  rw [record, without, hmembers]
  rfl

theorem Plain.without_eq {v : Json} (h : Plain v) (hgone : ∀ key path, gone (key :: path) = false) :
    v.without gone = v := by
  induction h generalizing gone with
  | null | bool | int | text | arr => rfl
  | record fields h ih =>
      have hfields : fieldsWithout gone fields = fields := by
        rw [fieldsWithout, List.filter_eq_self.mpr fun f _ => by simp [hgone]]
        refine (List.map_congr_left fun f hf => ?_).trans (List.map_id fields)
        exact congrArg (Prod.mk f.1) (ih f hf fun _ _ => hgone _ _)
      rw [without_record, hfields]

theorem Plain.without {v : Json} (h : Plain v) (gone : List String → Bool) : Plain (v.without gone) := by
  induction h generalizing gone with
  | null => exact .null
  | bool b => exact .bool b
  | int n => exact .int n
  | text s => exact .text s
  | arr items h => exact .arr items h
  | record fields h ih =>
      rw [without_record]
      refine .record _ fun f hf => ?_
      obtain ⟨field, hfield, rfl⟩ := List.mem_map.mp hf
      exact ih field (List.mem_filter.mp hfield).1 _

theorem fields?_without {fields : List (String × Json)} {names : List String}
    (hnames : fields.map (·.1) = names) (hnodup : names.Nodup) :
    fields? names ((record fields).without gone) = some (fields.map fun f =>
      if gone [f.1] then none else some (f.2.without fun path => gone (f.1 :: path))) := by
  subst hnames
  have hleft : (fieldsWithout gone fields).map (·.1) = (fields.filter fun f => !gone [f.1]).map (·.1) := by
    rw [fieldsWithout, List.map_map]
    rfl
  have hnodupLeft : ((fieldsWithout gone fields).map (·.1)).Nodup := by
    rw [hleft]
    exact hnodup.sublist (List.filter_sublist.map _)
  have hkeyed : ((fieldsWithout gone fields).map fun f => (some f.1, f.2)).mapM (member? some) =
      some (fieldsWithout gone fields) := mapM_map_eq fun _ _ => rfl
  rw [without_record, record, fields?, hkeyed, Option.bind_some]
  refine mapM_map fun f hf => ?_
  cases hgone : gone [f.1] with
  | false =>
      have hmem : (f.1, f.2.without fun path => gone (f.1 :: path)) ∈ fieldsWithout gone fields :=
        List.mem_map.mpr ⟨f, List.mem_filter.mpr ⟨hf, by simp [hgone]⟩, rfl⟩
      rw [memberOf_of_mem hnodupLeft hmem]
      rfl
  | true =>
      -- The names are distinct, so no other field stands in for the one that is left out.
      have hnone : (fieldsWithout gone fields).filter (fun m => m.1 = f.1) = [] := by
        refine List.filter_eq_nil_iff.mpr fun m hm hname => ?_
        obtain ⟨field, hfield, rfl⟩ := List.mem_map.mp hm
        have hkept := (List.mem_filter.mp hfield).2
        rw [show field.1 = f.1 from of_decide_eq_true hname, hgone] at hkept
        cases hkept
      rw [memberOf, hnone]
      rfl

theorem map?_without {α : Type} {value : α → Json} {value? : Json → Option α} {f : String → α → α}
    {t : NameMap α} (hkeys : ∀ key, gone [key] = false)
    (h : ∀ e ∈ t.entries, value? ((value e.2).without fun path => gone (e.1 :: path)) = some (f e.1 e.2)) :
    map? value? ((ofMap value t).without gone) = some (t.mapValues f) := by
  have hfields : fieldsWithout gone (t.entries.map fun e => (e.1, value e.2)) =
      t.entries.map fun e => (e.1, (value e.2).without fun path => gone (e.1 :: path)) := by
    rw [fieldsWithout, List.filter_eq_self.mpr fun f _ => by simp [hkeys], List.map_map]
    rfl
  have hmembers : ∀ e ∈ t.entries,
      member? value? (some e.1, (value e.2).without fun path => gone (e.1 :: path)) =
        some (e.1, f e.1 e.2) := by
    intro e he
    simp [member?, h e he]
  rw [ofMap, without_record, hfields, record, map?, List.map_map]
  refine (congrArg (Option.map Table.ofList) (mapM_map hmembers)).trans ?_
  exact congrArg some (Table.ofList_entries (t.mapValues f))

@[simp]
theorem without_int (gone : List String → Bool) (n : Int) : (int n).without gone = int n := rfl

/-- A part that may be missing is read as it was written, or as its default. -/
theorem defaulted_of_read {α : Type} {value : Json → Option α} {v : Json} {a : α} (default : α) (c : Prop)
    [Decidable c] (h : value v = some a) :
    defaulted default value (if c then none else some v) = some (if c then default else a) := by
  split
  · rfl
  · exact h

end Json

open Json

theorem Direction.name_inj {d e : Direction} (h : d.name = e.name) : d = e := by
  cases d <;> cases e <;> simp_all [name]

namespace Snapshot

/-- What may be missing: collections, alone or with what is around them. -/
inductive Part where
  | topics
  | metadata
  | queues
  | groups (queue : String)
  | transport
  | logs
  | offsets
  | metrics
  | counts
  | events (queue group : String) (direction : Direction)
deriving DecidableEq

def Part.path : Part → List String
  | .topics => ["topics"]
  | .metadata => ["metadata"]
  | .queues => ["metadata", "queues"]
  | .groups queue => ["metadata", "queues", queue, "groups"]
  | .transport => ["transport"]
  | .logs => ["transport", "logs"]
  | .offsets => ["transport", "offsets"]
  | .metrics => ["metrics"]
  | .counts => ["metrics", "queues"]
  | .events queue group direction => ["metrics", "queues", queue, group, direction.name]

def leadsTo (parts : List Part) (path : List String) : Bool := parts.any (·.path = path)

/-- The snapshot with these parts empty. -/
def lacking (parts : List Part) (s : Snapshot) : Snapshot where
  topics := if .topics ∈ parts then ∅ else s.topics
  metadata := if .metadata ∈ parts ∨ .queues ∈ parts then {}
    else ⟨s.metadata.queues.mapValues fun queue e =>
      { e with groups := if .groups queue ∈ parts then ∅ else e.groups }⟩
  logs := if .transport ∈ parts ∨ .logs ∈ parts then ∅ else s.logs
  offsets := if .transport ∈ parts ∨ .offsets ∈ parts then ∅ else s.offsets
  metrics := if .metrics ∈ parts ∨ .counts ∈ parts then {}
    else ⟨s.metrics.queues.mapValues fun queue groups => groups.mapValues fun group c =>
      { send := if .events queue group .send ∈ parts then [] else c.send
        receive := if .events queue group .receive ∈ parts then [] else c.receive }⟩

def writeWithout (parts : List Part) (s : Snapshot) : String :=
  pretty (s.toJson.without (leadsTo parts))

theorem Part.path_inj {p q : Part} (h : p.path = q.path) : p = q := by
  cases p <;> cases q <;> simp_all [path]
  obtain ⟨-, -, h⟩ := h
  exact Direction.name_inj h

variable {parts : List Part}

theorem leadsTo_path (p : Part) : leadsTo parts p.path = decide (p ∈ parts) := by
  rw [Bool.eq_iff_iff, leadsTo, List.any_eq_true, decide_eq_true_iff]
  constructor
  · rintro ⟨q, hq, hpath⟩
    exact Part.path_inj (of_decide_eq_true hpath) ▸ hq
  · exact fun hp => ⟨p, hp, decide_eq_true rfl⟩

theorem leadsTo_nowhere {path : List String} (h : ∀ p : Part, p.path ≠ path) : leadsTo parts path = false :=
  List.any_eq_false.mpr fun p _ hpath => h p (of_decide_eq_true hpath)

end Snapshot

variable {gone : List String → Bool}

theorem QueueEntry.ofJson?_without (e : QueueEntry) (hctime : gone ["ctime"] = false)
    (hgroups : ∀ key path, gone ("groups" :: key :: path) = false) :
    ofJson? (e.toJson.without gone) = some { e with groups := if gone ["groups"] then ∅ else e.groups } := by
  have hread : map? GroupRecord.ofJson?
      ((ofMap GroupRecord.toJson e.groups).without fun path => gone ("groups" :: path)) = some e.groups := by
    rw [(Plain.ofMap GroupRecord.plain_toJson e.groups).without_eq hgroups]
    exact map?_ofMap fun r _ => GroupRecord.ofJson?_toJson r.2
  simp [ofJson?, toJson, fields?_without, hctime, defaulted_of_read _ _ hread]

theorem Counters.ofJson?_without (c : Counters) : ofJson? (c.toJson.without gone) =
    some ⟨if gone ["send"] then [] else c.send, if gone ["receive"] then [] else c.receive⟩ := by
  have hread (events : List CountedEvent) (below : List String → Bool) :
      list? CountedEvent.ofJson? ((ofList CountedEvent.toJson events).without below) = some events :=
    list?_ofList fun e _ => CountedEvent.ofJson?_toJson e
  simp [ofJson?, toJson, fields?_without, defaulted_of_read _ _ (hread _ _)]

namespace Snapshot

theorem topics_lacking (parts : List Part) (s : Snapshot) :
    map? Layout.ofJson? ((ofMap Layout.toJson s.topics).without fun path => leadsTo parts ("topics" :: path)) =
      some s.topics := by
  have hwhole : (ofMap Layout.toJson s.topics).without (fun path => leadsTo parts ("topics" :: path)) = _ :=
    (Plain.ofMap Layout.plain_toJson s.topics).without_eq fun key path =>
      leadsTo_nowhere fun p => by cases p <;> simp [Part.path]
  rw [hwhole]
  exact map?_ofMap fun l _ => Layout.ofJson?_toJson l.2

theorem metadata_lacking {parts : List Part} (hmetadata : .metadata ∉ parts) (s : Snapshot) :
    Metadata.ofJson? (s.metadata.toJson.without fun path => leadsTo parts ("metadata" :: path)) =
      some (s.lacking parts).metadata := by
  -- From the inside out: one entry, then the map of the queues, then the metadata.
  have hentry (queue : String) (e : QueueEntry) : QueueEntry.ofJson? (e.toJson.without fun path =>
      leadsTo parts ("metadata" :: "queues" :: queue :: path)) =
        some { e with groups := if .groups queue ∈ parts then ∅ else e.groups } := by
    have hgroups : leadsTo parts ["metadata", "queues", queue, "groups"] = _ :=
      leadsTo_path (.groups queue)
    rw [QueueEntry.ofJson?_without]
    · simp [hgroups]
    · exact leadsTo_nowhere fun p => by cases p <;> simp [Part.path]
    · exact fun key path => leadsTo_nowhere fun p => by cases p <;> simp [Part.path]
  have hqueues : map? QueueEntry.ofJson? ((ofMap QueueEntry.toJson s.metadata.queues).without
      fun path => leadsTo parts ("metadata" :: "queues" :: path)) =
        some (s.metadata.queues.mapValues fun queue e =>
          { e with groups := if .groups queue ∈ parts then ∅ else e.groups }) :=
    map?_without (fun key => leadsTo_nowhere fun p => by cases p <;> simp [Part.path]) fun e _ =>
      hentry e.1 e.2
  have hpath : leadsTo parts ["metadata", "queues"] = _ := leadsTo_path .queues
  simp only [lacking, hmetadata, false_or]
  simp [Metadata.ofJson?, Metadata.toJson, fields?_without, defaulted_of_read _ _ hqueues, hpath]
  split <;> rfl

theorem transport_lacking {parts : List Part} (htransport : .transport ∉ parts) {s : Snapshot}
    (h : s.Storable) :
    transport? ((transportJson s.logs s.offsets).without fun path => leadsTo parts ("transport" :: path)) =
      some ((s.lacking parts).logs, (s.lacking parts).offsets) := by
  have hlogs : map? (list? payload?) ((ofMap (ofList payloadJson) s.logs).without
      fun path => leadsTo parts ("transport" :: "logs" :: path)) = some s.logs := by
    have hwhole : (ofMap (ofList payloadJson) s.logs).without
        (fun path => leadsTo parts ("transport" :: "logs" :: path)) = _ :=
      (Plain.ofMap (Plain.ofList plain_payloadJson) s.logs).without_eq fun key path =>
        leadsTo_nowhere fun p => by cases p <;> simp [Part.path]
    rw [hwhole, map?_logs]
  have hoffsets : map? (map? offset?) ((ofMap (ofMap ofNat) s.offsets).without
      fun path => leadsTo parts ("transport" :: "offsets" :: path)) = some s.offsets := by
    have hwhole : (ofMap (ofMap ofNat) s.offsets).without
        (fun path => leadsTo parts ("transport" :: "offsets" :: path)) = _ :=
      (Plain.ofMap (Plain.ofMap Plain.ofNat) s.offsets).without_eq fun key path =>
        leadsTo_nowhere fun p => by cases p <;> simp [Part.path]
    rw [hwhole, map?_offsets h.offset_lt]
  have hlogsPath : leadsTo parts ["transport", "logs"] = _ := leadsTo_path .logs
  have hoffsetsPath : leadsTo parts ["transport", "offsets"] = _ := leadsTo_path .offsets
  simp [transport?, transportJson, fields?_without, defaulted_of_read _ _ hlogs,
    defaulted_of_read _ _ hoffsets, hlogsPath, hoffsetsPath, lacking, htransport]

theorem metrics_lacking {parts : List Part} (hmetrics : .metrics ∉ parts) (s : Snapshot) :
    Metrics.ofJson? (s.metrics.toJson.without fun path => leadsTo parts ("metrics" :: path)) =
      some (s.lacking parts).metrics := by
  have hcounters (queue group : String) (c : Counters) : Counters.ofJson? (c.toJson.without fun path =>
      leadsTo parts ("metrics" :: "queues" :: queue :: group :: path)) =
        some { send := if .events queue group .send ∈ parts then [] else c.send
               receive := if .events queue group .receive ∈ parts then [] else c.receive } := by
    have hsend : leadsTo parts ["metrics", "queues", queue, group, "send"] = _ :=
      leadsTo_path (.events queue group .send)
    have hreceive : leadsTo parts ["metrics", "queues", queue, group, "receive"] = _ :=
      leadsTo_path (.events queue group .receive)
    rw [Counters.ofJson?_without]
    simp [hsend, hreceive]
  have hqueues : map? (map? Counters.ofJson?) ((ofMap (ofMap Counters.toJson) s.metrics.queues).without
      fun path => leadsTo parts ("metrics" :: "queues" :: path)) =
        some (s.metrics.queues.mapValues fun queue groups => groups.mapValues fun group c =>
          { send := if .events queue group .send ∈ parts then [] else c.send
            receive := if .events queue group .receive ∈ parts then [] else c.receive }) := by
    refine map?_without (fun key => leadsTo_nowhere fun p => by cases p <;> simp [Part.path]) fun e _ => ?_
    exact map?_without (fun key => leadsTo_nowhere fun p => by cases p <;> simp [Part.path]) fun c _ =>
      hcounters e.1 c.1 c.2
  have hpath : leadsTo parts ["metrics", "queues"] = _ := leadsTo_path .counts
  simp only [lacking, hmetrics, false_or]
  simp [Metrics.ofJson?, Metrics.toJson, fields?_without, defaulted_of_read _ _ hqueues, hpath]
  split <;> rfl

/-- A part that is missing is read as its default, one that is there as what is left of it. -/
theorem defaulted_lacking {α : Type} {value : Json → Option α} {v : Json} {a : α} (default : α)
    (p : Part) (h : p ∉ parts → value v = some a) :
    defaulted default value (if leadsTo parts p.path then none else some v) =
      some (if p ∈ parts then default else a) := by
  rw [leadsTo_path]
  by_cases hp : p ∈ parts
  · simp [hp, defaulted]
  · simp [hp, defaulted, h hp]

theorem Storable.ofJson?_without {s : Snapshot} (h : s.Storable) (parts : List Part) :
    ofJson? (s.toJson.without (leadsTo parts)) = some (s.lacking parts) := by
  have htopics : defaulted ∅ (map? Layout.ofJson?) (if leadsTo parts ["topics"] then none else some _) = _ :=
    defaulted_lacking ∅ .topics fun _ => s.topics_lacking parts
  have hmetadata : defaulted {} Metadata.ofJson? (if leadsTo parts ["metadata"] then none else some _) = _ :=
    defaulted_lacking {} .metadata fun hp => s.metadata_lacking hp
  have htransport : defaulted (∅, ∅) transport? (if leadsTo parts ["transport"] then none else some _) = _ :=
    defaulted_lacking (∅, ∅) .transport fun hp => transport_lacking hp h
  have hmetrics : defaulted {} Metrics.ofJson? (if leadsTo parts ["metrics"] then none else some _) = _ :=
    defaulted_lacking {} .metrics fun hp => s.metrics_lacking hp
  have hread : ofJson? (s.toJson.without (leadsTo parts)) = some
      { topics := if .topics ∈ parts then ∅ else s.topics
        metadata := if .metadata ∈ parts then {} else (s.lacking parts).metadata
        logs := if .transport ∈ parts then ∅ else (s.lacking parts).logs
        offsets := if .transport ∈ parts then ∅ else (s.lacking parts).offsets
        metrics := if .metrics ∈ parts then {} else (s.lacking parts).metrics } := by
    simp [ofJson?, toJson, fields?_without, htopics, hmetadata, htransport, hmetrics, apply_ite Prod.fst,
      apply_ite Prod.snd]
  rw [hread, Option.some_inj, lacking]
  by_cases hm : .metadata ∈ parts <;> by_cases ht : .transport ∈ parts <;> by_cases hc : .metrics ∈ parts <;>
    simp [hm, ht, hc]

/-- What is written of a snapshot is read as the same snapshot, whatever its names, payloads and numbers
are. Where any of the collections are missing from the text they are read as empty, and the rest as it
was. -/
theorem written_read_back (s : Snapshot) (h : s.Storable) :
    (Text.ofBytes? (Text.toBytes s.write)).bind read? = some s ∧
    ∀ parts : List Part,
      (Text.ofBytes? (Text.toBytes (s.writeWithout parts))).bind read? = some (s.lacking parts) := by
  refine ⟨?_, fun parts => ?_⟩
  · rw [Text.ofBytes?_toBytes, Option.bind_some, h.read?_write]
  · have hparse := (s.plain_toJson.without (leadsTo parts)).parse?_pretty
    rw [Text.ofBytes?_toBytes, Option.bind_some, read?, writeWithout, hparse, Option.bind_some,
      h.ofJson?_without]

/-- Names that must be escaped, and the last numbers of their kinds. -/
theorem extremes_read_back :
    let groups : NameMap GroupRecord :=
      (∅ : NameMap GroupRecord).insert "\x00" ⟨"\x00", "a\"\\\n", true, false, "é/😀", ["", "\t"]⟩
    let s : Snapshot :=
      { topics := (∅ : NameMap Layout).insert "a\"\\\n" ⟨4294967295, 0⟩
        metadata := ⟨(∅ : NameMap QueueEntry).insert "a\"\\\n" ⟨Int64.minValue, groups⟩⟩
        logs := (∅ : NameMap (List Payload)).insert "a\"\\\n" [[], [0, 255]]
        offsets := (∅ : NameMap (NameMap Nat)).insert "q" ((∅ : NameMap Nat).insert "g" 18446744073709551615) }
    s.Storable ∧ (Text.ofBytes? (Text.toBytes s.write)).bind read? = some s ∧
      (Text.ofBytes? (Text.toBytes (s.writeWithout [.groups "a\"\\\n", .transport]))).bind read? = some
        { s with
          metadata := ⟨(∅ : NameMap QueueEntry).insert "a\"\\\n" ⟨Int64.minValue, ∅⟩⟩
          logs := ∅
          offsets := ∅ } := by
  intro groups s
  have hs : s.Storable := by
    intro queue group
    have hnone : 0 < UInt64.size := by decide
    simp only [s, Table.getD, Table.get?_insert]
    split
    · simp only [Option.getD_some, Table.get?_insert]
      split
      · decide
      · exact hnone
    · exact hnone
  obtain ⟨hwhole, hparts⟩ := written_read_back s hs
  exact ⟨hs, hwhole, (hparts _).trans (by rfl)⟩

end Snapshot

end ManagedQueue
