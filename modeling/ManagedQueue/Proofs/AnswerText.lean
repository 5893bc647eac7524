import ManagedQueue.Proofs.SnapshotText
import ManagedQueue.Report.Presentation

namespace ManagedQueue

namespace Json

theorem memberOf_eq_lookup {fields : List (String × Json)} (hnodup : (fields.map (·.1)).Nodup) (name : String) :
    memberOf name fields = some (fields.lookup name) := by
  cases hlookup : fields.lookup name with
  | some v =>
      obtain ⟨before, after, rfl, -⟩ := List.lookup_eq_some_iff.mp hlookup
      exact memberOf_of_mem hnodup (by simp)
  | none =>
      have hnone : fields.filter (fun f => f.1 = name) = [] :=
        List.filter_eq_nil_iff.mpr fun f hf hname =>
          absurd (of_decide_eq_true hname).symm (by simpa using List.lookup_eq_none_iff.mp hlookup f hf)
      rw [memberOf, hnone]

theorem fields?_lookup {fields : List (String × Json)} (names : List String)
    (hnodup : (fields.map (·.1)).Nodup) :
    fields? names (record fields) = some (names.map fun name => fields.lookup name) := by
  have hmembers : (names.map id).mapM (memberOf · fields) = some (names.map fun name => fields.lookup name) :=
    mapM_map fun name _ => memberOf_eq_lookup hnodup name
  rw [record, fields?, mapM_keyed, Option.bind_some]
  rwa [List.map_id] at hmembers

theorem option?_text (s : String) : option? text? (text s) = some (some s) := rfl

theorem choice?_text {α : Type} (named : String → Option α) (s : String) :
    choice? named (text s) = named s := rfl

end Json

open Json

/-- A name that is left out is read as left out. -/
theorem GroupConfig.ofJson?_toJson (c : GroupConfig) : ofJson? c.toJson = some c := by
  obtain ⟨group, queue, access⟩ := c
  cases group <;> cases queue <;>
    simp [ofJson?, toJson, nameField, Access.fields, fields?_lookup, List.lookup_cons, defaulted, option?_text]

theorem Access.plain_fields (a : Access) : ∀ f ∈ a.fields, Plain f.2 := by
  simp [fields, Plain.text, Plain.bool, Plain.texts]

theorem GroupConfig.plain_nameField (label : String) (name : Option String) :
    ∀ f ∈ nameField label name, Plain f.2 := by
  cases name <;> simp [nameField, Plain.text]

theorem GroupConfig.plain_toJson (c : GroupConfig) : Plain c.toJson := by
  refine .record _ fun f hf => ?_
  rw [List.mem_append, List.mem_append] at hf
  obtain (hgroup | hqueue) | haccess := hf
  · exact plain_nameField _ _ f hgroup
  · exact plain_nameField _ _ f hqueue
  · exact c.access.plain_fields f haccess

theorem QueueInfo.ofJson?_toJson (i : QueueInfo) : ofJson? i.toJson = some i := by
  simp [ofJson?, toJson, fields?_record, list?_ofList fun c _ => GroupConfig.ofJson?_toJson c]

theorem QueueInfo.plain_toJson (i : QueueInfo) : Plain i.toJson :=
  .record _ (by simp [Plain.text, Plain.int, Plain.ofNat, Plain.ofList GroupConfig.plain_toJson])

theorem GroupInfo.ofJson?_toJson (i : GroupInfo) : ofJson? i.toJson = some i := by
  simp [ofJson?, toJson, fields?_record, list?_ofList fun c _ => GroupConfig.ofJson?_toJson c]

theorem GroupInfo.plain_toJson (i : GroupInfo) : Plain i.toJson :=
  .record _ (by simp [Plain.text, Plain.ofList GroupConfig.plain_toJson])

theorem Direction.ofName?_name (d : Direction) : ofName? d.name = some d := by cases d <;> rfl

theorem Bucket.ofJson?_toJson (b : Bucket) : ofJson? b.toJson = some b := by
  simp [ofJson?, toJson, fields?_record]

theorem Bucket.plain_toJson (b : Bucket) : Plain b.toJson := .record _ (by simp [Plain.int, Plain.ofNat])

theorem Series.ofJson?_toJson (s : Series) : ofJson? s.toJson = some s := by
  simp [ofJson?, toJson, fields?_record, choice?_text, Direction.ofName?_name,
    list?_ofList fun b _ => Bucket.ofJson?_toJson b]

theorem Series.plain_toJson (s : Series) : Plain s.toJson :=
  .record _ (by simp [Plain.text, Plain.ofList Bucket.plain_toJson])

theorem Inconsistency.ofLabel?_label (i : Inconsistency) : ofLabel? i.label = some i := by
  cases i with
  | metadataOnly => rfl
  | brokerOnly => rfl

theorem Finding.ofJson?_toJson (f : Finding) : ofJson? f.toJson = some f := by
  simp [ofJson?, toJson, fields?_record, choice?_text, Inconsistency.ofLabel?_label]

theorem Finding.plain_toJson (f : Finding) : Plain f.toJson := .record _ (by simp [Plain.text])

namespace Presentation

theorem read_rendered {α : Type} {v : Json} (hv : Plain v) {value : Json → Option α} {a : α}
    (ha : value v = some a) (color : Bool) (shown : Bool → String) :
    (parse? ((choose true color).render v shown)).bind value = some a := by
  change (parse? v.pretty).bind value = some a
  rw [hv.parse?_pretty, Option.bind_some, ha]

theorem read_list {α : Type} {item : α → Json} {item? : Json → Option α}
    (hitem : ∀ x, item? (item x) = some x) (hplain : ∀ x, Plain (item x)) (xs : List α) (color : Bool)
    (shown : Bool → String) :
    (parse? ((choose true color).render (.ofList item xs) shown)).bind (list? item?) = some xs :=
  read_rendered (.ofList hplain xs) (list?_ofList fun x _ => hitem x) color shown

theorem option?_ofOption (config : Option GroupConfig) :
    option? GroupConfig.ofJson? (.ofOption GroupConfig.toJson config) = some config := by
  cases config with
  | none => rfl
  | some c =>
      have hrecord : option? GroupConfig.ofJson? c.toJson = (GroupConfig.ofJson? c.toJson).map some := rfl
      rw [ofOption, hrecord, c.ofJson?_toJson, Option.map_some]

theorem plain_ofOption (config : Option GroupConfig) : Plain (.ofOption GroupConfig.toJson config) := by
  cases config with
  | none => exact .null
  | some c => exact c.plain_toJson

/-- Every answer of the service is read back from the JSON that is printed of it. -/
theorem answers_read_back (color : Bool) :
    (∀ infos, (parse? ((choose true color).queues infos)).bind (list? QueueInfo.ofJson?) = some infos) ∧
    (∀ infos, (parse? ((choose true color).groups infos)).bind (list? GroupInfo.ofJson?) = some infos) ∧
    (∀ config, (parse? ((choose true color).group config)).bind (option? GroupConfig.ofJson?) = some config) ∧
    (∀ s, (parse? ((choose true color).series s)).bind Series.ofJson? = some s) ∧
    ∀ fs, (parse? ((choose true color).findings fs)).bind (list? Finding.ofJson?) = some fs := by
  refine ⟨fun infos => ?_, fun infos => ?_, fun config => ?_, fun s => ?_, fun fs => ?_⟩
  · exact read_list QueueInfo.ofJson?_toJson QueueInfo.plain_toJson infos color _
  · exact read_list GroupInfo.ofJson?_toJson GroupInfo.plain_toJson infos color _
  · exact read_rendered (plain_ofOption config) (option?_ofOption config) color _
  · exact read_rendered s.plain_toJson s.ofJson?_toJson color _
  · exact read_list Finding.ofJson?_toJson Finding.plain_toJson fs color _

end Presentation

end ManagedQueue
