import ManagedQueue.Proofs.JsonText
import ManagedQueue.StateFile
import ManagedQueue.Table.Lemmas

namespace ManagedQueue

theorem Text.ofBytes?_toBytes (s : String) : ofBytes? (toBytes s) = some s :=
  dif_pos s.isValidUTF8

namespace Json

theorem nat?_ofNat {bound n : Nat} (h : n < bound) : nat? bound (ofNat n) = some n := by
  have hrange : (0 : Int) ≤ n ∧ (n : Int) ≤ (bound : Int) - 1 := by omega
  simp [nat?, ofNat, intIn?, hrange]

@[simp]
theorem uint8?_ofNat (n : UInt8) : uint8? (ofNat n.toNat) = some n := by
  simp [uint8?, nat?_ofNat n.toNat_lt_size]

@[simp]
theorem uint32?_ofNat (n : UInt32) : uint32? (ofNat n.toNat) = some n := by
  simp [uint32?, nat?_ofNat n.toNat_lt_size]

@[simp]
theorem uint64?_ofNat (n : UInt64) : uint64? (ofNat n.toNat) = some n := by
  simp [uint64?, nat?_ofNat n.toNat_lt_size]

@[simp]
theorem int64?_int (n : Int64) : int64? (.int n.toInt) = some n := by
  have hrange : Int64.minValue.toInt ≤ n.toInt ∧ n.toInt ≤ Int64.maxValue.toInt :=
    ⟨n.minValue_le_toInt, n.toInt_le⟩
  rw [int64?, intIn?, if_pos hrange, Option.map_some, Int64.ofInt_toInt]

@[simp]
theorem text?_text (s : String) : text? (text s) = some s := rfl

@[simp]
theorem bool?_bool (b : Bool) : bool? (.bool b) = some b := rfl

@[simp]
theorem required_some {α : Type} (value : Json → Option α) (v : Json) :
    required value (some v) = value v := rfl

@[simp]
theorem defaulted_some {α : Type} (default : α) (value : Json → Option α) (v : Json) :
    defaulted default value (some v) = value v := rfl

theorem mapM_map {α β γ : Type} {f : β → Option γ} {g : α → β} {k : α → γ} {xs : List α}
    (h : ∀ x ∈ xs, f (g x) = some (k x)) : (xs.map g).mapM f = some (xs.map k) := by
  induction xs with
  | nil => rfl
  | cons x xs ih =>
      rw [List.map_cons, List.mapM_cons, h x (.head _), ih fun y hy => h y (.tail _ hy)]
      rfl

theorem mapM_map_eq {α β : Type} {f : β → Option α} {g : α → β} {xs : List α}
    (h : ∀ x ∈ xs, f (g x) = some x) : (xs.map g).mapM f = some xs :=
  (mapM_map (k := id) h).trans (by rw [List.map_id])

theorem list?_ofList {α : Type} {item : α → Json} {item? : Json → Option α} {xs : List α}
    (h : ∀ x ∈ xs, item? (item x) = some x) : list? item? (ofList item xs) = some xs :=
  mapM_map_eq h

@[simp]
theorem list?_texts (ss : List String) : list? text? (texts ss) = some ss :=
  list?_ofList fun _ _ => rfl

theorem map?_ofMap {α : Type} {value : α → Json} {value? : Json → Option α} {t : NameMap α}
    (h : ∀ e ∈ t.entries, value? (value e.2) = some e.2) : map? value? (ofMap value t) = some t := by
  have hmembers : ∀ e ∈ t.entries, member? value? (some e.1, value e.2) = some e := by
    intro e he
    simp [member?, h e he]
  rw [ofMap, record, map?, List.map_map]
  refine (congrArg (Option.map Table.ofList) (mapM_map_eq hmembers)).trans ?_
  rw [Option.map_some, Table.ofList_entries]

theorem memberOf_of_mem {name : String} {v : Json} {fields : List (String × Json)}
    (hnodup : (fields.map (·.1)).Nodup) (h : (name, v) ∈ fields) : memberOf name fields = some (some v) := by
  have hfilter : fields.filter (fun m => m.1 = name) = [(name, v)] := by
    induction fields with
    | nil => cases h
    | cons f fields ih =>
        obtain ⟨hf, hrest⟩ := List.nodup_cons.mp hnodup
        rcases List.mem_cons.mp h with rfl | h
        · have hnone : fields.filter (fun m => m.1 = name) = [] :=
            List.filter_eq_nil_iff.mpr fun m hm hname =>
              hf (List.mem_map.mpr ⟨m, hm, of_decide_eq_true hname⟩)
          rw [List.filter_cons_of_pos (by simp), hnone]
        · have hne : f.1 ≠ name := fun hname => hf (List.mem_map.mpr ⟨_, h, hname.symm⟩)
          rw [List.filter_cons_of_neg (by simp [hne]), ih hrest h]
  rw [memberOf, hfilter]

theorem mapM_keyed (fields : List (String × Json)) :
    (fields.map fun f => (some f.1, f.2)).mapM (member? some) = some fields :=
  mapM_map_eq fun _ _ => rfl

theorem fields?_record {fields : List (String × Json)} {names : List String}
    (hnames : fields.map (·.1) = names) (hnodup : names.Nodup) :
    fields? names (record fields) = some (fields.map fun f => some f.2) := by
  subst hnames
  rw [record, fields?, mapM_keyed, Option.bind_some]
  exact mapM_map fun f hf => memberOf_of_mem hnodup hf

theorem Plain.ofNat (n : Nat) : Plain (ofNat n) := .int n

theorem Plain.ofList {α : Type} {item : α → Json} (h : ∀ x, Plain (item x)) (xs : List α) :
    Plain (ofList item xs) :=
  .arr _ fun v hv => by
    obtain ⟨x, -, rfl⟩ := List.mem_map.mp hv
    exact h x

theorem Plain.texts (ss : List String) : Plain (texts ss) := .ofList .text ss

theorem Plain.ofMap {α : Type} {value : α → Json} (h : ∀ x, Plain (value x)) (t : NameMap α) :
    Plain (ofMap value t) :=
  .record _ fun f hf => by
    obtain ⟨e, -, rfl⟩ := List.mem_map.mp hf
    exact h e.2

end Json

open Json

theorem Layout.ofJson?_toJson (l : Layout) : ofJson? l.toJson = some l := by
  simp [ofJson?, toJson, fields?_record]

theorem Layout.plain_toJson (l : Layout) : Plain l.toJson :=
  .record _ (by simp [Plain.ofNat])

theorem GroupRecord.ofJson?_toJson (r : GroupRecord) : ofJson? r.toJson = some r := by
  simp [ofJson?, toJson, fields?_record]

theorem GroupRecord.plain_toJson (r : GroupRecord) : Plain r.toJson :=
  .record _ (by simp [Plain.text, Plain.bool, Plain.texts])

theorem QueueEntry.ofJson?_toJson (e : QueueEntry) : ofJson? e.toJson = some e := by
  simp [ofJson?, toJson, fields?_record, map?_ofMap fun e _ => GroupRecord.ofJson?_toJson e.2]

theorem QueueEntry.plain_toJson (e : QueueEntry) : Plain e.toJson :=
  .record _ (by simp [Plain.int, Plain.ofMap GroupRecord.plain_toJson])

theorem Metadata.ofJson?_toJson (m : Metadata) : ofJson? m.toJson = some m := by
  simp [ofJson?, toJson, fields?_record, map?_ofMap fun e _ => QueueEntry.ofJson?_toJson e.2]

theorem Metadata.plain_toJson (m : Metadata) : Plain m.toJson :=
  .record _ (by simp [Plain.ofMap QueueEntry.plain_toJson])

theorem payload?_payloadJson (p : Payload) : payload? (payloadJson p) = some p :=
  list?_ofList fun b _ => uint8?_ofNat b

theorem plain_payloadJson (p : Payload) : Plain (payloadJson p) := .ofList (fun _ => .ofNat _) p

theorem map?_logs (logs : NameMap (List Payload)) :
    map? (list? payload?) (ofMap (ofList payloadJson) logs) = some logs :=
  map?_ofMap fun _ _ => list?_ofList fun p _ => payload?_payloadJson p

theorem map?_offsets {offsets : NameMap (NameMap Nat)}
    (h : ∀ e ∈ offsets.entries, ∀ o ∈ e.2.entries, o.2 < UInt64.size) :
    map? (map? offset?) (ofMap (ofMap ofNat) offsets) = some offsets :=
  map?_ofMap fun e he => map?_ofMap fun o ho => nat?_ofNat (h e he o ho)

theorem transport?_transportJson (logs : NameMap (List Payload)) {offsets : NameMap (NameMap Nat)}
    (h : ∀ e ∈ offsets.entries, ∀ o ∈ e.2.entries, o.2 < UInt64.size) :
    transport? (transportJson logs offsets) = some (logs, offsets) := by
  simp [transport?, transportJson, fields?_record, map?_logs, map?_offsets h]

theorem plain_transportJson (logs : NameMap (List Payload)) (offsets : NameMap (NameMap Nat)) :
    Plain (transportJson logs offsets) :=
  .record _ (by simp [Plain.ofMap (Plain.ofList plain_payloadJson), Plain.ofMap (Plain.ofMap Plain.ofNat)])

theorem CountedEvent.ofJson?_toJson (e : CountedEvent) : ofJson? e.toJson = some e := by
  simp [ofJson?, toJson, fields?_record]

theorem CountedEvent.plain_toJson (e : CountedEvent) : Plain e.toJson :=
  .record _ (by simp [Plain.int, Plain.ofNat])

theorem Counters.ofJson?_toJson (c : Counters) : ofJson? c.toJson = some c := by
  simp [ofJson?, toJson, fields?_record, list?_ofList fun e _ => CountedEvent.ofJson?_toJson e]

theorem Counters.plain_toJson (c : Counters) : Plain c.toJson :=
  .record _ (by simp [Plain.ofList CountedEvent.plain_toJson])

theorem Metrics.ofJson?_toJson (m : Metrics) : ofJson? m.toJson = some m := by
  have hqueues := map?_ofMap (t := m.queues) fun e _ =>
    map?_ofMap (t := e.2) fun o _ => Counters.ofJson?_toJson o.2
  simp [ofJson?, toJson, fields?_record, hqueues]

theorem Metrics.plain_toJson (m : Metrics) : Plain m.toJson :=
  .record _ (by simp [Plain.ofMap (Plain.ofMap Counters.plain_toJson)])

namespace Snapshot

/-- An offset is written as a 64-bit word. -/
def Storable (s : Snapshot) : Prop := ∀ queue group, (s.offsets.getD queue ∅).getD group 0 < UInt64.size

theorem plain_toJson (s : Snapshot) : Plain s.toJson :=
  .record _ (by simp [Plain.ofMap Layout.plain_toJson, Metadata.plain_toJson, plain_transportJson,
    Metrics.plain_toJson])

theorem Storable.offset_lt {s : Snapshot} (h : s.Storable) :
    ∀ e ∈ s.offsets.entries, ∀ o ∈ e.2.entries, o.2 < UInt64.size := by
  intro e he o ho
  have hqueue : s.offsets.get? e.1 = some e.2 := (Table.get?_eq_some_iff _ _ _).mpr he
  have hgroup : e.2.get? o.1 = some o.2 := (Table.get?_eq_some_iff _ _ _).mpr ho
  simpa [Table.getD, hqueue, hgroup] using h e.1 o.1

theorem Storable.ofJson?_toJson {s : Snapshot} (h : s.Storable) : ofJson? s.toJson = some s := by
  simp [ofJson?, toJson, fields?_record, map?_ofMap fun e _ => Layout.ofJson?_toJson e.2, Metadata.ofJson?_toJson,
    transport?_transportJson s.logs h.offset_lt, Metrics.ofJson?_toJson]

theorem Storable.read?_write {s : Snapshot} (h : s.Storable) : read? s.write = some s := by
  rw [read?, write, s.plain_toJson.parse?_pretty, Option.bind_some, h.ofJson?_toJson]

end Snapshot

end ManagedQueue
