import ManagedQueue.Proofs.ArgumentChecks
import ManagedQueue.Proofs.VolumeCounts

namespace ManagedQueue

namespace Window

variable {w : Window}

theorem fault?_of_bounds (hspan : w.start < w.stop) (hcount : 1 ≤ w.buckets)
    (hlimit : w.buckets ≤ maxBuckets) : w.fault? = none := by
  have hsome : w.buckets ≠ 0 := by
    intro hnone
    rw [hnone] at hcount
    exact absurd hcount (by decide)
  unfold fault?
  rw [if_neg (Int64.not_le.mpr hspan), if_neg hsome, if_neg (UInt32.not_lt.mpr hlimit)]

/-- So many buckets follow one another from the start of the window to its end, none of them
backwards. All are of one width but the last, which may be wider by less than their number. -/
structure Tiles (w : Window) (bounds : List (Int64 × Int64)) : Prop where
  count : bounds.length = w.buckets.toNat
  first : bounds.head?.map (·.1) = some w.start
  last : bounds.getLast?.map (·.2) = some w.stop
  adjoining : ∀ {i a b}, bounds[i]? = some a → bounds[i + 1]? = some b → b.1 = a.2
  forward : ∀ b ∈ bounds, b.1 ≤ b.2
  equal : ∀ {i b}, bounds[i]? = some b → i + 1 < bounds.length →
    b.2.toInt - b.1.toInt = (w.stop.toInt - w.start.toInt) / w.buckets.toNat
  rest : ∀ b, bounds.getLast? = some b →
    (w.stop.toInt - w.start.toInt) / w.buckets.toNat ≤ b.2.toInt - b.1.toInt ∧
      b.2.toInt - b.1.toInt < (w.stop.toInt - w.start.toInt) / w.buckets.toNat + w.buckets.toNat

theorem width_eq (h : w.fault? = none) : w.width = (w.stop.toInt - w.start.toInt) / w.buckets.toNat := by
  have hspan := (proper_of_valid h).1
  exact Int.tdiv_eq_ediv_of_nonneg (by omega)

theorem cut_of_lt {i : Nat} (hi : i < w.buckets.toNat) : w.cut i = w.start.toInt + w.width * i :=
  if_neg (Nat.ne_of_lt hi)

theorem cut_step {i : Nat} (hi : i + 1 < w.buckets.toNat) : w.cut (i + 1) - w.cut i = w.width := by
  rw [cut_of_lt hi, cut_of_lt (Nat.lt_of_succ_lt hi), Int.natCast_succ, Int.mul_add]
  omega

theorem cut_rest (h : w.fault? = none) {i : Nat} (hi : i + 1 = w.buckets.toNat) :
    w.cut (i + 1) - w.cut i = w.width + (w.stop.toInt - w.start.toInt) % w.buckets.toNat := by
  have hlast : w.cut (i + 1) = w.stop.toInt := by rw [hi, cut_last]
  have hdivision := Int.mul_ediv_add_emod (w.stop.toInt - w.start.toInt) w.buckets.toNat
  rw [hlast, cut_of_lt (by omega), width_eq h]
  rw [← hi, Int.natCast_succ, Int.add_mul] at hdivision
  rw [← hi, Int.natCast_succ, Int.mul_comm _ (i : Int)]
  omega

theorem length_bounds (w : Window) : w.bounds.length = w.buckets.toNat := by simp [bounds]

theorem bounds_eq_some {i : Nat} {b : Int64 × Int64} (hb : w.bounds[i]? = some b) :
    i < w.buckets.toNat ∧ b = w.bucket i := by
  rw [bounds_getElem?] at hb
  split at hb
  · next hi => exact ⟨hi, (Option.some.inj hb).symm⟩
  · cases hb

theorem bounds_last (h : w.fault? = none) :
    ∃ i, i + 1 = w.buckets.toNat ∧ w.bounds.getLast? = some (w.bucket i) := by
  have hcount := (proper_of_valid h).2
  refine ⟨w.buckets.toNat - 1, Nat.succ_pred_eq_of_pos hcount, ?_⟩
  rw [List.getLast?_eq_getElem?, length_bounds, bounds_getElem?, if_pos (Nat.sub_one_lt (Nat.ne_of_gt hcount))]

theorem bounds_tile (h : w.fault? = none) : w.Tiles w.bounds where
  count := length_bounds w
  first := by
    have hcount := (proper_of_valid h).2
    have hstart : w.boundary 0 = w.start :=
      Int64.toInt_inj.mp ((boundary_toInt h hcount).trans (cut_zero h))
    rw [List.head?_eq_getElem?, bounds_getElem?, if_pos hcount]
    exact congrArg some hstart
  last := by
    obtain ⟨i, hi, hlast⟩ := bounds_last h
    rw [hlast]
    exact congrArg some (if_pos hi)
  adjoining {i a b} ha hb := by
    obtain ⟨hi, rfl⟩ := bounds_eq_some ha
    obtain ⟨hnext, rfl⟩ := bounds_eq_some hb
    exact Int64.toInt_inj.mp ((bucket_toInt h hnext).1.trans (bucket_toInt h hi).2.symm)
  forward b hb := by
    obtain ⟨i, hb⟩ := List.mem_iff_getElem?.mp hb
    obtain ⟨hi, rfl⟩ := bounds_eq_some hb
    obtain ⟨hlow, hhigh⟩ := bucket_toInt h hi
    rw [Int64.le_iff_toInt_le, hlow, hhigh]
    exact cut_rising h i hi
  equal {i b} hb hnext := by
    obtain ⟨hi, rfl⟩ := bounds_eq_some hb
    obtain ⟨hlow, hhigh⟩ := bucket_toInt h hi
    rw [hlow, hhigh, cut_step (length_bounds w ▸ hnext), width_eq h]
  -- Only the last bucket takes what the division leaves over, less than one second a bucket.
  rest b hb := by
    obtain ⟨i, hi, hlast⟩ := bounds_last h
    obtain rfl : w.bucket i = b := Option.some.inj (hlast.symm.trans hb)
    obtain ⟨hlow, hhigh⟩ := bucket_toInt h (Nat.lt_of_succ_le (Nat.le_of_eq hi))
    have hcount : (0 : Int) < w.buckets.toNat := Int.natCast_pos.mpr (proper_of_valid h).2
    have hnonneg := Int.emod_nonneg (w.stop.toInt - w.start.toInt) (Int.ne_of_gt hcount)
    have hlt := Int.emod_lt_of_pos (w.stop.toInt - w.start.toInt) hcount
    rw [hlow, hhigh, cut_rest h hi, width_eq h]
    omega

/-- The number, if a signed word of so many bits holds it. -/
def inWord? (bits : Nat) (x : Int) : Option Int :=
  if -2 ^ (bits - 1) ≤ x ∧ x < 2 ^ (bits - 1) then some x else none

/-- The boundary by way of words of 128 bits and then of 64; none if a value on the way does not fit
its word. -/
def boundaryInWords? (w : Window) (i : Nat) : Option Int64 := do
  let origin ← inWord? 128 w.start.toInt
  let stop ← inWord? 128 w.stop.toInt
  let span ← inWord? 128 (stop - origin)
  let count ← inWord? 128 w.buckets.toNat
  let width ← inWord? 128 (span.tdiv count)
  let index ← inWord? 128 i
  let reach ← inWord? 128 (width * index)
  let point ← inWord? 128 (origin + reach)
  let narrowed ← inWord? 64 point
  return Int64.ofInt narrowed

def bucketInWords? (w : Window) (i : Nat) : Option (Int64 × Int64) := do
  let next ← if i + 1 < 2 ^ 32 then some (i + 1) else none
  let low ← w.boundaryInWords? i
  let high ← if next = w.buckets.toNat then some w.stop else w.boundaryInWords? next
  return (low, high)

theorem inWord?_of_le {bits : Nat} {x : Int} (hlow : -2 ^ (bits - 1) ≤ x) (hhigh : x < 2 ^ (bits - 1)) :
    inWord? bits x = some x := if_pos ⟨hlow, hhigh⟩

theorem boundaryInWords?_eq (h : w.fault? = none) {i : Nat} (hi : i < w.buckets.toNat) :
    w.boundaryInWords? i = some (w.boundary i) := by
  -- Every word the boundary goes through lies between the limits of the window, or is no wider than it.
  have hspan := (proper_of_valid h).1
  obtain ⟨hstop, hstart⟩ := reach h (Nat.le_of_lt hi)
  have hwidth := (width_bounds h).1
  have hcount : w.buckets.toNat < 2 ^ 32 := w.buckets.toNat_lt
  have hlow : -2 ^ 63 ≤ w.start.toInt := Int64.le_toInt w.start
  have hhigh : w.stop.toInt < 2 ^ 63 := Int64.toInt_lt w.stop
  have hquotient : w.width ≤ w.stop.toInt - w.start.toInt := by
    rw [width_eq h]
    exact Int.ediv_le_self _ (by omega)
  have hindex : i < 2 ^ 32 := Nat.lt_trans hi hcount
  have hwide {x : Int} (hx : -2 ^ 64 ≤ x) (hx' : x ≤ 2 ^ 64) : inWord? 128 x = some x := by
    apply inWord?_of_le <;> norm_num at * <;> omega
  have hnarrow : inWord? 64 (w.start.toInt + w.width * i) = some (w.start.toInt + w.width * i) := by
    apply inWord?_of_le <;> norm_num at * <;> omega
  have hdivision : (w.stop.toInt - w.start.toInt).tdiv w.buckets.toNat = w.width := rfl
  unfold boundaryInWords?
  simp only [Option.bind_eq_bind]
  rw [hwide (x := w.start.toInt) (by omega) (by omega), Option.bind_some,
    hwide (x := w.stop.toInt) (by omega) (by omega), Option.bind_some,
    hwide (x := w.stop.toInt - w.start.toInt) (by omega) (by omega), Option.bind_some,
    hwide (x := w.buckets.toNat) (by omega) (by omega), Option.bind_some, hdivision,
    hwide (x := w.width) (by omega) (by omega), Option.bind_some,
    hwide (x := i) (by omega) (by omega), Option.bind_some,
    hwide (x := w.width * i) (by omega) (by omega), Option.bind_some,
    hwide (x := w.start.toInt + w.width * i) (by omega) (by omega), Option.bind_some,
    hnarrow, Option.bind_some]
  rfl

/-- No value on the way to the bounds overflows. -/
theorem bucketInWords?_eq (h : w.fault? = none) {i : Nat} (hi : i < w.buckets.toNat) :
    w.bucketInWords? i = w.bounds[i]? := by
  have hnext : i + 1 < 2 ^ 32 := Nat.lt_of_le_of_lt hi w.buckets.toNat_lt
  rw [bounds_getElem?, if_pos hi]
  unfold bucketInWords? bucket
  rw [if_pos hnext, boundaryInWords?_eq h hi]
  simp only [Option.bind_eq_bind, Option.bind_some]
  split
  · rfl
  · next hlast =>
    rw [boundaryInWords?_eq h (Nat.lt_of_le_of_ne hi hlast)]
    rfl

end Window

namespace Metrics

theorem query_bounds {m : Metrics} {direction : Direction} {queue group : String} {w : Window}
    {s : Series} (h : m.query direction queue group w = some s) :
    w.fault? = none ∧ s.buckets.map (fun b => (b.start, b.stop)) = w.bounds := by
  unfold query at h
  split at h
  · cases h
  · next hrefused =>
    cases h
    refine ⟨?_, ?_⟩
    · rw [refuses_eq] at hrefused
      simpa using hrefused
    · rw [List.map_map]
      exact List.map_id _

end Metrics

namespace Host

/-- Over the whole range of times the buckets of a valid window tile it, and no value on the way to
their bounds overflows. The recorder refuses no window that the service accepts, so a query fails at
a collaborator only where a failure was planned. -/
theorem buckets_tile_window :
    (∀ (m : Metrics) (direction : Direction) (queue group : String) (w : Window),
      w.start < w.stop → 1 ≤ w.buckets → w.buckets ≤ 10000 →
      ∃ s, m.query direction queue group w = some s ∧
        w.Tiles (s.buckets.map fun b => (b.start, b.stop)) ∧
        ∀ i < w.buckets.toNat,
          w.bucketInWords? i = (s.buckets.map fun b => (b.start, b.stop))[i]?) ∧
    (∀ w : Window, w.fault? = none → Metrics.refuses w = false) ∧
    ∀ (h : Host) (direction : Direction) (queue group : String) (w : Window) (answer : Except ServiceError Answer),
      (step (.request (.volume direction queue group w)) h).1 = .outcome (.ready answer) →
      (∀ op q g e, answer = .error (.collaborator op q g e) →
        h.site.struck .existTopic = some e ∨ h.site.struck .query = some e) ∧
      ∀ s, answer = .ok (.series s) → w.Tiles (s.buckets.map fun b => (b.start, b.stop)) := by
  refine ⟨fun m direction queue group w hspan hcount hlimit => ?_, fun w hw => ?_,
    fun h direction queue group w answer hanswer => ?_⟩
  · have hw : w.fault? = none := Window.fault?_of_bounds hspan hcount hlimit
    have hquery := m.query_of_valid direction queue group hw
    obtain ⟨-, hbounds⟩ := Metrics.query_bounds hquery
    refine ⟨_, hquery, ?_⟩
    rw [hbounds]
    exact ⟨Window.bounds_tile hw, fun i hi => Window.bucketInWords?_eq hw hi⟩
  · rw [Metrics.refuses_eq, hw]
    rfl
  · have hasks := Volume.query_asks direction queue group w h.site
    -- A query that no planned fault strikes ends in an error only where the window is not valid or a topic
    -- is missing, neither of which a collaborator reports.
    change Reply.outcome (.ready ((Volume.query direction queue group w h.site).1.map .series)) = _ at hanswer
    generalize (Volume.query direction queue group w h.site).1 = ended at hasks hanswer
    cases hasks with
    | refused message _ =>
        cases hanswer
        exact ⟨nofun, nofun⟩
    | struck c context e hc he =>
        cases hanswer
        refine ⟨fun _ _ _ e' hfailed => ?_, nofun⟩
        cases hfailed
        rcases hc with rfl | rfl
        · exact .inl he
        · exact .inr he
    | missing _ =>
        cases hanswer
        exact ⟨nofun, nofun⟩
    | counted series hseries =>
        cases hanswer
        refine ⟨nofun, fun s hok => ?_⟩
        cases hok
        obtain ⟨hw, hbounds⟩ := Metrics.query_bounds hseries
        exact hbounds ▸ Window.bounds_tile hw

/-- All times there are, in as many buckets as there may be. -/
theorem buckets_tile_all_times :
    let w : Window := ⟨Int64.minValue, Int64.maxValue, 10000⟩
    ∃ s, ({} : Metrics).query .send "q" "" w = some s ∧
      w.Tiles (s.buckets.map fun b => (b.start, b.stop)) := by
  intro w
  obtain ⟨s, hs, htiles, -⟩ :=
    buckets_tile_window.1 {} .send "q" "" w (by decide) (by decide) (by decide)
  exact ⟨s, hs, htiles⟩

end Host

end ManagedQueue
