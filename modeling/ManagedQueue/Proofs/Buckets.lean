import ManagedQueue.Window
import Mathlib

namespace ManagedQueue

namespace Cuts

variable {c : Nat → Int} {n : Nat}

def Rising (c : Nat → Int) (n : Nat) : Prop := ∀ i, i < n → c i ≤ c (i + 1)

theorem Rising.of_le {m : Nat} (hc : Rising c n) (hm : m ≤ n) : Rising c m :=
  fun i hi => hc i (Nat.lt_of_lt_of_le hi hm)

theorem Rising.mono (hc : Rising c n) {i j : Nat} (hij : i ≤ j) (hj : j ≤ n) : c i ≤ c j := by
  induction j with
  | zero =>
      obtain rfl : i = 0 := Nat.le_zero.mp hij
      exact Int.le_refl _
  | succ j ih =>
      rcases Nat.lt_or_eq_of_le hij with hlt | rfl
      · exact Int.le_trans (ih (Nat.le_of_lt_succ hlt) (Nat.le_of_succ_le hj)) (hc j hj)
      · exact Int.le_refl _

theorem Rising.existsUnique (hc : Rising c n) {x : Int} (hfirst : c 0 ≤ x) (hlast : x < c n) :
    ∃! i, i < n ∧ c i ≤ x ∧ x < c (i + 1) := by
  induction n with
  | zero => exact absurd hlast (Int.not_lt.mpr hfirst)
  | succ n ih =>
      by_cases hx : x < c n
      · obtain ⟨i, ⟨hi, hlow, hhigh⟩, hunique⟩ := ih (hc.of_le (Nat.le_succ n)) hx
        refine ⟨i, ⟨Nat.lt_succ_of_lt hi, hlow, hhigh⟩, fun j ⟨hj, hjlow, hjhigh⟩ => ?_⟩
        refine hunique j ⟨?_, hjlow, hjhigh⟩
        rcases Nat.lt_or_eq_of_le (Nat.le_of_lt_succ hj) with hj | rfl
        · exact hj
        · exact absurd hx (Int.not_lt.mpr hjlow)
      · refine ⟨n, ⟨Nat.lt_succ_self n, Int.not_lt.mp hx, hlast⟩, fun j ⟨hj, _, hjhigh⟩ => ?_⟩
        rcases Nat.lt_or_eq_of_le (Nat.le_of_lt_succ hj) with hj | rfl
        · have hmono : c (j + 1) ≤ c n := hc.mono hj (Nat.le_succ n)
          omega
        · rfl

section Counting

variable {α : Type} (f : α → Int)

/-- How many points lie in the half-open span. -/
def countIn (l : List α) (a b : Int) : Nat := l.countP fun x => decide (a ≤ f x ∧ f x < b)

theorem countIn_add (l : List α) {a b c : Int} (hab : a ≤ b) (hbc : b ≤ c) :
    countIn f l a b + countIn f l b c = countIn f l a c := by
  unfold countIn
  induction l with
  | nil => rfl
  | cons x l ih =>
      simp only [List.countP_cons, decide_eq_true_eq]
      split <;> split <;> split <;> omega

theorem Rising.sum_countIn (hc : Rising c n) (l : List α) :
    ((List.range n).map fun i => countIn f l (c i) (c (i + 1))).sum = countIn f l (c 0) (c n) := by
  induction n with
  | zero =>
      have hnone : countIn f l (c 0) (c 0) = 0 :=
        List.countP_eq_zero.mpr fun x _ => by simp
      rw [hnone]
      rfl
  | succ n ih =>
      rw [List.range_succ, List.map_append, List.sum_append, ih (hc.of_le (Nat.le_succ n))]
      simpa using countIn_add f l (hc.mono (Nat.zero_le n) (Nat.le_succ n)) (hc n (Nat.lt_succ_self n))

end Counting

end Cuts

namespace Window

variable {w : Window}

def cut (w : Window) (i : Nat) : Int :=
  if i = w.buckets.toNat then w.stop.toInt else w.start.toInt + w.width * i

theorem proper_of_valid (h : w.fault? = none) : w.start.toInt < w.stop.toInt ∧ 0 < w.buckets.toNat := by
  unfold fault? at h
  split at h
  · cases h
  · next hspan =>
    split at h
    · cases h
    · next hbuckets =>
      refine ⟨Int64.lt_iff_toInt_lt.mp (Int64.not_le.mp hspan), Nat.pos_of_ne_zero fun h0 => hbuckets ?_⟩
      exact UInt32.toNat_inj.mp h0

theorem width_bounds (h : w.fault? = none) :
    0 ≤ w.width ∧ w.width * w.buckets.toNat ≤ w.stop.toInt - w.start.toInt := by
  obtain ⟨hspan, hbuckets⟩ := proper_of_valid h
  have hpositive : 0 ≤ w.stop.toInt - w.start.toInt := by omega
  refine ⟨Int.tdiv_nonneg hpositive (Int.natCast_nonneg _), ?_⟩
  rw [Int.mul_comm]
  exact Int.mul_tdiv_self_le hpositive

theorem cut_zero (h : w.fault? = none) : w.cut 0 = w.start.toInt := by
  have hbuckets := (proper_of_valid h).2
  simp [cut, Nat.ne_of_lt hbuckets]

theorem cut_last (w : Window) : w.cut w.buckets.toNat = w.stop.toInt := if_pos rfl

theorem reach (h : w.fault? = none) {i : Nat} (hi : i ≤ w.buckets.toNat) :
    w.start.toInt + w.width * i ≤ w.stop.toInt ∧ w.start.toInt ≤ w.start.toInt + w.width * i := by
  obtain ⟨hwidth, htotal⟩ := width_bounds h
  have hstep : w.width * i ≤ w.width * w.buckets.toNat :=
    Int.mul_le_mul_of_nonneg_left (Int.ofNat_le.mpr hi) hwidth
  have hpositive : 0 ≤ w.width * i := Int.mul_nonneg hwidth (Int.natCast_nonneg i)
  omega

theorem cut_rising (h : w.fault? = none) : Cuts.Rising w.cut w.buckets.toNat := by
  intro i hi
  have hthis : w.cut i = w.start.toInt + w.width * i := if_neg (Nat.ne_of_lt hi)
  rw [hthis]
  unfold cut
  split
  · exact (reach h (Nat.le_of_lt hi)).1
  · have hwidth := (width_bounds h).1
    rw [Int.natCast_succ, Int.mul_add]
    omega

theorem boundary_toInt (h : w.fault? = none) {i : Nat} (hi : i < w.buckets.toNat) :
    (w.boundary i).toInt = w.cut i := by
  obtain ⟨hstop, hstart⟩ := reach h (Nat.le_of_lt hi)
  have hthis : w.cut i = w.start.toInt + w.width * i := if_neg (Nat.ne_of_lt hi)
  have hlow := Int64.le_toInt w.start
  have hhigh := Int64.toInt_lt w.stop
  rw [hthis]
  exact Int64.toInt_ofInt_of_le (Int.le_trans hlow hstart) (Int.lt_of_le_of_lt hstop hhigh)

/-- Each bucket reaches from one cut to the next. -/
theorem bucket_toInt (h : w.fault? = none) {i : Nat} (hi : i < w.buckets.toNat) :
    (w.bucket i).1.toInt = w.cut i ∧ (w.bucket i).2.toInt = w.cut (i + 1) := by
  refine ⟨boundary_toInt h hi, ?_⟩
  unfold bucket
  dsimp only
  split
  · next hlast => rw [hlast, cut_last]
  · next hlast => exact boundary_toInt h (Nat.lt_of_le_of_ne hi hlast)

theorem bounds_getElem? (w : Window) (i : Nat) :
    w.bounds[i]? = if i < w.buckets.toNat then some (w.bucket i) else none := by
  unfold bounds
  rw [List.getElem?_map]
  by_cases hi : i < w.buckets.toNat
  · rw [List.getElem?_range hi, if_pos hi]
    rfl
  · rw [List.getElem?_eq_none (by simpa using hi), if_neg hi]
    rfl

theorem bounds_existsUnique (h : w.fault? = none) {t : Int64} (hstart : w.start ≤ t) (hstop : t < w.stop) :
    ∃! i : Nat, ∃ b : Int64 × Int64, w.bounds[i]? = some b ∧ b.1 ≤ t ∧ t < b.2 := by
  rw [Int64.le_iff_toInt_le, ← cut_zero h] at hstart
  rw [Int64.lt_iff_toInt_lt, ← cut_last] at hstop
  have hiff (i : Nat) : (∃ b : Int64 × Int64, w.bounds[i]? = some b ∧ b.1 ≤ t ∧ t < b.2) ↔
      i < w.buckets.toNat ∧ w.cut i ≤ t.toInt ∧ t.toInt < w.cut (i + 1) := by
    rw [bounds_getElem?]
    by_cases hi : i < w.buckets.toNat
    · obtain ⟨hlow, hhigh⟩ := bucket_toInt h hi
      simp [hi, Int64.le_iff_toInt_le, Int64.lt_iff_toInt_lt, hlow, hhigh]
    · simp [hi]
  simp only [hiff]
  exact (cut_rising h).existsUnique hstart hstop

end Window

end ManagedQueue
