import ManagedQueue.Text.Decimal

namespace ManagedQueue

structure Window where
  start : Int64
  stop : Int64
  buckets : UInt32
deriving DecidableEq

inductive WindowFault where
  | backwards
  | noBuckets
  | tooManyBuckets
deriving DecidableEq

namespace Window

def maxBuckets : UInt32 := 10000

def fault? (w : Window) : Option WindowFault :=
  if w.stop ≤ w.start then some .backwards
  else if w.buckets = 0 then some .noBuckets
  else if maxBuckets < w.buckets then some .tooManyBuckets
  else none

/-- A window may be wider than a 64-bit word holds, so widths are computed without bound. -/
def width (w : Window) : Int := (w.stop.toInt - w.start.toInt).tdiv w.buckets.toNat

def boundary (w : Window) (i : Nat) : Int64 := Int64.ofInt (w.start.toInt + w.width * i)

def bucket (w : Window) (i : Nat) : Int64 × Int64 :=
  -- The last bucket takes what the division leaves over.
  (w.boundary i, if i + 1 = w.buckets.toNat then w.stop else w.boundary (i + 1))

def bounds (w : Window) : List (Int64 × Int64) := (List.range w.buckets.toNat).map w.bucket

end Window

def WindowFault.message (w : Window) : WindowFault → String
  | .backwards =>
    "Window start " ++ Text.showInt w.start.toInt ++ " must be before window end " ++
      Text.showInt w.stop.toInt
  | .noBuckets => "Bucket count must be greater than 0"
  | .tooManyBuckets =>
    "Bucket count " ++ Text.showNat w.buckets.toNat ++ " exceeds the limit of " ++
      Text.showNat Window.maxBuckets.toNat

end ManagedQueue
