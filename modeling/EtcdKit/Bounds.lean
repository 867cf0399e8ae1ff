/-!
# Bounds — the documented ranges of the numbers that are written into generated text

A number outside its range is moved to the nearer end before it is written.
-/
namespace EtcdKit

/-- An inclusive range; a range whose ends are crossed is allowed and favours its lower end. -/
structure Bounds where
  lower : Nat
  upper : Nat
  deriving DecidableEq, Repr

namespace Bounds

def clamp (b : Bounds) (value : Nat) : Nat :=
  if value ≤ b.lower then b.lower else if b.upper < value then b.upper else value

/-- Private key size in bits. -/
def keySize : Bounds := ⟨256, 8192⟩

/-- Certificate lifetime in hours, up to a hundred years. -/
def keyExpiryHours : Bounds := ⟨1, 876000⟩

/-- Seconds between two backup snapshots. -/
def snapshotInterval : Bounds := ⟨30, 86400⟩

def maxSnapshots : Bounds := ⟨1, 100⟩

/-- Size of the backup volume in megabytes. -/
def backupVolume : Bounds := ⟨128, 102400⟩

def clusterSize : Bounds := ⟨1, 7⟩

theorem clamp_mem {b : Bounds} (h : b.lower ≤ b.upper) (value : Nat) :
    b.lower ≤ b.clamp value ∧ b.clamp value ≤ b.upper := by
  unfold clamp
  split
  · omega
  · split <;> omega

theorem clamp_eq_self {b : Bounds} {value : Nat} (lo : b.lower ≤ value) (hi : value ≤ b.upper) :
    b.clamp value = value := by
  unfold clamp
  split
  · omega
  · split <;> omega

end Bounds
end EtcdKit
