import ShaperDash.Number.Binary

/-!
# Load of the local machine
-/

namespace ShaperDash

/-- A 32-bit floating-point word. -/
structure Single where
  bits : UInt32
  deriving DecidableEq, Repr

/-- What the word stands for. -/
def Single.value (s : Single) : Datum := binary32.decode s.bits.toNat

/-- One sample of the load: percent for each processor, and bytes of memory. -/
structure SystemSample where
  cpu : List Single
  ramUsed : UInt64
  ramTotal : UInt64
  deriving DecidableEq, Repr

namespace SystemSample

/-- The sample before anything was measured. -/
def empty : SystemSample := ⟨[], 0, 0⟩

/-- The memory in use in percent; nothing is in use of no memory. -/
def ramPercent (s : SystemSample) : Datum :=
  if s.ramTotal = 0 then .finite false 0 binary64.minExponent
  else
    let part := binary64.div (binary64.ofNat s.ramUsed.toNat) (binary64.ofNat s.ramTotal.toNat)
    binary64.mul part (binary64.ofNat 100)

end SystemSample

end ShaperDash
