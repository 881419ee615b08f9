import CyclicBus.Config.Document

/-!
# Sample configurations

Small configurations to try things on. None of them needs privileges.
-/

namespace CyclicBus.Sample

/-- A document with two devices. -/
def text : String := "
cycle:
  period_ns: 1000000
  policy: \x7b kind: inherit \x7d
  lock_memory: false
  filter_window: 4
  drift_clamp_ns: 1000
devices:
  - name: coupler
    position: 0
    vendor_id: 0x00000002
    product_code: 0x044c2c52
    input: \x7b offset: 0, len: 4 \x7d
    output: \x7b offset: 4, len: 4 \x7d
  - name: drive
    position: 1
    vendor_id: 0x0000034e
    product_code: 0x00000001
    input: \x7b offset: 8, len: 6 \x7d
    output: \x7b offset: 14, len: 2 \x7d
observability:
  sink: \"null\"
"

/-- A device whose inputs start at `base`, with its outputs right after them, unless the place where
those start overflows. -/
def device? (name : String) (position : UInt16) (base inputLength outputLength : UInt64) :
    Option Device :=
  (base.add? inputLength).map fun outputs =>
    { name
      stationAlias := 0
      position
      vendorId := 0x034e
      productCode := 1
      assignActivate := Device.standardAssignActivate
      sync0Shift := 0
      input := ⟨base, inputLength⟩
      output := ⟨outputs, outputLength⟩ }

/-- Two devices in a domain of 16 bytes. -/
def devices : List Device := [device? "coupler" 0 0 4 4, device? "drive" 1 8 6 2].filterMap id

/-- A short window and a narrow clamp. -/
def cycle (period : UInt64) : CycleConfig :=
  { CycleConfig.unprivileged period with filterWindow := 4, driftClamp := 1000 }

def period : UInt64 := 1000000

end CyclicBus.Sample
