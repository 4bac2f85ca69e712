import Mathlib.Data.UInt

/-!
# EFI status codes

Status codes are 64-bit words; the highest bit marks an error.
-/

namespace AngryUefi

abbrev EfiStatus := UInt64

namespace EfiStatus

def success : EfiStatus := 0
def invalidParameter : EfiStatus := 0x8000000000000002
def timeout : EfiStatus := 0x8000000000000012
def aborted : EfiStatus := 0x8000000000000015

/-- What `Receive` reports when the peer has closed the connection. -/
def connectionFin : EfiStatus := 0x8000000000000068

/-- `EFI_ERROR`. -/
def isError (status : EfiStatus) : Bool := 0x8000000000000000 ≤ status

@[simp]
theorem isError_success : isError success = false := by decide

@[simp]
theorem isError_invalidParameter : isError invalidParameter = true := by decide

@[simp]
theorem isError_aborted : isError aborted = true := by decide

theorem ne_success_of_isError {status : EfiStatus} (herror : isError status = true) :
    status ≠ success := by
  rintro rfl
  simp at herror

end EfiStatus

end AngryUefi
