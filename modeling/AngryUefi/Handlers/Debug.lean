import AngryUefi.Handlers.Protocol

/-!
# Pings, the message size, and the reset
-/

namespace AngryUefi.Handlers

open AngryUefi.Bytes AngryUefi.Programs

def handlePing (payload : Memory) (payloadLength : UInt64) : Handler EfiStatus := do
  if payloadLength < 4 then return .invalidParameter
  else
    let pingSize := payload.u32 0
    if pingSize.toUInt64 ≠ payloadLength - 4 then return .invalidParameter
    else
      -- the sizes are sums of 32-bit words
      let responseSize : UInt64 := (pingSize + 4 + headerSize.toUInt32).toUInt64
      putPayload32 0 pingSize
      copyToPayload 4 (payload.read 4 pingSize.toNat)
      respondPayload printStatusDebug .pong (pingSize + 4).toUInt64 responseSize true

/-- The loop of `handle_multi_ping`, and the message after it. -/
def sendPongs (pingSize : UInt32) (responseSize : UInt64) : ℕ → Handler EfiStatus
  | 0 =>
      respondPayload printStatusDebug .pong (pingSize + 4).toUInt64 responseSize true
  | remaining + 1 => do
      let status ← respondPayload printStatusDebug .pong (pingSize + 4).toUInt64
        responseSize false
      if status.isError then return status
      else sendPongs pingSize responseSize remaining

def handleMultiPing (payload : Memory) (payloadLength : UInt64) : Handler EfiStatus := do
  if payloadLength < 8 then return .invalidParameter
  else
    let pingCount := payload.u32 0
    let pingSize := payload.u32 1
    if pingSize.toUInt64 ≠ payloadLength - 8 then return .invalidParameter
    else
      let responseSize : UInt64 := (pingSize + 4 + headerSize.toUInt32).toUInt64
      putPayload32 0 pingSize
      copyToPayload 4 (payload.read 8 pingSize.toNat)
      -- for (int i = 1; i < ping_count; i++)
      sendPongs pingSize responseSize (pingCount.toNat - 1)

def handleGetMsgSize (payloadLength : UInt64) : Handler EfiStatus := do
  let responseSize : UInt64 := 4 + headerSize
  putPayload32 0 (payloadLength - 4).toUInt32
  respondPayload printStatusDebug .msgSize 4 responseSize true

def handleReboot (payload : Memory) (payloadLength : UInt64) : Handler EfiStatus := do
  if payloadLength < 4 then rejectWith 0x1 .invalidParameter
  else
    let options := payload.u32 0
    let warmReset := options &&& 0x01 == 1
    let _ ← sendStatus 0x0 none
    let number ← ask
    let firmware ← read
    if firmware.resetReturns number warmReset then return .success else failure

end AngryUefi.Handlers
