/-
  ZWaveHost.Command.Transmission — what became of radio transmissions.
-/
import ZWaveHost.Command.Value

namespace ZWaveHost

/-! ## §1. Acceptance -/

/-- Whether the module has queued the data. -/
structure SendDataAccepted where
  accepted : Bool
  deriving DecidableEq

def SendDataAccepted.decode : Decode SendDataAccepted := do
  return { accepted := (← Buffer.next) ≠ 0x00 }

/-- Whether the module has queued the empty frame. -/
structure SendNopAccepted where
  accepted : Bool
  deriving DecidableEq

def SendNopAccepted.decode : Decode SendNopAccepted := do
  return { accepted := (← Buffer.next) ≠ 0x00 }

/-! ## §2. Completion -/

/-- What the callback of a transmission carries: the session, the status if
    there is one, and the rest as a raw report. -/
structure TxReport where
  sessionId : UInt8
  txStatus : TxStatus
  report : List UInt8
  deriving DecidableEq

def TxReport.decode : Decode TxReport := do
  let sessionId ← Buffer.next
  let status ← Buffer.next?
  let report ← Buffer.nextRest
  return { sessionId, report, txStatus := (status.map TxStatus.ofByte).getD .noReport }

/-- The transmission of data has ended. -/
structure SendDataComplete extends TxReport
  deriving DecidableEq

def SendDataComplete.decode : Decode SendDataComplete := do
  return { toTxReport := ← TxReport.decode }

/-- The transmission of an empty frame has ended. -/
structure SendNopComplete extends TxReport
  deriving DecidableEq

def SendNopComplete.decode : Decode SendNopComplete := do
  return { toTxReport := ← TxReport.decode }

/-! ## §3. Noise -/

/-- The background noise on the three channels. -/
structure BackgroundRssi where
  channel0 : RssiMeasurement
  channel1 : RssiMeasurement
  channel2 : RssiMeasurement
  deriving DecidableEq

namespace BackgroundRssi

def decode : Decode BackgroundRssi := do
  let channel0 := RssiMeasurement.ofByte (← Buffer.next)
  let channel1 := RssiMeasurement.ofByte (← Buffer.next)
  let channel2 := RssiMeasurement.ofByte (← Buffer.next)
  return { channel0, channel1, channel2 }

/-- The readings in the order of the channels. -/
def channels (r : BackgroundRssi) : List RssiMeasurement := [r.channel0, r.channel1, r.channel2]

end BackgroundRssi

end ZWaveHost
