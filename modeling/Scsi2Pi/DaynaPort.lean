import Scsi2Pi.DiskDrives

/-! DaynaPort: the network adapter. Its commands share opcodes with those of
other devices, and some of them ask for a DATA OUT phase that the command table
does not know of. -/
namespace Scsi2Pi
open Slices MemoryUtil Handler Derives

structure DaynaPort extends PrimaryDevice

instance : Derives DaynaPort PrimaryDevice :=
  ⟨fun d => d.toPrimaryDevice,fun d b => { d with toPrimaryDevice := b },fun _ _ => rfl,fun _ => rfl,fun _ _ _ => rfl⟩

namespace DaynaPort

def readHeaderSize : Nat := 6

def setMac : Nat := 0x40
def setMode : Nat := 0x80

/- The Mac driver expects 37 bytes. -/
def inquiryInternal : Handler DaynaPort Bytes := do
  let d ← getDevice
  let buf := PrimaryDevice.handleInquiry d.toPrimaryDevice .processor false
  if (← getRequest).cdbByte 4 = 37 then return buf.set 4 (buf.getD 4 0 + 1) ++ [0]
  return buf

/- A packet is stored behind the header, and reported with at least 64 bytes. -/
def getMessage : Handler DaynaPort Nat := do
  let r ← getRequest
  if r.cdbByte 4 = 1 then return 0
  if r.env.packet.isEmpty then
    setBuffer (setBytes · 0 (List.replicate 8 0))
    return readHeaderSize
  let size := max 64 r.env.packet.length
  setBuffer fun buf =>
    setInt32 (setInt16 (setBytes buf readHeaderSize r.env.packet) 0 size) 2 (if r.env.pendingPackets then 0x10 else 0x00)
  return size + readHeaderSize

def getMessage6 : Handler DaynaPort PhaseCall := do
  let r ← getRequest
  if r.cdbByte 5 ≠ 0xc0 ∧ r.cdbByte 5 ≠ 0x80 then throw ⟨.illegalRequest,.invalidFieldInCdb⟩
  let length ← getMessage
  setTransferSize length length
  return .dataIn length

def sendMessage6 : Handler DaynaPort PhaseCall := do
  let r ← getRequest
  let length :=
    if r.cdbByte 5 = 0x00 then r.cdbInt16 3
    else if r.cdbByte 5 = 0x80 then r.cdbInt16 3 + 8
    else 0
  if length = 0 then throw ⟨.illegalRequest,.invalidFieldInCdb⟩
  setTransferSize length length
  return .dataOut length

def linkStats : Bytes := [0x00,0x80,0x19,0x10,0x98,0xe3] ++ List.replicate 12 0

def retrieveStats : Handler DaynaPort PhaseCall := do
  let r ← getRequest
  setBuffer fun buf =>
    let buf := setBytes buf 0 linkStats
    if 6 ≤ r.env.macAddress.length then setBytes buf 3 (slice r.env.macAddress 3 3) else buf
  let length := min 18 (r.cdbInt16 3)
  setTransferSize length length
  return .dataIn length

def setInterfaceMode : Handler DaynaPort PhaseCall := do
  let r ← getRequest
  if r.cdbByte 5 = setMode then return .status
  if r.cdbByte 5 = setMac then return .dataOut 6
  throw ⟨.illegalRequest,.invalidFieldInCdb⟩

def setMcastAddr : Handler DaynaPort PhaseCall := do
  let length := (← getRequest).cdbByte 4
  if length = 0 then throw ⟨.illegalRequest,.invalidFieldInCdb⟩
  return .dataOut length

def enableInterface : Handler DaynaPort PhaseCall := do
  if (← getRequest).env.ipLinkError then throw ⟨.abortedCommand,.internalTargetFailure⟩
  return .status

def sendPacket (data : Bytes) : Handler DaynaPort Unit := do
  let w ← getWorld
  setWorld { w with network := w.network ++ [data] }

/- Format $00 sends the whole buffer, format $80 what its first two bytes say. -/
def writeData (length : Int) : Handler DaynaPort Int := do
  let r ← getRequest
  if r.opcode ≠ .sendMessage6 then throw ⟨.abortedCommand,.noAdditionalSenseInformation⟩
  let buf := (← getTransfer).buffer
  if r.cdbByte 5 = 0x00 then sendPacket buf
  else if r.cdbByte 5 = 0x80 then sendPacket (slice buf 4 (getInt16 buf 0))
  setTransferSize 0 0
  return length

def commands : List (ScsiCommand × Handler DaynaPort PhaseCall) :=
  PrimaryDevice.commands (PrimaryDevice.inquiry inquiryInternal) (super PrimaryDevice.requestSense) ++ [
    (.getMessage6,getMessage6),
    (.sendMessage6,sendMessage6),
    (.retrieveStats,retrieveStats),
    (.setIfaceMode,setInterfaceMode),
    (.setMcastAddr,setMcastAddr),
    (.enableInterface,enableInterface)]

def methods : Methods DaynaPort where
  dispatch := Handler.dispatch commands
  readData := return 0
  writeData _ length := writeData length
  modeSelect _ := throw ⟨.illegalRequest,.invalidFieldInCdb⟩

end DaynaPort
end Scsi2Pi
