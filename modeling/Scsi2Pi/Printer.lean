import Scsi2Pi.DiskDrives

/-! Printer: data to print are collected in a file that is handed to the print
system and removed. -/
namespace Scsi2Pi
open Slices MemoryUtil Handler Derives

structure Printer extends PrimaryDevice where
  filename : String := ""
  isOpen : Bool := false

instance : Derives Printer PrimaryDevice :=
  ⟨fun d => d.toPrimaryDevice,fun d b => { d with toPrimaryDevice := b },fun _ _ => rfl,fun _ => rfl,fun _ _ _ => rfl⟩

namespace Printer

def cleanUp : Handler Printer Unit := do
  let d ← getDevice
  if d.filename ≠ "" then
    let w ← getWorld
    setWorld { w with files := Function.update w.files d.filename none }
  modifyDevice fun d => { d with isOpen := false, filename := "" }

def print : Handler Printer PhaseCall := do
  let length := (← getRequest).cdbInt24 2
  if (← getTransfer).buffer.length < length then throw ⟨.illegalRequest,.invalidFieldInCdb⟩
  setTransferSize length length
  return .dataOut length

def synchronizeBuffer : Handler Printer PhaseCall := do
  let d ← getDevice
  if !d.isOpen then throw ⟨.abortedCommand,.ioProcessTerminated⟩
  modifyDevice fun d => { d with isOpen := false }
  cleanUp
  if (← getRequest).env.printFails then throw ⟨.abortedCommand,.ioProcessTerminated⟩
  return .status

def stopPrint : Handler Printer PhaseCall := return .status

/- The file with a unique name is created on the first data. -/
def openOutput : Handler Printer Unit := do
  if !(← getDevice).isOpen then
    match (← getRequest).env.temporaryFile with
    | none => throw ⟨.abortedCommand,.ioProcessTerminated⟩
    | some filename =>
      let w ← getWorld
      setWorld { w with files := Function.update w.files filename (some []) }
      modifyDevice fun d => { d with isOpen := true, filename }

def writeData (length : Int) : Handler Printer Int := do
  let r ← getRequest
  if r.opcode ≠ .print then throw ⟨.abortedCommand,.internalTargetFailure⟩
  openOutput
  let filename := (← getDevice).filename
  let data := (← getTransfer).buffer.take (r.cdbInt24 2)
  let w ← getWorld
  setWorld { w with files := Function.update w.files filename ((w.files filename).map (· ++ data)) }
  return length

def inquiry : Handler Printer PhaseCall := PrimaryDevice.inquiry (inquiryInternal .printer fun _ => false)

def commands : List (ScsiCommand × Handler Printer PhaseCall) :=
  PrimaryDevice.commands inquiry (super PrimaryDevice.requestSense) ++ [
    (.print,print),
    (.synchronizeBuffer,synchronizeBuffer),
    (.stopPrint,stopPrint)]

def methods : Methods Printer where
  dispatch := Handler.dispatch commands
  readData := return 0
  writeData _ length := writeData length
  modeSelect _ := throw ⟨.illegalRequest,.invalidFieldInCdb⟩

end Printer
end Scsi2Pi
