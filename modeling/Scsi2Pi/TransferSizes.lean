import Scsi2Pi.DiskAccess

/-! The sizes that READ and WRITE hand to the controller. They are products of the
number of sectors and the sector size, computed in 32 bits and stored as int. -/
namespace Scsi2Pi
open Handler Derives Eff

namespace Disk

/- READ and WRITE with the form of their CDB and whether they receive data. -/
def transferCommands : List (ScsiCommand × AccessMode × Bool) := [
  (.read6,.rw6,false),
  (.read10,.rw10,false),
  (.read16,.rw16,false),
  (.write6,.rw6,true),
  (.write10,.rw10,true),
  (.write16,.rw16,true)]

def total (d : Disk) (r : Request) (mode : AccessMode) : Nat := count r mode * d.blockSize

/- An accepted command moves no data, or the controller is told the exact sizes. -/
def SizesExact (d : Disk) (r : Request) (mode : AccessMode) (result : Except ScsiException PhaseCall) (t : Transfer) :
    Prop :=
  ∀ call, result = .ok call → count r mode = 0 ∧ call = .status ∨
    0 < d.total r mode ∧ d.total r mode < 2^31 ∧ t.remainingLength = d.total r mode ∧
      t.chunkSize = (d.perChunk (count r mode) * d.blockSize : Nat) ∧
      (call = .dataIn t.chunkSize ∨ call = .dataOut t.chunkSize)

/- The checks before a transfer. -/
def Refused (d : Disk) (r : Request) (mode : AccessMode) (dataOut : Bool) : Prop :=
  d.mediumChanged = true ∨ ¬d.Accessible ∨ (dataOut = true ∧ ¬d.Writable) ∨ ¬d.InRange r mode

/- READ reads its first chunk before it asks for the DATA IN phase. -/
def Unreadable (any : AnyDevice) (d : Disk) (r : Request) (mode : AccessMode) (t : Transfer) (w : World) : Prop :=
  ∃ e s, AnyDevice.methods.readData r ⟨any.setDisk (d.prepared (start r mode) (count r mode)),
    (d.preparedTransfer t (count r mode)).setCurrentLength (size (count r mode) d.blockSize),w⟩ = (.error e,s)

theorem passedChecks {d : Disk} {r : Request} {mode : AccessMode} {dataOut : Bool} (passed : ¬d.Refused r mode dataOut) :
    d.mediumChanged = false ∧ d.Accessible ∧ (dataOut = true → d.Writable) ∧ d.InRange r mode := by
  simp only [Refused,not_or,not_and,not_not] at passed
  exact ⟨Bool.eq_false_iff.mpr passed.1,passed.2.1,passed.2.2.1,passed.2.2.2⟩

theorem refusedExact {d : Disk} {r : Request} {mode : AccessMode} {e : ScsiException} {t : Transfer} :
    d.SizesExact r mode (.error e) t := fun _ wrong => by cases wrong

theorem sizeFits {count blockSize : Nat} (fits : count * blockSize < 2^31) :
    size count blockSize = (count * blockSize : Nat) := by
  refine int32Fits ?_ ?_
  · exact Int.le_trans (by decide) (Int.natCast_nonneg _)
  · exact_mod_cast fits

theorem perChunkLe {d : Disk} {count : Nat} (some : count ≠ 0) : d.perChunk count ≤ count := by
  unfold perChunk
  split
  · exact Nat.le_refl _
  · exact Nat.one_le_iff_ne_zero.mpr some

theorem perChunkPositive {d : Disk} {count : Nat} (some : count ≠ 0) : 0 < d.perChunk count := by
  unfold perChunk
  split
  · exact Nat.pos_of_ne_zero some
  · exact Nat.one_pos

variable {d : Disk} {r : Request} {mode : AccessMode} {t : Transfer}

/- The sizes are exact as soon as the product fits. -/
theorem preparedExact (some : count r mode ≠ 0) (sized : 0 < d.blockSize) (fits : d.total r mode < 2^31) :
    0 < d.total r mode ∧ (d.preparedTransfer t (count r mode)).remainingLength = d.total r mode ∧
      (d.preparedTransfer t (count r mode)).chunkSize = (d.perChunk (count r mode) * d.blockSize : Nat) ∧
      size (d.perChunk (count r mode)) d.blockSize = (d.perChunk (count r mode) * d.blockSize : Nat) := by
  have least : d.perChunk (count r mode) * d.blockSize ≤ d.total r mode :=
    Nat.mul_le_mul_right _ (perChunkLe some)
  have chunk := sizeFits (Nat.lt_of_le_of_lt least fits)
  have whole : size (count r mode) d.blockSize = (d.total r mode : Nat) := sizeFits fits
  have positive : 0 < d.total r mode := Nat.mul_pos (Nat.pos_of_ne_zero some) sized
  have order : ¬((d.total r mode : Nat) : Int) < (d.perChunk (count r mode) * d.blockSize : Nat) :=
    Int.not_lt.mpr (Int.ofNat_le.mpr least)
  unfold preparedTransfer Transfer.setTransferSize
  rw [whole,chunk,if_neg order]
  exact ⟨positive,rfl,rfl,rfl⟩

theorem transfersIff (data : mode ≠ .seek6 ∧ mode ≠ .seek10) : transfers r mode = true ↔ count r mode ≠ 0 := by
  simp [transfers,data.1,data.2]

theorem listedMode {cmd : ScsiCommand} {dataOut : Bool} (listed : (cmd,mode,dataOut) ∈ transferCommands) :
    (mode ≠ .seek6 ∧ mode ≠ .seek10) ∧ cmd ≠ .inquiry ∧ cmd ≠ .requestSense := by
  simp only [transferCommands,List.mem_cons,List.not_mem_nil,or_false,Prod.mk.injEq] at listed
  rcases listed with ⟨rfl,rfl,_⟩ | ⟨rfl,rfl,_⟩ | ⟨rfl,rfl,_⟩ | ⟨rfl,rfl,_⟩ | ⟨rfl,rfl,_⟩ | ⟨rfl,rfl,_⟩ <;> decide

section
variable {δ : Type} [Derives δ Disk]

theorem listedCommand {readData : Handler δ Int} {cmd : ScsiCommand} {dataOut : Bool}
    (listed : (cmd,mode,dataOut) ∈ transferCommands) :
    (cmd,if dataOut then super (write mode) else read readData mode) ∈ commands readData := by
  simp only [transferCommands,List.mem_cons,List.not_mem_nil,or_false,Prod.mk.injEq] at listed
  rcases listed with ⟨rfl,rfl,rfl⟩ | ⟨rfl,rfl,rfl⟩ | ⟨rfl,rfl,rfl⟩ | ⟨rfl,rfl,rfl⟩ | ⟨rfl,rfl,rfl⟩ | ⟨rfl,rfl,rfl⟩ <;>
    simp [commands]

end

end Disk

namespace DiskClass
open Disk

variable {K : DiskClass} {cmd : ScsiCommand} {mode : AccessMode} {dataOut : Bool} {r : Request}
  {s : HandlerState K.Device}

theorem refusedFails (listed : (cmd,mode,dataOut) ∈ transferCommands)
    (refused : (core s).device.Refused r mode dataOut) : ∃ e t, K.methods.dispatch cmd r s = (.error e,t) := by
  cases changed : (core s).device.mediumChanged with
  | true =>
    obtain ⟨d,ran⟩ := dispatchChanged (r := r) (listedCommand listed) (listedMode listed).2 changed
    exact ⟨_,_,ran⟩
  | false =>
    rw [dispatchOk (listedCommand listed) changed]
    by_cases ready : (core s).device.Accessible
    · cases dataOut with
      | true =>
        rw [if_pos rfl]
        by_cases writable : (core s).device.Writable
        · have range : ¬(core s).device.InRange r mode := by
            rcases refused with wrong | busy | protect | range
            · exact absurd (wrong.symm.trans changed) (by decide)
            · exact absurd ready busy
            · exact absurd writable protect.2
            · exact range
          exact ⟨_,_,superRan (writeOutOfRange (s := core s) ready writable range)⟩
        · obtain ⟨e,d,ran,_⟩ := writeFails (s := core s) (r := r) mode fun both => writable both.2
          exact ⟨_,_,superRan ran⟩
      | false =>
        rw [if_neg Bool.false_ne_true]
        have range : ¬(core s).device.InRange r mode := by
          rcases refused with wrong | busy | protect | range
          · exact absurd (wrong.symm.trans changed) (by decide)
          · exact absurd ready busy
          · exact absurd protect.1 (by decide)
          · exact range
        exact ⟨_,_,readOutOfRange ready range⟩
    · cases dataOut with
      | true =>
        rw [if_pos rfl]
        obtain ⟨e,d,ran,_⟩ := writeFails (s := core s) (r := r) mode fun both => ready both.1
        exact ⟨_,_,superRan ran⟩
      | false =>
        rw [if_neg Bool.false_ne_true]
        obtain ⟨e,d,ran,_⟩ := readFails (s := s) (r := r) mode K.methods.readData ready
        exact ⟨_,_,ran⟩

theorem readySizes (start count : Nat) :
    (readyToRead s start count).transfer.remainingLength = ((core s).device.preparedTransfer s.transfer count).remainingLength ∧
      (readyToRead s start count).transfer.chunkSize = ((core s).device.preparedTransfer s.transfer count).chunkSize ∧
      (base (readyToRead s start count).device : Disk) = (core s).device.prepared start count :=
  ⟨Transfer.setCurrentLengthRemaining _ _,Transfer.setCurrentLengthChunk _ _,baseSet _ _⟩

theorem writeExact (listed : (cmd,mode,true) ∈ transferCommands) (sized : 0 < (core s).device.blockSize)
    (passed : ¬(core s).device.Refused r mode true) (some : count r mode ≠ 0) :
    (core s).device.SizesExact r mode (K.methods.dispatch cmd r s).1 (K.methods.dispatch cmd r s).2.transfer ↔
      (core s).device.total r mode < 2^31 := by
  obtain ⟨unchanged,ready,writable,range⟩ := passedChecks passed
  rw [dispatchOk (listedCommand listed) unchanged,if_pos rfl,
    superRan (writeStarts (s := core s) ready (writable rfl) range ((transfersIff (listedMode listed).1).mpr some))]
  constructor
  · intro exact_
    rcases exact_ _ rfl with none | sizes
    · exact absurd none.1 some
    · exact sizes.2.1
  · intro fits call accepted
    cases accepted
    obtain ⟨positive,whole,chunk,perChunk⟩ := preparedExact (t := s.transfer) some sized fits
    exact .inr ⟨positive,fits,whole,chunk,.inr (congrArg PhaseCall.dataOut (perChunk.trans chunk.symm))⟩

theorem readExact (listed : (cmd,mode,false) ∈ transferCommands) (sized : 0 < (core s).device.blockSize)
    (passed : ¬(core s).device.Refused r mode false) (some : count r mode ≠ 0) :
    (core s).device.SizesExact r mode (K.methods.dispatch cmd r s).1 (K.methods.dispatch cmd r s).2.transfer ↔
      (core s).device.total r mode < 2^31 ∨
        ∃ e t, K.methods.readData r (readyToRead s (start r mode) (count r mode)) = (.error e,t) := by
  obtain ⟨unchanged,ready,_,range⟩ := passedChecks passed
  rw [dispatchOk (listedCommand listed) unchanged,if_neg Bool.false_ne_true]
  have transfers := (transfersIff (listedMode listed).1).mpr some
  have reads := K.readData r (readyToRead s (start r mode) (count r mode))
  unfold wp at reads
  cases ran : K.methods.readData r (readyToRead s (start r mode) (count r mode)) with
  | mk result t =>
    rw [ran] at reads
    cases result with
    | error e =>
      rw [readStops ready range transfers ran]
      exact ⟨fun _ => .inr ⟨e,t,rfl⟩,fun _ => refusedExact⟩
    | ok n =>
      rw [readStarts ready range transfers ran]
      constructor
      · intro exact_
        rcases exact_ _ rfl with none | sizes
        · exact absurd none.1 some
        · exact .inl sizes.2.1
      · rintro (fits | ⟨_,_,wrong⟩)
        · intro call accepted
          cases accepted
          obtain ⟨positive,whole,chunk,perChunk⟩ := preparedExact (t := s.transfer) some sized fits
          obtain ⟨sameWhole,sameChunk,device⟩ := readySizes (s := s) (start r mode) (count r mode)
          have sent := reads.chunk.trans (sameChunk.trans chunk)
          have length : n = t.transfer.chunkSize := by
            rw [reads.length,sent,device]
            exact perChunk
          rw [length]
          exact .inr ⟨positive,fits,reads.remaining.trans (sameWhole.trans whole),sent,.inl rfl⟩
        · cases wrong

theorem nothingMoves (listed : (cmd,mode,dataOut) ∈ transferCommands) (passed : ¬(core s).device.Refused r mode dataOut)
    (none : count r mode = 0) : K.methods.dispatch cmd r s = (.ok .status,s) := by
  obtain ⟨unchanged,ready,writable,range⟩ := passedChecks passed
  have rests : transfers r mode = false :=
    Bool.eq_false_iff.mpr fun some => (transfersIff (listedMode listed).1).mp some none
  rw [dispatchOk (listedCommand listed) unchanged]
  cases dataOut with
  | true => exact superSame (writeNothing (s := core s) ready (writable rfl) range rests)
  | false => exact readNothing ready range rests

theorem sizesExact (listed : (cmd,mode,dataOut) ∈ transferCommands) (sized : 0 < (core s).device.blockSize) :
    (core s).device.SizesExact r mode (K.methods.dispatch cmd r s).1 (K.methods.dispatch cmd r s).2.transfer ↔
      (core s).device.total r mode < 2^31 ∨ (core s).device.Refused r mode dataOut ∨ dataOut = false ∧
        ∃ e t, K.methods.readData r (readyToRead s (start r mode) (count r mode)) = (.error e,t) := by
  by_cases refused : (core s).device.Refused r mode dataOut
  · obtain ⟨e,t,ran⟩ := refusedFails listed refused (r := r)
    rw [ran]
    exact ⟨fun _ => .inr (.inl refused),fun _ => refusedExact⟩
  · by_cases some : count r mode = 0
    · rw [nothingMoves listed refused some]
      have none : (core s).device.total r mode = 0 := by rw [total,some,Nat.zero_mul]
      exact ⟨fun _ => .inl (by rw [none]; decide),fun _ call accepted => .inl ⟨some,by cases accepted; rfl⟩⟩
    · cases dataOut with
      | true =>
        rw [writeExact listed sized refused some]
        exact ⟨.inl,fun fits => fits.elim id fun wrong => wrong.elim (absurd · refused) fun wrong => absurd wrong.1 (by decide)⟩
      | false =>
        rw [readExact listed sized refused some]
        refine ⟨fun fits => fits.imp_right fun fails => .inr ⟨rfl,fails⟩,fun fits => fits.imp_right fun fails => ?_⟩
        exact fails.elim (absurd · refused) And.right

end DiskClass

/- READ and WRITE of any disk. -/
theorem transferSizesExactIff {any : AnyDevice} {d : Disk} (disk : any.disk = some d) (sized : 0 < d.blockSize)
    {r : Request} {mode : Disk.AccessMode} {dataOut : Bool} (listed : (r.opcode,mode,dataOut) ∈ Disk.transferCommands)
    (t : Transfer) (w : World) :
    d.SizesExact r mode (AnyDevice.methods.dispatch r.opcode r ⟨any,t,w⟩).1
        (AnyDevice.methods.dispatch r.opcode r ⟨any,t,w⟩).2.transfer ↔
      d.total r mode < 2^31 ∨ d.Refused r mode dataOut ∨ dataOut = false ∧ Disk.Unreadable any d r mode t w := by
  obtain ⟨K,device,rfl,rfl⟩ := DiskClass.ofDisk disk
  have dispatched : AnyDevice.methods.dispatch r.opcode r ⟨K.put device,t,w⟩ =
      AnyDevice.within K.put (K.methods.dispatch r.opcode) device r ⟨K.put device,t,w⟩ :=
    K.virtual (fun m => m.dispatch r.opcode) device r t w
  have reads (device : K.Device) (t : Transfer) : AnyDevice.methods.readData r ⟨K.put device,t,w⟩ =
      AnyDevice.within K.put K.methods.readData device r ⟨K.put device,t,w⟩ := K.virtual (fun m => m.readData) device r t w
  rw [dispatched]
  refine (DiskClass.sizesExact (s := ⟨device,t,w⟩) listed sized).trans (or_congr Iff.rfl (or_congr Iff.rfl ?_))
  refine and_congr Iff.rfl ?_
  unfold Disk.Unreadable
  rw [K.setPutDisk,reads]
  constructor
  · rintro ⟨e,u,ran⟩
    exact ⟨e,_,AnyDevice.withinRan ran⟩
  · rintro ⟨e,u,ran⟩
    cases reading : K.methods.readData r (Disk.readyToRead ⟨device,t,w⟩ (Disk.start r mode) (Disk.count r mode)) with
    | mk result v =>
      rw [AnyDevice.withinRan reading] at ran
      cases result with
      | ok n => cases ran
      | error e => exact ⟨e,v,rfl⟩

namespace Disk

def exampleDisk (blocks : Nat) : Disk where
  type := .schd
  ready := true
  supportedBlockSizes := [512,1024,2048,4096]
  blockSize := 512
  blocks
  cachingMode := .linux

/- READ(10) of one sector. -/
def readOne : Request := { cdb := [0x28,0,0,0,0,0,0,0,1,0] }

theorem readOneExact : (exampleDisk 1).SizesExact readOne .rw10
    (AnyDevice.methods.dispatch readOne.opcode readOne ⟨.scsiHd (exampleDisk 1),{},{}⟩).1
    (AnyDevice.methods.dispatch readOne.opcode readOne ⟨.scsiHd (exampleDisk 1),{},{}⟩).2.transfer :=
  (transferSizesExactIff rfl (by decide) (.tail _ (.head _)) {} {}).mpr (.inl (by decide))

/- WRITE(16) of 2^23 sectors, which are 2^32 bytes. -/
def writeAll : Request := { cdb := [0x8a,0,0,0,0,0,0,0,0,0,0,0x80,0,0,0,0] }

theorem writeAllWraps :
    (AnyDevice.methods.dispatch writeAll.opcode writeAll ⟨.scsiHd (exampleDisk (2^23)),{},{}⟩).1 = .ok (.dataOut 512) ∧
    (AnyDevice.methods.dispatch writeAll.opcode writeAll ⟨.scsiHd (exampleDisk (2^23)),{},{}⟩).2.transfer.remainingLength = 0 ∧
    count writeAll .rw16 * (exampleDisk (2^23)).blockSize = 2^32 := by
  refine ⟨?_,?_,?_⟩ <;> decide +kernel

theorem writeAllInexact : ¬(exampleDisk (2^23)).SizesExact writeAll .rw16
    (AnyDevice.methods.dispatch writeAll.opcode writeAll ⟨.scsiHd (exampleDisk (2^23)),{},{}⟩).1
    (AnyDevice.methods.dispatch writeAll.opcode writeAll ⟨.scsiHd (exampleDisk (2^23)),{},{}⟩).2.transfer := by
  intro sizes
  rcases sizes _ writeAllWraps.1 with none | exact_
  · exact absurd none.1 (by decide +kernel)
  · exact absurd exact_.2.1 (by decide +kernel)

end Disk
end Scsi2Pi
