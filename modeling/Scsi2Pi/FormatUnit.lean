import Scsi2Pi.PacketSend

/-! FORMAT UNIT with a parameter list for a device of the SG driver: what is asked for in the
DATA OUT phase, against the length of the list. -/
namespace Scsi2Pi
open Slices MemoryUtil Handler Derives Eff CommandMetaData Controller BoardTarget

namespace FormatUnit

variable {x : Exchange} {c : Controller AnyDevice} {d : ScsiGeneric} {r : Request} {t : Transfer} {w : World}

/- The CDB announces a parameter list. -/
structure Formats (r : Request) : Prop where
  opcode : r.cdb.getD 0 0 = ScsiCommand.formatUnit
  data : byteAt r.cdb 1 &&& 0x10 ≠ 0
  lun : r.effectiveLun = 0

/- The device behind Dispatch, which has asked for the header. -/
def prepared (r : Request) (d : ScsiGeneric) : ScsiGeneric :=
  { ScsiGeneric.prepareCommand r .formatUnit d with deferredSenseDataValid := false }

theorem preparedCdb (formats : Formats r) : (prepared r d).localCdb = r.cdb.take 6 := by
  have first : (r.cdb.take 6).getD 0 0 = ScsiCommand.formatUnit :=
    (UInt8.toNat_inj.mp (byteAtTake (by decide : 0 < 6))).trans formats.opcode
  change ScsiGeneric.convertCdb (r.cdb.take 6) = _
  unfold ScsiGeneric.convertCdb
  rw [first]
  exact if_neg (by decide)

theorem preparedFormats (formats : Formats r) : (prepared r d).formatsWithData = true := by
  have first : (r.cdb.take 6).getD 0 0 = ScsiCommand.formatUnit :=
    (UInt8.toNat_inj.mp (byteAtTake (by decide : 0 < 6))).trans formats.opcode
  have data : byteAt (r.cdb.take 6) 1 = byteAt r.cdb 1 := byteAtTake (by decide)
  unfold ScsiGeneric.formatsWithData ScsiGeneric.localOpcode
  rw [preparedCdb formats,first,data]
  exact Bool.and_eq_true_iff.mpr ⟨rfl,decide_eq_true formats.data⟩

theorem preparedCount (formats : Formats r) : (prepared r d).byteCount = 4 := by
  have local' := preparedCdb (d := d) formats
  have data : byteAt (prepared r d).localCdb 1 &&& 0x10 ≠ 0 := by
    rw [local',byteAtTake (by decide)]
    exact formats.data
  exact if_pos ⟨rfl,data⟩

theorem dispatchRan (formats : Formats r) : ScsiGeneric.dispatch .formatUnit r ⟨d,t,w⟩ =
    (.ok (.dataOut 4),⟨prepared r d,t.setTransferSize 4 4,w⟩) := by
  have counted : getByteCount ScsiCommand.formatUnit ≠ 0 := by decide
  have hasDataOut : (getCdbMetaData ScsiCommand.formatUnit).hasDataOut = true := by decide
  have count : (ScsiGeneric.prepareCommand r .formatUnit d).byteCount = 4 := preparedCount formats
  have chunk : (if (ScsiGeneric.prepareCommand r .formatUnit d).byteCount < ScsiGeneric.maxTransferLength then
      (ScsiGeneric.prepareCommand r .formatUnit d).byteCount else ScsiGeneric.maxTransferLength) = 4 := by
    rw [count]
    rfl
  have size : t.setTransferSize (ScsiGeneric.prepareCommand r .formatUnit d).byteCount 4 = t.setTransferSize 4 4 := by rw [count]
  refine ranOk ?_
  unfold ScsiGeneric.dispatch
  simp only [wpBind,wpGetRequest,wpIte,wpThrow,wpPure,wpSetTransferSize,wpGetDevice,wpModifyDevice,counted,false_implies,true_and,
    not_false_eq_true,true_implies,formats.lun,hasDataOut,chunk,size,not_true,and_true]
  refine ⟨fun wrong => absurd rfl wrong.1,fun _ => ⟨fun sense => absurd sense.1 (by decide),fun _ => ⟨?_,rfl⟩⟩⟩
  rw [if_pos (.inl (by decide))]

/- The header is kept, and as many bytes as there are in the list, with its header, are asked for. -/
def headed (d : ScsiGeneric) (buffer : Bytes) : ScsiGeneric :=
  { d with formatHeader := slice buffer 0 4, byteCount := (getInt16 buffer 2 + 4 : Nat) }

theorem headerRan (formats : d.formatsWithData = true) (empty : d.formatHeader = []) (length : Int) :
    ScsiGeneric.writeData length r ⟨d,t,w⟩ = (.ok 0,⟨headed d t.buffer,
      t.setTransferSize (getInt16 t.buffer 2 + 4 : Nat) (getInt16 t.buffer 2 + 4 : Nat),w⟩) := by
  refine ranOk ?_
  unfold ScsiGeneric.writeData ScsiGeneric.beginFormat
  simp only [wpBind,wpIte,wpPure,wpSetTransferSize,wpGetDevice,wpGetTransfer,wpModifyDevice]
  refine ⟨fun _ => ⟨fun _ => ⟨trivial,rfl⟩,fun wrong => ?_⟩,fun wrong => absurd formats wrong⟩
  rw [empty] at wrong
  exact absurd rfl wrong

/-! The DATA OUT phase, for any kind of command. -/

/- The input of the initiator in this phase. -/
theorem respondsData (phase : c.phase = .dataOut) (rst : c.lines.rst = false) : ∃ a i, respond x c = a.receive AnyDevice.methods i ∧
    i = { bytes := x.dataOut.drop (transferred .dataOut (c.trace.drop x.before)).length, env := x.env } ∧ a = c.acquire i := by
  refine ⟨_,_,?_,rfl,rfl⟩
  have given : input x.initiator x.env x.cdb (x.dataOut.drop (transferred .dataOut (c.trace.drop x.before)).length) c =
      { bytes := x.dataOut.drop (transferred .dataOut (c.trace.drop x.before)).length, env := x.env } := by
    unfold input
    rw [phase]
  have line : (c.acquire { bytes := x.dataOut.drop (transferred .dataOut (c.trace.drop x.before)).length, env := x.env }).lines.rst =
      false := by
    change (c.lines.rst || false) = false
    rw [rst]
    rfl
  rw [respondsPhase line given]
  unfold processPhase
  rw [show (c.acquire _).phase = .dataOut from phase]

/- A chunk is received. -/
theorem receivesChunk {bytes : Bytes} (count : Nat) (phase : c.phase = .dataOut) (rst : c.lines.rst = false) (offset : c.offset = 0)
    (asks : c.transfer.currentLength = count) (positive : 0 < count)
    (same : x.dataOut.drop (transferred .dataOut (c.trace.drop x.before)).length = bytes) (enough : count ≤ bytes.length) :
    ∃ d events, respond x c = d ∧ d.phase = .dataOut ∧ d.lines.rst = false ∧ SameRequest c d ∧
      d.transfer = { c.transfer with buffer := setBytes c.transfer.buffer 0 (bytes.take count), currentLength := 0 } ∧
      d.trace = c.trace ++ events ∧ transferred .dataOut events = bytes.take count := by
  obtain ⟨a,i,receives,given,rfl⟩ := respondsData (x := x) phase rst
  have sent : i.bytes = bytes := by rw [given,← same]
  have asked : (c.acquire i).checkReceive.transfer.currentLength ≠ 0 := by
    change c.transfer.currentLength ≠ 0
    omega
  have taken : i.bytes.take c.transfer.currentLength.toNat = bytes.take count := by rw [sent,asks,Int.toNat_natCast]
  have all : ¬((i.bytes.take c.transfer.currentLength.toNat).length : Int) ≠ c.transfer.currentLength := by
    rw [taken,asks,List.length_take,Nat.min_eq_left enough]
    exact fun wrong => wrong rfl
  refine ⟨_,((if !c.lines.req then [] else [.failed .receiveLines]) ++ if !c.lines.io then [] else [.failed .receiveLines]) ++
    [.received .dataOut (bytes.take count)],receives.trans ((if_pos asked).trans (if_neg all)),phase,?_,
    ⟨rfl,rfl,rfl,rfl,rfl,rfl,rfl,rfl⟩,?_,?_,?_⟩
  · change (c.lines.rst || i.rst) = false
    rw [rst,given]
    rfl
  · change { c.transfer with
      buffer := setBytes c.transfer.buffer c.offset.toNat (i.bytes.take c.transfer.currentLength.toNat), currentLength := 0 } = _
    rw [taken,offset]
    rfl
  · change ((c.trace ++ _) ++ _) ++ [Event.received c.phase (i.bytes.take c.transfer.currentLength.toNat)] = _
    rw [taken,phase]
    simp only [List.append_assoc]
    rfl
  · rw [transferredAppend,transferredAppend,checkSilent,checkSilent]
    exact List.append_nil _

/- The device has got the chunk, and there is more to come. -/
theorem asksMore {dev : AnyDevice} {n : Int} {u : HandlerState AnyDevice} (lun : Nat) (phase : c.phase = .dataOut)
    (rst : c.lines.rst = false) (received : c.transfer.currentLength = 0) (effective : c.getEffectiveLun = lun)
    (here : c.luns lun = some dev)
    (ran : c.receiveParameters AnyDevice.methods dev (min c.transfer.chunkSize c.transfer.remainingLength) (c.request x.env)
      ⟨dev,c.transfer,c.world⟩ = (.ok n,u)) (more : (u.transfer.updateTransferLength n).remainingLength ≠ 0) :
    ∃ d events, respond x c = d ∧ d.phase = .dataOut ∧
      d.transfer.currentLength = (u.transfer.updateTransferLength n).chunkSize ∧ d.trace = c.trace ++ events ∧
      transferred .dataOut events = [] := by
  obtain ⟨a,i,receives,given,rfl⟩ := respondsData (x := x) phase rst
  have moved := transfersFromHost (a := (c.acquire i).checkReceive) (i := i) effective here
    (by rw [given]; exact ran)
  have next : ((c.acquire i).checkReceive).chunkReceived AnyDevice.methods i =
      (storedChunk (c.acquire i).checkReceive lun u n).checkNextChunk := by
    unfold chunkReceived
    dsimp only
    rw [show (c.acquire i).checkReceive.phase = .dataOut from phase]
    dsimp only
    rw [show (c.acquire i).checkReceive.transfer = c.transfer from rfl,moved]
    dsimp only
    rw [if_neg (by decide)]
    exact if_pos more
  have all : ¬(c.acquire i).checkReceive.transfer.currentLength ≠ 0 := fun wrong => wrong received
  refine ⟨_,(if !c.lines.req then [] else [.failed .receiveLines]) ++ (if !c.lines.io then [] else [.failed .receiveLines]) ++
    (if c.hasDataOut then [] else [.failed .dataOutCommand]) ++
    (if decide (0 ≤ u.transfer.remainingLength - n) then [] else [.failed .remainingLength]) ++
    (if decide ((u.transfer.updateTransferLength n).chunkSize ≠ 0) then [] else [.failed .nextChunk]) ++
    (if decide ((0 : Int) = 0) then [] else [.failed .nextChunk]),receives.trans ((if_neg all).trans next),phase,rfl,?_,?_⟩
  · change (((((c.trace ++ _) ++ _) ++ _) ++ _) ++ _) ++ _ = _
    simp only [List.append_assoc]
    rfl
  · simp only [transferredAppend,checkSilent,List.append_nil]

/-! The parameter list. -/

/- The controller in the DATA OUT phase. -/
def started (x : Exchange) (c : Controller AnyDevice) (d : ScsiGeneric) : Controller AnyDevice :=
  c.dispatchTo AnyDevice.methods { bytes := x.cdb, env := x.env } c.getEffectiveLun (.scsiGeneric d)

/- The bytes that have been received or are asked for after some steps. -/
def requested (x : Exchange) (steps : Nat) (c : Controller AnyDevice) : Int :=
  let d := serve (respond x) steps c
  (transferred .dataOut (d.trace.drop x.before)).length + if d.phase = .dataOut then d.transfer.currentLength else 0

/- The length of the header and of the defect list behind it. -/
def listLength (data : Bytes) : Nat := 4 + getInt16 data 2

/- The parameter list is asked for, and header bytes collected before do not matter. -/
structure Exactly (x : Exchange) (c : Controller AnyDevice) (d : ScsiGeneric) : Prop where
  most : ∀ steps, requested x steps (started x c d) ≤ listLength x.dataOut
  all : ∃ steps, requested x steps (started x c d) = listLength x.dataOut
  unaffected : ∀ steps, requested x steps (started x c d) = requested x steps (started x c { d with formatHeader := [] })

theorem unreservedAllowed (unreserved : d.reservingInitiator = PrimaryDevice.notReserved) :
    (base (AnyDevice.scsiGeneric d) : PrimaryDevice).checkReservation r = true := by
  change (decide (d.reservingInitiator = PrimaryDevice.notReserved) || _ || _) = true
  rw [unreserved]
  rfl

theorem asksForHeader (formats : Formats (c.request x.env))
    (unreserved : (base (AnyDevice.scsiGeneric d) : PrimaryDevice).checkReservation (c.request x.env) = true) :
    started x c d = enteredDataOut (c.ranHandler c.getEffectiveLun
      ⟨.scsiGeneric (prepared (c.request x.env) d),c.transfer.setTransferSize 4 4,c.world⟩) 4 := by
  have ran : AnyDevice.methods.dispatch c.opcode (c.request x.env) ⟨.scsiGeneric d,c.transfer,c.world⟩ =
      (.ok (.dataOut ((4 : Nat) : Int)),⟨.scsiGeneric (prepared (c.request x.env) d),c.transfer.setTransferSize 4 4,c.world⟩) := by
    have opcode : c.opcode = ScsiCommand.formatUnit := formats.opcode
    rw [opcode]
    have within : AnyDevice.within .scsiGeneric (ScsiGeneric.dispatch .formatUnit) d (c.request x.env)
      ⟨.scsiGeneric d,c.transfer,c.world⟩ = _ := AnyDevice.withinRan (dispatchRan formats)
    exact within
  exact (dispatchOk AnyDevice.methods unreserved ran).trans (asksDataOut _ (by decide))

/- The length of the list is that in the header, at the start of the buffer. -/
theorem headerLength {buffer data : Bytes} (header : 4 ≤ data.length) :
    getInt16 (setBytes buffer 0 (data.take 4)) 2 + 4 = listLength data := by
  have byte (k : Nat) (inside : k < 4) : byteAt (setBytes buffer 0 (data.take 4)) k = byteAt data k := by
    rw [byteAtFront (by rw [List.length_take]; omega),byteAtTake inside]
  unfold listLength getInt16
  rw [byte 2 (by decide),byte (2+1) (by decide)]
  omega

/- Four more bytes are asked for than there are in the parameter list. -/
theorem fourMore (formats : Formats (c.request x.env)) (rst : c.lines.rst = false) (before : x.before = c.trace.length)
    (unreserved : (base (AnyDevice.scsiGeneric d) : PrimaryDevice).checkReservation (c.request x.env) = true)
    (empty : d.formatHeader = []) (header : 4 ≤ x.dataOut.length) :
    requested x 2 (started x c d) = listLength x.dataOut + 4 := by
  have begun := asksForHeader formats unreserved
  have lun : c.getEffectiveLun = 0 := formats.lun
  generalize hfirst : started x c d = first at begun ⊢
  have data : x.dataOut.drop (transferred .dataOut (first.trace.drop x.before)).length = x.dataOut := by
    have trace : first.trace = c.trace ++ [.entered .dataOut] := by rw [begun]; rfl
    rw [trace,before,List.drop_left]
    rfl
  obtain ⟨second,events,receives,phase,line,same,transfer,trace,got⟩ := receivesChunk (x := x) (c := first) 4
    (by rw [begun]; rfl) (by rw [begun]; exact rst) (by rw [begun]; rfl) (by rw [begun]; rfl) (by decide) data header
  have device : second.luns 0 = some (.scsiGeneric (prepared (c.request x.env) d)) := by
    rw [same.luns,begun,← lun]
    exact Function.update_self _ _ _
  have effective : second.getEffectiveLun = 0 := by
    rw [same.effectiveLun,begun]
    exact lun
  have handler (length : Int) : second.receiveParameters AnyDevice.methods (.scsiGeneric (prepared (c.request x.env) d)) length =
      AnyDevice.methods.writeData second.offset length := by
    have opcode : second.opcode = ScsiCommand.formatUnit := by
      rw [same.opcode,begun]
      exact formats.opcode
    unfold receiveParameters
    rw [opcode,if_neg]
    exact fun select => absurd select.1 (by decide)
  have ran (length : Int) : AnyDevice.methods.writeData second.offset length (second.request x.env)
      ⟨.scsiGeneric (prepared (c.request x.env) d),second.transfer,second.world⟩ = (.ok 0,
        ⟨.scsiGeneric (headed (prepared (c.request x.env) d) second.transfer.buffer),
          second.transfer.setTransferSize (listLength x.dataOut) (listLength x.dataOut),second.world⟩) := by
    have length' : getInt16 second.transfer.buffer 2 + 4 = listLength x.dataOut := by
      rw [transfer]
      exact headerLength header
    have within : AnyDevice.within .scsiGeneric (ScsiGeneric.writeData length) (prepared (c.request x.env) d) (second.request x.env)
      ⟨.scsiGeneric (prepared (c.request x.env) d),second.transfer,second.world⟩ = _ :=
      AnyDevice.withinRan (headerRan (preparedFormats formats) empty length)
    rw [length'] at within
    exact within
  have positive : 4 ≤ listLength x.dataOut := Nat.le_add_right _ _
  have left : ((second.transfer.setTransferSize (listLength x.dataOut) (listLength x.dataOut)).updateTransferLength 0).remainingLength =
      listLength x.dataOut ∧
      ((second.transfer.setTransferSize (listLength x.dataOut) (listLength x.dataOut)).updateTransferLength 0).chunkSize =
      listLength x.dataOut := by
    simp [Transfer.setTransferSize,Transfer.updateTransferLength]
  obtain ⟨third,more,asks,dataOut,current,trace',none⟩ := asksMore (x := x) (c := second) 0 phase line (by rw [transfer])
    effective device (by rw [handler]; exact ran _) (by rw [left.1]; omega)
  have served : serve (respond x) 2 first = third := by
    rw [serveOn (by rw [receives,phase]; decide),receives,serveOn (by rw [asks,dataOut]; decide),asks]
    rfl
  have all : transferred .dataOut (third.trace.drop x.before) = x.dataOut.take 4 := by
    have start : first.trace = c.trace ++ [.entered .dataOut] := by rw [begun]; rfl
    rw [trace',trace,start,before,List.append_assoc,List.append_assoc,List.drop_left,transferredAppend,transferredAppend,got,none,
      List.append_nil]
    rfl
  unfold requested
  dsimp only
  rw [served,all,if_pos dataOut,current,left.2,List.length_take,Nat.min_eq_left header]
  omega

end FormatUnit

open FormatUnit in
/- No parameter list is asked for as it is. -/
theorem formatNeverExact {x : Exchange} {c : Controller AnyDevice} {d : ScsiGeneric} (formats : Formats (c.request x.env))
    (rst : c.lines.rst = false) (before : x.before = c.trace.length)
    (unreserved : d.reservingInitiator = PrimaryDevice.notReserved) (header : 4 ≤ x.dataOut.length) : ¬Exactly x c d := by
  intro exactly
  have asked := fourMore (d := { d with formatHeader := [] }) formats rst before (unreservedAllowed unreserved) rfl header
  have most := exactly.most 2
  rw [exactly.unaffected 2,asked] at most
  omega

namespace FormatUnit

def drive : ScsiGeneric := { type := .scsg }

def withDrive : Controller AnyDevice :=
  { luns := fun lun => if lun = 0 then some (.scsiGeneric drive) else none, cdb := [0x04,0x10,0,0,0,0] }

/- A header for a defect list of one descriptor. -/
def oneDefect : Exchange := ⟨{},{},[0x04,0x10,0,0,0,0],[0,0,0,4,0,0,0,1],0⟩

theorem oneDefectInexact : ¬Exactly oneDefect withDrive drive :=
  formatNeverExact ⟨rfl,by decide,rfl⟩ rfl rfl rfl (by decide)

/- 12 bytes are asked for. -/
theorem twelveForEight : ¬∀ (x : Exchange) (c : Controller AnyDevice) (d : ScsiGeneric), Formats (c.request x.env) → c.lines.rst = false →
    x.before = c.trace.length → d.reservingInitiator = PrimaryDevice.notReserved → 4 ≤ x.dataOut.length → Exactly x c d := fun all => by
  have asked : requested oneDefect 2 (started oneDefect withDrive drive) = 12 := by decide +kernel
  have most := (all oneDefect withDrive drive ⟨rfl,by decide,rfl⟩ rfl rfl rfl (by decide)).most 2
  rw [asked] at most
  exact absurd most (by decide)

end FormatUnit
end Scsi2Pi
