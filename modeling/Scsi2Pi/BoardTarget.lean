import Scsi2Pi.AllocationRun
import Scsi2Pi.DiskClass
import Scsi2Pi.S2pDumpExecutor

/-! The target as the executor of the board meets it: a controller that is selected,
gets the LUN with IDENTIFY, and goes through the phases of one command. -/
namespace Scsi2Pi.BoardTarget
open Slices MemoryUtil Handler Derives Controller TransferBudget CommandMetaData
open AllocationLength (received commandAccepts)

/- What has been sent or received in a phase. -/
def transferredBy (p : BusPhase) : Event → Bytes
  | .sent q bytes => if q = p then bytes else []
  | .received q bytes => if q = p then bytes else []
  | _ => []

def transferred (p : BusPhase) (events : List Event) : Bytes := events.flatMap (transferredBy p)

def identify (i : BoardExecutor.Initiator) : UInt8 := UInt8.ofNat (i.targetLun + MessageCode.identify.toNat)

/- What the initiator does in the phase of the target. The CDB of the caller has no LUN yet,
so that there is an IDENTIFY message, and ATN is released with its only byte. -/
def input (i : BoardExecutor.Initiator) (env : Env) (cdb dataOut : Bytes) (c : Controller AnyDevice) : Input :=
  match c.phase with
  | .busFree => { sel := true, env }
  | .selection => { atn := true, env }
  | .msgOut => { bytes := if c.transfer.currentLength ≠ 0 then [identify i] else cdb, env }
  | .dataOut => { bytes := dataOut, env }
  | _ => { env }

/- Until the bus is free again. -/
def serve (next : Controller AnyDevice → Controller AnyDevice) : Nat → Controller AnyDevice → Controller AnyDevice
  | 0, c => c
  | steps+1, c => if (next c).phase = .busFree then next c else serve next steps (next c)

/- One command, and the length of the trace before its selection. -/
structure Exchange where
  initiator : BoardExecutor.Initiator
  env : Env
  cdb : Bytes
  dataOut : Bytes
  before : Nat

/- The data that are left after what has been sent since the selection. -/
def respond (x : Exchange) (c : Controller AnyDevice) : Controller AnyDevice :=
  c.process AnyDevice.methods
    (input x.initiator x.env x.cdb (x.dataOut.drop (transferred .dataOut (c.trace.drop x.before)).length) c)

/- The initiator has an ID of its own on the bus. -/
def target (i : BoardExecutor.Initiator) (env : Env) (steps ids : Nat) : Target (Controller AnyDevice) := fun c cdb dataOut =>
  let selected := c.step AnyDevice.methods (.select ids)
  let d := serve (respond ⟨i,env,cdb,dataOut,c.trace.length⟩) steps selected
  let events := d.trace.drop c.trace.length
  ({ status := byteAt (transferred .status events ++ [0xff]) 0
     dataIn := transferred .dataIn events
     taken := (transferred .dataOut events).length },d)

/- The lines of the target that matter between two phases. -/
structure Idle (c : Controller AnyDevice) : Prop where
  phase : c.phase = .busFree
  bsy : c.lines.bsy = false
  rst : c.lines.rst = false
  req : c.lines.req = false

/- The buffer only grows, and not if there is room. -/
structure Keeps (room : Nat) (before after : Bytes) : Prop where
  grows : before.length ≤ after.length
  same : room ≤ before.length → after.length = before.length

/- What the phases around a command leave alone. -/
structure Follows (events : List Event) (c d : Controller AnyDevice) : Prop where
  luns : d.luns = c.luns
  world : d.world = c.world
  initiatorId : d.initiatorId = c.initiatorId
  targetId : d.targetId = c.targetId
  trace : d.trace = c.trace ++ events
  buffer : Keeps 1 c.transfer.buffer d.transfer.buffer

variable {x : Exchange} {c d : Controller AnyDevice}

/- The controller that gets the CDB. -/
structure Identified (i : BoardExecutor.Initiator) (c : Controller AnyDevice) : Prop where
  phase : c.phase = .msgOut
  rst : c.lines.rst = false
  req : c.lines.req = false
  atnMsg : c.atnMsg = false
  lun : c.identifiedLun = some i.targetLun

theorem serveOn {next : Controller AnyDevice → Controller AnyDevice} {steps : Nat} (busy : (next c).phase ≠ .busFree) :
    serve next (steps+1) c = serve next steps (next c) := by
  rw [serve,if_neg busy]

theorem identifyByte : ∀ lun < 32, ¬UInt8.ofNat (lun + 128) = 0x01 ∧ ¬UInt8.ofNat (lun + 128) = MessageCode.abort ∧
    ¬UInt8.ofNat (lun + 128) = MessageCode.busDeviceReset ∧ MessageCode.identify ≤ UInt8.ofNat (lun + 128) ∧
    (UInt8.ofNat (lun + 128) &&& 0x1f).toNat = lun := by decide

theorem parseIdentify (lun : x.initiator.targetLun < 32) :
    c.parseMessage false [identify x.initiator] = { c with identifiedLun := some x.initiator.targetLun } := by
  obtain ⟨other,abort,reset,identifies,number⟩ := identifyByte x.initiator.targetLun lun
  unfold identify
  change parseMessage c false [UInt8.ofNat (x.initiator.targetLun + 128)] = _
  rw [parseMessage,if_neg other,if_neg abort,if_neg reset,if_pos identifies,parseMessage,number]

theorem Keeps.refl {room : Nat} {buffer : Bytes} : Keeps room buffer buffer := ⟨le_rfl,fun _ => rfl⟩

theorem Keeps.trans {room : Nat} {before between after : Bytes} (first : Keeps room before between)
    (second : Keeps room between after) : Keeps room before after := by
  refine ⟨first.grows.trans second.grows,fun enough => ?_⟩
  have same := first.same enough
  exact (second.same (by omega)).trans same

theorem Keeps.weaken {room more : Nat} {before after : Bytes} (keeps : Keeps room before after) (less : room ≤ more) :
    Keeps more before after := ⟨keeps.grows,fun enough => keeps.same (less.trans enough)⟩

theorem setBytesKeeps (buf bytes : Bytes) : Keeps bytes.length buf (setBytes buf 0 bytes) :=
  ⟨setBytesGrows _ _ _,fun enough => setBytesLength (by rwa [Nat.zero_add])⟩

theorem extendKeeps (buf : Bytes) (length : Nat) : Keeps length buf (buf ++ List.replicate (length - buf.length) 0) := by
  constructor
  · rw [List.length_append]
    exact Nat.le_add_right _ _
  · intro enough
    rw [Nat.sub_eq_zero_of_le enough,List.replicate_zero,List.append_nil]

theorem Follows.trans {events more : List Event} {e : Controller AnyDevice} (first : Follows events c d)
    (second : Follows more d e) : Follows (events ++ more) c e := by
  refine ⟨second.luns.trans first.luns,second.world.trans first.world,second.initiatorId.trans first.initiatorId,
    second.targetId.trans first.targetId,?_,first.buffer.trans second.buffer⟩
  rw [second.trace,first.trace,List.append_assoc]

theorem selects (idle : Idle c) : ∃ d, respond x c = d ∧ d.phase = .selection ∧ d.lines.bsy = true ∧
    d.lines.rst = false ∧ d.lines.req = false ∧ Follows [.entered .selection] c d := by
  obtain ⟨phase,bsy,rst,req⟩ := idle
  obtain ⟨_,⟨_,_,_,_,_,_,_,_,_,_⟩,_,_,_,_,_,_,_,_,_,_,_,_,_,_,_⟩ := c
  dsimp only at phase bsy rst req
  subst phase bsy rst req
  exact ⟨_,rfl,rfl,rfl,rfl,rfl,rfl,rfl,rfl,rfl,rfl,.refl⟩

/- A message byte is to be received. -/
structure Messaging (c : Controller AnyDevice) (length : Int) : Prop where
  phase : c.phase = .msgOut
  rst : c.lines.rst = false
  req : c.lines.req = false
  io : c.lines.io = false
  atnMsg : c.atnMsg = true
  msgBytes : c.msgBytes = []
  currentLength : c.transfer.currentLength = length
  remaining : c.transfer.remainingLength = 1
  chunk : c.transfer.chunkSize = 1

theorem asksForMessage (phase : c.phase = .selection) (bsy : c.lines.bsy = true) (rst : c.lines.rst = false)
    (req : c.lines.req = false) :
    ∃ d, respond x c = d ∧ Messaging d 1 ∧ d.offset = 0 ∧ Follows [.entered .msgOut] c d := by
  obtain ⟨_,⟨_,_,_,_,_,_,_,_,_,_⟩,_,_,_,_,_,_,_,_,_,_,_,_,_,_,_⟩ := c
  dsimp only at phase bsy rst req
  subst phase bsy rst req
  refine ⟨_,rfl,⟨rfl,rfl,rfl,rfl,rfl,rfl,rfl,rfl,rfl⟩,rfl,⟨rfl,rfl,rfl,rfl,rfl,?_⟩⟩
  exact extendKeeps _ 1

theorem receivesMessage (messaging : Messaging c 1) (offset : c.offset = 0) (room : 0 < c.transfer.buffer.length) :
    ∃ d, respond x c = d ∧ Messaging d 0 ∧ d.transfer.buffer.head? = some (identify x.initiator) ∧
      Follows [.received .msgOut [identify x.initiator]] c d := by
  obtain ⟨phase,rst,req,io,atnMsg,msgBytes,currentLength,remaining,chunk⟩ := messaging
  obtain ⟨_,⟨_,_,_,_,_,_,_,_,_,_⟩,⟨_,_,_,_,_,_⟩,_,_,_,_,_,_,_,_,_,_,_,_,_,_⟩ := c
  dsimp only at phase rst req io atnMsg msgBytes currentLength remaining chunk offset
  subst phase rst req io atnMsg msgBytes currentLength remaining chunk offset
  refine ⟨_,rfl,⟨rfl,rfl,rfl,rfl,rfl,rfl,rfl,rfl,rfl⟩,setFirstByte _ _,⟨rfl,rfl,rfl,rfl,?_,?_⟩⟩
  · change ((_ ++ []) ++ []) ++ [Event.received .msgOut [identify x.initiator]] = _
    rw [List.append_nil,List.append_nil]
    rfl
  · exact setBytesKeeps _ [_]

/- The CDB comes with the step that evaluates the message. -/
theorem evaluatesMessage (messaging : Messaging c 0) (message : c.transfer.buffer.head? = some (identify x.initiator))
    (lun : x.initiator.targetLun < 32) : ∃ d, Identified x.initiator d ∧ Follows [] c d ∧
      respond x c = d.command AnyDevice.methods { bytes := x.cdb, env := x.env } := by
  obtain ⟨phase,rst,req,io,atnMsg,msgBytes,currentLength,remaining,chunk⟩ := messaging
  obtain ⟨_,⟨_,_,_,_,_,_,_,_,_,_⟩,⟨_,_,_,_,_,_⟩,_,_,_,_,_,_,_,_,_,_,_,_,_,_⟩ := c
  dsimp only at phase rst req io atnMsg msgBytes currentLength remaining chunk message
  subst phase rst req io atnMsg msgBytes currentLength remaining chunk
  next buffer _ _ =>
  cases buffer with
  | nil => cases message
  | cons b buffer =>
    cases message
    refine ⟨_,?_,?_,congrArg (command AnyDevice.methods · { bytes := x.cdb, env := x.env }) (parseIdentify lun)⟩
    · exact ⟨rfl,rfl,rfl,rfl,rfl⟩
    · refine ⟨rfl,rfl,rfl,rfl,?_,.refl⟩
      change (((_ ++ []) ++ []) ++ [] : List Event) = _ ++ []
      simp only [List.append_nil]
      rfl

/- From the selection to the CDB. -/
theorem startsCommand (idle : Idle c) (lun : x.initiator.targetLun < 32) (room : 0 < c.transfer.buffer.length) :
    ∃ d events, Identified x.initiator d ∧ Follows events c d ∧ transferred .dataIn events = [] ∧ transferred .status events = [] ∧
      transferred .dataOut events = [] ∧
      ((d.command AnyDevice.methods { bytes := x.cdb, env := x.env }).phase ≠ .busFree → ∀ steps,
        serve (respond x) (steps+4) c =
          serve (respond x) steps (d.command AnyDevice.methods { bytes := x.cdb, env := x.env })) := by
  have onward : ∀ {a b : Controller AnyDevice} {steps : Nat}, respond x a = b → b.phase ≠ .busFree →
      serve (respond x) (steps+1) a = serve (respond x) steps b := by
    rintro a b steps rfl busy
    exact serveOn busy
  obtain ⟨selected,same,phase,bsy,rst,req,first⟩ := selects idle
  obtain ⟨asking,asks,messaging,offset,second⟩ := asksForMessage phase bsy rst req
  obtain ⟨got,gets,messaged,message,third⟩ := receivesMessage messaging offset
    (Nat.lt_of_lt_of_le room (first.buffer.trans second.buffer).grows)
  obtain ⟨d,identified,fourth,evaluates⟩ := evaluatesMessage messaged message lun
  refine ⟨d,_,identified,((first.trans second).trans third).trans fourth,rfl,rfl,rfl,fun busy steps => ?_⟩
  rw [onward same (by rw [phase]; decide),onward asks (by rw [messaging.phase]; decide),
    onward gets (by rw [messaged.phase]; decide),onward evaluates busy]

/-! From STATUS to the free bus. -/

/- One byte is to be sent, and the command is not linked. -/
structure Ending (p : BusPhase) (length : Int) (c : Controller AnyDevice) : Prop where
  phase : c.phase = p
  rst : c.lines.rst = false
  req : c.lines.req = false
  io : c.lines.io = true
  linked : c.linked = false
  atnMsg : c.atnMsg = false
  currentLength : c.transfer.currentLength = length
  remaining : c.transfer.remainingLength = 1
  chunk : c.transfer.chunkSize = 1

theorem oneByteKeeps (buf : Bytes) (b : UInt8) : Keeps 1 buf (setBytes (buf ++ List.replicate (1 - buf.length) 0) 0 [b]) :=
  (extendKeeps buf 1).trans (setBytesKeeps _ [b])

theorem endingStatus (rst : c.lines.rst = false) (req : c.lines.req = false) (linked : c.linked = false)
    (atnMsg : c.atnMsg = false) : Ending .status 1 c.enterStatus :=
  ⟨rfl,rst,req,rfl,linked,atnMsg,rfl,rfl,rfl⟩

theorem followsStatus : Follows [.entered .status] c c.enterStatus := by
  exact ⟨rfl,rfl,rfl,rfl,rfl,oneByteKeeps _ _⟩

theorem sendsStatus {code : UInt8} (ending : Ending .status 1 c) (offset : c.offset = 0)
    (byte : c.transfer.buffer.head? = some code) :
    ∃ d, respond x c = d ∧ Ending .status 0 d ∧ Follows [.sent .status [code]] c d := by
  obtain ⟨phase,rst,req,io,linked,atnMsg,currentLength,remaining,chunk⟩ := ending
  obtain ⟨_,⟨_,_,_,_,_,_,_,_,_,_⟩,⟨buffer,_,_,_,_,_⟩,_,_,_,_,_,_,_,_,_,_,_,_,_,_⟩ := c
  dsimp only at phase rst req io linked atnMsg currentLength remaining chunk offset byte
  subst phase rst req io linked atnMsg currentLength remaining chunk offset
  cases buffer with
  | nil => cases byte
  | cons b buffer =>
    cases byte
    refine ⟨_,rfl,⟨rfl,rfl,rfl,rfl,rfl,rfl,rfl,rfl,rfl⟩,⟨rfl,rfl,rfl,rfl,?_,.refl⟩⟩
    change ((_ ++ []) ++ []) ++ [Event.sent .status [_]] = _
    simp only [List.append_nil]
    rfl

theorem entersMessage (ending : Ending .status 0 c) : ∃ d, respond x c = d ∧ Ending .msgIn 1 d ∧
    d.offset = 0 ∧ Follows [.entered .msgIn] c d := by
  obtain ⟨phase,rst,req,io,linked,atnMsg,currentLength,remaining,chunk⟩ := ending
  obtain ⟨_,⟨_,_,_,_,_,_,_,_,_,_⟩,⟨_,_,_,_,_,_⟩,_,_,_,_,_,_,_,_,_,_,_,_,_,_⟩ := c
  dsimp only at phase rst req io linked atnMsg currentLength remaining chunk
  subst phase rst req io linked atnMsg currentLength remaining chunk
  refine ⟨_,rfl,⟨rfl,rfl,rfl,rfl,rfl,rfl,rfl,rfl,rfl⟩,rfl,⟨rfl,rfl,rfl,rfl,?_,?_⟩⟩
  · change (((_ ++ []) ++ []) ++ []) ++ [Event.entered .msgIn] = _
    simp only [List.append_nil]
    rfl
  · exact oneByteKeeps _ _

theorem sendsMessage (ending : Ending .msgIn 1 c) (offset : c.offset = 0) :
    ∃ d bytes, respond x c = d ∧ Ending .msgIn 0 d ∧ Follows [.sent .msgIn bytes] c d := by
  obtain ⟨phase,rst,req,io,linked,atnMsg,currentLength,remaining,chunk⟩ := ending
  obtain ⟨_,⟨_,_,_,_,_,_,_,_,_,_⟩,⟨buffer,_,_,_,_,_⟩,_,_,_,_,_,_,_,_,_,_,_,_,_,_⟩ := c
  dsimp only at phase rst req io linked atnMsg currentLength remaining chunk offset
  subst phase rst req io linked atnMsg currentLength remaining chunk offset
  refine ⟨_,slice buffer 0 1,rfl,⟨rfl,rfl,rfl,rfl,rfl,rfl,rfl,rfl,rfl⟩,⟨rfl,rfl,rfl,rfl,?_,.refl⟩⟩
  change ((_ ++ []) ++ []) ++ [Event.sent .msgIn (slice buffer 0 1)] = _
  simp only [List.append_nil]
  rfl

theorem freesBus (ending : Ending .msgIn 0 c) : ∃ d, respond x c = d ∧ Idle d ∧
    Follows [.entered .busFree] c d := by
  obtain ⟨phase,rst,req,io,linked,atnMsg,currentLength,remaining,chunk⟩ := ending
  obtain ⟨_,⟨_,_,_,_,_,_,_,_,_,_⟩,⟨_,_,_,_,_,_⟩,_,_,_,_,_,_,_,_,_,_,_,_,_,_⟩ := c
  dsimp only at phase rst req io linked atnMsg currentLength remaining chunk
  subst phase rst req io linked atnMsg currentLength remaining chunk
  refine ⟨_,rfl,⟨rfl,rfl,rfl,rfl⟩,⟨rfl,rfl,rfl,rfl,?_,.refl⟩⟩
  change (((_ ++ []) ++ []) ++ []) ++ [Event.entered .busFree] = _
  simp only [List.append_nil]
  rfl

theorem headStatus : c.enterStatus.transfer.buffer.head? = some c.statusByte := setFirstByte _ _

/- What the initiator gets with the status byte. -/
structure Concludes (status : UInt8) (data : Bytes) (events : List Event) : Prop where
  status : transferred .status events = [status]
  dataIn : transferred .dataIn events = data
  dataOut : transferred .dataOut events = []

theorem endsCommand (rst : c.lines.rst = false) (req : c.lines.req = false) (linked : c.linked = false)
    (atnMsg : c.atnMsg = false) : ∃ d events, Idle d ∧ Follows events c d ∧ Concludes c.statusByte [] events ∧
      ∀ steps, serve (respond x) (steps+4) c.enterStatus = d := by
  obtain ⟨sent,sends,status,first⟩ := sendsStatus (endingStatus rst req linked atnMsg) rfl headStatus
  obtain ⟨entered,enters,message,offset,second⟩ := entersMessage status
  obtain ⟨told,bytes,tells,done,third⟩ := sendsMessage message offset
  obtain ⟨d,frees,idle,fourth⟩ := freesBus done
  refine ⟨d,_,idle,(((followsStatus.trans first).trans second).trans third).trans fourth,⟨rfl,rfl,rfl⟩,fun steps => ?_⟩
  rw [serveOn (by rw [sends,status.phase]; decide),sends,serveOn (by rw [enters,message.phase]; decide),enters,
    serveOn (by rw [tells,done.phase]; decide),tells,serve,frees,if_pos idle.phase]

/-! DATA IN with a single chunk. -/

structure Offering (count : Nat) (c : Controller AnyDevice) : Prop where
  phase : c.phase = .dataIn
  rst : c.lines.rst = false
  req : c.lines.req = false
  io : c.lines.io = true
  linked : c.linked = false
  atnMsg : c.atnMsg = false
  currentLength : c.transfer.currentLength = count
  remaining : c.transfer.remainingLength = 0
  chunk : c.transfer.chunkSize = 0

theorem acceptedAll (count : Nat) : ({ env := x.env } : Input).accepted count = count := by
  change min (count : Int).toNat (count : Int).toNat = count
  omega

theorem sendsData {count : Nat} (offering : Offering count c) (positive : 0 < count) (offset : c.offset = 0) :
    ∃ d, respond x c = d ∧ Offering 0 d ∧ d.statusByte = c.statusByte ∧
      Follows [.sent .dataIn (c.transfer.buffer.take count)] c d := by
  obtain ⟨phase,rst,req,io,linked,atnMsg,currentLength,remaining,chunk⟩ := offering
  obtain ⟨_,⟨_,_,_,_,_,_,_,_,_,_⟩,⟨buffer,_,_,_,_,_⟩,_,_,_,_,_,_,_,_,_,_,_,_,_,_⟩ := c
  dsimp only at phase rst req io linked atnMsg currentLength remaining chunk offset
  subst phase rst req io linked atnMsg currentLength remaining chunk offset
  have nonzero : (count : Int) ≠ 0 := by omega
  have all : ¬((({ env := x.env } : Input).accepted count : Nat) : Int) ≠ count := by
    rw [acceptedAll]
    exact fun wrong => wrong rfl
  refine ⟨_,(if_pos nonzero).trans (if_neg all),⟨rfl,rfl,rfl,rfl,rfl,rfl,rfl,rfl,rfl⟩,rfl,⟨rfl,rfl,rfl,rfl,?_,.refl⟩⟩
  change ((_ ++ []) ++ []) ++ [Event.sent .dataIn (slice buffer 0 (({ env := x.env } : Input).accepted count))] = _
  rw [acceptedAll]
  simp only [List.append_nil]
  rfl

theorem dataSent (offering : Offering 0 c) : ∃ d, respond x c = d.enterStatus ∧
    d.lines.rst = false ∧ d.lines.req = false ∧ d.linked = false ∧ d.atnMsg = false ∧ d.statusByte = c.statusByte ∧
    Follows [] c d := by
  obtain ⟨phase,rst,req,io,linked,atnMsg,currentLength,remaining,chunk⟩ := offering
  obtain ⟨_,⟨_,_,_,_,_,_,_,_,_,_⟩,⟨_,_,_,_,_,_⟩,_,_,_,_,_,_,_,_,_,_,_,_,_,_⟩ := c
  dsimp only at phase rst req io linked atnMsg currentLength remaining chunk
  subst phase rst req io linked atnMsg currentLength remaining chunk
  refine ⟨_,rfl,rfl,rfl,rfl,rfl,rfl,⟨rfl,rfl,rfl,rfl,?_,.refl⟩⟩
  change (((_ ++ []) ++ []) ++ [] : List Event) = _
  simp only [List.append_nil]
  rfl

/-! The command itself. -/

/- A complete CDB for a single command, neither with the link bit nor with the flag bit. -/
structure Single (cdb : Bytes) : Prop where
  complete : commandHandShake cdb = (cdb,(cdb.length : Int))
  nonempty : 0 < cdb.length
  control : (byteAt cdb (cdb.length - 1)).testBit 0 = false ∧ (byteAt cdb (cdb.length - 1)).testBit 1 = false
  other : cdb.getD 0 0 ≠ ScsiCommand.requestSense

/- Pending sense data are discarded before the command. -/
def fresh (dev : AnyDevice) : AnyDevice := setBase dev (base dev : PrimaryDevice).resetStatus

/- The controller when the handler is called. -/
structure Prepared (i : BoardExecutor.Initiator) (cdb : Bytes) (dev : AnyDevice) (c p : Controller AnyDevice) : Prop where
  phase : p.phase = .command
  rst : p.lines.rst = false
  req : p.lines.req = false
  linked : p.linked = false
  atnMsg : p.atnMsg = false
  luns : p.luns = Function.update c.luns i.targetLun (some (fresh dev))
  world : p.world = c.world
  initiatorId : p.initiatorId = c.initiatorId
  lun : p.getEffectiveLun = i.targetLun
  opcode : p.opcode = cdb.getD 0 0
  buffer : Keeps (max 1 cdb.length) c.transfer.buffer p.transfer.buffer
  cdb : ∀ k < cdb.length, byteAt p.cdb k = byteAt cdb k
  remaining : p.transfer.remainingLength = 0
  chunk : p.transfer.chunkSize = 0
  status : p.transfer.status = .good

theorem preparesCommand {dev : AnyDevice} (identified : Identified x.initiator c) (single : Single x.cdb)
    (here : c.luns x.initiator.targetLun = some dev) : ∃ p, Prepared x.initiator x.cdb dev c p ∧
      p.trace = c.trace ++ [.entered .command,.fetched x.initiator.targetLun x.cdb] ∧
      c.command AnyDevice.methods { bytes := x.cdb, env := x.env } =
        p.dispatchTo AnyDevice.methods { bytes := x.cdb, env := x.env } x.initiator.targetLun (fresh dev) := by
  obtain ⟨complete,nonempty,control,other⟩ := single
  obtain ⟨phase,rst,req,atnMsg,lun⟩ := identified
  have effective : (received c x.cdb).getEffectiveLun = x.initiator.targetLun := by
    change (c.identifiedLun).getD _ = _
    rw [lun]
    rfl
  have opcode : (received c x.cdb).opcode = x.cdb.getD 0 0 := UInt8.toNat_inj.mp (byteAtFront nonempty)
  have last : byteAt (setBytes c.cdb 0 x.cdb) (x.cdb.length - 1) = byteAt x.cdb (x.cdb.length - 1) := byteAtFront (by omega)
  have linked : (received c x.cdb).linked = false := by
    change (byteAt (setBytes c.cdb 0 x.cdb) (x.cdb.length - 1)).testBit 0 = false
    rw [last]
    exact control.1
  have flag : (received c x.cdb).flag = false := by
    change (byteAt (setBytes c.cdb 0 x.cdb) (x.cdb.length - 1)).testBit 1 = false
    rw [last]
    exact control.2
  have bytes : ∀ k < x.cdb.length, byteAt (received c x.cdb).cdb k = byteAt x.cdb k := fun _ inside => byteAtFront inside
  have trace : (received c x.cdb).trace = c.trace ++ [.entered .command,.fetched x.initiator.targetLun x.cdb] := by
    change (c.trace ++ [.entered .command]) ++ [.fetched (received c x.cdb).getEffectiveLun x.cdb] = _
    rw [effective,List.append_assoc]
    rfl
  have buffer : Keeps x.cdb.length c.transfer.buffer (received c x.cdb).transfer.buffer := setBytesKeeps _ _
  have present : (received c x.cdb).luns x.initiator.targetLun = some dev := here
  have accepted := commandAccepts (i := { bytes := x.cdb, env := x.env }) (c := c) (by rw [phase]; decide) complete (by omega)
  rw [flag,opcode,decide_eq_false other] at accepted
  simp only [Bool.false_and,Bool.and_false,Bool.false_eq_true,if_false] at accepted
  have kept : (received c x.cdb).phase = .command ∧ (received c x.cdb).lines.rst = false ∧ (received c x.cdb).lines.req = false ∧
      (received c x.cdb).atnMsg = false ∧ (received c x.cdb).luns = c.luns ∧ (received c x.cdb).world = c.world ∧
      (received c x.cdb).initiatorId = c.initiatorId := ⟨rfl,rst,req,atnMsg,rfl,rfl,rfl⟩
  generalize received c x.cdb = a at *
  obtain ⟨at_,rst,req,atnMsg,luns,world,initiatorId⟩ := kept
  have discards : prepared a.discardDeferredError x.initiator.targetLun =
      (((((a.discardDeferredError.setCurrentLength 0).resetOffset).setTransferSize 0 0).setStatus .good).modifyBase x.initiator.targetLun
        PrimaryDevice.resetStatus) := by
    unfold prepared discardSense
    rw [if_pos]
    change a.opcode ≠ _
    rw [opcode]
    exact other
  refine ⟨prepared a.discardDeferredError x.initiator.targetLun,?_,?_,?_⟩
  · rw [discards]
    refine ⟨at_,rst,req,linked,atnMsg,?_,world,initiatorId,effective,opcode,?_,bytes,rfl,rfl,rfl⟩
    · change Function.update a.luns x.initiator.targetLun ((a.luns x.initiator.targetLun).map _) = _
      rw [present,luns]
      rfl
    · exact (buffer.weaken (le_max_right _ _)).trans ((extendKeeps _ 0).weaken (Nat.zero_le _))
  · rw [discards]
    exact trace
  · rw [accepted]
    have found : (prepared a.discardDeferredError x.initiator.targetLun).luns x.initiator.targetLun = some (fresh dev) := by
      rw [discards]
      change Function.update a.luns x.initiator.targetLun ((a.luns x.initiator.targetLun).map _) _ = _
      rw [present]
      exact Function.update_self _ _ _
    have runs : executing a.discardDeferredError = x.initiator.targetLun := by
      unfold executing
      change (if (a.luns a.getEffectiveLun).isNone = true then 0 else a.getEffectiveLun) = _
      rw [effective,present]
      rfl
    rw [← runs] at found ⊢
    unfold execute
    dsimp only
    split
    · next missing =>
      change ((a.luns a.getEffectiveLun).isNone && _ && _) = true at missing
      rw [effective,present] at missing
      cases missing
    · split
      · next none => exact absurd (found.symm.trans none) (by simp)
      · next there =>
        cases Option.some.inj (found.symm.trans there)
        rfl

theorem freshReservation {i : BoardExecutor.Initiator} (env : Env) {cdb : Bytes} {dev : AnyDevice} {p : Controller AnyDevice}
    (prepared : Prepared i cdb dev c p) (exempt : PrimaryDevice.reservationExempt (p.request env) = false) :
    (base (fresh dev) : PrimaryDevice).checkReservation (p.request env) =
      (dev.primary.reservingInitiator = PrimaryDevice.notReserved || dev.primary.reservingInitiator = c.initiatorId : Bool) := by
  have sensed : (base (fresh dev) : PrimaryDevice) = dev.primary.resetStatus := baseSet _ _
  unfold PrimaryDevice.checkReservation
  rw [sensed,exempt,Bool.or_false]
  change (decide (dev.primary.reservingInitiator = PrimaryDevice.notReserved) ||
    decide (dev.primary.reservingInitiator = p.initiatorId)) = _
  rw [prepared.initiatorId]

/-! The answer. -/

theorem transferredAppend (p : BusPhase) (events more : List Event) :
    transferred p (events ++ more) = transferred p events ++ transferred p more := List.flatMap_append

theorem Concludes.append {events more : List Event} {data rest : Bytes} {status : UInt8}
    (first : transferred .status events = [] ∧ transferred .dataIn events = data ∧ transferred .dataOut events = [])
    (second : Concludes status rest more) : Concludes status (data ++ rest) (events ++ more) := by
  obtain ⟨statuses,dataIn,dataOut⟩ := first
  refine ⟨?_,?_,?_⟩
  · rw [transferredAppend,statuses,second.status,List.nil_append]
  · rw [transferredAppend,dataIn,second.dataIn]
  · rw [transferredAppend,dataOut,second.dataOut,List.nil_append]

theorem answerOf {i : BoardExecutor.Initiator} {env : Env} {cdb dataOut : Bytes} {steps ids : Nat} {events : List Event} {status : UInt8} {data : Bytes} {selected : Controller AnyDevice}
    (selects : c.step AnyDevice.methods (.select ids) = selected)
    (ends : serve (respond ⟨i,env,cdb,dataOut,c.trace.length⟩) steps selected = d) (trace : d.trace = c.trace ++ events)
    (concludes : Concludes status data events) :
    target i env steps ids c cdb dataOut = ({ status := status.toNat, dataIn := data },d) := by
  have added : d.trace.drop c.trace.length = events := by
    rw [trace,List.drop_left]
  unfold target
  dsimp only
  rw [selects,ends,added,concludes.status,concludes.dataIn,concludes.dataOut]
  rfl

/- A command that goes on to STATUS, from the controller as it is then. -/
structure Resting (status : StatusCode) (c : Controller AnyDevice) : Prop where
  rst : c.lines.rst = false
  req : c.lines.req = false
  linked : c.linked = false
  atnMsg : c.atnMsg = false
  status : c.statusByte = status.code

theorem Resting.ends {status : StatusCode} (resting : Resting status c) : ∃ d events, Idle d ∧ Follows events c d ∧
    Concludes status.code [] events ∧ ∀ steps, serve (respond x) (steps+4) c.enterStatus = d := by
  have ends := endsCommand (x := x) resting.rst resting.req resting.linked resting.atnMsg
  rwa [resting.status] at ends

theorem errorRests (s : SenseKey) (a : Asc) (status : StatusCode) (phase : c.phase = .command) (rst : c.lines.rst = false)
    (req : c.lines.req = false) (linked : c.linked = false) (atnMsg : c.atnMsg = false) :
    ∃ q, c.error s a status = q.enterStatus ∧ q.trace = c.trace ∧ Resting status q := by
  have going : ¬(c.lines.rst || c.phase = .status || c.phase = .msgIn) = true := by
    rw [rst,phase]
    decide
  have code : ∀ x : Controller AnyDevice, x.linked = false → x.transfer.status = status → x.statusByte = status.code := by
    intro x linked same
    unfold statusByte
    rw [linked,same]
    rfl
  unfold error
  rw [if_neg going]
  dsimp only
  split <;> exact ⟨_,rfl,rfl,rst,req,linked,atnMsg,code _ linked rfl⟩

/- A handler that has ended with DATA IN in a single chunk. -/
structure Handed (count : Nat) (c : Controller AnyDevice) : Prop where
  phase : c.phase = .command
  rst : c.lines.rst = false
  req : c.lines.req = false
  linked : c.linked = false
  atnMsg : c.atnMsg = false
  remaining : c.transfer.remainingLength = 0
  chunk : c.transfer.chunkSize = 0
  status : c.transfer.status = .good
  fits : count ≤ c.transfer.buffer.length

theorem dataInEnds {count : Nat} {entry : Input} (handed : Handed count c) :
    (c.callPhase entry (.dataIn count)).phase ≠ .busFree ∧ ∃ d events, Idle d ∧ Follows events c d ∧
      Concludes StatusCode.good.code (c.transfer.buffer.take count) events ∧
      ∀ steps, serve (respond x) (steps+6) (c.callPhase entry (.dataIn count)) = d := by
  obtain ⟨phase,rst,req,linked,atnMsg,remaining,chunk,status,fits⟩ := handed
  have buffer : (c.setCurrentLength count).transfer.buffer = c.transfer.buffer := by
    change c.transfer.buffer ++ List.replicate ((count : Int).toNat - c.transfer.buffer.length) 0 = _
    rw [Int.toNat_natCast,Nat.sub_eq_zero_of_le fits,List.replicate_zero,List.append_nil]
  have code : (c.setCurrentLength count).statusByte = StatusCode.good.code := by
    change (if (c.linked && _) = true then _ else c.transfer.status.code) = _
    rw [linked,status]
    rfl
  have moved : Follows [] c (c.setCurrentLength count) := by
    refine ⟨rfl,rfl,rfl,rfl,(List.append_nil _).symm,?_⟩
    rw [buffer]
    exact .refl
  by_cases none : count = 0
  · have asks : c.callPhase entry (.dataIn count) = (c.setCurrentLength count).enterStatus := by
      subst none
      change (if c.phase = .status then _ else (c.setCurrentLength 0).enterStatus) = _
      rw [phase]
      rfl
    have resting : Resting .good (c.setCurrentLength count) := ⟨rst,req,linked,atnMsg,code⟩
    obtain ⟨d,events,idle,follows,concludes,ends⟩ := resting.ends (x := x)
    refine ⟨?_,d,_,idle,moved.trans follows,?_,fun steps => ?_⟩
    · rw [asks]
      exact (by decide : BusPhase.status ≠ .busFree)
    · rw [none,List.take_zero]
      exact concludes
    · rw [asks]
      exact ends (steps+2)
  · have nonzero : ¬(count : Int) = 0 := by omega
    have asks : c.callPhase entry (.dataIn count) = (c.setCurrentLength count).enterDataIn := if_neg nonzero
    have offering : Offering count (c.setCurrentLength count).enterDataIn :=
      ⟨rfl,rst,req,rfl,linked,atnMsg,rfl,remaining,chunk⟩
    obtain ⟨sent,sends,offered,same,first⟩ := sendsData (x := x) offering (Nat.pos_of_ne_zero none) rfl
    obtain ⟨q,enters,rst,req,linked,atnMsg,unchanged,second⟩ := dataSent (x := x) offered
    have resting : Resting .good q := ⟨rst,req,linked,atnMsg,(unchanged.trans same).trans code⟩
    obtain ⟨d,events,idle,third,concludes,ends⟩ := resting.ends (x := x)
    have entered : Follows [.entered .dataIn] c (c.setCurrentLength count).enterDataIn :=
      moved.trans ⟨rfl,rfl,rfl,rfl,rfl,.refl⟩
    refine ⟨?_,d,_,idle,((entered.trans first).trans second).trans third,?_,fun steps => ?_⟩
    · rw [asks]
      exact (by decide : BusPhase.dataIn ≠ .busFree)
    · have sentAll : transferred .dataIn (([.entered .dataIn] ++ [.sent .dataIn (c.transfer.buffer.take count)]) ++ []) =
          c.transfer.buffer.take count := by simp [transferred,transferredBy]
      have data := Concludes.append ⟨rfl,sentAll,rfl⟩ concludes
      rw [List.append_nil (c.transfer.buffer.take count)] at data
      change Concludes _ _ ((([_] ++ [Event.sent .dataIn ((c.setCurrentLength count).transfer.buffer.take count)]) ++ []) ++ events)
      rw [buffer]
      exact data
    · rw [asks,serveOn (by rw [sends,offered.phase]; decide),sends,
        serveOn (by rw [enters]; exact (by decide : BusPhase.status ≠ .busFree)),enters]
      exact ends steps

/- What a single command comes to: the controller when its handler is called, and what follows. -/
theorem reaches {dev : AnyDevice} (idle : Idle c) (lun : x.initiator.targetLun < 32) (room : 0 < c.transfer.buffer.length)
    (single : Single x.cdb) (here : c.luns x.initiator.targetLun = some dev) :
    ∃ p events, Prepared x.initiator x.cdb dev c p ∧ p.trace = c.trace ++ events ∧
      (transferred .status events = [] ∧ transferred .dataIn events = [] ∧ transferred .dataOut events = []) ∧
      ∀ q, p.dispatchTo AnyDevice.methods { bytes := x.cdb, env := x.env } x.initiator.targetLun (fresh dev) = q →
        q.phase ≠ .busFree → ∀ steps, serve (respond x) (steps+4) c = serve (respond x) steps q := by
  obtain ⟨d,events,identified,follows,dataIn,status,dataOut,starts⟩ := startsCommand idle lun room
  obtain ⟨p,prepared,trace,command⟩ := preparesCommand identified single (by rw [follows.luns]; exact here)
  refine ⟨p,events ++ [.entered .command,.fetched x.initiator.targetLun x.cdb],?_,?_,?_,?_⟩
  · exact { prepared with
      luns := by rw [prepared.luns,follows.luns]
      world := prepared.world.trans follows.world
      initiatorId := prepared.initiatorId.trans follows.initiatorId
      buffer := (follows.buffer.weaken (le_max_left _ _)).trans prepared.buffer }
  · rw [trace,follows.trace,List.append_assoc]
  · refine ⟨?_,?_,?_⟩
    · rw [transferredAppend,status]
      rfl
    · rw [transferredAppend,dataIn]
      rfl
    · rw [transferredAppend,dataOut]
      rfl
  · rintro q rfl busy steps
    rw [← command] at busy ⊢
    exact starts busy steps

/- The answers to a command, as its handler for the device ends. -/
structure Answered (x : Exchange) (steps ids : Nat) (dev : AnyDevice) (c p : Controller AnyDevice) : Prop where
  refused : (base (fresh dev) : PrimaryDevice).checkReservation (p.request x.env) = false → ∃ d,
    target x.initiator x.env (steps+10) ids c x.cdb x.dataOut =
      ({ status := StatusCode.reservationConflict.code.toNat },d)
  failed : (base (fresh dev) : PrimaryDevice).checkReservation (p.request x.env) = true → ∀ e u,
    AnyDevice.methods.dispatch p.opcode (p.request x.env) ⟨fresh dev,p.transfer,p.world⟩ = (.error e,u) → ∃ d,
    target x.initiator x.env (steps+10) ids c x.cdb x.dataOut = ({ status := StatusCode.checkCondition.code.toNat },d)
  dataIn : (base (fresh dev) : PrimaryDevice).checkReservation (p.request x.env) = true → ∀ (count : Nat) u,
    AnyDevice.methods.dispatch p.opcode (p.request x.env) ⟨fresh dev,p.transfer,p.world⟩ = (.ok (.dataIn count),u) →
    u.transfer.remainingLength = 0 → u.transfer.chunkSize = 0 → u.transfer.status = .good →
    count ≤ u.transfer.buffer.length → ∃ d, Idle d ∧ d.luns = Function.update c.luns x.initiator.targetLun (some u.device) ∧
      d.world = u.world ∧ u.transfer.buffer.length ≤ d.transfer.buffer.length ∧
      target x.initiator x.env (steps+10) ids c x.cdb x.dataOut =
        ({ status := StatusCode.good.code.toNat, dataIn := u.transfer.buffer.take count },d)

theorem answers (steps ids : Nat) {dev : AnyDevice} (idle : Idle c) (lun : x.initiator.targetLun < 32)
    (room : 0 < c.transfer.buffer.length) (single : Single x.cdb) (here : c.luns x.initiator.targetLun = some dev)
    (before : x.before = c.trace.length) :
    ∃ p, Prepared x.initiator x.cdb dev { c with initiatorId := initiatorOf ids c.targetId } p ∧
      Answered x steps ids dev c p := by
  obtain ⟨i,env,cdb,dataOut,start⟩ := x
  dsimp only at lun single here before
  subst before
  have selects : c.step AnyDevice.methods (.select ids) = { c with initiatorId := initiatorOf ids c.targetId } := if_pos idle.phase
  have idleSelected : Idle { c with initiatorId := initiatorOf ids c.targetId } := ⟨idle.phase,idle.bsy,idle.rst,idle.req⟩
  obtain ⟨p,events,prepared,trace,silent,serves⟩ := reaches (x := ⟨i,env,cdb,dataOut,c.trace.length⟩) idleSelected lun room
    single here
  dsimp only at serves
  have rests : ∀ {status : StatusCode} {q : Controller AnyDevice}, Resting status q → q.trace = p.trace →
      p.dispatchTo AnyDevice.methods { bytes := cdb, env } i.targetLun (fresh dev) = q.enterStatus → ∃ d,
      target i env (steps+10) ids c cdb dataOut = ({ status := status.code.toNat },d) := by
    intro status q resting same ends
    obtain ⟨d,more,_,follows,concludes,finish⟩ := resting.ends (x := ⟨i,env,cdb,dataOut,c.trace.length⟩)
    refine ⟨d,answerOf selects ?_ ?_ (Concludes.append silent concludes)⟩
    · exact (serves _ ends (by decide : BusPhase.status ≠ .busFree) (steps+6)).trans (finish (steps+2))
    · rw [follows.trace,same,trace,List.append_assoc]
  refine ⟨p,prepared,?_,?_,?_⟩
  · intro refused
    obtain ⟨q,ends,same,resting⟩ := errorRests .illegalRequest .noAdditionalSenseInformation .reservationConflict
      prepared.phase prepared.rst prepared.req prepared.linked prepared.atnMsg
    exact rests resting same ((dispatchRefused AnyDevice.methods refused).trans ends)
  · intro allowed e u ran
    obtain ⟨q,ends,same,resting⟩ := errorRests e.senseKey e.asc .checkCondition (c := p.ranHandler i.targetLun u)
      prepared.phase prepared.rst prepared.req prepared.linked prepared.atnMsg
    exact rests resting same ((dispatchError AnyDevice.methods allowed ran).trans ends)
  · intro allowed count u ran remaining chunk status fits
    have handed : Handed count (p.ranHandler i.targetLun u) :=
      ⟨prepared.phase,prepared.rst,prepared.req,prepared.linked,prepared.atnMsg,remaining,chunk,status,fits⟩
    obtain ⟨busy,d,more,idle,follows,concludes,finish⟩ := dataInEnds (x := ⟨i,env,cdb,dataOut,c.trace.length⟩) handed
    have served := serves _ (dispatchOk AnyDevice.methods allowed ran) busy (steps+6)
    refine ⟨d,idle,?_,follows.world,follows.buffer.grows,answerOf selects (served.trans (finish steps)) ?_
      (Concludes.append silent concludes)⟩
    · rw [follows.luns]
      change Function.update p.luns i.targetLun (some u.device) = _
      rw [prepared.luns,Function.update_idem]
    · rw [follows.trace]
      change p.trace ++ more = _
      rw [trace,List.append_assoc]

/-! What the executor of the board makes of an answer with data of its own. -/

theorem executeAnswered {τ : Type} {i : BoardExecutor.Initiator} {target : Target τ} {s : DumpState τ} {a : Answer} {after : τ}
    (cmd : ScsiCommand) (cdb : Bytes) {buf : Bytes} {length : Nat} (room : length ≤ buf.length)
    (answer : target s.target (BoardExecutor.encodeLun i (cdb.set 0 cmd)) (buf.take length) = (a,after))
    (fits : a.dataIn.length ≤ length) (none : a.taken = 0) :
    BoardExecutor.execute i cmd cdb buf length target s =
      (.ok ⟨a.status,BoardExecutor.encodeLun i (cdb.set 0 cmd),setBytes buf 0 a.dataIn⟩,
        { s with target := after, sent := s.sent ++ [BoardExecutor.encodeLun i (cdb.set 0 cmd)] }) := by
  have all : BoardExecutor.answers a length := ⟨fits,.inl none⟩
  refine Eff.ranOk ?_
  unfold BoardExecutor.execute
  simp only [Eff.wpBind,DumpEff.wpSend,DumpEff.wpReceive,Eff.wpPure,answer,List.take_of_length_le fits,if_pos all]
  exact ⟨fun short => absurd short (by omega),fun _ => ⟨trivial,trivial⟩⟩

end Scsi2Pi.BoardTarget
