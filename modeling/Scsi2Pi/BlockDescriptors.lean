import Scsi2Pi.DiskClass

/-! The block descriptors that MODE SENSE(6) and MODE SENSE(10) return. -/
namespace Scsi2Pi
namespace BlockDescriptors
open Slices MemoryUtil Handler Derives Eff StorageDevice

structure BlockDescriptor where
  blocks : Nat
  blockSize : Nat
  deriving DecidableEq, Repr

/- What an initiator finds behind the header. -/
def descriptor6 (data : Bytes) : Option BlockDescriptor :=
  if data.length < 12 ∨ byteAt data 3 < 8 then none else some ⟨getInt32 data 4,getInt32 data 8⟩

def shortDescriptor10 (data : Bytes) : Option BlockDescriptor :=
  if data.length < 16 ∨ getInt16 data 6 < 8 then none else some ⟨getInt32 data 8,getInt32 data 12⟩

def longDescriptor10 (data : Bytes) : Option BlockDescriptor :=
  if data.length < 24 ∨ getInt16 data 6 < 16 then none else some ⟨getInt64 data 8,getInt32 data 20⟩

def descriptor10 (data : Bytes) : Option BlockDescriptor :=
  if byteAt data 4 = 0x01 then longDescriptor10 data else shortDescriptor10 data

/- The data of a command that succeeds, as far as they have been asked for. -/
def returned (allocationLength : Nat) (r : Request) (s : HandlerState AnyDevice) : Bytes :=
  match AnyDevice.methods.dispatch r.opcode r s with
  | (.ok (.dataIn size),t) => (t.transfer.buffer.take size.toNat).take allocationLength
  | _ => []

def returned6 (r : Request) (s : HandlerState AnyDevice) : Option BlockDescriptor :=
  descriptor6 (returned (r.cdbByte 4) r s)

def returned10 (r : Request) (s : HandlerState AnyDevice) : Option BlockDescriptor :=
  descriptor10 (returned (r.cdbInt16 7) r s)

/- The short form has room for 32 bits of the number of blocks. -/
def SameMedium (short long : BlockDescriptor) : Prop :=
  short.blocks = saturate long.blocks ∧ short.blockSize = long.blockSize

def changeable (r : Request) : Bool := r.cdbByte 2 &&& 0x40 ≠ 0

section
variable {δ : Type} [Derives δ StorageDevice] (v : Virtual δ) {r : Request} {s : HandlerState δ}

def Described (r : Request) (d : δ) : Prop := r.cdbByte 1 &&& 0x08 = 0 ∧ (base d : StorageDevice).ready

instance (r : Request) (d : δ) : Decidable (Described r d) := inferInstanceAs (Decidable (_ ∧ _))

omit [Derives δ StorageDevice] in
theorem wpAddModePages {support : PageHandler.Support δ} {offset length maxSize : Nat} {t : HandlerState δ}
    {Q : Nat → HandlerState δ → Prop} (small : length ≤ t.transfer.buffer.length) (none : length < offset → Q length t)
    (written : ∀ size data, offset + data.length ≤ t.transfer.buffer.length →
      Q size { t with transfer := { t.transfer with buffer := setBytes t.transfer.buffer offset data } }) :
    wp (PageHandler.addModePages support offset length maxSize) r t Q fun _ _ => True := by
  unfold PageHandler.addModePages
  simp only [wpBind,wpGetRequest,wpGetDevice,wpIte,wpThrow,wpPure,wpSetBuffer,implies_true,true_and]
  refine ⟨none,fun _ _ _ => written _ _ ?_⟩
  rw [List.length_take]
  omega

/- The buffer behind the header of MODE SENSE(6). -/
def Shows6 (r : Request) (d : δ) (buf : Bytes) : Prop :=
  (Described r d → getInt32 buf 4 = saturate (v.blockCountForDescriptor d) ∧
    getInt32 buf 8 = v.blockSizeForDescriptor d (changeable r) % 2^32) ∧
  (¬Described r d → byteAt buf 3 = 0)

omit [Derives δ StorageDevice] in
theorem clearedByte {buf : Bytes} {length i : Nat} (inside : i < length) :
    byteAt (setBytes buf 0 (List.replicate length 0)) i = 0 := by
  rw [byteAtFront (by rwa [List.length_replicate]),byteAtZeros]

variable {v} {d : δ} {buf data : Bytes}

omit [Derives δ StorageDevice] in
theorem describedLength6 (count size : Nat) (room : 12 ≤ buf.length) :
    (setInt32 (setInt32 (setBytes buf 3 [0x08]) 4 count) 8 size).length = buf.length := by
  have first : (setBytes buf 3 [0x08]).length = buf.length := setBytesLength (by simp; omega)
  have second : (setInt32 (setBytes buf 3 [0x08]) 4 count).length = buf.length :=
    (setBytesLength (by simp; omega)).trans first
  exact (setBytesLength (by simp; omega)).trans second

theorem describedShows6 (described : Described r d) :
    Shows6 v r d (setInt32 (setInt32 (setBytes buf 3 [0x08]) 4 (saturate (v.blockCountForDescriptor d))) 8
      (v.blockSizeForDescriptor d (changeable r))) := by
  refine ⟨fun _ => ⟨?_,getInt32Same _⟩,fun wrong => absurd described wrong⟩
  rw [setInt32,getInt32Other (by omega),getInt32Same]
  unfold saturate
  split <;> omega

theorem bareShows6 (bare : ¬Described r d) (zero : byteAt buf 3 = 0) : Shows6 v r d buf :=
  ⟨fun wrong => absurd wrong bare,fun _ => zero⟩

theorem Shows6.behind (shows6 : Shows6 v r d buf) {offset : Nat}
    (behind : if Described r d then 12 ≤ offset else 4 ≤ offset) : Shows6 v r d (setBytes buf offset data) := by
  refine ⟨fun described => ?_,fun bare => ?_⟩
  · rw [if_pos described] at behind
    rw [getInt32Other (by omega),getInt32Other (by omega)]
    exact shows6.1 described
  · rw [if_neg bare] at behind
    rw [byteAtOther (by omega)]
    exact shows6.2 bare

theorem Shows6.front (shows6 : Shows6 v r d buf) (b : UInt8) :
    Shows6 v r d (setBytes buf 0 [b]) := by
  refine ⟨fun described => ?_,fun bare => ?_⟩
  · rw [getInt32Other (by simp),getInt32Other (by simp)]
    exact shows6.1 described
  · rw [byteAtOther (by simp)]
    exact shows6.2 bare

theorem modeSense6Shows (room : 12 ≤ s.transfer.buffer.length) (asked : 12 ≤ r.cdbByte 4) :
    wp (modeSense6 v) r s (fun _ t => Shows6 v r s.device t.transfer.buffer) fun _ _ => True := by
  have rest : ∀ t : HandlerState δ, Shows6 v r s.device t.transfer.buffer →
      t.transfer.buffer.length = s.transfer.buffer.length →
      (r.cdbByte 2 &&& 0x3f ≠ 0 → wp (PageHandler.addModePages (support v) (if Described r s.device then 12 else 4)
        (min s.transfer.buffer.length (r.cdbByte 4)) 255) r t
        (fun size u => Shows6 v r s.device (setBytes u.transfer.buffer 0 [UInt8.ofNat (size + 255)])) fun _ _ => True) ∧
      (¬r.cdbByte 2 &&& 0x3f ≠ 0 → Shows6 v r s.device (setBytes t.transfer.buffer 0
        [UInt8.ofNat ((if Described r s.device then 12 else 4) + 255)])) := by
    intro t shows6 same
    refine ⟨fun _ => wpAddModePages (by omega) (fun _ => shows6.front _) fun size data fits => ?_,
      fun _ => shows6.front _⟩
    refine (shows6.behind ?_).front _
    split <;> exact Nat.le_refl _
  unfold modeSense6
  simp only [wpBind,wpGetRequest,wpGetDevice,wpGetTransfer,wpIte,wpThrow,wpPure,wpSetBuffer,implies_true,true_and]
  have cleared : (setBytes s.transfer.buffer 0 (List.replicate (min s.transfer.buffer.length (r.cdbByte 4)) 0)).length =
      s.transfer.buffer.length := setBytesLength (by simp)
  have protectedLength : (setBytes (setBytes s.transfer.buffer 0 (List.replicate (min s.transfer.buffer.length (r.cdbByte 4)) 0))
      2 [0x80]).length = s.transfer.buffer.length := (setBytesLength (by simp; omega)).trans cleared
  have zero : byteAt (setBytes s.transfer.buffer 0 (List.replicate (min s.transfer.buffer.length (r.cdbByte 4)) 0)) 3 = 0 :=
    clearedByte (by omega)
  refine fun _ => ⟨fun _ => ⟨fun described => ?_,fun bare => ?_⟩,fun _ => ⟨fun described => ?_,fun bare => ?_⟩⟩
  · exact rest _ (describedShows6 described) ((describedLength6 _ _ (by omega)).trans protectedLength)
  · exact rest _ (bareShows6 bare (by rw [byteAtOther (by simp)]; exact zero)) protectedLength
  · exact rest _ (describedShows6 described) ((describedLength6 _ _ (by omega)).trans cleared)
  · exact rest _ (bareShows6 bare zero) cleared

/-! MODE SENSE(10) has a long form, too. Its short form asks another function for the number of blocks. -/

def long (r : Request) : Prop := r.cdbByte 1 &&& 0x10 ≠ 0

instance (r : Request) : Decidable (long r) := inferInstanceAs (Decidable (_ ≠ _))

def shortCount (v : Virtual δ) (d : δ) : Nat :=
  if v.blockCountForDescriptor d ≤ 0xffffffff then (base d : StorageDevice).blocks % 2^32 else 0xffffffff

/- Where the mode pages start. -/
def header10 (r : Request) (d : δ) : Nat := if Described r d then (if long r then 24 else 16) else 8

structure ShowsLong (v : Virtual δ) (r : Request) (d : δ) (buf : Bytes) : Prop where
  longLba : byteAt buf 4 = 1
  blocks : getInt64 buf 8 = v.blockCountForDescriptor d % 2^64
  blockSize : getInt32 buf 20 = v.blockSizeForDescriptor d (changeable r) % 2^32

structure ShowsShort (v : Virtual δ) (r : Request) (d : δ) (buf : Bytes) : Prop where
  shortLba : byteAt buf 4 = 0
  blocks : getInt32 buf 8 = shortCount v d
  blockSize : getInt32 buf 12 = v.blockSizeForDescriptor d (changeable r) % 2^32

structure Shows10 (v : Virtual δ) (r : Request) (d : δ) (buf : Bytes) : Prop where
  describedLong : Described r d → long r → ShowsLong v r d buf
  describedShort : Described r d → ¬long r → ShowsShort v r d buf
  bare : ¬Described r d → byteAt buf 4 = 0 ∧ getInt16 buf 6 = 0

omit [Derives δ StorageDevice] in
theorem longLength (count size : Nat) (room : 24 ≤ buf.length) :
    (setInt32 (setInt64 (setBytes (setBytes buf 4 [0x01]) 7 [0x10]) 8 count) 20 size).length = buf.length := by
  have first : (setBytes buf 4 [0x01]).length = buf.length := setBytesLength (by simp; omega)
  have second : (setBytes (setBytes buf 4 [0x01]) 7 [0x10]).length = buf.length := (setBytesLength (by simp; omega)).trans first
  have third : (setInt64 (setBytes (setBytes buf 4 [0x01]) 7 [0x10]) 8 count).length = buf.length :=
    (setBytesLength (by simp; omega)).trans second
  exact (setBytesLength (by simp; omega)).trans third

omit [Derives δ StorageDevice] in
theorem shortLength (count size : Nat) (room : 24 ≤ buf.length) :
    (setInt32 (setInt32 (setBytes buf 7 [0x08]) 8 count) 12 size).length = buf.length := by
  have first : (setBytes buf 7 [0x08]).length = buf.length := setBytesLength (by simp; omega)
  have second : (setInt32 (setBytes buf 7 [0x08]) 8 count).length = buf.length :=
    (setBytesLength (by simp; omega)).trans first
  exact (setBytesLength (by simp; omega)).trans second

/- The buffer with the descriptor that has been asked for. -/
def described10 (v : Virtual δ) (r : Request) (d : δ) (buf : Bytes) : Bytes :=
  if long r then
    setInt32 (setInt64 (setBytes (setBytes buf 4 [0x01]) 7 [0x10]) 8 (v.blockCountForDescriptor d)) 20
      (v.blockSizeForDescriptor d (changeable r))
  else
    setInt32 (setInt32 (setBytes buf 7 [0x08]) 8 (shortCount v d)) 12 (v.blockSizeForDescriptor d (changeable r))

theorem described10Length (room : 24 ≤ buf.length) : (described10 v r d buf).length = buf.length := by
  unfold described10
  split
  · exact longLength _ _ room
  · exact shortLength _ _ room

omit [Derives δ StorageDevice] in
theorem showsLong : ShowsLong v r d
    (setInt32 (setInt64 (setBytes (setBytes buf 4 [0x01]) 7 [0x10]) 8 (v.blockCountForDescriptor d)) 20
      (v.blockSizeForDescriptor d (changeable r))) := by
  refine ⟨?_,?_,getInt32Same _⟩
  · rw [setInt32,byteAtOther (by omega),setInt64,byteAtOther (by omega),
      byteAtOther (by omega),byteAtSetBytes]
    rfl
  · rw [setInt32,getInt64Other (by omega),getInt64Same]

theorem showsShort (zero : byteAt buf 4 = 0) : ShowsShort v r d
    (setInt32 (setInt32 (setBytes buf 7 [0x08]) 8 (shortCount v d)) 12 (v.blockSizeForDescriptor d (changeable r))) := by
  refine ⟨?_,?_,getInt32Same _⟩
  · rw [setInt32,byteAtOther (by omega),setInt32,byteAtOther (by omega),
      byteAtOther (by omega),zero]
  · rw [setInt32,getInt32Other (by omega),getInt32Same]
    unfold shortCount
    split <;> omega

theorem describedShows10 (described : Described r d) (zero : byteAt buf 4 = 0) :
    Shows10 v r d (described10 v r d buf) := by
  unfold described10
  refine ⟨fun _ form => ?_,fun _ form => ?_,fun bare => absurd described bare⟩
  · rw [if_pos form]
    exact showsLong
  · rw [if_neg form]
    exact showsShort zero

/- A write that leaves the header and the descriptor alone. -/
theorem Shows10.kept (shows10 : Shows10 v r d buf) {offset : Nat}
    (apart : offset + data.length ≤ 4 ∨ header10 r d ≤ offset) : Shows10 v r d (setBytes buf offset data) := by
  have header : header10 r d = if Described r d then (if long r then 24 else 16) else 8 := rfl
  refine ⟨fun described form => ?_,fun described form => ?_,fun bare => ?_⟩
  · obtain ⟨longLba,blocks,blockSize⟩ := shows10.describedLong described form
    rw [if_pos described,if_pos form] at header
    exact ⟨(byteAtOther (by omega)).trans longLba,(getInt64Other (by omega)).trans blocks,
      (getInt32Other (by omega)).trans blockSize⟩
  · obtain ⟨shortLba,blocks,blockSize⟩ := shows10.describedShort described form
    rw [if_pos described,if_neg form] at header
    exact ⟨(byteAtOther (by omega)).trans shortLba,(getInt32Other (by omega)).trans blocks,
      (getInt32Other (by omega)).trans blockSize⟩
  · obtain ⟨shortLba,none⟩ := shows10.bare bare
    rw [if_neg bare] at header
    exact ⟨(byteAtOther (by omega)).trans shortLba,(getInt16Other (by omega)).trans none⟩

theorem modeSense10Shows (room : 24 ≤ s.transfer.buffer.length) (asked : 16 ≤ r.cdbInt16 7) :
    wp (modeSense10 v) r s (fun _ t => Shows10 v r s.device t.transfer.buffer) fun _ _ => True := by
  have rest : ∀ t : HandlerState δ, Shows10 v r s.device t.transfer.buffer →
      t.transfer.buffer.length = s.transfer.buffer.length →
      (r.cdbByte 2 &&& 0x3f ≠ 0 → wp (PageHandler.addModePages (support v) (header10 r s.device)
        (min s.transfer.buffer.length (r.cdbInt16 7)) 65535) r t
        (fun size u => Shows10 v r s.device (setInt16 u.transfer.buffer 0 ((size + 65534) % 65536))) fun _ _ => True) ∧
      (¬r.cdbByte 2 &&& 0x3f ≠ 0 → Shows10 v r s.device
        (setInt16 t.transfer.buffer 0 ((header10 r s.device + 65534) % 65536))) := by
    intro t shows10 same
    have front : ∀ {buf : Bytes} {value : Nat}, Shows10 v r s.device buf → 24 ≤ buf.length →
        Shows10 v r s.device (setInt16 buf 0 value) :=
      fun shows10 room => shows10.kept (.inl (by simp))
    refine ⟨fun _ => wpAddModePages (by omega) (fun _ => front shows10 (by omega)) fun size data fits => ?_,
      fun _ => front shows10 (by omega)⟩
    exact front (shows10.kept (.inr (Nat.le_refl _))) (by rw [setBytesLength fits]; omega)
  unfold modeSense10
  simp only [wpBind,wpGetRequest,wpGetDevice,wpGetTransfer,wpIte,wpThrow,wpPure,wpSetBuffer,implies_true,true_and]
  have cleared : (setBytes s.transfer.buffer 0 (List.replicate (min s.transfer.buffer.length (r.cdbInt16 7)) 0)).length =
      s.transfer.buffer.length := setBytesLength (by simp)
  have protectedLength : (setBytes (setBytes s.transfer.buffer 0 (List.replicate (min s.transfer.buffer.length (r.cdbInt16 7)) 0))
      3 [0x80]).length = s.transfer.buffer.length := (setBytesLength (by simp; omega)).trans cleared
  have zero : ∀ i < 16, byteAt (setBytes s.transfer.buffer 0
      (List.replicate (min s.transfer.buffer.length (r.cdbInt16 7)) 0)) i = 0 :=
    fun i inside => clearedByte (by omega)
  have zeroProtected : ∀ i < 16, i ≠ 3 → byteAt (setBytes (setBytes s.transfer.buffer 0
      (List.replicate (min s.transfer.buffer.length (r.cdbInt16 7)) 0)) 3 [0x80]) i = 0 :=
    fun i inside other => (byteAtOther (by simp; omega)).trans (zero i inside)
  have none : ∀ {buf : Bytes}, byteAt buf 6 = 0 → byteAt buf 7 = 0 → getInt16 buf 6 = 0 := by
    intro buf high low
    unfold getInt16
    rw [high,low]
    rfl
  refine fun _ => ⟨fun _ => ⟨fun described => ?_,fun bare => ?_⟩,fun _ => ⟨fun described => ?_,fun bare => ?_⟩⟩
  · exact rest _ (describedShows10 described (zeroProtected 4 (by decide) (by decide)))
      ((described10Length (by omega)).trans protectedLength)
  · refine rest _ ⟨fun wrong => absurd wrong bare,fun wrong => absurd wrong bare,fun _ => ?_⟩ protectedLength
    exact ⟨zeroProtected 4 (by decide) (by decide),
      none (zeroProtected 6 (by decide) (by decide)) (zeroProtected 7 (by decide) (by decide))⟩
  · exact rest _ (describedShows10 described (zero 4 (by decide))) ((described10Length (by omega)).trans cleared)
  · refine rest _ ⟨fun wrong => absurd wrong bare,fun wrong => absurd wrong bare,fun _ => ?_⟩ cleared
    exact ⟨zero 4 (by decide),none (zero 6 (by decide)) (zero 7 (by decide))⟩

end

/-! The classes of devices with an image file. -/

structure StorageClass where
  Device : Type
  toStorage : Derives Device StorageDevice
  virtual : Virtual Device
  commands : List (ScsiCommand × Handler Device PhaseCall)
  put : Device → AnyDevice
  storage : ∀ d, (put d).storage = some (toStorage.base d)
  dispatch : ∀ cmd r d t w, AnyDevice.methods.dispatch cmd r ⟨put d,t,w⟩ =
    AnyDevice.within put (StorageDevice.dispatch commands cmd) d r ⟨put d,t,w⟩
  sense6 : commands.lookup .modeSense6 = some (do return .dataIn (← modeSense6 virtual))
  sense10 : commands.lookup .modeSense10 = some (do return .dataIn (← modeSense10 virtual))
  count : ∀ d, virtual.blockCountForDescriptor d = match put d with
    | .tape _ => 0
    | _ => (toStorage.base d).blocks

attribute [instance] StorageClass.toStorage

namespace StorageClass

def scsiHd : StorageClass where
  Device := Disk
  toStorage := inferInstance
  virtual := Disk.virtual ScsiHd.setUpModePages
  commands := ScsiHd.commands
  put := .scsiHd
  storage _ := rfl
  dispatch _ _ _ _ _ := rfl
  sense6 := rfl
  sense10 := rfl
  count _ := rfl

def sasiHd : StorageClass where
  Device := Disk
  toStorage := inferInstance
  virtual := Disk.virtual SasiHd.setUpModePages
  commands := SasiHd.commands
  put := .sasiHd
  storage _ := rfl
  dispatch _ _ _ _ _ := rfl
  sense6 := rfl
  sense10 := rfl
  count _ := rfl

def opticalMemory : StorageClass where
  Device := Disk
  toStorage := inferInstance
  virtual := Disk.virtual OpticalMemory.setUpModePages
  commands := OpticalMemory.commands
  put := .opticalMemory
  storage _ := rfl
  dispatch _ _ _ _ _ := rfl
  sense6 := rfl
  sense10 := rfl
  count _ := rfl

def scsiCd : StorageClass where
  Device := ScsiCd
  toStorage := inferInstance
  virtual := Disk.virtual ScsiCd.setUpModePages
  commands := ScsiCd.commands
  put := .scsiCd
  storage _ := rfl
  dispatch _ _ _ _ _ := rfl
  sense6 := rfl
  sense10 := rfl
  count _ := rfl

def tape : StorageClass where
  Device := Tape
  toStorage := inferInstance
  virtual := Tape.virtual
  commands := Tape.commands
  put := .tape
  storage _ := rfl
  dispatch _ _ _ _ _ := rfl
  sense6 := rfl
  sense10 := rfl
  count _ := rfl

/- Every device with an image file is of one of the classes. -/
theorem ofStorage {any : AnyDevice} {d : StorageDevice} (storage : any.storage = some d) :
    ∃ (K : StorageClass) (device : K.Device), any = K.put device ∧ base device = d := by
  cases any with
  | scsiHd device =>
    cases storage
    exact ⟨scsiHd,device,rfl,rfl⟩
  | sasiHd device =>
    cases storage
    exact ⟨sasiHd,device,rfl,rfl⟩
  | opticalMemory device =>
    cases storage
    exact ⟨opticalMemory,device,rfl,rfl⟩
  | scsiCd device =>
    cases storage
    exact ⟨scsiCd,device,rfl,rfl⟩
  | tape device =>
    cases storage
    exact ⟨tape,device,rfl,rfl⟩
  | _ => cases storage

end StorageClass

/-! What is returned, for a device of a class. -/

variable {K : StorageClass} {r : Request} {d : K.Device} {t : Transfer} {w : World}

theorem senses {cmd : ScsiCommand} {h : Handler K.Device Nat} {Q : Bytes → Prop} {call : PhaseCall} {u : HandlerState AnyDevice}
    (found : K.commands.lookup cmd = some (do return .dataIn (← h)))
    (each : wp h r ⟨d,t,w⟩ (fun _ v => Q v.transfer.buffer) fun _ _ => True)
    (ran : AnyDevice.methods.dispatch cmd r ⟨K.put d,t,w⟩ = (.ok call,u)) :
    ∃ n : Nat, call = .dataIn n ∧ Q u.transfer.buffer := by
  have ends : wp (StorageDevice.dispatch K.commands cmd) r ⟨d,t,w⟩
      (fun call v => ∃ n : Nat, call = .dataIn n ∧ Q v.transfer.buffer) fun _ _ => True := by
    unfold StorageDevice.dispatch reportMediumChange Handler.dispatch
    rw [found]
    simp only [wpBind,wpSuper,wpGetDevice,wpIte,wpModifyDevice,wpThrow,wpPure,setBaseSelf,implies_true,true_and]
    exact fun _ => wpMono each (fun n v holds => ⟨n,rfl,holds⟩) fun _ _ _ => trivial
  rw [K.dispatch] at ran
  unfold AnyDevice.within at ran
  cases inner : StorageDevice.dispatch K.commands cmd r ⟨d,t,w⟩ with
  | mk result v =>
    dsimp only at ran
    rw [inner] at ran
    cases ran
    exact wpOk ends inner

/- The data of a command that has succeeded. -/
theorem returnedOf {cmd : ScsiCommand} {h : Handler K.Device Nat} {Q : Bytes → Prop} (allocationLength : Nat)
    (op : r.opcode = cmd) (found : K.commands.lookup cmd = some (do return .dataIn (← h)))
    (each : wp h r ⟨d,t,w⟩ (fun _ v => Q v.transfer.buffer) fun _ _ => True) :
    returned allocationLength r ⟨K.put d,t,w⟩ = [] ∨
      ∃ buf count, Q buf ∧ count ≤ allocationLength ∧ returned allocationLength r ⟨K.put d,t,w⟩ = buf.take count := by
  unfold returned
  rw [op]
  cases ran : AnyDevice.methods.dispatch cmd r ⟨K.put d,t,w⟩ with
  | mk result u =>
    cases result with
    | error e => exact .inl rfl
    | ok call =>
      obtain ⟨n,rfl,holds⟩ := senses found each ran
      exact .inr ⟨_,_,holds,Nat.min_le_left _ _,List.take_take⟩

theorem returned6Is (op : r.opcode = .modeSense6) (room : 24 ≤ t.buffer.length) {a : BlockDescriptor}
    (shown : returned6 r ⟨K.put d,t,w⟩ = some a) :
    a = ⟨saturate (K.virtual.blockCountForDescriptor d),K.virtual.blockSizeForDescriptor d (changeable r) % 2^32⟩ := by
  unfold returned6 descriptor6 at shown
  split at shown
  · cases shown
  · next enough =>
    simp only [not_or,Nat.not_lt] at enough
    obtain ⟨complete,length⟩ := enough
    have asked : 12 ≤ r.cdbByte 4 := by
      unfold returned at complete
      split at complete
      · simp only [List.length_take] at complete
        omega
      · simp at complete
    rcases returnedOf (r.cdbByte 4) op K.sense6
      (modeSense6Shows (s := ⟨d,t,w⟩) (by dsimp only; omega) asked) with none | ⟨buf,count,shows6,_,same⟩
    · rw [none] at complete
      simp at complete
    · rw [same] at complete length shown
      have inside : 12 ≤ count := by
        rw [List.length_take] at complete
        omega
      rw [byteAtTake (by omega)] at length
      rw [getInt32Take (by omega),getInt32Take (by omega)] at shown
      by_cases described : Described r d
      · obtain ⟨blocks,blockSize⟩ := shows6.1 described
        rw [blocks,blockSize] at shown
        exact (Option.some.inj shown).symm
      · have zero := shows6.2 described
        omega

theorem returned10Is (op : r.opcode = .modeSense10) (room : 24 ≤ t.buffer.length) {a : BlockDescriptor}
    (shown : returned10 r ⟨K.put d,t,w⟩ = some a) :
    a = if long r then ⟨K.virtual.blockCountForDescriptor d % 2^64,K.virtual.blockSizeForDescriptor d (changeable r) % 2^32⟩
      else ⟨shortCount K.virtual d,K.virtual.blockSizeForDescriptor d (changeable r) % 2^32⟩ := by
  have complete : 16 ≤ (returned (r.cdbInt16 7) r ⟨K.put d,t,w⟩).length := by
    unfold returned10 descriptor10 longDescriptor10 shortDescriptor10 at shown
    split at shown <;> split at shown
    · cases shown
    · omega
    · cases shown
    · omega
  have asked : 16 ≤ r.cdbInt16 7 := by
    unfold returned at complete
    split at complete
    · simp only [List.length_take] at complete
      omega
    · simp at complete
  rcases returnedOf (r.cdbInt16 7) op K.sense10 (modeSense10Shows (s := ⟨d,t,w⟩) room asked) with
    none | ⟨buf,count,shows10,_,same⟩
  · rw [none] at complete
    simp at complete
  · unfold returned10 descriptor10 longDescriptor10 shortDescriptor10 at shown
    rw [same] at complete shown
    have inside : 16 ≤ count := by
      rw [List.length_take] at complete
      omega
    rw [byteAtTake (by omega),getInt16Take (by omega)] at shown
    by_cases described : Described r d
    · by_cases form : long r
      · obtain ⟨longLba,blocks,blockSize⟩ := shows10.describedLong described form
        rw [if_pos longLba] at shown
        split at shown
        · cases shown
        · next enough =>
          rw [List.length_take] at enough
          rw [getInt64Take (by omega),getInt32Take (by omega),blocks,blockSize] at shown
          rw [if_pos form]
          exact (Option.some.inj shown).symm
      · obtain ⟨shortLba,blocks,blockSize⟩ := shows10.describedShort described form
        rw [if_neg (by omega)] at shown
        split at shown
        · cases shown
        · rw [getInt32Take (by omega),getInt32Take (by omega),blocks,blockSize] at shown
          rw [if_neg form]
          exact (Option.some.inj shown).symm
    · obtain ⟨shortLba,none⟩ := shows10.bare described
      rw [if_neg (by omega),none,if_pos (.inr (by decide))] at shown
      cases shown

/-! Both commands of one device. -/

theorem saturateSmall {count : Nat} (small : count < 2^32) : saturate count = count := if_pos (by omega)

theorem saturateTwice (count : Nat) : saturate (saturate count) = saturate count := by
  refine saturateSmall ?_
  unfold saturate
  split <;> omega

theorem changeableSame {r' : Request} (control : r'.cdbByte 2 &&& 0xc0 = r.cdbByte 2 &&& 0xc0) :
    changeable r' = changeable r := by
  have bit : ∀ n : Nat, n &&& 0x40 = (n &&& 0xc0) &&& 0x40 := fun n => (Nat.and_assoc n 0xc0 0x40).symm
  unfold changeable
  rw [bit (r'.cdbByte 2),control,← bit]

theorem shortCountTape {d : K.Device} (none : K.virtual.blockCountForDescriptor d = 0) :
    shortCount K.virtual d = (base d : StorageDevice).blocks % 2^32 := by
  unfold shortCount
  rw [none,if_pos (by decide)]

theorem shortCountOther {d : K.Device} (own : K.virtual.blockCountForDescriptor d = (base d : StorageDevice).blocks) :
    shortCount K.virtual d = saturate (K.virtual.blockCountForDescriptor d) := by
  unfold shortCount saturate
  rw [own]
  split <;> omega

end BlockDescriptors
open BlockDescriptors Derives

/- Only the short form of MODE SENSE(10) takes the number of blocks from the wrong function, and only tapes
have another one. -/
theorem sameMediumIff {r r' : Request} {any : AnyDevice} {d : StorageDevice} {t t' : Transfer} {w w' : World}
    {short long : BlockDescriptor} (storage : any.storage = some d) (count : d.blocks < 2^64)
    (six : r.opcode = .modeSense6) (ten : r'.opcode = .modeSense10) (control : r'.cdbByte 2 &&& 0xc0 = r.cdbByte 2 &&& 0xc0)
    (room : 24 ≤ t.buffer.length) (room' : 24 ≤ t'.buffer.length) (one : returned6 r ⟨any,t,w⟩ = some short)
    (two : returned10 r' ⟨any,t',w'⟩ = some long) :
    SameMedium short long ↔ r'.cdbByte 1 &&& 0x10 ≠ 0 ∨ (∀ tape, any ≠ .tape tape) ∨ d.blocks % 2^32 = 0 := by
  obtain ⟨K,device,rfl,rfl⟩ := StorageClass.ofStorage storage
  rw [returned6Is six room one,returned10Is ten room' two,changeableSame control]
  have number := K.count device
  by_cases form : BlockDescriptors.long r'
  · have fits : K.virtual.blockCountForDescriptor device < 2^64 := by
      rw [number]
      split
      · decide
      · exact count
    rw [if_pos form,Nat.mod_eq_of_lt fits]
    exact ⟨fun _ => .inl form,fun _ => ⟨rfl,rfl⟩⟩
  · rw [if_neg form]
    by_cases tape : ∃ tape, K.put device = .tape tape
    · obtain ⟨tape,is⟩ := tape
      rw [is] at number
      have lower : (base device : StorageDevice).blocks % 2^32 < 2^32 := Nat.mod_lt _ (by decide)
      unfold SameMedium
      rw [shortCountTape number,number,saturateSmall lower]
      refine ⟨fun same => .inr (.inr same.1.symm),?_⟩
      rintro (wrong | wrong | none)
      · exact absurd wrong form
      · exact absurd is (wrong tape)
      · exact ⟨none.symm,rfl⟩
    · have other : ∀ tape, K.put device ≠ .tape tape := fun t is => tape ⟨t,is⟩
      have own : K.virtual.blockCountForDescriptor device = (base device : StorageDevice).blocks := by
        rw [number]
        split
        · next is => exact absurd is (other _)
        · rfl
      rw [shortCountOther own]
      exact ⟨fun _ => .inr (.inl other),fun _ => ⟨(saturateTwice _).symm,rfl⟩⟩

namespace BlockDescriptors

/- A tape of two blocks. -/
def twoBlocks : Tape := { type := .sctp, ready := true, blocks := 2, supportedBlockSizes := [512], blockSizeForDescriptor := 512 }

def loaded : HandlerState AnyDevice := ⟨.tape twoBlocks,{},{}⟩

def senseSix : Request := { cdb := [0x1a,0,0,0,12,0] }

def senseTen : Request := { cdb := [0x5a,0,0,0,0,0,0,0,16,0] }

theorem tapeOtherCount : returned6 senseSix loaded = some ⟨0,512⟩ ∧ returned10 senseTen loaded = some ⟨2,512⟩ ∧
    ¬SameMedium ⟨0,512⟩ ⟨2,512⟩ := by
  refine ⟨by decide +kernel,by decide +kernel,?_⟩
  rintro ⟨wrong,_⟩
  cases wrong

/- The long form has the same number. -/
def senseTenLong : Request := { cdb := [0x5a,0x10,0,0,0,0,0,0,24,0] }

theorem tapeSameLong : SameMedium ⟨0,512⟩ ⟨0,512⟩ ↔ senseTenLong.cdbByte 1 &&& 0x10 ≠ 0 ∨
    (∀ tape, AnyDevice.tape twoBlocks ≠ .tape tape) ∨ twoBlocks.blocks % 2^32 = 0 := by
  have room : 24 ≤ ({} : Transfer).buffer.length := by
    change 24 ≤ (List.replicate 512 (0 : UInt8)).length
    rw [List.length_replicate]
    decide
  have one : returned6 senseSix loaded = some ⟨0,512⟩ := by decide +kernel
  have two : returned10 senseTenLong loaded = some ⟨0,512⟩ := by decide +kernel
  have control : senseTenLong.cdbByte 2 &&& 0xc0 = senseSix.cdbByte 2 &&& 0xc0 := by decide
  exact sameMediumIff rfl (by decide) rfl rfl control room room one two

end BlockDescriptors
end Scsi2Pi
