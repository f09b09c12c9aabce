import Scsi2Pi.Medium

/-! What START STOP UNIT can do to a device with an image file. -/
namespace Scsi2Pi
open Handler Derives Eff MemoryUtil

namespace StorageDevice

def mediumError : ScsiException := ⟨.illegalRequest,.mediumLoadOrEjectFailed⟩

/- The result of the command, the device and the world after it. -/
inductive StartStop (start load : Bool) (targetId : Int) (d : StorageDevice) (w : World) :
    Except ScsiException PhaseCall → StorageDevice → World → Prop where
  | mediumChange : d.mediumChanged = true → StartStop start load targetId d w
      (.error ⟨.unitAttention,.notReadyToReadyChange⟩) { d with mediumChanged := false } w
  | stopped (files : FileSystem) : d.mediumChanged = false → load = false → StartStop start load targetId d w
      (.ok .status) { d with stopped := !start } { w with files }
  | ejectRefused : d.mediumChanged = false → start = false → load = true → d.canEject false = false →
      StartStop start load targetId d w (.error mediumError) d w
  | ejected (files : FileSystem) : d.mediumChanged = false → start = false → load = true → d.canEject false = true →
      StartStop start load targetId d w (.ok .status) d.ejected
        { w with files, reservedFiles := Function.update w.reservedFiles d.filename none }
  | nothingToLoad : d.mediumChanged = false → start = true → load = true → d.lastFilename = "" →
      StartStop start load targetId d w (.ok .status) d w
  | loadRefused : d.mediumChanged = false → start = true → load = true → d.lastFilename ≠ "" →
      w.reservedFiles d.lastFilename ≠ none →
      StartStop start load targetId d w (.error mediumError) { d with filename := d.lastFilename } w
  | loaded : d.mediumChanged = false → start = true → load = true → d.lastFilename ≠ "" →
      w.reservedFiles d.lastFilename = none →
      StartStop start load targetId d w (.ok .status) { d with filename := d.lastFilename, mediumChanged := true }
        { w with reservedFiles := Function.update w.reservedFiles d.lastFilename (some (targetId,d.lun)) }

def startBit (r : Request) : Bool := r.cdbByte 4 &&& 0x01 ≠ 0
def loadBit (r : Request) : Bool := r.cdbByte 4 &&& 0x02 ≠ 0

section
variable {δ : Type} [Derives δ StorageDevice]

/- What a class tells StartStopUnit about its medium. -/
structure Virtual.Loads (v : Virtual δ) : Prop where
  flushCache : Runs v.flushCache fun s _ t => Behind s t
  ejectRefused : ∀ {r s}, (base s.device : StorageDevice).canEject false = false → v.eject false r s = (.ok false,s)
  ejectDone : ∀ {r s}, (base s.device : StorageDevice).canEject false →
    wp (v.eject false) r s (fun status t => status = true ∧ Ejects s t) fun _ _ => False

def Starts (r : Request) (s : HandlerState δ) (result : Except ScsiException PhaseCall) (t : HandlerState δ) : Prop :=
  t.transfer = s.transfer ∧
    StartStop (startBit r) (loadBit r) r.targetId (base s.device) s.world result (base t.device) t.world

variable {v : Virtual δ} {r : Request} {s : HandlerState δ}

theorem ejectStarts (loads : v.Loads) (same : (base s.device : StorageDevice).mediumChanged = false)
    (start : startBit r = false) (load : loadBit r = true) :
    wp (do stopMedium v true; return PhaseCall.status : Handler δ PhaseCall) r s
      (fun call t => Starts r s (.ok call) t) fun e t => Starts r s (.error e) t := by
  have refused : (base s.device : StorageDevice).canEject false = false → Starts r s (.error mediumError) s :=
    fun no => ⟨rfl,.ejectRefused same start load no⟩
  simp only [stopMedium,wpBind,wpIte,wpGetDevice,wpThrow,wpPure]
  refine ⟨fun _ => ⟨fun locked => refused ?_,fun _ => ?_⟩,fun no => absurd trivial no⟩
  · simp [PrimaryDevice.canEject,locked]
  · cases able : (base s.device : StorageDevice).canEject false with
    | false =>
      rw [wp,loads.ejectRefused able]
      exact ⟨fun _ => refused able,fun yes => absurd rfl yes⟩
    | true =>
      refine wpMono (loads.ejectDone able) (fun status t ended => ?_) fun _ _ failed => failed.elim
      obtain ⟨rfl,ejects⟩ := ended
      refine ⟨fun no => Bool.noConfusion no,fun _ => ⟨ejects.transfer,?_⟩⟩
      obtain ⟨files,world⟩ := ejects.world
      rw [world,ejects.storage]
      exact .ejected files same start load able

/- The device with the flag that is set without the load bit. -/
def flagged (d : δ) (stopped : Bool) : δ := setBase d { (base d : StorageDevice) with stopped }

theorem flaggedStarts (same : (base s.device : StorageDevice).mediumChanged = false) (load : loadBit r = false) :
    Starts r s (.ok .status) { s with device := flagged s.device (!startBit r) } := by
  refine ⟨rfl,?_⟩
  simp only [flagged,baseSet]
  exact .stopped s.world.files same load

theorem flushStarts (loads : v.Loads) (same : (base s.device : StorageDevice).mediumChanged = false)
    (load : loadBit r = false) :
    wp v.flushCache r { s with device := flagged s.device (!startBit r) } (fun _ t => Starts r s (.ok .status) t)
      fun _ _ => False := by
  refine wpMono (loads.flushCache r _) (fun _ t behind => ?_) fun _ _ failed => failed
  obtain ⟨files,world⟩ := behind.world
  refine ⟨behind.transfer,?_⟩
  rw [world,behind.storage]
  simp only [flagged,baseSet]
  exact .stopped files same load

theorem startStarts (same : (base s.device : StorageDevice).mediumChanged = false)
    (start : startBit r = true) (load : loadBit r = true) :
    wp (do startMedium true; return PhaseCall.status : Handler δ PhaseCall) r s
      (fun call t => Starts r s (.ok call) t) fun e t => Starts r s (.error e) t := by
  simp only [startMedium,wpBind,wpGetRequest,wpGetDevice,wpIte,wpPure,wpSuper,wpModifyDevice,wpGetWorld,wpThrow,
    wpSetWorld,true_and]
  refine ⟨fun named => ?_,fun unnamed => ⟨rfl,.nothingToLoad same start load (not_not.mp unnamed)⟩⟩
  by_cases free : s.world.reservedFiles (base s.device : StorageDevice).lastFilename = none
  · rw [reserveFileDone (d := { (base s.device : StorageDevice) with filename := _ }) named free]
    refine ⟨fun no => Bool.noConfusion no,fun _ => ⟨rfl,?_⟩⟩
    rw [baseSet,baseSet]
    exact .loaded same start load named free
  · rw [reserveFileRefused (d := { (base s.device : StorageDevice) with filename := _ }) free]
    refine ⟨fun _ => ⟨rfl,?_⟩,fun yes => absurd rfl yes⟩
    rw [baseSet]
    exact .loadRefused same start load named free

def startStop (v : Virtual δ) (start load : Bool) : Handler δ PhaseCall := do
  if !load then super (modifyDevice fun (d : StorageDevice) => { d with stopped := !start })
  if start then startMedium load else stopMedium v load
  return .status

theorem startStopUnitEq (r : Request) (s : HandlerState δ) :
    startStopUnit v r s = startStop v (startBit r) (loadBit r) r s := by
  simp only [startStopUnit,startStop,startBit,loadBit,bind,getRequest,decide_eq_true_eq]

theorem startStopUnitStarts (loads : v.Loads) (same : (base s.device : StorageDevice).mediumChanged = false) :
    wp (startStopUnit v) r s (fun call t => Starts r s (.ok call) t) fun e t => Starts r s (.error e) t := by
  rw [wp,startStopUnitEq]
  change wp (startStop v (startBit r) (loadBit r)) r s _ _
  cases load : loadBit r with
  | true =>
    cases start : startBit r with
    | true => exact startStarts same start load
    | false => exact ejectStarts loads same start load
  | false =>
    cases start : startBit r with
    | true =>
      have starts := flaggedStarts same load
      rw [start] at starts
      exact starts
    | false =>
      have starts := flushStarts loads same load
      rw [start] at starts
      simp only [startStop,stopMedium,wpBind,wpIte,wpSuper,wpModifyDevice,wpPure]
      exact ⟨fun _ => ⟨fun no => Bool.noConfusion no,fun _ => ⟨fun no => Bool.noConfusion no,fun _ =>
        wpMono starts (fun _ _ ended => ended) fun _ _ failed => failed.elim⟩⟩,fun no => absurd rfl no⟩

/- A pending media change is reported first. -/
theorem dispatchStarts {commands : List (ScsiCommand × Handler δ PhaseCall)} (loads : v.Loads)
    (found : commands.lookup .startStop = some (startStopUnit v)) (r : Request) (s : HandlerState δ) :
    wp (dispatch commands .startStop) r s (fun call t => Starts r s (.ok call) t)
      fun e t => Starts r s (.error e) t := by
  have known : Handler.dispatch commands .startStop = startStopUnit v := by
    unfold Handler.dispatch
    rw [found]
  simp only [dispatch,reportMediumChange,known,wpBind,wpSuper,wpGetDevice,wpIte,wpModifyDevice,wpThrow,wpPure,
    setBaseSelf]
  refine ⟨fun changed => ⟨rfl,?_⟩,fun unchanged => startStopUnitStarts loads ?_⟩
  · rw [baseSet]
    exact .mediumChange (by simpa using changed.2.2)
  · exact Bool.eq_false_iff.mpr fun changed => unchanged ⟨by decide,by decide,changed⟩

end
end StorageDevice

namespace Disk

theorem virtualLoads (pages : Request → Disk → Nat → Bool → Pages → Pages) :
    (virtual pages : StorageDevice.Virtual Disk).Loads where
  flushCache := flushCacheBehind
  ejectRefused refused := ejectRefused refused _
  ejectDone able := ejectDone _ able

end Disk

namespace ScsiCd

theorem virtualLoads (pages : Request → ScsiCd → Nat → Bool → Pages → Pages) :
    (Disk.virtual pages : StorageDevice.Virtual ScsiCd).Loads where
  flushCache r s := by
    refine (wpSuper _).mpr (wpMono (Disk.flushCacheBehind r _) (fun _ t behind => ?_) fun _ _ failed => failed)
    exact ⟨behind.storage,behind.transfer,behind.world⟩
  ejectRefused refused := AnyDevice.superUnchanged (Disk.ejectRefused refused _)
  ejectDone able := by
    refine (wpSuper _).mpr (wpMono (Disk.ejectDone _ able) (fun status t ended => ?_) fun _ _ failed => failed)
    exact ⟨ended.1,ended.2.storage,ended.2.transfer,ended.2.world⟩

end ScsiCd

namespace Tape

theorem virtualLoads : virtual.Loads where
  flushCache _ s := Behind.refl s
  ejectRefused refused := ejectRefused refused _
  ejectDone able := ejectDone _ able

end Tape

namespace AnyDevice
open StorageDevice

theorem withinStarts {δ : Type} [Derives δ StorageDevice] (put : δ → AnyDevice)
    (putStorage : ∀ d, (put d).storage = some (base d)) {h : Handler δ PhaseCall} {r : Request} {d : δ}
    {transfer : Transfer} {w : World} (any : AnyDevice)
    (starts : wp h r ⟨d,transfer,w⟩ (fun call t => Starts r ⟨d,transfer,w⟩ (.ok call) t)
      fun e t => Starts r ⟨d,transfer,w⟩ (.error e) t) :
    ∃ result d' s' w', within put h d r ⟨any,transfer,w⟩ = (result,⟨d',transfer,w'⟩) ∧ d'.storage = some s' ∧
      StartStop (startBit r) (loadBit r) r.targetId (base d) w result s' w' := by
  cases ran : h r ⟨d,transfer,w⟩ with
  | mk result t =>
    have ends : Starts r ⟨d,transfer,w⟩ result t := by
      rw [wp,ran] at starts
      cases result <;> exact starts
    refine ⟨result,put t.device,base t.device,t.world,?_,putStorage _,ends.2⟩
    simp only [within,ran]
    rw [ends.1]

theorem startStop {d : AnyDevice} {s : StorageDevice} (h : d.storage = some s) (r : Request) (transfer : Transfer)
    (w : World) :
    ∃ result d' s' w', methods.dispatch .startStop r ⟨d,transfer,w⟩ = (result,⟨d',transfer,w'⟩) ∧
      d'.storage = some s' ∧ StartStop (startBit r) (loadBit r) r.targetId s w result s' w' := by
  cases d with
  | scsiHd d =>
    cases h
    exact withinStarts .scsiHd (fun _ => rfl) _ (dispatchStarts (Disk.virtualLoads _) rfl r ⟨d,transfer,w⟩)
  | sasiHd d =>
    cases h
    exact withinStarts .sasiHd (fun _ => rfl) _ (dispatchStarts (Disk.virtualLoads _) rfl r ⟨d,transfer,w⟩)
  | opticalMemory d =>
    cases h
    exact withinStarts .opticalMemory (fun _ => rfl) _ (dispatchStarts (Disk.virtualLoads _) rfl r ⟨d,transfer,w⟩)
  | scsiCd d =>
    cases h
    exact withinStarts .scsiCd (fun _ => rfl) _ (dispatchStarts (ScsiCd.virtualLoads _) rfl r ⟨d,transfer,w⟩)
  | tape d =>
    cases h
    exact withinStarts .tape (fun _ => rfl) _ (dispatchStarts Tape.virtualLoads rfl r ⟨d,transfer,w⟩)
  | _ => cases h

end AnyDevice
end Scsi2Pi
