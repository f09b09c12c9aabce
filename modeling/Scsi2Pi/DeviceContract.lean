import Scsi2Pi.AnyDevice
import Scsi2Pi.DiskContract
import Scsi2Pi.PeripheralContract
import Scsi2Pi.TapeContract

/-! The contract of a device of any class. All classes but the one of the network adapter are strict. -/
namespace Scsi2Pi
open Handler Derives Eff

namespace AnyDevice

def isDaynaPort : AnyDevice → Bool
  | .daynaPort _ => true
  | _ => false

/- A strict class of devices, with its methods. -/
structure Kind {δ : Type} [Derives δ PrimaryDevice] (put : δ → AnyDevice) (m : Methods δ) : Prop where
  primary : ∀ d, (base (put d) : PrimaryDevice) = base d
  other : ∀ d, (put d).isDaynaPort = false
  sound : m.Sound True

variable {α : Type} {r : Request} {s : HandlerState AnyDevice}

theorem wpWithin {δ : Type} {put : δ → AnyDevice} {h : Handler δ α} {d : δ} {Q : α → HandlerState AnyDevice → Prop}
    {E : ScsiException → HandlerState AnyDevice → Prop}
    (ends : wp h r ⟨d,s.transfer,s.world⟩ (fun a t => Q a ⟨put t.device,t.transfer,t.world⟩) fun e t => E e ⟨put t.device,t.transfer,t.world⟩) :
    wp (within put h d) r s Q E := by
  unfold wp at ends ⊢
  unfold within
  cases ran : h r ⟨d,s.transfer,s.world⟩ with
  | mk result t =>
    rw [ran] at ends
    cases result <;> exact ends

/- A virtual function, from what those of the strict classes have in common and from that of the network adapter. -/
theorem wpVirtual (f : {δ : Type} → Methods δ → Handler δ α) {Q : α → HandlerState AnyDevice → Prop}
    {E : ScsiException → HandlerState AnyDevice → Prop}
    (each : ∀ {δ : Type} [Derives δ PrimaryDevice] (put : δ → AnyDevice) (m : Methods δ) (d : δ), Kind put m → s.device = put d →
      wp (f m) r ⟨d,s.transfer,s.world⟩ (fun a t => Q a ⟨put t.device,t.transfer,t.world⟩) fun e t => E e ⟨put t.device,t.transfer,t.world⟩)
    (network : ∀ d, s.device = .daynaPort d → wp (f DaynaPort.methods) r ⟨d,s.transfer,s.world⟩
      (fun a t => Q a ⟨.daynaPort t.device,t.transfer,t.world⟩) fun e t => E e ⟨.daynaPort t.device,t.transfer,t.world⟩) :
    wp (virtual f) r s Q E := by
  obtain ⟨device,transfer,world⟩ := s
  unfold virtual
  rw [wpBind,wpGetDevice]
  cases device with
  | scsiHd d => exact wpWithin (each .scsiHd _ d ⟨fun _ => rfl,fun _ => rfl,ScsiHd.sound⟩ rfl)
  | sasiHd d => exact wpWithin (each .sasiHd _ d ⟨fun _ => rfl,fun _ => rfl,SasiHd.sound⟩ rfl)
  | opticalMemory d => exact wpWithin (each .opticalMemory _ d ⟨fun _ => rfl,fun _ => rfl,OpticalMemory.sound⟩ rfl)
  | scsiCd d => exact wpWithin (each .scsiCd _ d ⟨fun _ => rfl,fun _ => rfl,ScsiCd.sound⟩ rfl)
  | tape d => exact wpWithin (each .tape _ d ⟨fun _ => rfl,fun _ => rfl,Tape.sound⟩ rfl)
  | printer d => exact wpWithin (each .printer _ d ⟨fun _ => rfl,fun _ => rfl,Printer.sound⟩ rfl)
  | daynaPort d => exact wpWithin (network d rfl)
  | hostServices d => exact wpWithin (each .hostServices _ d ⟨fun _ => rfl,fun _ => rfl,HostServices.sound⟩ rfl)
  | scsiGeneric d => exact wpWithin (each .scsiGeneric _ d ⟨fun _ => rfl,fun _ => rfl,ScsiGeneric.sound⟩ rfl)

section
variable {δ : Type} [Derives δ PrimaryDevice] {put : δ → AnyDevice} {d : δ}

theorem afterPut (primary : ∀ d, (base (put d) : PrimaryDevice) = base d) {cmd : ScsiCommand} {t : HandlerState δ} (here : s.device = put d)
    (after : After cmd ⟨d,s.transfer,s.world⟩ t) : After cmd s ⟨put t.device,t.transfer,t.world⟩ := by
  obtain ⟨device,transfer,world⟩ := s
  subst here
  refine ⟨fun other => ?_,fun other => ?_,fun reserve release => ?_,after.status,after.chunk⟩
  · rw [primary,primary]
    exact after.senseKey other
  · rw [primary,primary]
    exact after.asc other
  · rw [primary,primary]
    exact after.owner reserve release

theorem calmPut (primary : ∀ d, (base (put d) : PrimaryDevice) = base d) {t : HandlerState δ} (here : s.device = put d)
    (calm : Calm ⟨d,s.transfer,s.world⟩ t) : Calm s ⟨put t.device,t.transfer,t.world⟩ := by
  obtain ⟨device,transfer,world⟩ := s
  subst here
  refine ⟨?_,?_,?_,calm.transfer⟩
  · rw [primary,primary]
    exact calm.senseKey
  · rw [primary,primary]
    exact calm.asc
  · rw [primary,primary]
    exact calm.owner

end

/- A handler of a device leaves the device in its class. -/
structure Dealt (cmd : ScsiCommand) (s t : HandlerState AnyDevice) : Prop where
  after : After cmd s t
  same : t.device.isDaynaPort = s.device.isDaynaPort

theorem dealtPut {δ : Type} [Derives δ PrimaryDevice] {put : δ → AnyDevice} {m : Methods δ} {d : δ} (kind : Kind put m) {cmd : ScsiCommand}
    {t : HandlerState δ} (here : s.device = put d) (after : After cmd ⟨d,s.transfer,s.world⟩ t) :
    Dealt cmd s ⟨put t.device,t.transfer,t.world⟩ :=
  ⟨afterPut kind.primary here after,by rw [here,kind.other,kind.other]⟩

theorem networkPrimary (d : DaynaPort) : (base (AnyDevice.daynaPort d) : PrimaryDevice) = base d := rfl

theorem dealtNetwork {d : DaynaPort} {cmd : ScsiCommand} {t : HandlerState DaynaPort} (here : s.device = .daynaPort d)
    (after : After cmd ⟨d,s.transfer,s.world⟩ t) : Dealt cmd s ⟨.daynaPort t.device,t.transfer,t.world⟩ :=
  ⟨afterPut networkPrimary here after,by rw [here]; rfl⟩

/- The commands of the network adapter that ask for a DATA OUT phase the table does not declare. -/
def Undeclared (cmd : ScsiCommand) : Prop := cmd = .setIfaceMode ∨ cmd = .setMcastAddr

theorem networkDispatch (cmd : ScsiCommand) : Meets (After cmd) (fun call => Fits cmd call ∨ Undeclared cmd) (DaynaPort.methods.dispatch cmd) := by
  refine dispatchMeets (P := fun cmd call => Fits cmd call ∨ Undeclared cmd) ?_ cmd
  simp only [DaynaPort.commands,List.forall_mem_append,List.forall_mem_cons,List.not_mem_nil,false_implies,implies_true,and_true]
  refine ⟨fun c member => (PrimaryDevice.commandsEnd (PrimaryDevice.inquiryEnds DaynaPort.inquiryInternalCalm)
    (superEnds PrimaryDevice.requestSenseEnds) c member).imp fun _ => .inl,?_,?_,?_,?_,?_,?_⟩
  · exact DaynaPort.getMessage6Ends.imp fun _ => .inl
  · exact DaynaPort.sendMessage6Ends.imp fun _ => .inl
  · exact DaynaPort.retrieveStatsEnds.imp fun _ => .inl
  · exact (DaynaPort.setInterfaceModeSuits _).imp fun _ _ => .inr (.inl rfl)
  · exact (DaynaPort.setMcastAddrSuits _).imp fun _ _ => .inr (.inr rfl)
  · exact (DaynaPort.enableInterfaceEnds _).imp fun _ => .inl

theorem dispatchEnds (cmd : ScsiCommand) (r : Request) (s : HandlerState AnyDevice) : wp (methods.dispatch cmd) r s
    (fun call t => Dealt cmd s t ∧ (Fits cmd call ∨ s.device.isDaynaPort = true ∧ Undeclared cmd)) fun _ t => Dealt cmd s t := by
  refine wpVirtual (fun m => m.dispatch cmd) (fun put m d kind here => ?_) fun d here => ?_
  · refine wpMono (kind.sound.dispatch cmd r _) (fun _ _ ended => ⟨dealtPut kind here ended.1,?_⟩) fun _ _ failed => dealtPut kind here failed
    exact ended.2.imp id fun loose => absurd trivial loose.1
  · refine wpMono (networkDispatch cmd r _) (fun _ _ ended => ⟨dealtNetwork here ended.1,?_⟩) fun _ _ failed => dealtNetwork here failed
    exact ended.2.imp id fun undeclared => ⟨by rw [here]; rfl,undeclared⟩

theorem readDataEnds (cmd : ScsiCommand) (r : Request) (s : HandlerState AnyDevice) :
    wp methods.readData r s (fun _ t => Dealt cmd s t) fun _ t => Dealt cmd s t := by
  refine wpVirtual (fun m => m.readData) (fun put m d kind here => ?_) fun d here => ?_
  · exact wpMono (kind.sound.readData cmd r _) (fun _ _ ended => dealtPut kind here ended.1) fun _ _ failed => dealtPut kind here failed
  · exact wpMono (DaynaPort.sound.readData cmd r _) (fun _ _ ended => dealtNetwork here ended.1) fun _ _ failed => dealtNetwork here failed

theorem writeDataEnds (cmd : ScsiCommand) (offset length : Int) (r : Request) (s : HandlerState AnyDevice) :
    wp (methods.writeData offset length) r s (fun l t => Dealt cmd s t ∧ (s.device.isDaynaPort = false →
      length ≤ s.transfer.remainingLength → l ≤ t.transfer.remainingLength)) fun _ t => Dealt cmd s t := by
  refine wpVirtual (fun m => m.writeData offset length) (fun put m d kind here => ?_) fun d here => ?_
  · exact wpMono (kind.sound.writeData cmd offset length r _) (fun _ _ ended => ⟨dealtPut kind here ended.1,fun _ => ended.2 trivial⟩)
      fun _ _ failed => dealtPut kind here failed
  · refine wpMono (DaynaPort.sound.writeData cmd offset length r _) (fun _ _ ended => ⟨dealtNetwork here ended.1,fun other => ?_⟩)
      fun _ _ failed => dealtNetwork here failed
    rw [here] at other
    cases other

theorem modeSelectEnds (length : Int) (r : Request) (s : HandlerState AnyDevice) :
    wp (methods.modeSelect length) r s (fun _ t => Calm s t ∧ t.device.isDaynaPort = s.device.isDaynaPort)
      fun _ t => Calm s t ∧ t.device.isDaynaPort = s.device.isDaynaPort := by
  refine wpVirtual (fun m => m.modeSelect length) (fun put m d kind here => ?_) fun d here => ?_
  · have same (e : _) : (put e).isDaynaPort = s.device.isDaynaPort := by rw [here,kind.other,kind.other]
    exact wpMono (kind.sound.modeSelect length r _) (fun _ t ended => ⟨calmPut kind.primary here ended.1,same t.device⟩)
      fun _ t failed => ⟨calmPut kind.primary here failed,same t.device⟩
  · exact wpMono (DaynaPort.sound.modeSelect length r _) (fun _ _ ended => ⟨calmPut networkPrimary here ended.1,by rw [here]; rfl⟩)
      fun _ _ failed => ⟨calmPut networkPrimary here failed,by rw [here]; rfl⟩

end AnyDevice
end Scsi2Pi
