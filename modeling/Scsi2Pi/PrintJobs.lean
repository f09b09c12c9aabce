import Scsi2Pi.Printer

/-! Print jobs: what a sequence of PRINT, SYNCHRONIZE BUFFER and STOP PRINT hands to the print command. -/
namespace Scsi2Pi
open Slices MemoryUtil Handler Eff

namespace PrintJobs

/- A command and the data that the initiator sends for it. -/
structure Step where
  request : Request
  data : Bytes := []

/- The handler of a command and, in the DATA OUT phase, WriteData for the only chunk, which the controller
   has stored from the start of its buffer. -/
def perform (data : Bytes) : Handler Printer Unit := do
  let r ← getRequest
  match ← Printer.methods.dispatch r.opcode with
  | .dataOut length =>
    if length ≠ 0 then
      if (data.length : Int) < length then throw ⟨.abortedCommand,.dataPhaseError⟩
      modifyTransfer fun t => { t with buffer := setBytes t.buffer 0 (data.take length.toNat) }
      let _ ← Printer.methods.writeData length length
  | _ => pure ()

variable {initial : FileSystem} {s : HandlerState Printer} {x : Step} {content pending : Bytes}

def Step.after (x : Step) (s : HandlerState Printer) : HandlerState Printer := (perform x.data x.request s).2

/- The data of a PRINT command, if it ended with GOOD. -/
def printed (x : Step) (s : HandlerState Printer) : Bytes :=
  match (perform x.data x.request s).1 with
  | .ok _ => x.data.take (x.request.cdbInt24 2)
  | .error _ => []

/- The purpose of the commands: PRINT adds its data to those to be printed, the other two leave none. -/
def pendingAfter (pending : Bytes) (x : Step) (s : HandlerState Printer) : Bytes :=
  if x.request.opcode = ScsiCommand.print then pending ++ printed x s else []

/- What happens to the file. -/
def contentAfter (content : Bytes) (x : Step) (s : HandlerState Printer) : Bytes :=
  if x.request.opcode = ScsiCommand.stopPrint then content else pendingAfter content x s

/- The file that SYNCHRONIZE BUFFER hands to the print command. -/
def job (s : HandlerState Printer) : Option Bytes := if s.device.isOpen then s.world.files s.device.filename else none

/- It has exactly the pending data. Without any there is none. -/
def Collected (pending : Bytes) (s : HandlerState Printer) : Prop := job s = if pending = [] then none else some pending

/- One of the three commands, for which a file with a new name can be created when PRINT needs one. -/
structure Works (x : Step) (s : HandlerState Printer) : Prop where
  command : x.request.opcode = ScsiCommand.print ∨ x.request.opcode = ScsiCommand.synchronizeBuffer ∨ x.request.opcode = ScsiCommand.stopPrint
  file : s.device.isOpen = false → ∃ filename, x.request.env.temporaryFile = some filename ∧ filename ≠ "" ∧ s.world.files filename = none

/-! Runs. -/

def AllWork : HandlerState Printer → List Step → Prop
  | _, [] => True
  | s, x::steps => Works x s ∧ AllWork (x.after s) steps

def Exact : Bytes → HandlerState Printer → List Step → Prop
  | pending, s, [] => Collected pending s
  | pending, s, x::steps => Collected pending s ∧ Exact (pendingAfter pending x s) (x.after s) steps

/- STOP PRINT has nothing to cancel. -/
def NothingCancelled : Bytes → HandlerState Printer → List Step → Prop
  | _, _, [] => True
  | pending, s, x::steps => (x.request.opcode = ScsiCommand.stopPrint → pending = []) ∧
      NothingCancelled (pendingAfter pending x s) (x.after s) steps

def cleaned (s : HandlerState Printer) : FileSystem := (Printer.cleanUp { cdb := [] } s).2.world.files

/- There are only the initial files after each SYNCHRONIZE BUFFER, and after CleanUp at any time. -/
def Removed (initial : FileSystem) : HandlerState Printer → List Step → Prop
  | s, [] => cleaned s = initial
  | s, x::steps => cleaned s = initial ∧ (x.request.opcode = ScsiCommand.synchronizeBuffer → (x.after s).world.files = initial) ∧
      Removed initial (x.after s) steps

/-! One step. -/

/- The file is open as long as it has data, and besides it there are the initial files. -/
inductive Holds (initial : FileSystem) : Bytes → HandlerState Printer → Prop where
  | closed {s : HandlerState Printer} : s.device.isOpen = false → s.device.filename = "" → s.world.files = initial → Holds initial [] s
  | opened {content : Bytes} {s : HandlerState Printer} : s.device.isOpen = true → s.device.filename ≠ "" → initial s.device.filename = none →
      s.world.files = Function.update initial s.device.filename (some content) → content ≠ [] → Holds initial content s

theorem Holds.transfer (holds : Holds initial content s) (t : Transfer) : Holds initial content { s with transfer := t } := by
  cases holds with
  | closed isOpen filename files => exact .closed isOpen filename files
  | opened isOpen filename new files some => exact .opened isOpen filename new files some

theorem holdsCollected (holds : Holds initial content s) : Collected content s := by
  unfold Collected job
  cases holds with
  | closed isOpen =>
    rw [isOpen]
    rfl
  | opened isOpen filename new files some =>
    rw [isOpen,files,if_neg some]
    exact Function.update_self _ _ _

theorem emptyFiles (holds : Holds initial [] s) : s.world.files = initial := by
  cases holds with
  | closed _ _ files => exact files
  | opened _ _ _ _ some => exact absurd rfl some

theorem exactNow {steps : List Step} (exact : Exact pending s steps) : Collected pending s := by
  cases steps with
  | nil => exact exact
  | cons x steps => exact exact.1

theorem stopKeeps (stop : x.request.opcode = ScsiCommand.stopPrint) : x.after s = s := by
  have asked : Printer.methods.dispatch ScsiCommand.stopPrint = Printer.stopPrint := rfl
  have ran : perform x.data x.request s = (.ok (),s) := by
    refine ranOk ?_
    unfold perform
    rw [wpBind,wpGetRequest,stop,asked]
    exact ⟨rfl,rfl⟩
  exact congrArg Prod.snd ran

theorem removedFile {filename : String} {file : Option Bytes} (new : initial filename = none) :
    Function.update (Function.update initial filename file) filename none = initial := by
  rw [Function.update_idem,← new,Function.update_eq_self]

/- All that CleanUp depends on. -/
def Removable (initial : FileSystem) (filename : String) (files : FileSystem) : Prop :=
  filename = "" ∧ files = initial ∨ filename ≠ "" ∧ initial filename = none ∧ ∃ file, files = Function.update initial filename file

theorem holdsRemovable (holds : Holds initial content s) : Removable initial s.device.filename s.world.files := by
  cases holds with
  | closed isOpen filename files => exact .inl ⟨filename,files⟩
  | opened isOpen filename new files some => exact .inr ⟨filename,new,_,files⟩

theorem cleanUpRemoves (removable : Removable initial s.device.filename s.world.files) (r : Request) :
    wp Printer.cleanUp r s (fun _ t => Holds initial [] t) fun _ t => Holds initial [] t := by
  unfold Printer.cleanUp
  rw [wpBind,wpGetDevice]
  rcases removable with ⟨filename,files⟩ | ⟨filename,new,file,files⟩
  · rw [filename]
    exact .closed rfl rfl files
  · rw [if_pos filename]
    refine .closed rfl rfl ?_
    change Function.update s.world.files s.device.filename none = initial
    rw [files]
    exact removedFile new

theorem synchronizes (holds : Holds initial content s) (r : Request) :
    wp Printer.synchronizeBuffer r s (fun call t => call = .status ∧ Holds initial [] t) fun _ t => Holds initial [] t := by
  unfold Printer.synchronizeBuffer
  simp only [wpBind,wpGetDevice,wpIte,wpThrow,wpModifyDevice,wpGetRequest,wpPure]
  refine ⟨fun nothing => ?_,fun _ => ?_⟩
  · cases holds with
    | closed isOpen filename files => exact .closed isOpen filename files
    | opened isOpen =>
      rw [isOpen] at nothing
      cases nothing
  · have removable : Removable initial s.device.filename s.world.files := holdsRemovable holds
    exact wpMono (cleanUpRemoves (s := ⟨{ s.device with isOpen := false },s.transfer,s.world⟩) removable r)
      (fun _ t removed => ⟨fun _ => removed,fun _ => ⟨trivial,removed⟩⟩) fun _ _ removed => removed

theorem openOutputOpens (holds : Holds initial content s) {r : Request}
    (file : s.device.isOpen = false → ∃ filename, r.env.temporaryFile = some filename ∧ filename ≠ "" ∧ s.world.files filename = none) :
    wp Printer.openOutput r s (fun _ t => t.device.isOpen = true ∧ t.device.filename ≠ "" ∧ initial t.device.filename = none ∧
      t.world.files = Function.update initial t.device.filename (some content) ∧ t.transfer = s.transfer) fun _ _ => False := by
  unfold Printer.openOutput
  simp only [wpBind,wpGetDevice,wpIte,wpGetRequest,wpPure]
  cases holds with
  | opened isOpen filename new files =>
    rw [isOpen]
    exact ⟨fun wrong => absurd wrong (by decide),fun _ => ⟨rfl,filename,new,files,trivial⟩⟩
  | closed isOpen _ files =>
    obtain ⟨filename,created,named,new⟩ := file isOpen
    rw [isOpen,created]
    refine ⟨fun _ => ?_,fun wrong => absurd rfl wrong⟩
    rw [files] at new
    simp only [wpBind,wpGetWorld,wpSetWorld,wpModifyDevice]
    exact ⟨trivial,named,new,by rw [files],trivial⟩

theorem writeDataAppends (holds : Holds initial content s) {r : Request} (print : r.opcode = ScsiCommand.print)
    (file : s.device.isOpen = false → ∃ filename, r.env.temporaryFile = some filename ∧ filename ≠ "" ∧ s.world.files filename = none)
    {data : Bytes} {transfer : Transfer} (buffer : transfer.buffer.take (r.cdbInt24 2) = data) (some : data ≠ []) (length : Int) :
    wp (Printer.writeData length) r ⟨s.device,transfer,s.world⟩ (fun _ t => Holds initial (content ++ data) t) fun _ _ => False := by
  unfold Printer.writeData
  simp only [wpBind,wpGetRequest,wpIte,wpThrow]
  refine ⟨fun other => other print,fun _ => wpMono (openOutputOpens (holds.transfer transfer) file) (fun _ t opened => ?_) fun _ _ wrong => wrong⟩
  obtain ⟨isOpen,named,new,files,transfer⟩ := opened
  simp only [wpGetDevice,wpGetTransfer,wpGetWorld,wpSetWorld,wpPure]
  refine .opened isOpen named new ?_ (List.append_ne_nil_of_right_ne_nil _ some)
  rw [transfer,buffer,files,Function.update_self,Function.update_idem]
  rfl

theorem synchronizeHolds (holds : Holds initial content s) (synchronize : x.request.opcode = ScsiCommand.synchronizeBuffer) :
    Holds initial [] (x.after s) := by
  have asked : Printer.methods.dispatch ScsiCommand.synchronizeBuffer = Printer.synchronizeBuffer := rfl
  have ends : wp (perform x.data) x.request s (fun _ t => Holds initial [] t) fun _ t => Holds initial [] t := by
    unfold perform
    rw [wpBind,wpGetRequest,synchronize,asked,wpBind]
    refine wpMono (synchronizes holds x.request) (fun call t removed => ?_) fun _ _ removed => removed
    rw [removed.1]
    exact removed.2
  unfold wp at ends
  unfold Step.after
  split at ends
  · next ran =>
    rw [ran]
    exact ends
  · next ran =>
    rw [ran]
    exact ends

theorem prints (holds : Holds initial content s) (print : x.request.opcode = ScsiCommand.print) (works : Works x s) :
    wp (perform x.data) x.request s (fun _ t => Holds initial (content ++ x.data.take (x.request.cdbInt24 2)) t)
      fun _ t => Holds initial content t := by
  have asked : Printer.methods.dispatch ScsiCommand.print = Printer.print := rfl
  unfold perform
  rw [wpBind,wpGetRequest,print,asked,wpBind]
  unfold Printer.print
  simp only [wpBind,wpGetRequest,wpGetTransfer,wpIte,wpThrow,wpSetTransferSize,wpPure]
  refine ⟨fun _ => holds,fun fits => ⟨fun some => ⟨fun _ => holds.transfer _,fun enough => ?_⟩,fun none => ?_⟩⟩
  · have length : (x.data.take (x.request.cdbInt24 2)).length = x.request.cdbInt24 2 := by
      rw [List.length_take]
      omega
    have nonempty : x.data.take (x.request.cdbInt24 2) ≠ [] := List.ne_nil_of_length_pos (by omega)
    rw [wpModifyTransfer,Int.toNat_natCast]
    have stored (buf : Bytes) : (setBytes buf 0 (x.data.take (x.request.cdbInt24 2))).take (x.request.cdbInt24 2) =
        x.data.take (x.request.cdbInt24 2) := by
      have front := takeFront buf (x.data.take (x.request.cdbInt24 2))
      rwa [length] at front
    exact wpMono (writeDataAppends holds print works.file (stored _) nonempty _) (fun _ _ written => written)
      fun _ _ wrong => absurd wrong id
  · have zero : x.request.cdbInt24 2 = 0 := by omega
    rw [zero,List.take_zero,List.append_nil]
    exact holds.transfer _

theorem afterHolds (holds : Holds initial content s) (works : Works x s) : Holds initial (contentAfter content x s) (x.after s) := by
  unfold contentAfter
  split
  · next stop =>
    rw [stopKeeps stop]
    exact holds
  · next other =>
    unfold pendingAfter
    split
    · next print =>
      have ends := prints holds print works
      unfold wp at ends
      unfold Step.after printed
      split at ends
      · next ran =>
        rw [ran]
        exact ends
      · next ran =>
        rw [ran,List.append_nil]
        exact ends
    · next other' =>
      rcases works.command with print | synchronize | stop
      · exact absurd print other'
      · exact synchronizeHolds holds synchronize
      · exact absurd stop other

/-! Runs. -/

theorem cleanedInitial (holds : Holds initial content s) : cleaned s = initial := by
  have removes := cleanUpRemoves (holdsRemovable holds) { cdb := [] }
  unfold wp at removes
  unfold cleaned
  split at removes
  · next ran =>
    rw [ran]
    exact emptyFiles removes
  · next ran =>
    rw [ran]
    exact emptyFiles removes

theorem runRemoved {steps : List Step} (holds : Holds initial content s) (works : AllWork s steps) : Removed initial s steps := by
  induction steps generalizing s content with
  | nil => exact cleanedInitial holds
  | cons x steps ih =>
    exact ⟨cleanedInitial holds,fun synchronize => emptyFiles (synchronizeHolds holds synchronize),
      ih (afterHolds holds works.1) works.2⟩

theorem contentPending (nothing : x.request.opcode = ScsiCommand.stopPrint → pending = []) :
    contentAfter pending x s = pendingAfter pending x s := by
  unfold contentAfter
  split
  · next stop =>
    unfold pendingAfter
    rw [nothing stop,stop]
    rfl
  · rfl

/- The cancelled data are still in the file. -/
theorem cancelsNothing {steps : List Step} (holds : Holds initial pending s) (stop : x.request.opcode = ScsiCommand.stopPrint)
    (exact : Exact (pendingAfter pending x s) (x.after s) steps) : pending = [] := by
  have none : pendingAfter pending x s = [] := by
    unfold pendingAfter
    rw [stop]
    rfl
  rw [none,stopKeeps stop] at exact
  have now := exactNow exact
  have full := holdsCollected holds
  unfold Collected at now full
  by_contra some
  rw [full,if_neg some] at now
  cases now

theorem runExact {steps : List Step} (holds : Holds initial pending s) (works : AllWork s steps) :
    Exact pending s steps ↔ NothingCancelled pending s steps := by
  induction steps generalizing s pending with
  | nil => exact ⟨fun _ => trivial,fun _ => holdsCollected holds⟩
  | cons x steps ih =>
    have next := afterHolds holds works.1
    constructor
    · rintro ⟨_,exact⟩
      have nothing (stop : x.request.opcode = ScsiCommand.stopPrint) : pending = [] := cancelsNothing holds stop exact
      rw [contentPending nothing] at next
      exact ⟨nothing,(ih next works.2).mp exact⟩
    · rintro ⟨nothing,rest⟩
      rw [contentPending nothing] at next
      exact ⟨holdsCollected holds,(ih next works.2).mpr rest⟩

end PrintJobs

open PrintJobs in
/- From a printer without a file: the print command gets exactly the pending data at each moment of a run if and only if
   STOP PRINT never has data to cancel, and no file is left over in any case. -/
theorem printJobs {s : HandlerState Printer} {steps : List Step} (closed : s.device.isOpen = false ∧ s.device.filename = "")
    (works : AllWork s steps) : (Exact [] s steps ↔ NothingCancelled [] s steps) ∧ Removed s.world.files s steps := by
  have holds : Holds s.world.files [] s := .closed closed.1 closed.2 rfl
  exact ⟨runExact holds works,runRemoved holds works⟩

namespace PrintJobs

def printer : HandlerState Printer := ⟨{type := .sclp},{},{}⟩

def print (data : Bytes) : Step :=
  ⟨{cdb := [ScsiCommand.print,0,0,0,UInt8.ofNat data.length,0],env := {temporaryFile := some "job"}},data⟩

def stopPrint : Step := ⟨{cdb := [ScsiCommand.stopPrint,0,0,0,0,0],env := {temporaryFile := some "job"}},[]⟩

def synchronizeBuffer : Step := ⟨{cdb := [ScsiCommand.synchronizeBuffer,0,0,0,0,0],env := {temporaryFile := some "job"}},[]⟩

/- Data that have been cancelled are printed. -/
theorem cancelledPrinted : ¬(∀ (s : HandlerState Printer) (steps : List Step), s.device.isOpen = false ∧ s.device.filename = "" →
    AllWork s steps → Exact [] s steps) := by
  intro all
  have works : AllWork printer [print [1,2],stopPrint,synchronizeBuffer] := by
    refine ⟨⟨by decide,fun _ => ⟨"job",rfl,by decide,rfl⟩⟩,⟨by decide,fun closed => ?_⟩,⟨by decide,fun closed => ?_⟩,trivial⟩
    · exact absurd closed (by decide +kernel)
    · exact absurd closed (by decide +kernel)
  have exact := all printer _ ⟨rfl,rfl⟩ works
  exact absurd exact.2.2.1 (by unfold Collected; decide +kernel)

theorem twoJobs : Exact [] printer [print [1,2],synchronizeBuffer,stopPrint,print [4]] := by
  have works : AllWork printer [print [1,2],synchronizeBuffer,stopPrint,print [4]] := by
    refine ⟨⟨by decide,fun _ => ⟨"job",rfl,by decide,rfl⟩⟩,⟨by decide,fun closed => ?_⟩,
      ⟨by decide,fun _ => ⟨"job",rfl,by decide,by decide +kernel⟩⟩,⟨by decide,fun _ => ⟨"job",rfl,by decide,by decide +kernel⟩⟩,trivial⟩
    exact absurd closed (by decide +kernel)
  exact (printJobs ⟨rfl,rfl⟩ works).1.mpr ⟨fun wrong => absurd wrong (by decide),fun wrong => absurd wrong (by decide),
    fun _ => rfl,fun wrong => absurd wrong (by decide),trivial⟩

end PrintJobs
end Scsi2Pi
