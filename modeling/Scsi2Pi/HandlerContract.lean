import Scsi2Pi.Controller

/-! What the controller may rely on when a handler has run: which of the fields
it shares with a device may have changed, and that the phase asked for suits the
command. Handlers of a base class keep their promises in a derived class. -/
namespace Scsi2Pi
open Handler Derives Eff CommandMetaData

namespace Transfer

variable (t : Transfer)

@[simp] theorem setCurrentLengthStatus (length : Int) : (t.setCurrentLength length).status = t.status := rfl

@[simp] theorem setCurrentLengthRemaining (length : Int) :
    (t.setCurrentLength length).remainingLength = t.remainingLength := rfl

@[simp] theorem setCurrentLengthChunk (length : Int) : (t.setCurrentLength length).chunkSize = t.chunkSize := rfl

@[simp] theorem setTransferSizeStatus (length size : Int) : (t.setTransferSize length size).status = t.status := rfl

@[simp] theorem setTransferSizeRemaining (length size : Int) :
    (t.setTransferSize length size).remainingLength = length := rfl

@[simp] theorem setTransferSizeChunk (length size : Int) : (t.setTransferSize length size).chunkSize ≤ length := by
  change (if length < size then length else size) ≤ length
  split <;> omega

@[simp] theorem copyToBufferStatus (data : Bytes) : (t.copyToBuffer data).status = t.status := rfl

@[simp] theorem copyToBufferRemaining (data : Bytes) :
    (t.copyToBuffer data).remainingLength = t.remainingLength := rfl

@[simp] theorem copyToBufferChunk (data : Bytes) : (t.copyToBuffer data).chunkSize = t.chunkSize := rfl

end Transfer

/- A device reaches its PrimaryDevice part through any class it derives from. -/
class Inherits (δ β : Type) [Derives δ β] [Derives β PrimaryDevice] [Derives δ PrimaryDevice] : Prop where
  baseBase : ∀ d : δ, (base (base d : β) : PrimaryDevice) = base d

namespace Handler

@[simp] theorem baseSelf {δ : Type} (d : δ) : (base d : δ) = d := rfl

@[simp] theorem setBaseSame {δ : Type} (d e : δ) : (setBase d e : δ) = e := rfl

instance (δ : Type) [Derives δ PrimaryDevice] : Inherits δ δ := ⟨fun _ => rfl⟩

instance (δ : Type) [Derives δ PrimaryDevice] : Inherits δ PrimaryDevice := ⟨fun _ => rfl⟩

section
variable {δ α γ : Type} {R : HandlerState δ → HandlerState δ → Prop} {P : α → Prop}

/- A handler that ends in a state related to the one it started in, with a certain result. -/
def Meets (R : HandlerState δ → HandlerState δ → Prop) (P : α → Prop) (h : Handler δ α) : Prop :=
  ∀ r s, wp h r s (fun a t => R s t ∧ P a) (fun _ t => R s t)

abbrev Does (R : HandlerState δ → HandlerState δ → Prop) (h : Handler δ α) : Prop := Meets R (fun _ => True) h

theorem Meets.imp {P' : α → Prop} {h : Handler δ α} (meets : Meets R P h) (weaker : ∀ a, P a → P' a) :
    Meets R P' h :=
  fun r s => wpMono (meets r s) (fun a _ ended => ⟨ended.1,weaker a ended.2⟩) (fun _ _ failed => failed)

theorem Meets.does {h : Handler δ α} (meets : Meets R P h) : Does R h :=
  meets.imp fun _ _ => trivial

theorem meetsIte {c : Prop} [Decidable c] {x y : Handler δ α} (yes : c → Meets R P x) (no : ¬c → Meets R P y) :
    Meets R P (if c then x else y) := by
  split
  · next h => exact yes h
  · next h => exact no h

variable [IsPreorder (HandlerState δ) R]

theorem meetsPure {a : α} (h : P a) : Meets R P (pure a : Handler δ α) := fun _ s => ⟨refl s,h⟩

theorem meetsThrow (e : ScsiException) : Meets R P (throw e : Handler δ α) := fun _ s => refl s

/- The rest of a handler behind a check. -/
theorem meetsUnless {c : Prop} [Decidable c] {e : ScsiException} {f : Unit → Handler δ α}
    (next : ¬c → Meets R P (f ())) : Meets R P (if c then throw e >>= f else f ()) :=
  meetsIte (fun _ _ s => refl s) next

theorem doesPure (a : α) : Does R (pure a : Handler δ α) := meetsPure trivial

theorem doesGetDevice : Does R (getDevice : Handler δ δ) := fun _ s => ⟨refl s,trivial⟩

theorem doesGetRequest : Does R (getRequest : Handler δ Request) := fun _ s => ⟨refl s,trivial⟩

theorem doesGetTransfer : Does R (getTransfer : Handler δ Transfer) := fun _ s => ⟨refl s,trivial⟩

theorem doesGetWorld : Does R (getWorld : Handler δ World) := fun _ s => ⟨refl s,trivial⟩

theorem meetsThen {Q : γ → Prop} {x : Handler δ γ} {f : γ → Handler δ α} (first : Meets R Q x)
    (next : ∀ a, Q a → Meets R P (f a)) : Meets R P (x >>= f) := by
  intro r s
  rw [wpBind]
  refine wpMono (first r s) (fun a t done => ?_) (fun _ _ failed => failed)
  exact wpMono (next a done.2 r t) (fun _ _ ended => ⟨IsTrans.trans _ _ _ done.1 ended.1,ended.2⟩)
    (fun _ _ failed => IsTrans.trans _ _ _ done.1 failed)

end

section
variable {δ α γ : Type} {R : HandlerState δ → HandlerState δ → Prop} {P : α → Prop} {X : ScsiException → Prop}

/- A handler that meets R and P, and whose exceptions are among certain ones. -/
def Ensures (R : HandlerState δ → HandlerState δ → Prop) (P : α → Prop) (X : ScsiException → Prop) (h : Handler δ α) : Prop :=
  ∀ r s, wp h r s (fun a t => R s t ∧ P a) (fun e t => R s t ∧ X e)

theorem Ensures.meets {h : Handler δ α} (ensures : Ensures R P X h) : Meets R P h :=
  fun r s => wpMono (ensures r s) (fun _ _ ended => ended) (fun _ _ failed => failed.1)

theorem ensuresIte {c : Prop} [Decidable c] {x y : Handler δ α} (yes : c → Ensures R P X x) (no : ¬c → Ensures R P X y) :
    Ensures R P X (if c then x else y) := by
  split
  · next h => exact yes h
  · next h => exact no h

variable [IsPreorder (HandlerState δ) R]

theorem ensuresPure {a : α} (h : P a) : Ensures R P X (pure a : Handler δ α) := fun _ s => ⟨refl s,h⟩

theorem ensuresThrow {e : ScsiException} (h : X e) : Ensures R P X (throw e : Handler δ α) := fun _ s => ⟨refl s,h⟩

theorem ensuresUnless {c : Prop} [Decidable c] {e : ScsiException} {f : Unit → Handler δ α} (h : X e)
    (next : ¬c → Ensures R P X (f ())) : Ensures R P X (if c then throw e >>= f else f ()) :=
  ensuresIte (fun _ _ s => ⟨refl s,h⟩) next

theorem ensuresGetDevice : Ensures R (fun _ => True) X (getDevice : Handler δ δ) := fun _ s => ⟨refl s,trivial⟩

theorem ensuresGetRequest : Ensures R (fun _ => True) X (getRequest : Handler δ Request) := fun _ s => ⟨refl s,trivial⟩

theorem ensuresGetWorld : Ensures R (fun _ => True) X (getWorld : Handler δ World) := fun _ s => ⟨refl s,trivial⟩

theorem ensuresThen {Q : γ → Prop} {x : Handler δ γ} {f : γ → Handler δ α} (first : Ensures R Q X x)
    (next : ∀ a, Q a → Ensures R P X (f a)) : Ensures R P X (x >>= f) := by
  intro r s
  rw [wpBind]
  refine wpMono (first r s) (fun a t done => ?_) (fun _ _ failed => failed)
  exact wpMono (next a done.2 r t) (fun _ _ ended => ⟨IsTrans.trans _ _ _ done.1 ended.1,ended.2⟩)
    (fun _ _ failed => ⟨IsTrans.trans _ _ _ done.1 failed.1,failed.2⟩)

end

section
variable {δ β α : Type} [Derives δ PrimaryDevice] [Derives β PrimaryDevice]

/- Neither the transfer nor the sense data and the reservation are touched. -/
structure Calm (s t : HandlerState δ) : Prop where
  senseKey : (base t.device : PrimaryDevice).senseKey = (base s.device : PrimaryDevice).senseKey
  asc : (base t.device : PrimaryDevice).asc = (base s.device : PrimaryDevice).asc
  owner : (base t.device : PrimaryDevice).reservingInitiator = (base s.device : PrimaryDevice).reservingInitiator
  transfer : t.transfer = s.transfer

/- What a command does to these: REQUEST SENSE, RESERVE and RELEASE do more than the others. -/
structure After (cmd : ScsiCommand) (s t : HandlerState δ) : Prop where
  senseKey : cmd ≠ .requestSense →
    (base t.device : PrimaryDevice).senseKey = (base s.device : PrimaryDevice).senseKey
  asc : cmd ≠ .requestSense → (base t.device : PrimaryDevice).asc = (base s.device : PrimaryDevice).asc
  owner : cmd ≠ .reserveReserveElement6 → cmd ≠ .releaseReleaseElement6 →
    (base t.device : PrimaryDevice).reservingInitiator = (base s.device : PrimaryDevice).reservingInitiator
  status : t.transfer.status = s.transfer.status ∨ t.transfer.status = .good ∨ t.transfer.status = .checkCondition
  chunk : s.transfer.chunkSize ≤ s.transfer.remainingLength → t.transfer.chunkSize ≤ t.transfer.remainingLength

theorem calmIff {s t : HandlerState δ} : Calm s t ↔
    (base t.device : PrimaryDevice).senseKey = (base s.device : PrimaryDevice).senseKey ∧
    (base t.device : PrimaryDevice).asc = (base s.device : PrimaryDevice).asc ∧
    (base t.device : PrimaryDevice).reservingInitiator = (base s.device : PrimaryDevice).reservingInitiator ∧
    t.transfer = s.transfer :=
  ⟨fun h => ⟨h.senseKey,h.asc,h.owner,h.transfer⟩,fun ⟨k,a,o,t⟩ => ⟨k,a,o,t⟩⟩

theorem afterIff {cmd : ScsiCommand} {s t : HandlerState δ} : After cmd s t ↔
    (cmd ≠ .requestSense →
      (base t.device : PrimaryDevice).senseKey = (base s.device : PrimaryDevice).senseKey) ∧
    (cmd ≠ .requestSense → (base t.device : PrimaryDevice).asc = (base s.device : PrimaryDevice).asc) ∧
    (cmd ≠ .reserveReserveElement6 → cmd ≠ .releaseReleaseElement6 →
      (base t.device : PrimaryDevice).reservingInitiator = (base s.device : PrimaryDevice).reservingInitiator) ∧
    (t.transfer.status = s.transfer.status ∨ t.transfer.status = .good ∨ t.transfer.status = .checkCondition) ∧
    (s.transfer.chunkSize ≤ s.transfer.remainingLength → t.transfer.chunkSize ≤ t.transfer.remainingLength) :=
  ⟨fun h => ⟨h.senseKey,h.asc,h.owner,h.status,h.chunk⟩,fun ⟨k,a,o,s,c⟩ => ⟨k,a,o,s,c⟩⟩

theorem Calm.refl (s : HandlerState δ) : Calm s s := ⟨rfl,rfl,rfl,rfl⟩

theorem Calm.trans {s t u : HandlerState δ} (h : Calm s t) (h' : Calm t u) : Calm s u :=
  ⟨h'.senseKey.trans h.senseKey,h'.asc.trans h.asc,h'.owner.trans h.owner,h'.transfer.trans h.transfer⟩

theorem Calm.after {s t : HandlerState δ} (h : Calm s t) (cmd : ScsiCommand) : After cmd s t :=
  ⟨fun _ => h.senseKey,fun _ => h.asc,fun _ _ => h.owner,.inl (by rw [h.transfer]),by rw [h.transfer]; exact id⟩

theorem After.trans {cmd : ScsiCommand} {s t u : HandlerState δ} (h : After cmd s t) (h' : After cmd t u) :
    After cmd s u := by
  refine ⟨fun other => (h'.senseKey other).trans (h.senseKey other),fun other => (h'.asc other).trans (h.asc other),
    fun reserve release => (h'.owner reserve release).trans (h.owner reserve release),?_,fun start => h'.chunk (h.chunk start)⟩
  rcases h'.status with same | changed
  · rw [same]
    exact h.status
  · exact .inr changed

theorem After.refl (cmd : ScsiCommand) (s : HandlerState δ) : After cmd s s := (Calm.refl s).after cmd

instance : IsPreorder (HandlerState δ) Calm where
  refl := Calm.refl
  trans _ _ _ := Calm.trans

instance (cmd : ScsiCommand) : IsPreorder (HandlerState δ) (After cmd) where
  refl := After.refl cmd
  trans _ _ _ := After.trans

theorem calmModifyDevice {f : δ → δ}
    (senseKey : ∀ d, (base (f d) : PrimaryDevice).senseKey = (base d : PrimaryDevice).senseKey)
    (asc : ∀ d, (base (f d) : PrimaryDevice).asc = (base d : PrimaryDevice).asc)
    (owner : ∀ d, (base (f d) : PrimaryDevice).reservingInitiator = (base d : PrimaryDevice).reservingInitiator) :
    Does Calm (modifyDevice f) :=
  fun _ s => ⟨⟨senseKey s.device,asc s.device,owner s.device,rfl⟩,trivial⟩

/- What a derived class adds may change. -/
theorem modifyCalm {f : δ → δ} (same : ∀ d, (base (f d) : PrimaryDevice) = base d) : Does Calm (modifyDevice f) :=
  calmModifyDevice (fun d => by rw [same]) (fun d => by rw [same]) (fun d => by rw [same])

theorem calmSetWorld (w : World) : Does Calm (setWorld w : Handler δ Unit) := fun _ _ => ⟨⟨rfl,rfl,rfl,rfl⟩,trivial⟩

theorem afterModifyTransfer (cmd : ScsiCommand) {f : Transfer → Transfer} (status : ∀ t, (f t).status = t.status)
    (chunk : ∀ t, t.chunkSize ≤ t.remainingLength → (f t).chunkSize ≤ (f t).remainingLength) :
    Does (After cmd) (modifyTransfer f : Handler δ Unit) :=
  fun _ s => ⟨⟨fun _ => rfl,fun _ => rfl,fun _ _ => rfl,.inl (status s.transfer),chunk s.transfer⟩,trivial⟩

theorem afterSetBuffer (cmd : ScsiCommand) (f : Bytes → Bytes) :
    Does (After cmd) (setBuffer f : Handler δ Unit) :=
  afterModifyTransfer cmd (fun _ => rfl) (fun _ within => within)

theorem afterSetCurrentLength (cmd : ScsiCommand) (length : Int) :
    Does (After cmd) (setCurrentLength length : Handler δ Unit) :=
  afterModifyTransfer cmd (fun _ => rfl) (fun _ within => within)

theorem afterSetTransferSize (cmd : ScsiCommand) (length size : Int) :
    Does (After cmd) (setTransferSize length size : Handler δ Unit) :=
  afterModifyTransfer cmd (fun _ => rfl) (fun t _ => t.setTransferSizeChunk length size)

theorem afterCopyToBuffer (cmd : ScsiCommand) (data : Bytes) :
    Does (After cmd) (copyToBuffer data : Handler δ Unit) :=
  afterModifyTransfer cmd (fun _ => rfl) (fun _ within => within)

/- The phase that a handler asks for is one that the command table declares. -/
def Fits (cmd : ScsiCommand) : PhaseCall → Prop
  | .status => True
  | .dataIn _ => (getCdbMetaData cmd).hasDataOut = false
  | .dataOut _ => (getCdbMetaData cmd).hasDataOut = true
  | .errorThenDataIn _ => cmd = .requestSense

@[simp] theorem fitsStatus (cmd : ScsiCommand) : Fits cmd .status := trivial

@[simp] theorem fitsDataIn (cmd : ScsiCommand) (length : Int) :
    Fits cmd (.dataIn length) ↔ (getCdbMetaData cmd).hasDataOut = false := Iff.rfl

@[simp] theorem fitsDataOut (cmd : ScsiCommand) (length : Int) :
    Fits cmd (.dataOut length) ↔ (getCdbMetaData cmd).hasDataOut = true := Iff.rfl

@[simp] theorem fitsErrorThenDataIn (cmd : ScsiCommand) (length : Int) :
    Fits cmd (.errorThenDataIn length) ↔ cmd = .requestSense := Iff.rfl

/- Classes that are not strict may ask for a DATA OUT phase where none is declared. -/
def Suits (strict : Prop) (cmd : ScsiCommand) (call : PhaseCall) : Prop :=
  Fits cmd call ∨ ¬strict ∧ ∃ length, call = .dataOut length

/- The contract of a command. -/
abbrev Ends (cmd : ScsiCommand) (h : Handler δ PhaseCall) : Prop := Meets (After cmd) (Fits cmd) h

theorem Meets.after {P : α → Prop} {h : Handler δ α} (calm : Meets Calm P h) (cmd : ScsiCommand) :
    Meets (After cmd) P h :=
  fun r s => wpMono (calm r s) (fun _ _ ended => ⟨ended.1.after cmd,ended.2⟩) (fun _ _ failed => failed.after cmd)

theorem modifyAfter (cmd : ScsiCommand) {f : δ → δ} (same : ∀ d, (base (f d) : PrimaryDevice) = base d) :
    Does (After cmd) (modifyDevice f) :=
  Meets.after (modifyCalm same) cmd

/- Every registered command meets its contract, and so does a missing one. -/
theorem dispatchMeets {commands : List (ScsiCommand × Handler δ PhaseCall)} {P : ScsiCommand → PhaseCall → Prop}
    (each : ∀ c ∈ commands, Meets (After c.1) (P c.1) c.2) (cmd : ScsiCommand) :
    Meets (After cmd) (P cmd) (dispatch commands cmd) := by
  intro r s
  unfold dispatch
  cases found : commands.lookup cmd with
  | none => exact After.refl cmd s
  | some command =>
    obtain ⟨before,after,split,_⟩ := List.lookup_eq_some_iff.mp found
    exact each (cmd,command) (by rw [split]; simp) r s

/-! Derived classes. -/

variable [Derives δ β] [Inherits δ β]

theorem inheritedCalm {s : HandlerState δ} {t : HandlerState β} (h : Calm ⟨base s.device,s.transfer,s.world⟩ t) :
    Calm s ⟨setBase s.device t.device,t.transfer,t.world⟩ := by
  have same : (base (setBase s.device t.device) : PrimaryDevice) = base t.device := by
    rw [← Inherits.baseBase (β := β),baseSet]
  have start : (base (base s.device : β) : PrimaryDevice) = base s.device := Inherits.baseBase s.device
  exact ⟨by rw [same,← start]; exact h.senseKey,by rw [same,← start]; exact h.asc,
    by rw [same,← start]; exact h.owner,h.transfer⟩

theorem inheritedAfter {cmd : ScsiCommand} {s : HandlerState δ} {t : HandlerState β}
    (h : After cmd ⟨base s.device,s.transfer,s.world⟩ t) :
    After cmd s ⟨setBase s.device t.device,t.transfer,t.world⟩ := by
  have same : (base (setBase s.device t.device) : PrimaryDevice) = base t.device := by
    rw [← Inherits.baseBase (β := β),baseSet]
  have start : (base (base s.device : β) : PrimaryDevice) = base s.device := Inherits.baseBase s.device
  exact ⟨by rw [same,← start]; exact h.senseKey,by rw [same,← start]; exact h.asc,
    by rw [same,← start]; exact h.owner,h.status,h.chunk⟩

theorem superCalm {P : α → Prop} {h : Handler β α} (calm : Meets Calm P h) :
    Meets Calm P (super h : Handler δ α) := by
  intro r s
  rw [wpSuper]
  exact wpMono (calm r _) (fun _ _ done => ⟨inheritedCalm done.1,done.2⟩) (fun _ _ => inheritedCalm)

theorem superAfter {cmd : ScsiCommand} {P : α → Prop} {h : Handler β α} (meets : Meets (After cmd) P h) :
    Meets (After cmd) P (super h : Handler δ α) := by
  intro r s
  rw [wpSuper]
  exact wpMono (meets r _) (fun _ _ done => ⟨inheritedAfter done.1,done.2⟩) (fun _ _ => inheritedAfter)

theorem superEnds {cmd : ScsiCommand} {h : Handler β PhaseCall} (ends : Ends cmd h) :
    Ends cmd (super h : Handler δ PhaseCall) :=
  superAfter ends

end
end Handler

namespace PrimaryDevice

theorem checkReadyCalm : Does Calm checkReady := by
  intro r s
  simp [checkReady,calmIff]

theorem requestSenseEnds : Ends .requestSense requestSense := by
  intro r s
  have fits : ∀ (found : Bool) (length : Int),
      Fits .requestSense (if found then .dataIn length else .errorThenDataIn length) := by
    intro found length
    cases found
    · rfl
    · exact rfl
  simp [requestSense,handleRequestSense,reportMissingLun,afterIff,setStatus,resetStatus,fits]

theorem inquiryEnds {δ : Type} [Derives δ PrimaryDevice] {inquiryInternal : Handler δ Bytes}
    (calm : Does Calm inquiryInternal) : Ends .inquiry (inquiry inquiryInternal) := by
  intro r s
  unfold inquiry
  simp only [wpBind,wpGetRequest,wpIte,wpThrow,wpPure]
  refine ⟨fun _ => After.refl _ s,fun _ => ?_⟩
  refine wpMono (calm r s) (fun buf t kept => ?_) (fun _ t kept => kept.after _)
  have after := kept.1.after (.inquiry : ScsiCommand)
  rw [afterIff] at after
  simp [afterIff,show (getCdbMetaData .inquiry).hasDataOut = false from rfl]
  exact ⟨fun _ => by simpa using after,fun _ => by simpa using after⟩

theorem commandsEnd {δ : Type} [Derives δ PrimaryDevice] {inquiry requestSense : Handler δ PhaseCall}
    (hi : Ends .inquiry inquiry) (hr : Ends .requestSense requestSense) :
    ∀ c ∈ commands inquiry requestSense, Ends c.1 c.2 := by
  simp only [commands,List.forall_mem_cons,List.not_mem_nil,false_implies,implies_true,and_true]
  refine ⟨superEnds ?_,hi,superEnds ?_,hr,superEnds ?_,superEnds ?_,superEnds ?_⟩
  · intro r s
    simp [testUnitReady,checkReady,afterIff]
  · intro r s
    simp [reportLuns,afterIff,show (getCdbMetaData .reportLuns).hasDataOut = false from rfl]
  · intro r s
    simp [reserve,afterIff]
  · intro r s
    simp [release,discardReservation,afterIff]
  · intro r s
    simp [sendDiagnostic,afterIff]

end PrimaryDevice

namespace Handler

/- The contract of WriteData for data of a certain length. -/
def Writes {δ : Type} [Derives δ PrimaryDevice] (strict : Prop) (cmd : ScsiCommand) (length : Int)
    (h : Handler δ Int) : Prop :=
  ∀ r s, wp h r s
    (fun l t => After cmd s t ∧ (strict → length ≤ s.transfer.remainingLength → l ≤ t.transfer.remainingLength))
    (fun _ t => After cmd s t)

theorem writesAll {δ : Type} [Derives δ PrimaryDevice] {strict : Prop} {length : Int} {h : Handler δ Int}
    (calm : Meets Calm (fun l => l = length) h) (cmd : ScsiCommand) : Writes strict cmd length h := by
  intro r s
  refine wpMono (calm r s) (fun l t ended => ⟨ended.1.after cmd,fun _ within => ?_⟩) (fun _ _ failed => failed.after cmd)
  rw [ended.2,ended.1.transfer]
  exact within

end Handler

/- The contract of a class of devices. Only strict classes keep to the command
table, and report no more bytes than remain to be transferred. -/
structure Methods.Sound {δ : Type} [Derives δ PrimaryDevice] (strict : Prop) (m : Methods δ) : Prop where
  dispatch : ∀ cmd, Meets (After cmd) (Suits strict cmd) (m.dispatch cmd)
  readData : ∀ cmd, Does (After cmd) m.readData
  writeData : ∀ cmd offset length, Writes strict cmd length (m.writeData offset length)
  modeSelect : ∀ length, Does Calm (m.modeSelect length)

end Scsi2Pi
