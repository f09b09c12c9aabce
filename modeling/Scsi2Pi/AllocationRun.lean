import Scsi2Pi.AllocationLength

/-! What the commands of a run send, and when it is more than their CDB allows. -/
namespace Scsi2Pi.AllocationLength
open Slices MemoryUtil Handler Derives Eff Controller TransferBudget

/- Sense data that are discarded do not matter. -/
theorem storageSensed (d : AnyDevice) : (d.setPrimary d.primary.resetStatus).storage =
    d.storage.map fun s => { s with toPrimaryDevice := s.toPrimaryDevice.resetStatus } := by
  cases d <;> rfl

theorem isSasiSensed (d : AnyDevice) : isSasi (d.setPrimary d.primary.resetStatus) = isSasi d := by
  cases d <;> rfl

theorem limitSensed (d : AnyDevice) (cdb : Bytes) : limit (d.setPrimary d.primary.resetStatus) cdb = limit d cdb := by
  have level : (d.setPrimary d.primary.resetStatus).primary.level = d.primary.level := by
    rw [AnyDevice.setPrimaryPrimary]
    rfl
  unfold limit zeroMeansFour
  rw [isSasiSensed,level]

theorem overrunsSensed (d : AnyDevice) (cdb : Bytes) :
    Overruns cdb (d.setPrimary d.primary.resetStatus) ↔ Overruns cdb d := by
  simp only [Overruns,isSasiSensed,storageSensed]
  refine or_congr_left ⟨?_,?_⟩
  · rintro ⟨s,has,unchanged,excess⟩
    obtain ⟨s,found,rfl⟩ := Option.map_eq_some_iff.mp has
    exact ⟨s,found,unchanged,excess⟩
  · rintro ⟨s,found,unchanged,excess⟩
    exact ⟨_,Option.map_eq_some_iff.mpr ⟨s,found,rfl⟩,unchanged,excess⟩

theorem reservationSame {d : PrimaryDevice} {r r' : Request} (cdb : r'.cdb = r.cdb)
    (initiator : r'.initiatorId = r.initiatorId) : d.checkReservation r' = d.checkReservation r := by
  have command : r'.opcode = r.opcode := congrArg (List.getD · 0 0) cdb
  have lock : r'.cdbByte 4 = r.cdbByte 4 := congrArg (byteAt · 4) cdb
  unfold PrimaryDevice.checkReservation PrimaryDevice.reservationExempt
  rw [command,lock,initiator]

/-! The device that executes a command. -/

def limitOf (a : Controller AnyDevice) : Option Nat :=
  ((a.luns (executing a)).map (limit · a.cdb)).getD (allocationLength a.cdb)

/- A LUN that exists, or one that INQUIRY and REQUEST SENSE do not need. -/
def Executed (a : Controller AnyDevice) (d : AnyDevice) : Prop :=
  ((a.luns a.getEffectiveLun).isNone = true → a.opcode = .inquiry ∨ a.opcode = .requestSense) ∧
    a.luns (executing a) = some d ∧ d.primary.checkReservation (a.request {}) = true

/- The sense data of the controller always have 18 bytes. -/
def Exceeds (a : Controller AnyDevice) : Prop :=
  (a.flag = true → a.linked = true) ∧
    if a.deferredSenseKey ≠ .noSense ∧ a.opcode = .requestSense then byteAt a.cdb 4 < 18
    else ∃ d, Executed a d ∧ Overruns a.cdb d

variable {a c : Controller AnyDevice} {n : Nat}

/- The device as it is when the handler is called. -/
theorem preparedLun (a : Controller AnyDevice) :
    (prepared a (executing a)).luns (executing a) = a.luns (executing a) ∨
      (prepared a (executing a)).luns (executing a) =
        (a.luns (executing a)).map fun d => d.setPrimary d.primary.resetStatus := by
  unfold prepared discardSense
  split
  · exact .inr (Function.update_self (executing a) _ _)
  · exact .inl rfl

/- What the handler is given decides as it did before. -/
structure SameClaim (cdb : Bytes) (d e : AnyDevice) : Prop where
  limit : limit e cdb = limit d cdb
  overruns : Overruns cdb e ↔ Overruns cdb d
  reservation : ∀ r, e.primary.checkReservation r = d.primary.checkReservation r

theorem claimSensed (cdb : Bytes) (d : AnyDevice) : SameClaim cdb d (d.setPrimary d.primary.resetStatus) := by
  refine ⟨limitSensed d cdb,overrunsSensed d cdb,fun r => ?_⟩
  rw [AnyDevice.setPrimaryPrimary]
  rfl

theorem preparedDevice {dev : AnyDevice} (found : (prepared a (executing a)).luns (executing a) = some dev) :
    ∃ d, a.luns (executing a) = some d ∧ SameClaim a.cdb d dev := by
  rcases preparedLun a with same | same
  · exact ⟨dev,same.symm.trans found,rfl,Iff.rfl,fun _ => rfl⟩
  · obtain ⟨d,here,rfl⟩ := Option.map_eq_some_iff.mp (same.symm.trans found)
    exact ⟨d,here,claimSensed a.cdb d⟩

theorem preparedPresent {d : AnyDevice} (here : a.luns (executing a) = some d) :
    ∃ dev, (prepared a (executing a)).luns (executing a) = some dev ∧ SameClaim a.cdb d dev := by
  rcases preparedLun a with same | same
  · exact ⟨d,same.trans here,rfl,Iff.rfl,fun _ => rfl⟩
  · refine ⟨_,?_,claimSensed a.cdb d⟩
    rw [same,here]
    rfl

/-! A command that fits. -/

theorem limitLeast {d : AnyDevice} {cdb : Bytes} (limited : limit d cdb = some n) :
    ∃ asked, allocationLength cdb = some asked ∧ asked ≤ n := by
  obtain ⟨asked,found,same⟩ := Option.map_eq_some_iff.mp limited
  refine ⟨asked,found,?_⟩
  rw [← same]
  split <;> omega

/- The first chunk and what remains. Only LUN 0 of the SG driver sends more than one chunk. -/
theorem dispatchFits {r : Request} {s t : HandlerState AnyDevice} {call : PhaseCall} {count : Int}
    (last : LastChunk s.transfer) (limited : limit s.device r.cdb = some n) (fits : ¬Overruns r.cdb s.device)
    (ran : AnyDevice.methods.dispatch r.opcode r s = (.ok call,t)) (hands : Hands call count) :
    count.toNat + (t.transfer.remainingLength - t.transfer.chunkSize).toNat ≤ n ∧
      (t.transfer.remainingLength ≤ t.transfer.chunkSize ∨
        0 ≤ t.transfer.chunkSize ∧ SgDevice t.device ∧ r.effectiveLun = 0) := by
  by_cases sg : SgDevice s.device
  · obtain ⟨device,transfer,world⟩ := s
    obtain ⟨g,rfl⟩ := sg
    obtain ⟨asked,found,least⟩ := limitLeast limited
    have most := Generic.byteCountAtMost found g
    change AnyDevice.within .scsiGeneric (ScsiGeneric.dispatch r.opcode) g r _ = _ at ran
    unfold AnyDevice.within at ran
    cases ended : ScsiGeneric.dispatch r.opcode r ⟨g,transfer,world⟩ with
    | mk result u =>
      rw [ended] at ran
      cases ran
      obtain ⟨never,sent⟩ := wpOk (Generic.dispatchSends r.opcode r ⟨g,transfer,world⟩) ended
      rcases hands with rfl | rfl
      · obtain ⟨all,chunks,executed⟩ := sent count rfl
        dsimp only at all chunks ⊢
        refine ⟨by omega,?_⟩
        rcases chunks with one | ⟨positive,large⟩
        · exact .inl one
        · refine .inr ⟨positive,⟨_,rfl⟩,executed.resolve_right fun cmd => ?_⟩
          have small := Generic.inquiryByteCount cmd g
          omega
      · exact absurd rfl (never count)
  · obtain ⟨ended,few⟩ := wpOk (dispatchAtMost last limited fits fun g same => sg ⟨g,same⟩) ran
    have sent := few count hands
    have one := ended.1
    exact ⟨by omega,.inl one⟩

theorem executeWithin (i : Input) (phase : a.phase = .command) (limited : limitOf a = some n)
    (fits : ∀ d, Executed a d → ¬Overruns a.cdb d) :
    Within SgDevice (dataInSent a + n) (a.execute AnyDevice.methods i) := by
  rcases executeEnds accountable i phase with rests | ⟨dev,t,count,_,found,present,runs,offers⟩
  · exact Within.rests (Nat.le_add_right _ _) rests
  obtain ⟨trace,_,_,opcode_,_,cdb,remaining,chunk,lun,initiator⟩ := preparedSame a (executing a)
  obtain ⟨d,here,claim⟩ := preparedDevice found
  obtain ⟨call,hands,ran⟩ := runs.ran
  have sameCdb : ((prepared a (executing a)).request i.env).cdb = a.cdb := cdb
  have allowed := runs.allowed
  change dev.primary.checkReservation _ = true at allowed
  rw [claim.reservation,reservationSame (r := a.request {}) cdb initiator] at allowed
  have bound : limit dev ((prepared a (executing a)).request i.env).cdb = some n := by
    rw [limitOf,here] at limited
    rw [sameCdb,claim.limit]
    exact limited
  have short : ¬Overruns ((prepared a (executing a)).request i.env).cdb dev := by
    rw [sameCdb,claim.overruns]
    exact fits d ⟨present,here,allowed⟩
  have last : LastChunk (prepared a (executing a)).transfer := by
    rw [LastChunk,remaining,chunk]
    decide
  obtain ⟨all,chunks⟩ := dispatchFits (s := ⟨dev,(prepared a (executing a)).transfer,(prepared a (executing a)).world⟩)
    last bound short ran hands
  have sent : dataInSent ((prepared a (executing a)).ranHandler (executing a) t) = dataInSent a :=
    congrArg (fun events => (events.map sentBy).sum) trace
  refine Within.offers offers ?_ ?_
  · rw [sent]
    change dataInSent a + count.toNat + (t.transfer.remainingLength - t.transfer.chunkSize).toNat ≤ dataInSent a + n
    omega
  · rcases chunks with one | ⟨positive,sg,zero⟩
    · exact .inl one
    · refine .inr ⟨positive,t.device,?_,sg⟩
      have lun0 : a.getEffectiveLun = 0 := lun.symm.trans zero
      have executed : executing a = 0 := by
        unfold executing
        rw [lun0]
        exact ite_self 0
      change Function.update (prepared a (executing a)).luns (executing a) (some t.device)
        (prepared a (executing a)).getEffectiveLun = some t.device
      rw [lun,lun0,executed]
      exact Function.update_self ..

/-! A command that sends too much. -/

/- DATA IN with more bytes than allowed. -/
def TooMuch (n : Nat) {δ : Type} (call : PhaseCall) (_ : HandlerState δ) : Prop :=
  ∃ count : Int, call = .dataIn count ∧ n < count.toNat

theorem headerTooMuch {δ : Type} [Derives δ StorageDevice] {h : Handler δ Nat} {r : Request} {s : HandlerState δ}
    {asked : Nat} (sends : wp h r s (Sensed r s asked) (fun _ _ => Rejected r))
    (allowed : allocationLength r.cdb = some n) (excess : HeaderOverruns r.cdb (base s.device)) :
    wp (do return .dataIn (← h) : Handler δ PhaseCall) r s (TooMuch n) (fun _ _ => False) := by
  obtain ⟨_,subpage,page,short⟩ := excess
  rw [wpBind]
  refine wpMono sends (fun size t sensed => ⟨size,rfl,?_⟩) (fun _ _ rejected => ?_)
  · have header := sensed.1
    have page : r.cdbByte 2 &&& 0x3f = 0 := page
    rw [if_pos page] at header
    rw [allowed] at short
    rw [Int.toNat_natCast,header]
    exact short
  · rcases rejected with wrong | wrong
    · exact wrong subpage
    · exact wrong page

theorem storageTooMuch {δ : Type} [Derives δ StorageDevice] {commands : List (ScsiCommand × Handler δ PhaseCall)}
    {v : StorageDevice.Virtual δ}
    (six : Handler.dispatch commands .modeSense6 = do return .dataIn (← StorageDevice.modeSense6 v))
    (ten : Handler.dispatch commands .modeSense10 = do return .dataIn (← StorageDevice.modeSense10 v)) {r : Request}
    {s : HandlerState δ} (unchanged : (base s.device : StorageDevice).mediumChanged = false)
    (excess : HeaderOverruns r.cdb (base s.device)) (allowed : allocationLength r.cdb = some n) :
    wp (StorageDevice.dispatch commands r.opcode) r s (TooMuch n) (fun _ _ => False) := by
  unfold StorageDevice.dispatch StorageDevice.reportMediumChange
  simp only [wpBind,wpSuper,wpGetDevice,wpIte,wpThrow,wpPure,wpModifyDevice,setBaseSelf,unchanged,Bool.false_eq_true,
    and_false,false_implies,not_false_eq_true,true_implies,true_and]
  rcases excess.1 with op | op
  · have op : r.opcode = .modeSense6 := op
    rw [op,six]
    exact headerTooMuch (modeSense6Sends v op) allowed excess
  · have op : r.opcode = .modeSense10 := op
    rw [op,ten]
    exact headerTooMuch (modeSense10Sends v op) allowed excess

theorem sasiTooMuch {r : Request} {s : HandlerState Disk} (excess : SasiOverruns r.cdb)
    (limited : limit (.sasiHd s.device) r.cdb = some n) :
    wp (StorageDevice.dispatch SasiHd.commands r.opcode) r s (TooMuch n) (fun _ _ => False) := by
  unfold StorageDevice.dispatch StorageDevice.reportMediumChange
  rcases excess with ⟨op,short⟩ | ⟨op,some_,short⟩
  · have cmd : r.opcode = .inquiry := op
    have asked := limitSimple (by rw [op]; decide) limited
    have same : allocationLength r.cdb = some (getInt16 r.cdb 3) := congrArg (allocationField · r.cdb) op
    rw [same] at asked
    cases asked
    have found : Handler.dispatch SasiHd.commands .inquiry = SasiHd.inquiry := rfl
    rw [cmd,found]
    unfold SasiHd.inquiry
    simp only [wpBind,wpSuper,wpGetDevice,wpIte,wpThrow,wpPure,wpModifyDevice,wpCopyToBuffer,ne_eq,not_true_eq_false,
      false_and,false_implies,not_false_eq_true,true_implies,true_and]
    exact ⟨2,rfl,short⟩
  · have cmd : r.opcode = .requestSense := op
    have same : allocationLength r.cdb = some (byteAt r.cdb 4) := congrArg (allocationField · r.cdb) op
    have least : n = byteAt r.cdb 4 := by
      rw [limit,same,Option.map_some,if_neg (fun h => some_ h.2.1)] at limited
      exact (Option.some.inj limited).symm
    have found : Handler.dispatch SasiHd.commands .requestSense = SasiHd.requestSense := rfl
    rw [cmd,found]
    unfold SasiHd.requestSense
    simp only [wpBind,wpSuper,wpGetDevice,wpGetRequest,wpIte,wpThrow,wpPure,wpModifyDevice,wpCopyToBuffer,ne_eq,
      not_true_eq_false,false_and,and_false,false_implies,not_false_eq_true,true_implies,true_and]
    refine ⟨4,rfl,?_⟩
    rw [least]
    exact short

theorem withinRan {δ : Type} {put : δ → AnyDevice} {h : Handler δ PhaseCall} {d : δ} {r : Request}
    {transfer : Transfer} {world : World} (sends : wp h r ⟨d,transfer,world⟩ (TooMuch n) (fun _ _ => False)) :
    ∃ count t, AnyDevice.within put h d r ⟨put d,transfer,world⟩ = (.ok (.dataIn count),t) ∧ n < count.toNat := by
  unfold AnyDevice.within
  unfold wp at sends
  cases ran : h r ⟨d,transfer,world⟩ with
  | mk result t =>
    rw [ran] at sends
    cases result with
    | error e => exact sends.elim
    | ok call =>
      obtain ⟨count,rfl,more⟩ := sends
      exact ⟨count,_,rfl,more⟩

theorem dispatchTooMuch {r : Request} {s : HandlerState AnyDevice} (limited : limit s.device r.cdb = some n)
    (excess : Overruns r.cdb s.device) :
    ∃ count t, AnyDevice.methods.dispatch r.opcode r s = (.ok (.dataIn count),t) ∧ n < count.toNat := by
  obtain ⟨device,transfer,world⟩ := s
  dsimp only at limited excess
  rcases excess with ⟨st,has,unchanged,header⟩ | ⟨sasi,excess⟩
  · have asked : allocationLength r.cdb = some n := by
      refine limitSimple ?_ limited
      rcases header.1 with op | op <;> rw [op] <;> decide
    cases device with
    | scsiHd d =>
      cases has
      exact withinRan (storageTooMuch rfl rfl unchanged header asked)
    | sasiHd d =>
      cases has
      exact withinRan (storageTooMuch rfl rfl unchanged header asked)
    | opticalMemory d =>
      cases has
      exact withinRan (storageTooMuch rfl rfl unchanged header asked)
    | scsiCd d =>
      cases has
      exact withinRan (storageTooMuch rfl rfl unchanged header asked)
    | tape d =>
      cases has
      exact withinRan (storageTooMuch rfl rfl unchanged header asked)
    | printer d => cases has
    | daynaPort d => cases has
    | hostServices d => cases has
    | scsiGeneric d => cases has
  · cases device with
    | sasiHd d => exact withinRan (sasiTooMuch excess limited)
    | _ => cases sasi

/- A DATA IN phase with more bytes than allowed. -/
def Offered (n : Nat) (c d : Controller AnyDevice) : Prop :=
  ∃ count x, n < count.toNat ∧ dataInSent x = dataInSent c ∧ x.lines.rst = c.lines.rst ∧ Offers count x d

theorem executeOffered {d : AnyDevice} (i : Input) (limited : limitOf a = some n) (executed : Executed a d)
    (excess : Overruns a.cdb d) : Offered n a (a.execute AnyDevice.methods i) := by
  obtain ⟨present,here,allowed⟩ := executed
  obtain ⟨trace,_,lines,_,_,cdb,_,_,_,initiator⟩ := preparedSame a (executing a)
  obtain ⟨dev,found,claim⟩ := preparedPresent here
  have sameCdb : ((prepared a (executing a)).request i.env).cdb = a.cdb := cdb
  have bound : limit dev ((prepared a (executing a)).request i.env).cdb = some n := by
    rw [limitOf,here] at limited
    rw [sameCdb,claim.limit]
    exact limited
  have long : Overruns ((prepared a (executing a)).request i.env).cdb dev := by
    rw [sameCdb,claim.overruns]
    exact excess
  obtain ⟨count,t,ran,more⟩ := dispatchTooMuch
    (s := ⟨dev,(prepared a (executing a)).transfer,(prepared a (executing a)).world⟩) bound long
  have granted : (base dev : PrimaryDevice).checkReservation ((prepared a (executing a)).request i.env) = true := by
    change dev.primary.checkReservation _ = true
    rw [claim.reservation,reservationSame (r := a.request {}) cdb initiator]
    exact allowed
  have same := executeRuns (m := AnyDevice.methods) i present found granted ran
  refine ⟨count,(prepared a (executing a)).ranHandler (executing a) t,more,?_,?_,?_⟩
  · exact congrArg (fun events => (events.map sentBy).sum) trace
  · change (prepared a (executing a)).lines.rst = a.lines.rst
    rw [lines]
  · rw [same]
    exact offersDataIn i (by omega)

/-! Whole commands. -/

/- The controller when it has the complete CDB. -/
def received (c : Controller AnyDevice) (cdb : Bytes) : Controller AnyDevice := (c.enterCommand cdb).storeCdb cdb

theorem commandAccepts {i : Input} {cdb : Bytes} {count : Int} (phase : c.phase ≠ .command)
    (shaken : commandHandShake i.bytes = (cdb,count)) (valid : 0 < count) :
    c.command AnyDevice.methods i =
      if (received c cdb).flag && !(received c cdb).linked then
        (received c cdb).raiseDeferredError .illegalRequest .invalidFieldInCdb
      else if (received c cdb).deferredSenseKey ≠ .noSense && (received c cdb).opcode = .requestSense then
        (received c cdb).provideSenseData i
      else (received c cdb).discardDeferredError.execute AnyDevice.methods i := by
  unfold command
  rw [if_neg phase,shaken]
  dsimp only
  rw [if_neg (by omega),if_neg (by omega)]
  rfl

theorem receivedSent (c : Controller AnyDevice) (cdb : Bytes) : dataInSent (received c cdb) = dataInSent c := by
  have entered : dataInSent (c.enterCommand cdb) = dataInSent c := (sentLogged (.entered .command) rfl).1
  have fetched : dataInSent (received c cdb) = dataInSent (c.enterCommand cdb) := (sentLogged (.fetched _ cdb) rfl).1
  rw [fetched,entered]

theorem deferredLimit (limited : limitOf a = some n) (command : a.opcode = .requestSense) :
    n = byteAt a.cdb 4 ∨ byteAt a.cdb 4 = 0 ∧ n = 4 := by
  have asked : allocationLength a.cdb = some (byteAt a.cdb 4) := congrArg (allocationField · a.cdb) command
  cases here : a.luns (executing a) with
  | none =>
    rw [limitOf,here] at limited
    exact .inl (Option.some.inj (limited.symm.trans asked))
  | some d =>
    rw [limitOf,here] at limited
    have limited : limit d a.cdb = some n := limited
    rw [limit,asked,Option.map_some] at limited
    split at limited
    · next four => exact .inr ⟨four.2.1,(Option.some.inj limited).symm⟩
    · exact .inl (Option.some.inj limited).symm

theorem commandWithin {i : Input} {cdb : Bytes} {count : Int} (phase : c.phase ≠ .command) (last : LastChunk c.transfer)
    (shaken : commandHandShake i.bytes = (cdb,count)) (valid : 0 < count) (limited : limitOf (received c cdb) = some n)
    (fits : ¬Exceeds (received c cdb)) : Within SgDevice (dataInSent c + n) (c.command AnyDevice.methods i) := by
  rw [commandAccepts phase shaken valid,← receivedSent c cdb]
  have at_ : (received c cdb).phase = .command := rfl
  have last : LastChunk (received c cdb).transfer := last
  generalize received c cdb = a at *
  split
  · refine Within.rests (Nat.le_add_right _ _) (restsRaise _ _ ?_)
    rw [at_]
    exact ⟨by decide,by decide⟩
  · next unflagged =>
    have flags : a.flag = true → a.linked = true := by simpa using unflagged
    split
    · next deferred =>
      have deferred : a.deferredSenseKey ≠ .noSense ∧ a.opcode = .requestSense := by simpa using deferred
      have enough : ¬byteAt a.cdb 4 < 18 := fun short => fits ⟨flags,by rw [if_pos deferred]; exact short⟩
      have bound := deferredLimit limited deferred.2
      have positive := last.1
      refine Within.offers (provideSenseDataOffers a i) ?_ (.inl last.1)
      change _ + 18 + _ ≤ _
      omega
    · next other =>
      have other : ¬(a.deferredSenseKey ≠ .noSense ∧ a.opcode = .requestSense) := by simpa using other
      refine executeWithin (a := a.discardDeferredError) i at_ limited fun d executed excess => ?_
      refine fits ⟨flags,?_⟩
      rw [if_neg other]
      exact ⟨d,executed,excess⟩

theorem commandOffered {i : Input} {cdb : Bytes} {count : Int} (phase : c.phase ≠ .command)
    (shaken : commandHandShake i.bytes = (cdb,count)) (valid : 0 < count) (limited : limitOf (received c cdb) = some n)
    (exceeds : Exceeds (received c cdb)) : Offered n c (c.command AnyDevice.methods i) := by
  have sent := receivedSent c cdb
  have lines : (received c cdb).lines.rst = c.lines.rst := rfl
  rw [commandAccepts phase shaken valid]
  unfold Offered
  rw [← sent,← lines]
  generalize received c cdb = a at *
  obtain ⟨flags,exceeds⟩ := exceeds
  have unflagged : ¬(a.flag && !a.linked) = true := by simpa using flags
  rw [if_neg unflagged]
  split
  · next deferred =>
    have deferred : a.deferredSenseKey ≠ .noSense ∧ a.opcode = .requestSense := by simpa using deferred
    rw [if_pos deferred] at exceeds
    have bound := deferredLimit limited deferred.2
    refine ⟨18,a,?_,rfl,rfl,provideSenseDataOffers a i⟩
    change n < 18
    omega
  · next other =>
    have other : ¬(a.deferredSenseKey ≠ .noSense ∧ a.opcode = .requestSense) := by simpa using other
    rw [if_neg other] at exceeds
    obtain ⟨d,executed,excess⟩ := exceeds
    exact executeOffered (a := a.discardDeferredError) i limited executed excess

theorem commandLimit {i : Input} {cdb : Bytes} {count : Int} (ready : c.phase ≠ .command ∧ c.lines.rst = false)
    (last : LastChunk c.transfer) (shaken : commandHandShake i.bytes = (cdb,count)) (valid : 0 < count)
    (limited : limitOf (received c cdb) = some n) :
    (∀ d, During AnyDevice.methods (c.command AnyDevice.methods i) d → dataInSent d ≤ dataInSent c + n) ↔
      ¬Exceeds (received c cdb) := by
  refine ⟨fun bounded exceeds => ?_,fun fits d during => ?_⟩
  · obtain ⟨size,x,more,sent,rst,offers⟩ := commandOffered ready.1 shaken valid limited exceeds
    obtain ⟨e,during,total⟩ := offersSent (m := AnyDevice.methods) offers (by omega) (rst.trans ready.2)
    have bound := bounded e during
    omega
  · have within := (commandWithin ready.1 last shaken valid limited fits).during accountable streams during
    have bytes := within.bytes
    omega

theorem dataInStarts (i : Input) (phase : c.phase = .dataIn) :
    commands (c.process AnyDevice.methods i) = commands c := by
  have at_ : (c.acquire i).phase = .dataIn := phase
  have quiet : ∀ {d : Controller AnyDevice}, Rests (c.acquire i) d → commands d = commands c :=
    fun rests => (hushedSame rests.hushed).2
  unfold process
  dsimp only
  split
  · exact quiet (restsReset _)
  · unfold processPhase
    rw [at_]
    dsimp only
    have checked : commands (c.acquire i).checkSend = commands c := (hushedSame (addsCheckSend (c := c.acquire i))).2
    have still : (c.acquire i).checkSend.phase = .dataIn := phase
    unfold Controller.send sendWith
    generalize (c.acquire i).checkSend = a at *
    dsimp only
    split
    · obtain ⟨sent,_,same | rests⟩ := sendBytesEnds (c := a) i
      · rw [same,← checked]
        exact (sentLogged (.sent a.phase sent) rfl).2
      · rw [(hushedSame rests.hushed).2,← checked]
        exact (sentLogged (.sent a.phase sent) rfl).2
    · rcases dataInChunkEnds (transferToHost AnyDevice.methods · i) (processEndOfMessage AnyDevice.methods · i) still with
        rests | ⟨_,same⟩
      · rw [(hushedSame rests.hushed).2,checked]
      · have updated := (hushedSame (addsUpdate (c := a) a.transfer.chunkSize)).2
        have next : (a.updateTransferLength a.transfer.chunkSize).phase = .dataIn := still
        rw [same]
        generalize a.updateTransferLength a.transfer.chunkSize = u at *
        have looked : commands (u.check (!u.hasDataOut) .dataInCommand) = commands u :=
          (hushedSame (addsCheck _ ⟨rfl,rfl⟩)).2
        rcases transferToHostEnds (m := AnyDevice.methods) i next with rests | ⟨_,ended⟩ | ⟨_,_,_,_,_,ended⟩
        · rw [(hushedSame rests.hushed).2,updated,checked]
        · rw [ended,looked,updated,checked]
        · rw [ended]
          unfold refill
          split
          · exact looked.trans (updated.trans checked)
          · exact looked.trans (updated.trans checked)

/- A SCSI hard disk drive as the only LUN. -/
def hardDisk : Controller AnyDevice :=
  { luns := fun lun =>
      if lun = 0 then
        some (.scsiHd { type := .schd, level := .scsi2, supportedBlockSizes := [512], cachingMode := .piscsi })
      else none }

/- In any run, a command sends more than its CDB allows exactly if the sense data of the
controller, the header of MODE SENSE or a SASI drive are too long for it. -/
theorem dataInWithinAllocationLength (start : Settled c) (actions : List Action) (i : Input) :
    commands ((c.run AnyDevice.methods actions).process AnyDevice.methods i) =
        commands (c.run AnyDevice.methods actions) ∨
      ∃ d, Ready (c.run AnyDevice.methods actions) d ∧
        (c.run AnyDevice.methods actions).process AnyDevice.methods i = d.command AnyDevice.methods i ∧
        ∀ cdb count n, commandHandShake i.bytes = (cdb,count) → 0 < count → limitOf (received d cdb) = some n →
          ((∀ e, During AnyDevice.methods (d.command AnyDevice.methods i) e → dataInSent e ≤ dataInSent d + n) ↔
            ¬Exceeds (received d cdb)) := by
  have settled := settledRun accountable start actions
  generalize c.run AnyDevice.methods actions = c at *
  by_cases data : c.phase = .dataIn
  · exact .inl (dataInStarts i data)
  · rcases processOnward (m := AnyDevice.methods) i settled data with rests | ⟨d,ready,same⟩
    · exact .inl (hushedSame rests.hushed).2
    · exact .inr ⟨d,ready,same,fun cdb count n shaken valid limited =>
        commandLimit ⟨ready.phase,ready.rst⟩ ready.last shaken valid limited⟩

theorem hardDiskWithinAllocationLength :
    commands ((hardDisk.run AnyDevice.methods [.select 129,.process { sel := true }]).process AnyDevice.methods
        { bytes := [0x1a,0,0,0,4,0] }) = commands (hardDisk.run AnyDevice.methods [.select 129,.process { sel := true }]) ∨
      ∃ d, Ready (hardDisk.run AnyDevice.methods [.select 129,.process { sel := true }]) d ∧
        (hardDisk.run AnyDevice.methods [.select 129,.process { sel := true }]).process AnyDevice.methods
          { bytes := [0x1a,0,0,0,4,0] } = d.command AnyDevice.methods { bytes := [0x1a,0,0,0,4,0] } ∧
        ∀ cdb count n, commandHandShake [0x1a,0,0,0,4,0] = (cdb,count) → 0 < count → limitOf (received d cdb) = some n →
          ((∀ e, During AnyDevice.methods (d.command AnyDevice.methods { bytes := [0x1a,0,0,0,4,0] }) e →
            dataInSent e ≤ dataInSent d + n) ↔ ¬Exceeds (received d cdb)) :=
  dataInWithinAllocationLength (.inr (.inr (.inr ⟨Int.le_refl 0,Int.le_refl 0⟩))) _ _

/- MODE SENSE(6) for no page: four bytes are sent where a single one is allowed. -/
theorem headerTooLong :
    commands (hardDisk.run AnyDevice.methods [.select 129,.process { sel := true },
      .process { bytes := [0x1a,0,0,0,1,0] }]) = 1 ∧
    limitOf (hardDisk.run AnyDevice.methods [.select 129,.process { sel := true },
      .process { bytes := [0x1a,0,0,0,1,0] }]) = some 1 ∧
    dataInSent (hardDisk.run AnyDevice.methods [.select 129,.process { sel := true },
      .process { bytes := [0x1a,0,0,0,1,0] },.process {}]) = 4 := by
  decide +kernel

end Scsi2Pi.AllocationLength
