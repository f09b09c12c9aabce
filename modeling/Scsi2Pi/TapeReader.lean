import Scsi2Pi.S2pDumpExecutor

/-! The loop that reads a tape block for a dump: its attempts in all calls, what the target
answers to the commands of an attempt, and when the length asked for stays within the buffer. -/
namespace Scsi2Pi
open Slices MemoryUtil Eff DumpEff S2pDumpExecutor

namespace TapeReader
variable {τ : Type} {i : BoardExecutor.Initiator} {r : Target τ}

/- What an attempt starts with. -/
structure Attempt (τ : Type) where
  hasError : Bool
  cdb : Bytes
  buf : Bytes
  state : DumpState τ

namespace Attempt

/- The first attempt of a call. -/
def first (buf : Bytes) (s : DumpState τ) : Attempt τ := ⟨false,List.replicate 6 0,buf,s⟩

/- The length that READ asks for, which is kept for the calls to come. -/
def length (a : Attempt τ) : Int := a.state.defaultLength

end Attempt

/- One pass of the loop ends with a result or with what is needed for the next one. -/
def pass (v : ExecutorVirtual τ) (hasError : Bool) (cdb buf : Bytes) :
    DumpEff τ (Int × Bytes ⊕ Bool × Bytes × Bytes) := do
  let requested := (← get).defaultLength
  let executed ← v.read (S2pDumpExecutor.setInt24 cdb 2 requested) buf requested.toNat
  if !executed.returned then return .inl (requested,executed.buf)
  let sense ← v.requestSense ((List.replicate executed.cdb.length 0).set 4 14) (List.replicate 14 0)
  if sense.returned = 0xff then return .inl (0xff,executed.buf)
  if sense.returned ≠ 0 ∧ sense.returned ≠ 0x02 then
    throw (.ioException s!"Unknown error status {sense.returned}")
  match ← evaluateSense v hasError sense.buf with
  | some result => return .inl (result,executed.buf)
  | none => return .inr (hasError || remembers sense.buf,sense.cdb,executed.buf)

/- What there is to show for the passes behind one of them. -/
def Behind (v : ExecutorVirtual τ) (r : Target τ) (attempts : Nat) (Q : Int × Bytes → DumpState τ → Prop)
    (E : DumpException → DumpState τ → Prop) : Int × Bytes ⊕ Bool × Bytes × Bytes → DumpState τ → Prop
  | .inl result, s => Q result s
  | .inr (hasError,cdb,buf), s => wp (readBlock v attempts hasError cdb buf) r s Q E

/- The loop is made of its passes. -/
theorem wpPass {v : ExecutorVirtual τ} {attempts : Nat} {hasError : Bool} {cdb buf : Bytes} {s : DumpState τ}
    {Q : Int × Bytes → DumpState τ → Prop} {E : DumpException → DumpState τ → Prop} :
    wp (readBlock v (attempts+1) hasError cdb buf) r s Q E ↔
      wp (pass v hasError cdb buf) r s (Behind v r attempts Q E) E := by
  rw [readBlock]
  unfold pass
  simp only [wpBind,wpGet,wpIte,wpPure,wpThrow]
  refine wpCongr fun executed s => and_congr_right fun _ => imp_congr_right fun _ => wpCongr fun sense s =>
    and_congr_right fun _ => imp_congr_right fun _ => and_congr_right fun _ => imp_congr_right fun _ =>
      wpCongr fun result s => ?_
  cases result <;> rfl

/- What a target answers to READ, to REQUEST SENSE with its data, and to SPACE. -/
structure Response where
  readStatus : Nat
  senseStatus : Nat
  sense : Bytes
  spaceStatus : Nat

/- The status that the initiator gets. -/
def statusOf (a : Answer) (length : Nat) : Nat := if BoardExecutor.answers a length then a.status else 0xff

def spaceCdb (i : BoardExecutor.Initiator) : Bytes :=
  BoardExecutor.encodeLun i ((S2pDumpExecutor.setInt24 (newCdb 6 .space6) 2 (-1)).set 0 ScsiCommand.space6)

/- READ, what it leaves for REQUEST SENSE, and what this leaves for SPACE. -/
def responses (i : BoardExecutor.Initiator) (r : Target τ) (a : Attempt τ) : Response :=
  let readCdb := BoardExecutor.encodeLun i ((S2pDumpExecutor.setInt24 a.cdb 2 a.length).set 0 ScsiCommand.read6)
  let read := r a.state.target readCdb (a.buf.take a.length.toNat)
  let senseCdb := BoardExecutor.encodeLun i (((List.replicate readCdb.length 0).set 4 14).set 0 ScsiCommand.requestSense)
  let sense := r read.2 senseCdb (List.replicate 14 0)
  let space := r sense.2 (spaceCdb i) []
  ⟨statusOf read.1 a.length.toNat,statusOf sense.1 14,setBytes (List.replicate 14 0) 0 (sense.1.dataIn.take 14),
    statusOf space.1 0⟩

namespace Response

def noMore (p : Response) : Prop :=
  byteAt p.sense 2 &&& 0x0f = SenseKey.blankCheck.code.toNat ∨ byteAt p.sense 2 &&& 0x40 ≠ 0

def mediumError (p : Response) : Prop := byteAt p.sense 2 &&& 0x0f = SenseKey.mediumError.code.toNat

def filemark (p : Response) : Prop := byteAt p.sense 2 &&& 0x80 ≠ 0

/- VALID and ILI. -/
def residual (p : Response) : Prop := byteAt p.sense 0 &&& 0x80 ≠ 0 ∧ byteAt p.sense 2 &&& 0x20 ≠ 0

/- The length for the next READ, from that of the last one. -/
def actual (p : Response) (length : Int) : Int := int32 (length - getInt32 p.sense 3)

instance (p : Response) : Decidable p.noMore := inferInstanceAs (Decidable (_ ∨ _))
instance (p : Response) : Decidable p.mediumError := inferInstanceAs (Decidable (_ = _))
instance (p : Response) : Decidable p.filemark := inferInstanceAs (Decidable (_ ≠ _))
instance (p : Response) : Decidable p.residual := inferInstanceAs (Decidable (_ ∧ _))

end Response

inductive Verdict where
  | ends (result : Int)
  | again (hasError : Bool)
  | fails
  deriving DecidableEq, Repr

/- Another attempt needs a SPACE. -/
def Response.retry (p : Response) (hasError : Bool) : Verdict := if p.spaceStatus = 0 then .again hasError else .fails

/- What is made of the sense data, with the length that is left. -/
def judgeSense (p : Response) (hasError : Bool) (length : Int) : Verdict × Int :=
  if p.noMore then (.ends noMoreData,length)
  else if p.mediumError then (if hasError then .ends badBlock else p.retry true,length)
  else if p.filemark then (.ends 0,length)
  else if p.residual then (if p.actual length < length then .ends (p.actual length) else p.retry hasError,p.actual length)
  else (.ends 0xff,length)

/- The same for a pass. -/
def judge (p : Response) (hasError : Bool) (length : Int) : Verdict × Int :=
  if p.readStatus = 0 then (.ends length,length)
  else if p.senseStatus = 0xff then (.ends 0xff,length)
  else if p.senseStatus ≠ 0 ∧ p.senseStatus ≠ 0x02 then (.fails,length)
  else judgeSense p hasError length

/- The result of a pass is the verdict. -/
def Judged (a : Attempt τ) (j : Verdict × Int) : Int × Bytes ⊕ Bool × Bytes × Bytes → DumpState τ → Prop
  | .inl (result,buf), s => j = (.ends result,s.defaultLength) ∧ buf.length = a.buf.length
  | .inr (hasError,_,buf), s => j = (.again hasError,s.defaultLength) ∧ buf.length = a.buf.length

def Fails (j : Verdict × Int) (e : DumpException) (s : DumpState τ) : Prop := j = (.fails,s.defaultLength) ∧ e ≠ .pending

theorem wpExecuted {cmd : ScsiCommand} {cdb buf : Bytes} {length : Nat} {s : DumpState τ} {Q : Executed Nat → DumpState τ → Prop}
    {E : DumpException → DumpState τ → Prop} (room : length ≤ buf.length) :
    wp (BoardExecutor.execute i cmd cdb buf length) r s Q E ↔
      Q ⟨statusOf (r s.target (BoardExecutor.encodeLun i (cdb.set 0 cmd)) (buf.take length)).1 length,
        BoardExecutor.encodeLun i (cdb.set 0 cmd),
        setBytes buf 0 ((r s.target (BoardExecutor.encodeLun i (cdb.set 0 cmd)) (buf.take length)).1.dataIn.take length)⟩
        { s with target := (r s.target (BoardExecutor.encodeLun i (cdb.set 0 cmd)) (buf.take length)).2,
                 sent := s.sent ++ [BoardExecutor.encodeLun i (cdb.set 0 cmd)] } := by
  have fits (data : Bytes) : ¬buf.length < (data.take length).length :=
    Nat.not_lt.mpr (Nat.le_trans (List.length_take_le _ _) room)
  unfold BoardExecutor.execute
  simp only [wpBind,wpSend,wpReceive,wpPure,fits,false_implies,not_false_eq_true,true_implies,true_and]
  rfl

section
variable {p : Response} {hasError : Bool} {s : DumpState τ}

def SenseJudged (p : Response) (hasError : Bool) (length : Int) : Option Int → DumpState τ → Prop
  | some result, t => judgeSense p hasError length = (.ends result,t.defaultLength)
  | none, t => judgeSense p hasError length = (.again (hasError || remembers p.sense),t.defaultLength)

/- SPACE before another attempt. -/
theorem wpRetry {Q : Unit → DumpState τ → Prop} {E : DumpException → DumpState τ → Prop}
    (spaced : statusOf (r s.target (spaceCdb i) []).1 0 = 0 → ∀ t, t.defaultLength = s.defaultLength → Q () t)
    (failed : statusOf (r s.target (spaceCdb i) []).1 0 ≠ 0 → ∀ e t, e ≠ .pending → t.defaultLength = s.defaultLength → E e t) :
    wp (S2pDumpExecutor.spaceBack (BoardExecutor.virtual i)) r s Q E := by
  unfold S2pDumpExecutor.spaceBack BoardExecutor.virtual
  simp only [wpBind,wpIte,wpThrow,wpPure]
  rw [wpExecuted (Nat.zero_le _)]
  exact ⟨fun wrong => failed wrong _ _ (by simp) rfl,fun right => spaced (not_not.mp right) _ rfl⟩

theorem senseJudged (answered : p.spaceStatus = statusOf (r s.target (spaceCdb i) []).1 0) :
    wp (evaluateSense (BoardExecutor.virtual i) hasError p.sense) r s (SenseJudged p hasError s.defaultLength)
      fun e t => judgeSense p hasError s.defaultLength = (.fails,t.defaultLength) ∧ e ≠ .pending := by
  unfold evaluateSense
  simp only [wpBind,wpIte,wpPure,wpGet,wpModify]
  refine ⟨fun (no : p.noMore) => ?_,fun (more : ¬p.noMore) => ⟨fun (medium : p.mediumError) => ⟨fun again => ?_,fun first => ?_⟩,
    fun (readable : ¬p.mediumError) => ⟨fun (mark : p.filemark) => ?_,fun (block : ¬p.filemark) =>
      ⟨fun (known : p.residual) => ⟨fun (shorter : p.actual s.defaultLength < s.defaultLength) => ?_,
        fun (longer : ¬p.actual s.defaultLength < s.defaultLength) => ?_⟩,fun (unknown : ¬p.residual) => ?_⟩⟩⟩⟩
  · exact if_pos no
  · change judgeSense p hasError _ = _
    unfold judgeSense
    rw [if_neg more,if_pos medium,if_pos again]
  · have judged : judgeSense p hasError s.defaultLength = (p.retry true,s.defaultLength) := by
      unfold judgeSense
      rw [if_neg more,if_pos medium,if_neg first]
    have again : (hasError || remembers p.sense) = true := by
      rw [show remembers p.sense = true from decide_eq_true medium,Bool.or_true]
    refine wpRetry (fun spaced t same => ?_) fun failed e t real same => ?_
    · change judgeSense p hasError _ = _
      rw [judged,again,same,Response.retry,if_pos (answered.trans spaced)]
    · rw [judged,same,Response.retry,if_neg (answered ▸ failed)]
      exact ⟨rfl,real⟩
  · change judgeSense p hasError _ = _
    unfold judgeSense
    rw [if_neg more,if_neg readable,if_pos mark]
  · change judgeSense p hasError _ = _
    unfold judgeSense
    rw [if_neg more,if_neg readable,if_neg block,if_pos known,if_pos shorter]
    rfl
  · have judged : judgeSense p hasError s.defaultLength = (p.retry hasError,p.actual s.defaultLength) := by
      unfold judgeSense
      rw [if_neg more,if_neg readable,if_neg block,if_pos known,if_neg longer]
    have same : (hasError || remembers p.sense) = hasError := by
      rw [show remembers p.sense = false from decide_eq_false readable,Bool.or_false]
    refine wpRetry (fun spaced t left => ?_) fun failed e t real left => ?_
    · change judgeSense p hasError _ = _
      rw [judged,same,left,Response.retry,if_pos (answered.trans spaced)]
      rfl
    · rw [judged,left,Response.retry,if_neg (answered ▸ failed)]
      exact ⟨rfl,real⟩
  · change judgeSense p hasError _ = _
    unfold judgeSense
    rw [if_neg more,if_neg readable,if_neg block,if_neg unknown]

end

theorem statusGood (status : Nat) : (!decide (status ≠ 0)) = true ↔ status = 0 := by simp

theorem readKept {buf : Bytes} {length : Nat} (room : length ≤ buf.length) (data : Bytes) :
    (setBytes buf 0 (data.take length)).length = buf.length := by
  refine setBytesLength ?_
  rw [Nat.zero_add]
  exact Nat.le_trans (List.length_take_le _ _) room

/- A pass depends on nothing else than the answers of the target. -/
theorem passJudged (a : Attempt τ) (inside : a.length ≤ a.buf.length) :
    wp (pass (BoardExecutor.virtual i) a.hasError a.cdb a.buf) r a.state
      (Judged a (judge (responses i r a) a.hasError a.length)) (Fails (judge (responses i r a) a.hasError a.length)) := by
  have room : a.state.defaultLength.toNat ≤ a.buf.length := Int.toNat_le.mpr inside
  unfold pass
  simp only [wpBind,wpGet,wpIte,wpPure,wpThrow]
  unfold BoardExecutor.virtual
  simp only [wpBind,wpPure]
  rw [wpExecuted room]
  refine ⟨fun read => ?_,fun failed => ?_⟩
  · have good : (responses i r a).readStatus = 0 := (statusGood _).mp read
    exact ⟨if_pos good,readKept room _⟩
  · have bad : (responses i r a).readStatus ≠ 0 := fun good => failed ((statusGood _).mpr good)
    rw [wpExecuted (by decide)]
    refine ⟨fun (busy : (responses i r a).senseStatus = 0xff) => ?_,fun (heard : (responses i r a).senseStatus ≠ 0xff) =>
      ⟨fun (strange : (responses i r a).senseStatus ≠ 0 ∧ (responses i r a).senseStatus ≠ 2) => ?_,
        fun (usual : ¬((responses i r a).senseStatus ≠ 0 ∧ (responses i r a).senseStatus ≠ 2)) => ?_⟩⟩
    · refine ⟨?_,readKept room _⟩
      unfold judge
      rw [if_neg bad,if_pos busy]
      rfl
    · refine ⟨?_,by simp⟩
      unfold judge
      rw [if_neg bad,if_neg heard,if_pos strange]
      rfl
    · have judged : judge (responses i r a) a.hasError a.length = judgeSense (responses i r a) a.hasError a.length := by
        unfold judge
        rw [if_neg bad,if_neg heard,if_neg usual]
      rw [judged]
      refine wpMono (senseJudged (p := responses i r a) rfl) (fun result t known => ?_) fun _ _ known => known
      cases result with
      | some result => exact ⟨known,readKept room _⟩
      | none => exact ⟨known,readKept room _⟩

/-! All passes of all calls with one executor. -/

def run (i : BoardExecutor.Initiator) (r : Target τ) (a : Attempt τ) :
    Except DumpException (Int × Bytes ⊕ Bool × Bytes × Bytes) × DumpState τ :=
  pass (BoardExecutor.virtual i) a.hasError a.cdb a.buf r a.state

/- What a pass leads to in the same call. -/
inductive Retries (i : BoardExecutor.Initiator) (r : Target τ) (a : Attempt τ) : Attempt τ → Prop where
  | start : Retries i r a a
  | again {b hasError cdb buf s} : Retries i r a b → run i r b = (.ok (.inr (hasError,cdb,buf)),s) →
      Retries i r a ⟨hasError,cdb,buf,s⟩

/- The same with the calls to come. -/
inductive Reaches (i : BoardExecutor.Initiator) (r : Target τ) (a : Attempt τ) : Attempt τ → Prop where
  | start : Reaches i r a a
  | again {b hasError cdb buf s} : Reaches i r a b → run i r b = (.ok (.inr (hasError,cdb,buf)),s) →
      Reaches i r a ⟨hasError,cdb,buf,s⟩
  | call {b result buf s} : Reaches i r a b → run i r b = (.ok (.inl (result,buf)),s) → Reaches i r a (.first buf s)

/- After some attempts there is a result or an exception. -/
def Ends (i : BoardExecutor.Initiator) (r : Target τ) (a : Attempt τ) : Prop :=
  ∃ attempts, wp (readBlock (BoardExecutor.virtual i) attempts a.hasError a.cdb a.buf) r a.state (fun _ _ => True)
    fun e _ => e ≠ .pending

namespace Response

/- There is residual information. -/
def informed (p : Response) : Prop := (p.senseStatus = 0 ∨ p.senseStatus = 0x02) ∧ p.residual

/- Sense data with a meaning of their own. -/
def known (p : Response) : Prop := p.noMore ∨ p.mediumError ∨ p.filemark

/- There are no sense data, or they say nothing. -/
def unexplained (p : Response) : Prop :=
  p.senseStatus = 0xff ∨ (p.senseStatus = 0 ∨ p.senseStatus = 0x02) ∧ ¬p.known ∧ ¬p.residual

/- A READ that has failed is explained, and the length for the next one is that of a block in the buffer. -/
def bounded (p : Response) (length : Int) (size : Nat) : Prop :=
  p.readStatus = 0 ∨ p.senseStatus ≠ 0xff ∧
    (p.senseStatus = 0 ∨ p.senseStatus = 0x02 → p.known ∨ p.residual ∧ 1 ≤ p.actual length ∧ p.actual length ≤ size)

/- A READ is repeated because of the residual information. -/
def repeats (p : Response) : Prop := p.readStatus ≠ 0 ∧ p.informed ∧ ¬p.known ∧ p.spaceStatus = 0

/- It is repeated with the same length. -/
def stalls (p : Response) (length : Int) : Prop := p.repeats ∧ p.actual length = length

end Response

namespace Attempt

/- The length of a block that the buffer can hold. -/
def Inside (a : Attempt τ) : Prop := 1 ≤ a.length ∧ a.length ≤ a.buf.length

end Attempt

/- What is expected of an attempt. -/
structure Safe (i : BoardExecutor.Initiator) (r : Target τ) (a : Attempt τ) : Prop where
  requested : a.Inside
  kept : 1 ≤ (run i r a).2.defaultLength ∧ (run i r a).2.defaultLength ≤ a.buf.length
  reported : ∀ result buf s, run i r a = (.ok (.inl (result,buf)),s) → 0 < result →
    (responses i r a).readStatus = 0 ∨ (responses i r a).informed
  ends : Ends i r a

section
variable {a b c : Attempt τ} {p : Response}

def verdict (i : BoardExecutor.Initiator) (r : Target τ) (a : Attempt τ) : Verdict × Int :=
  judge (responses i r a) a.hasError a.length

theorem runJudged {x s} (inside : a.Inside) (ran : run i r a = (.ok x,s)) : Judged a (verdict i r a) x s :=
  wpOk (passJudged a inside.2) ran

theorem runFails {e s} (inside : a.Inside) (ran : run i r a = (.error e,s)) : Fails (verdict i r a) e s :=
  wpError (passJudged a inside.2) ran

/- The run for each of the verdicts. -/
theorem runEnds {result left} (inside : a.Inside) (judged : verdict i r a = (.ends result,left)) :
    ∃ buf s, run i r a = (.ok (.inl (result,buf)),s) := by
  rcases ran : run i r a with ⟨e | (⟨n,buf⟩ | ⟨hasError,cdb,buf⟩),s⟩
  · have other := (runFails inside ran).1
    rw [judged] at other
    cases other
  · have same := (runJudged inside ran).1
    rw [judged] at same
    cases same
    exact ⟨buf,s,rfl⟩
  · have other := (runJudged inside ran).1
    rw [judged] at other
    cases other

theorem runAgain {hasError left} (inside : a.Inside) (judged : verdict i r a = (.again hasError,left)) :
    ∃ cdb buf s, run i r a = (.ok (.inr (hasError,cdb,buf)),s) ∧ s.defaultLength = left ∧ buf.length = a.buf.length := by
  rcases ran : run i r a with ⟨e | (⟨n,buf⟩ | ⟨again,cdb,buf⟩),s⟩
  · have other := (runFails inside ran).1
    rw [judged] at other
    cases other
  · have other := (runJudged inside ran).1
    rw [judged] at other
    cases other
  · obtain ⟨same,size⟩ := runJudged inside ran
    rw [judged] at same
    cases same
    exact ⟨cdb,buf,s,rfl,rfl,size⟩

theorem runKeeps (inside : a.Inside) : (run i r a).2.defaultLength = (verdict i r a).2 := by
  rcases ran : run i r a with ⟨e | (⟨n,buf⟩ | ⟨again,cdb,buf⟩),s⟩
  · rw [(runFails inside ran).1]
  · rw [(runJudged inside ran).1]
  · rw [(runJudged inside ran).1]

/-! What the verdict says of the answers. -/

variable {hasError : Bool} {length : Int} {size : Nat}

theorem unknownIff : ¬p.known ↔ ¬p.noMore ∧ ¬p.mediumError ∧ ¬p.filemark := by
  simp only [Response.known,not_or]

theorem judgeUnexplained (hasError : Bool) (length : Int) (failed : p.readStatus ≠ 0) (unexplained : p.unexplained) :
    judge p hasError length = (.ends 0xff,length) := by
  unfold judge
  rw [if_neg failed]
  rcases unexplained with busy | ⟨usual,unknown,uninformed⟩
  · exact if_pos busy
  · obtain ⟨more,unreadable,mark⟩ := unknownIff.mp unknown
    rw [if_neg (by omega),if_neg (by omega)]
    unfold judgeSense
    rw [if_neg more,if_neg unreadable,if_neg mark,if_neg uninformed]

theorem judgeResidual (hasError : Bool) (length : Int) (failed : p.readStatus ≠ 0) (informed : p.informed) (unknown : ¬p.known) :
    judge p hasError length =
      (if p.actual length < length then .ends (p.actual length) else p.retry hasError,p.actual length) := by
  have usual := informed.1
  obtain ⟨more,unreadable,mark⟩ := unknownIff.mp unknown
  unfold judge
  rw [if_neg failed,if_neg (by omega),if_neg (by omega)]
  unfold judgeSense
  rw [if_neg more,if_neg unreadable,if_neg mark,if_pos informed.2]

/- What becomes of a READ that has failed. -/
inductive Fate (p : Response) (hasError : Bool) (length : Int) : Verdict × Int → Prop where
  | unexplained : p.unexplained → Fate p hasError length (.ends 0xff,length)
  | failure : Fate p hasError length (.fails,length)
  | finished {result} : result ≤ 0 → Fate p hasError length (.ends result,length)
  | medium : hasError = false → Fate p hasError length (.again true,length)
  | residual : p.informed → ¬p.known → Fate p hasError length
      (if p.actual length < length then .ends (p.actual length) else p.retry hasError,p.actual length)

theorem judgeSenseFate (known : p.known) :
    Fate p hasError length (judgeSense p hasError length) := by
  unfold judgeSense
  by_cases more : p.noMore
  · rw [if_pos more]
    exact .finished (by decide)
  by_cases medium : p.mediumError
  · rw [if_neg more,if_pos medium]
    unfold Response.retry
    cases hasError with
    | true => exact .finished (by decide)
    | false =>
      by_cases spaced : p.spaceStatus = 0
      · rw [if_pos spaced]
        exact .medium rfl
      · rw [if_neg spaced]
        exact .failure
  · have mark : p.filemark := (known.resolve_left more).resolve_left medium
    rw [if_neg more,if_neg medium,if_pos mark]
    exact .finished (Int.le_refl 0)

theorem judgeFate (hasError : Bool) (length : Int) (failed : p.readStatus ≠ 0) : Fate p hasError length (judge p hasError length) := by
  by_cases busy : p.senseStatus = 0xff
  · rw [judgeUnexplained hasError length failed (.inl busy)]
    exact .unexplained (.inl busy)
  by_cases strange : p.senseStatus ≠ 0 ∧ p.senseStatus ≠ 0x02
  · unfold judge
    rw [if_neg failed,if_neg busy,if_pos strange]
    exact .failure
  have usual : p.senseStatus = 0 ∨ p.senseStatus = 0x02 := by omega
  by_cases known : p.known
  · have sensed : judge p hasError length = judgeSense p hasError length := by
      unfold judge
      rw [if_neg failed,if_neg busy,if_neg strange]
    rw [sensed]
    exact judgeSenseFate known
  by_cases residual : p.residual
  · rw [judgeResidual hasError length failed ⟨usual,residual⟩ known]
    exact .residual ⟨usual,residual⟩ known
  · rw [judgeUnexplained hasError length failed (.inr ⟨usual,known,residual⟩)]
    exact .unexplained (.inr ⟨usual,known,residual⟩)

theorem boundedExplained (bounded : p.bounded length size) (failed : p.readStatus ≠ 0) : ¬p.unexplained := by
  obtain ⟨heard,explained⟩ := bounded.resolve_left failed
  rintro (busy | ⟨usual,unknown,uninformed⟩)
  · exact heard busy
  · rcases explained usual with known | ⟨residual,_⟩
    · exact unknown known
    · exact uninformed residual

theorem boundedActual (bounded : p.bounded length size) (failed : p.readStatus ≠ 0) (informed : p.informed) (unknown : ¬p.known) :
    1 ≤ p.actual length ∧ p.actual length ≤ size :=
  ((bounded.resolve_left failed).2 informed.1).resolve_left unknown |>.2

/- The length that is left is that of a block in the buffer. -/
theorem judgeBounded (hasError : Bool) (bounded : p.bounded length size) (low : 1 ≤ length) (high : length ≤ size) :
    1 ≤ (judge p hasError length).2 ∧ (judge p hasError length).2 ≤ size := by
  by_cases read : p.readStatus = 0
  · have same : judge p hasError length = (.ends length,length) := if_pos read
    rw [same]
    exact ⟨low,high⟩
  · have fate := judgeFate hasError length read
    generalize judge p hasError length = judged at fate ⊢
    cases fate with
    | residual informed unknown => exact boundedActual bounded read informed unknown
    | _ => exact ⟨low,high⟩

/- A result that is taken for a block. -/
theorem judgeReported (bounded : p.bounded length size) {result left : Int} (judged : judge p hasError length = (.ends result,left))
    (positive : 0 < result) : p.readStatus = 0 ∨ p.informed := by
  by_cases read : p.readStatus = 0
  · exact .inl read
  · have fate := judgeFate hasError length read
    generalize judge p hasError length = known at fate judged
    cases fate with
    | unexplained nothing => exact (boundedExplained bounded read nothing).elim
    | failure => cases judged
    | finished low =>
      cases judged
      omega
    | medium => cases judged
    | residual informed => exact .inr informed

/- Another attempt follows the first medium error, or a READ whose length has turned out to be too small. -/
theorem judgeAgain {again : Bool} {left : Int} (judged : judge p hasError length = (.again again,left)) :
    hasError = false ∧ again = true ∧ left = length ∨
      again = hasError ∧ p.repeats ∧ left = p.actual length ∧ length ≤ left := by
  by_cases read : p.readStatus = 0
  · have ended : judge p hasError length = (.ends length,length) := if_pos read
    rw [ended] at judged
    cases judged
  · have fate := judgeFate hasError length read
    generalize judge p hasError length = known at fate judged
    cases fate with
    | unexplained => cases judged
    | failure => cases judged
    | finished => cases judged
    | medium first =>
      cases judged
      exact .inl ⟨first,rfl,rfl⟩
    | residual informed unknown =>
      obtain ⟨verdict,left⟩ := Prod.mk.inj judged
      unfold Response.retry at verdict
      split at verdict
      · cases verdict
      split at verdict
      · rename_i longer spaced
        cases verdict
        exact .inr ⟨rfl,⟨read,informed,unknown,spaced⟩,left.symm,left ▸ Int.not_lt.mp longer⟩
      · cases verdict

/- The same READ again. -/
theorem judgeStalls (stalls : p.stalls length) : judge p hasError length = (.again hasError,length) := by
  obtain ⟨⟨failed,informed,unknown,spaced⟩,same⟩ := stalls
  rw [judgeResidual hasError length failed informed unknown,same,if_neg (Int.lt_irrefl length)]
  unfold Response.retry
  rw [if_pos spaced]

/-! Whether a call ends. -/

theorem retriesTrans (first : Retries i r a b) (second : Retries i r b c) : Retries i r a c := by
  induction second with
  | start => exact first
  | again _ ran ih => exact .again ih ran

theorem reachesRetries (first : Reaches i r a b) (second : Retries i r b c) : Reaches i r a c := by
  induction second with
  | start => exact first
  | again _ ran ih => exact .again ih ran

theorem endsBehind {hasError cdb buf s} (ran : run i r a = (.ok (.inr (hasError,cdb,buf)),s))
    (ends : Ends i r ⟨hasError,cdb,buf,s⟩) : Ends i r a := by
  obtain ⟨attempts,rest⟩ := ends
  refine ⟨attempts+1,wpPass.mpr ?_⟩
  unfold wp
  rw [show pass (BoardExecutor.virtual i) a.hasError a.cdb a.buf r a.state = _ from ran]
  exact rest

theorem endsRetries (retries : Retries i r a b) (ends : Ends i r b) : Ends i r a := by
  induction retries with
  | start => exact ends
  | again _ ran ih => exact ih (endsBehind ran ends)

/- A pass that is the last one. -/
theorem endsHere (inside : a.Inside) (last : ∀ hasError left, verdict i r a ≠ (.again hasError,left)) : Ends i r a := by
  refine ⟨1,wpPass.mpr (wpMono (passJudged a inside.2) (fun x s judged => ?_) fun e s failed => failed.2)⟩
  rcases x with result | ⟨hasError,cdb,buf⟩
  · trivial
  · exact (last _ _ judged.1).elim

/- What is left when a READ is repeated: each of the attempts has a larger length or a medium error. -/
def measure (a : Attempt τ) : Nat := 2 * (a.buf.length - a.length.toNat) + if a.hasError then 0 else 1

theorem againInside {hasError cdb buf s} (inside : a.Inside) (bounded : (responses i r a).bounded a.length a.buf.length)
    (ran : run i r a = (.ok (.inr (hasError,cdb,buf)),s)) : (Attempt.mk hasError cdb buf s).Inside := by
  obtain ⟨judged,size⟩ := runJudged inside ran
  have left := judgeBounded a.hasError bounded inside.1 inside.2
  change verdict i r a = _ at judged
  unfold verdict at judged
  rw [judged] at left
  unfold Attempt.Inside Attempt.length
  rw [size]
  exact left

theorem againMeasure {hasError cdb buf s} (inside : a.Inside) (bounded : (responses i r a).bounded a.length a.buf.length)
    (ran : run i r a = (.ok (.inr (hasError,cdb,buf)),s)) :
    measure ⟨hasError,cdb,buf,s⟩ ≤ measure a ∧
      (¬(responses i r a).stalls a.length → measure ⟨hasError,cdb,buf,s⟩ < measure a) := by
  obtain ⟨judged,size⟩ := runJudged inside ran
  have next := againInside inside bounded ran
  have top := next.2
  have low := inside.1
  change s.defaultLength ≤ buf.length at top
  rcases judgeAgain judged with ⟨first,rfl,left⟩ | ⟨rfl,repeats,left,longer⟩
  · have smaller : measure ⟨true,cdb,buf,s⟩ < measure a := by
      unfold measure Attempt.length
      change s.defaultLength = a.state.defaultLength at left
      rw [size,left,first]
      simp
    exact ⟨Nat.le_of_lt smaller,fun _ => smaller⟩
  · have same : measure ⟨a.hasError,cdb,buf,s⟩ = 2 * (a.buf.length - s.defaultLength.toNat) + if a.hasError then 0 else 1 := by
      unfold measure Attempt.length
      rw [size]
    rw [same]
    unfold measure
    refine ⟨by omega,fun moves => ?_⟩
    have other : s.defaultLength ≠ a.length := fun equal => moves ⟨repeats,left.symm.trans equal⟩
    omega

theorem retriesMeasure (steps : ∀ c, Retries i r a c → c.Inside ∧ (responses i r c).bounded c.length c.buf.length)
    (retries : Retries i r a b) : measure b ≤ measure a := by
  induction retries with
  | start => exact Nat.le_refl _
  | again before ran ih =>
    obtain ⟨inside,bounded⟩ := steps _ before
    exact Nat.le_trans (againMeasure inside bounded ran).1 ih

/- Nothing but the same READ again and again does not end. -/
theorem callEnds (steps : ∀ c, Retries i r a c → c.Inside ∧ (responses i r c).bounded c.length c.buf.length)
    (moves : ∀ c, Retries i r a c → ¬∀ d, Retries i r c d → (responses i r d).stalls d.length) : Ends i r a := by
  induction n : measure a using Nat.strongRecOn generalizing a with
  | ind n ih =>
    obtain ⟨b,retries,moved⟩ : ∃ b, Retries i r a b ∧ ¬(responses i r b).stalls b.length := by
      have some := moves a .start
      simpa only [not_forall,exists_prop] using some
    obtain ⟨inside,bounded⟩ := steps b retries
    refine endsRetries retries ?_
    by_cases last : ∀ hasError left, verdict i r b ≠ (.again hasError,left)
    · exact endsHere inside last
    · obtain ⟨hasError,left,judged⟩ : ∃ hasError left, verdict i r b = (.again hasError,left) := by
        simpa only [not_forall,not_not] using last
      obtain ⟨cdb,buf,s,ran,_,_⟩ := runAgain inside judged
      have behind : Retries i r a ⟨hasError,cdb,buf,s⟩ := .again retries ran
      have smaller := (againMeasure inside bounded ran).2 moved
      have below := retriesMeasure steps retries
      exact endsBehind ran (ih (measure ⟨hasError,cdb,buf,s⟩) (by omega) (fun c later => steps c (retriesTrans behind later))
        (fun c later => moves c (retriesTrans behind later)) rfl)

theorem callStalls (steps : ∀ c, Retries i r a c → c.Inside)
    (stalls : ∀ c, Retries i r a c → (responses i r c).stalls c.length) : ¬Ends i r a := by
  rintro ⟨attempts,ends⟩
  induction attempts generalizing a with
  | zero => exact ends rfl
  | succ attempts ih =>
    obtain ⟨cdb,buf,s,ran,_,_⟩ := runAgain (steps a .start) (judgeStalls (stalls a .start))
    have behind : Retries i r a ⟨a.hasError,cdb,buf,s⟩ := .again .start ran
    refine ih (a := ⟨a.hasError,cdb,buf,s⟩) (fun c later => steps c (retriesTrans behind later))
      (fun c later => stalls c (retriesTrans behind later)) ?_
    have next := wpPass.mp ends
    unfold wp at next
    rw [show pass (BoardExecutor.virtual i) a.hasError a.cdb a.buf r a.state = _ from ran] at next
    exact next

/- What the answers have to be like, for an attempt that is safe. -/
theorem safeBounded (safe : Safe i r a) : (responses i r a).bounded a.length a.buf.length := by
  by_cases read : (responses i r a).readStatus = 0
  · exact .inl read
  have explained : ¬(responses i r a).unexplained := fun nothing => by
    obtain ⟨buf,s,ran⟩ := runEnds safe.requested (judgeUnexplained a.hasError a.length read nothing)
    rcases safe.reported _ _ _ ran (by decide) with good | informed
    · exact read good
    · rcases nothing with busy | ⟨_,_,uninformed⟩
      · have usual := informed.1
        omega
      · exact uninformed informed.2
  refine .inr ⟨fun busy => explained (.inl busy),fun usual => ?_⟩
  by_cases known : (responses i r a).known
  · exact .inl known
  by_cases residual : (responses i r a).residual
  · have judged : (verdict i r a).2 = (responses i r a).actual a.length :=
      congrArg Prod.snd (judgeResidual a.hasError a.length read ⟨usual,residual⟩ known)
    have kept := safe.kept
    rw [runKeeps safe.requested,judged] at kept
    exact .inr ⟨residual,kept⟩
  · exact (explained (.inr ⟨usual,known,residual⟩)).elim

theorem boundedSafe (inside : a.Inside) (bounded : (responses i r a).bounded a.length a.buf.length) (ends : Ends i r a) :
    Safe i r a where
  requested := inside
  kept := by
    rw [runKeeps inside]
    exact judgeBounded _ bounded inside.1 inside.2
  reported result buf s ran positive := judgeReported bounded (runJudged inside ran).1 positive
  ends := ends

theorem reachesInside (inside : a.Inside) (bounded : ∀ c, Reaches i r a c → (responses i r c).bounded c.length c.buf.length)
    (reaches : Reaches i r a b) : b.Inside := by
  induction reaches with
  | start => exact inside
  | again before ran ih => exact againInside ih (bounded _ before) ran
  | @call b result buf s before ran ih =>
    obtain ⟨judged,size⟩ := runJudged ih ran
    have left := judgeBounded b.hasError (bounded _ before) ih.1 ih.2
    unfold verdict at judged
    rw [judged] at left
    unfold Attempt.Inside Attempt.length Attempt.first
    rw [size]
    exact left

end

end TapeReader

open TapeReader in
/- Every attempt of every call is safe exactly if the length at the beginning is that of a block in the buffer, the answers
to each READ that fails explain it and leave such a length, and no READ is repeated with the same length for ever. -/
theorem tapeReadSafe {τ : Type} (i : BoardExecutor.Initiator) (r : Target τ) (buf : Bytes) (s : DumpState τ) :
    (∀ a, Reaches i r (.first buf s) a → Safe i r a) ↔
      (1 ≤ s.defaultLength ∧ s.defaultLength ≤ buf.length) ∧ ∀ a, Reaches i r (.first buf s) a →
        (responses i r a).bounded a.length a.buf.length ∧ ¬∀ b, Retries i r a b → (responses i r b).stalls b.length := by
  constructor
  · intro safe
    refine ⟨(safe _ .start).requested,fun a reaches => ⟨safeBounded (safe a reaches),fun stalls => ?_⟩⟩
    exact callStalls (fun c later => (safe c (reachesRetries reaches later)).requested) stalls (safe a reaches).ends
  · rintro ⟨inside,answers⟩ a reaches
    have bounded (c : Attempt τ) (later : Reaches i r (.first buf s) c) := (answers c later).1
    have steps (c : Attempt τ) (later : Retries i r a c) : c.Inside ∧ (responses i r c).bounded c.length c.buf.length :=
      ⟨reachesInside (a := .first buf s) inside bounded (reachesRetries reaches later),bounded c (reachesRetries reaches later)⟩
    exact boundedSafe (steps a .start).1 (steps a .start).2
      (callEnds steps fun c later => (answers c (reachesRetries reaches later)).2)

namespace TapeReader

/- The length at the beginning is larger than the default buffer. -/
theorem firstTooLong : ¬∀ (i : BoardExecutor.Initiator) (r : Target Unit) (buf : Bytes) (s : DumpState Unit),
    s.defaultLength = 0xffffff → buf.length = 1024 * 1024 → ∀ a, Reaches i r (.first buf s) a → Safe i r a := fun all => by
  have safe := all {} (fun _ _ _ => ({},())) (List.replicate (1024 * 1024) 0) { target := () } rfl List.length_replicate _ .start
  have inside : (0xffffff : Int) ≤ (List.replicate (1024 * 1024) (0 : UInt8)).length := safe.requested.2
  rw [List.length_replicate] at inside
  exact absurd inside (by decide)

end TapeReader
end Scsi2Pi
