import Scsi2Pi.Handshake

/-! Bytes and byte counts of a handshake. REQ and ACK go up and down in turn, so
the two loops are never more than one byte apart. What each side may do to the
lines is said once, and what each side knows is stable under the other's changes. -/
namespace Scsi2Pi.Handshake
open Bus

/- What a step of the target does to the lines, and how many bytes it completes. -/
inductive TargetChange (l : Lines) : Lines → Nat → Prop where
  | none : TargetChange l l 0
  | data (d : UInt8) (idle : l.req = false) : TargetChange l { l with dat := d } 0
  | request (idle : l.ack = false) : TargetChange l { l with req := true } 0
  | release (taken : l.ack = true) : TargetChange l { l with req := false } 1

inductive InitiatorChange (phase : BusPhase) (l : Lines) : Lines → Nat → Prop where
  | none : InitiatorChange phase l l 0
  | data (d : UInt8) (idle : l.ack = false) : InitiatorChange phase l { l with dat := d } 0
  | attention : InitiatorChange phase l { l with atn := false } 0
  | accept (asked : l.req = true) (same : getPhase l = phase) :
      InitiatorChange phase l { l with ack := true } 0
  | release (done : l.req = false) : InitiatorChange phase l { l with ack := false } 1

/- What the target knows about the lines at each point of its loop. -/
def TargetAt (reads : Bool) (t : Target) (l : Lines) : Prop :=
  match t.pc with
  | .loop => l.req = false ∧ (reads = true → l.ack = false)
  | .waitAckOff | .waitEnd => l.req = false
  | .setReq => l.req = false ∧ l.ack = false
  | .waitAck => l.req = true
  | .getDat | .clearReq => l.req = true ∧ l.ack = true
  | .finished => l.ack = false

def InitiatorAt (phase : BusPhase) (i : Initiator) (l : Lines) : Prop :=
  match i.pc with
  | .start => l.ack = false ∧ getPhase l = phase
  | .loop | .waitReq => l.ack = false ∧ i.phase = phase
  | .clearAtn | .checkPhase => l.ack = false ∧ i.phase = phase ∧ (getPhase l = phase → l.req = true)
  | .getDat | .setAck => l.ack = false ∧ i.phase = phase ∧ getPhase l = phase ∧ l.req = true
  | .waitReqOff => l.ack = true ∧ i.phase = phase ∧ getPhase l = phase
  | .clearAck => l.ack = true ∧ i.phase = phase ∧ getPhase l = phase ∧ l.req = false
  | .samplePhase => l.ack = false ∧ i.phase = phase ∧ getPhase l = phase
  | .finished => l.ack = false

/- The bytes for which the target has released REQ. -/
def completed (reads : Bool) (t : Target) : Nat :=
  if reads = true ∧ t.pc = .waitAckOff then t.bytes+1 else t.bytes

/- The bytes for which the initiator has released ACK. -/
def released (i : Initiator) : Nat := if i.pc = .samplePhase then i.bytes+1 else i.bytes

def pending (l : Lines) : Nat := if l.ack = true ∧ l.req = false then 1 else 0

structure Control (reads : Bool) (phase : BusPhase) (s : State) : Prop where
  inPhase : s.target.pc ≠ .finished → getPhase s.lines = phase
  quiet : s.target.pc = .finished → getPhase s.lines = phase → s.lines.req = false
  target : TargetAt reads s.target s.lines
  initiator : InitiatorAt phase s.initiator s.lines
  link : completed reads s.target = released s.initiator + pending s.lines

theorem initiatorStable {phase : BusPhase} {i : Initiator} {l l' : Lines} {n : Nat}
    (change : TargetChange l l' n) (known : InitiatorAt phase i l) : InitiatorAt phase i l' := by
  unfold InitiatorAt at known ⊢
  cases change with
  | none => exact known
  | data d idle => exact known
  | request idle => cases pc : i.pc <;> simp_all [getPhase]
  | release taken => cases pc : i.pc <;> simp_all [getPhase]

theorem targetStable {reads : Bool} {phase : BusPhase} {t : Target} {l l' : Lines} {n : Nat}
    (change : InitiatorChange phase l l' n)
    (quiet : t.pc = .finished → getPhase l = phase → l.req = false) (known : TargetAt reads t l) :
    TargetAt reads t l' := by
  unfold TargetAt at known ⊢
  cases change with
  | none => exact known
  | data d idle => exact known
  | attention => exact known
  | accept asked same => cases pc : t.pc <;> simp_all
  | release done => cases pc : t.pc <;> simp_all

theorem targetChangePhase {l l' : Lines} {n : Nat} (change : TargetChange l l' n) :
    getPhase l' = getPhase l := by
  cases change <;> rfl

theorem initiatorChangeLines {phase : BusPhase} {l l' : Lines} {n : Nat}
    (change : InitiatorChange phase l l' n) : getPhase l' = getPhase l ∧ l'.req = l.req := by
  cases change <;> exact ⟨rfl,rfl⟩

theorem targetChangePending {l l' : Lines} {n : Nat} (change : TargetChange l l' n)
    (up : n = 1 → l.req = true) : pending l' = pending l + n := by
  cases change with
  | none => rfl
  | data d idle => rfl
  | request idle => simp [pending,idle]
  | release taken => simp [pending,taken,up rfl]

theorem initiatorChangePending {phase : BusPhase} {l l' : Lines} {n : Nat}
    (change : InitiatorChange phase l l' n) (up : n = 1 → l.ack = true) :
    pending l' + n = pending l := by
  cases change with
  | none => rfl
  | data d idle => rfl
  | attention => rfl
  | accept asked same => simp [pending,asked]
  | release done => simp [pending,done,up rfl]

/-! What the steps of the four loops do. -/

structure TargetStep (reads : Bool) (t t' : Target) (l l' : Lines) : Prop where
  change : ∃ n, TargetChange l l' n ∧ (n = 1 → l.req = true) ∧
    completed reads t' = completed reads t + n
  known : TargetAt reads t' l'
  unfinished : t.pc ≠ .finished
  ended : t'.pc = .finished → l'.req = false

structure InitiatorStep (phase : BusPhase) (i i' : Initiator) (l l' : Lines) : Prop where
  change : ∃ n, InitiatorChange phase l l' n ∧ (n = 1 → l.ack = true) ∧ released i' = released i + n
  known : InitiatorAt phase i' l'

theorem targetSendStep {buf : Bytes} {t t' : Target} {l l' : Lines}
    (step : targetSend buf t l = some (t',l')) (known : TargetAt false t l) :
    TargetStep false t t' l l' := by
  obtain ⟨pc,bytes,own⟩ := t
  cases pc with
  | loop =>
    simp only [targetSend] at step
    split at step <;> cases step
    · exact ⟨⟨0,.data _ known.1,by simp,rfl⟩,known.1,by simp,by simp⟩
    · exact ⟨⟨0,.none,by simp,rfl⟩,known.1,by simp,by simp⟩
  | waitAckOff =>
    simp only [targetSend] at step
    split at step <;> cases step
    next free => exact ⟨⟨0,.none,by simp,rfl⟩,⟨known,by simpa using free⟩,by simp,by simp⟩
  | setReq =>
    cases step
    exact ⟨⟨0,.request known.2,by simp,rfl⟩,rfl,by simp,by simp⟩
  | waitAck =>
    simp only [targetSend] at step
    split at step <;> cases step
    next taken => exact ⟨⟨0,.none,by simp,rfl⟩,⟨known,taken⟩,by simp,by simp⟩
  | clearReq =>
    cases step
    exact ⟨⟨1,.release known.2,fun _ => known.1,rfl⟩,⟨rfl,by simp⟩,by simp,by simp⟩
  | waitEnd =>
    simp only [targetSend] at step
    split at step <;> cases step
    next free => exact ⟨⟨0,.none,by simp,rfl⟩,by simpa [TargetAt] using free,by simp,fun _ => known⟩
  | getDat => cases step
  | finished => cases step

theorem targetReceiveStep {count : Nat} {t t' : Target} {l l' : Lines}
    (step : targetReceive count t l = some (t',l')) (known : TargetAt true t l) :
    TargetStep true t t' l l' := by
  obtain ⟨pc,bytes,own⟩ := t
  cases pc with
  | loop =>
    simp only [targetReceive] at step
    split at step <;> cases step
    · exact ⟨⟨0,.request (known.2 rfl),by simp,rfl⟩,rfl,by simp,by simp⟩
    · exact ⟨⟨0,.none,by simp,rfl⟩,known.2 rfl,by simp,fun _ => known.1⟩
  | waitAck =>
    simp only [targetReceive] at step
    split at step <;> cases step
    next taken => exact ⟨⟨0,.none,by simp,rfl⟩,⟨known,taken⟩,by simp,by simp⟩
  | getDat =>
    cases step
    exact ⟨⟨0,.none,by simp,rfl⟩,known,by simp,by simp⟩
  | clearReq =>
    cases step
    exact ⟨⟨1,.release known.2,fun _ => known.1,rfl⟩,rfl,by simp,by simp⟩
  | waitAckOff =>
    simp only [targetReceive] at step
    split at step <;> cases step
    next free => exact ⟨⟨0,.none,by simp,rfl⟩,⟨known,fun _ => by simpa using free⟩,by simp,by simp⟩
  | setReq => cases step
  | waitEnd => cases step
  | finished => cases step

theorem initiatorReceiveStep {count : Nat} {phase : BusPhase} {i i' : Initiator} {l l' : Lines}
    (step : initiatorReceive count i l = some (i',l')) (known : InitiatorAt phase i l) : InitiatorStep phase i i' l l' := by
  obtain ⟨pc,bytes,own,sampled⟩ := i
  cases pc with
  | start =>
    cases step
    exact ⟨⟨0,.none,by simp,rfl⟩,known⟩
  | loop =>
    cases step
    refine ⟨⟨0,.none,by simp,?_⟩,?_⟩
    · split <;> rfl
    · split
      · exact known
      · exact known.1
  | waitReq =>
    simp only [initiatorReceive] at step
    split at step <;> cases step
    next asked => exact ⟨⟨0,.none,by simp,rfl⟩,known.1,known.2,fun _ => asked⟩
  | checkPhase =>
    obtain ⟨free,rfl,asked⟩ := known
    cases step
    refine ⟨⟨0,.none,by simp,?_⟩,?_⟩
    · split <;> rfl
    · split
      · exact free
      · next same =>
        have same := Decidable.of_not_not same
        exact ⟨free,rfl,same,asked same⟩
  | getDat =>
    cases step
    exact ⟨⟨0,.none,by simp,rfl⟩,known⟩
  | setAck =>
    obtain ⟨_,same,inPhase,asked⟩ := known
    cases step
    exact ⟨⟨0,.accept asked inPhase,by simp,rfl⟩,rfl,same,inPhase⟩
  | waitReqOff =>
    simp only [initiatorReceive] at step
    split at step <;> cases step
    next off =>
      obtain ⟨up,same,inPhase⟩ := known
      exact ⟨⟨0,.none,by simp,rfl⟩,up,same,inPhase,by simpa using off⟩
  | clearAck =>
    obtain ⟨up,same,inPhase,off⟩ := known
    cases step
    exact ⟨⟨1,.release off,fun _ => up,rfl⟩,rfl,same,inPhase⟩
  | samplePhase =>
    -- the phase is still that of the transfer, so the byte is counted
    obtain ⟨free,same,inPhase⟩ := known
    have unchanged : ¬ getPhase l ≠ sampled := by simpa using inPhase.trans same.symm
    simp only [initiatorReceive,if_neg unchanged] at step
    cases step
    exact ⟨⟨0,.none,by simp,rfl⟩,free,same⟩
  | clearAtn => cases step
  | finished => cases step

theorem initiatorSendStep {buf : Bytes} {phase : BusPhase} {i i' : Initiator} {l l' : Lines}
    (step : initiatorSend buf i l = some (i',l')) (known : InitiatorAt phase i l) : InitiatorStep phase i i' l l' := by
  obtain ⟨pc,bytes,own,sampled⟩ := i
  cases pc with
  | start =>
    cases step
    exact ⟨⟨0,.none,by simp,rfl⟩,known⟩
  | loop =>
    simp only [initiatorSend] at step
    split at step <;> cases step
    · exact ⟨⟨0,.data _ known.1,by simp,rfl⟩,known⟩
    · exact ⟨⟨0,.none,by simp,rfl⟩,known.1⟩
  | waitReq =>
    simp only [initiatorSend] at step
    split at step <;> cases step
    next asked => exact ⟨⟨0,.none,by simp,rfl⟩,known.1,known.2,fun _ => asked⟩
  | clearAtn =>
    cases step
    split
    · exact ⟨⟨0,.attention,by simp,rfl⟩,known⟩
    · exact ⟨⟨0,.none,by simp,rfl⟩,known⟩
  | checkPhase =>
    obtain ⟨free,rfl,asked⟩ := known
    cases step
    refine ⟨⟨0,.none,by simp,?_⟩,?_⟩
    · split <;> rfl
    · split
      · exact free
      · next same =>
        have same := Decidable.of_not_not same
        exact ⟨free,rfl,same,asked same⟩
  | setAck =>
    obtain ⟨_,same,inPhase,asked⟩ := known
    cases step
    exact ⟨⟨0,.accept asked inPhase,by simp,rfl⟩,rfl,same,inPhase⟩
  | waitReqOff =>
    simp only [initiatorSend] at step
    split at step <;> cases step
    next off =>
      obtain ⟨up,same,inPhase⟩ := known
      exact ⟨⟨0,.none,by simp,rfl⟩,up,same,inPhase,by simpa using off⟩
  | clearAck =>
    obtain ⟨up,same,inPhase,off⟩ := known
    cases step
    exact ⟨⟨1,.release off,fun _ => up,rfl⟩,rfl,same,inPhase⟩
  | samplePhase =>
    obtain ⟨free,same,inPhase⟩ := known
    have unchanged : ¬ getPhase l ≠ sampled := by simpa using inPhase.trans same.symm
    simp only [initiatorSend,if_neg unchanged] at step
    cases step
    exact ⟨⟨0,.none,by simp,rfl⟩,free,same⟩
  | getDat => cases step
  | finished => cases step

/-! Both loops keep the control invariant, in every run in which the target never
ends the phase while the initiator is about to sample it. -/

def Transfer.reads : Transfer → Bool
  | .toInitiator .. => false
  | .toTarget .. => true

theorem transferTargetStep {x : Transfer} {t t' : Target} {l l' : Lines}
    (step : x.target t l = some (t',l')) (known : TargetAt x.reads t l) :
    TargetStep x.reads t t' l l' := by
  cases x with
  | toInitiator buf count => exact targetSendStep step known
  | toTarget count buf => exact targetReceiveStep step known

theorem transferInitiatorStep {x : Transfer} {phase : BusPhase} {i i' : Initiator} {l l' : Lines}
    (step : x.initiator i l = some (i',l')) (known : InitiatorAt phase i l) :
    InitiatorStep phase i i' l l' := by
  cases x with
  | toInitiator buf count => exact initiatorReceiveStep step known
  | toTarget count buf => exact initiatorSendStep step known

def Undisturbed (s : State) : Action → Prop
  | .leave _ => s.initiator.pc ≠ .start ∧ s.initiator.pc ≠ .samplePhase
  | _ => True

instance (s : State) : ∀ a, Decidable (Undisturbed s a)
  | .leave _ => inferInstanceAs (Decidable (_ ∧ _))
  | .target => .isTrue trivial
  | .initiator => .isTrue trivial

theorem controlTarget {x : Transfer} {phase : BusPhase} {s : State} (control : Control x.reads phase s)
    {t : Target} {l : Lines} (step : x.target s.target s.lines = some (t,l)) :
    Control x.reads phase { s with target := t, lines := l } := by
  obtain ⟨⟨n,change,up,count⟩,known,unfinished,ended⟩ := transferTargetStep step control.target
  have samePhase := targetChangePhase change
  refine ⟨fun _ => samePhase.trans (control.inPhase unfinished),fun done _ => ended done,known,
    initiatorStable change control.initiator,?_⟩
  have moved := targetChangePending change up
  have link := control.link
  simp only
  omega

theorem controlInitiator {x : Transfer} {phase : BusPhase} {s : State}
    (control : Control x.reads phase s) {i : Initiator} {l : Lines}
    (step : x.initiator s.initiator s.lines = some (i,l)) :
    Control x.reads phase { s with initiator := i, lines := l } := by
  obtain ⟨⟨n,change,up,count⟩,known⟩ := transferInitiatorStep step control.initiator
  obtain ⟨samePhase,sameReq⟩ := initiatorChangeLines change
  refine ⟨fun running => samePhase.trans (control.inPhase running),fun done inPhase => ?_,
    targetStable change control.quiet control.target,known,?_⟩
  · exact sameReq.trans (control.quiet done (samePhase.symm.trans inPhase))
  · have moved := initiatorChangePending change up
    have link := control.link
    simp only
    omega

theorem controlLeave {x : Transfer} {phase : BusPhase} {s s' : State} {l : Lines}
    (control : Control x.reads phase s) (undisturbed : Undisturbed s (.leave l))
    (step : act x phase s (.leave l) = some s') : Control x.reads phase s' := by
  simp only [act] at step
  split at step <;> cases step
  next ended =>
    obtain ⟨done,sameAck,_,left⟩ := ended
    obtain ⟨inPhase,quiet,target,initiator,link⟩ := control
    have free : s.lines.ack = false := by simpa [TargetAt,done] using target
    refine ⟨fun running => absurd done running,fun _ back => absurd back left,?_,?_,?_⟩
    · simp [TargetAt,done,sameAck,free]
    · have quiet := quiet done
      unfold InitiatorAt at initiator ⊢
      cases pc : s.initiator.pc <;> simp_all [Undisturbed]
    · simpa [pending,sameAck,free] using link

/-! The data. A byte is on the lines from before it is requested or accepted
until after it has been taken. -/

theorem takeSucc {buf own : Bytes} {n : Nat} {b : UInt8} (own_ : own = buf.take n)
    (next : buf[n]? = some b) : own.take n ++ [b] = buf.take (n+1) := by
  rw [own_,List.take_take,Nat.min_self,List.take_add_one,next]
  rfl

structure TargetSends (buf : Bytes) (t : Target) (l : Lines) : Prop where
  bound : t.bytes ≤ buf.length
  offered : t.pc = .waitAckOff ∨ t.pc = .setReq ∨ t.pc = .waitAck → buf[t.bytes]? = some l.dat
  body : t.pc = .clearReq → t.bytes < buf.length
  whole : t.pc = .waitEnd ∨ t.pc = .finished → t.bytes = buf.length

def storedBytes (i : Initiator) : Nat :=
  match i.pc with
  | .setAck | .waitReqOff | .clearAck | .samplePhase => i.bytes+1
  | _ => i.bytes

structure InitiatorReceives (buf : Bytes) (i : Initiator) : Prop where
  stored : i.buf = buf.take (storedBytes i)
  bound : storedBytes i ≤ buf.length

theorem targetSendData {buf : Bytes} {t t' : Target} {l l' : Lines}
    (step : targetSend buf t l = some (t',l')) (sends : TargetSends buf t l) :
    TargetSends buf t' l' := by
  obtain ⟨pc,bytes,own⟩ := t
  obtain ⟨bound,offered,body,whole⟩ := sends
  cases pc with
  | loop =>
    simp only [targetSend] at step
    split at step <;> cases step
    next b more => exact ⟨bound,fun _ => more,by simp,by simp⟩
    next more =>
      have all : bytes = buf.length := Nat.le_antisymm bound (List.getElem?_eq_none_iff.mp more)
      exact ⟨bound,by simp,by simp,fun _ => all⟩
  | waitAckOff =>
    simp only [targetSend] at step
    split at step <;> cases step
    exact ⟨bound,fun _ => offered (.inl rfl),by simp,by simp⟩
  | setReq =>
    cases step
    exact ⟨bound,fun _ => offered (.inr (.inl rfl)),by simp,by simp⟩
  | waitAck =>
    simp only [targetSend] at step
    split at step <;> cases step
    obtain ⟨inside,_⟩ := List.getElem?_eq_some_iff.mp (offered (.inr (.inr rfl)))
    exact ⟨bound,by simp,fun _ => inside,by simp⟩
  | clearReq =>
    cases step
    exact ⟨body rfl,by simp,by simp,by simp⟩
  | waitEnd =>
    simp only [targetSend] at step
    split at step <;> cases step
    exact ⟨bound,by simp,by simp,fun _ => whole (.inl rfl)⟩
  | getDat => cases step
  | finished => cases step

/- What the target offers while the initiator is about to read it. -/
theorem offeredByte {buf : Bytes} {phase : BusPhase} {s : State} (control : Control false phase s)
    (sends : TargetSends buf s.target s.lines) (reading : s.initiator.pc = .getDat) :
    buf[s.initiator.bytes]? = some s.lines.dat := by
  have known := control.initiator
  have target := control.target
  have link := control.link
  simp only [InitiatorAt,reading] at known
  obtain ⟨free,_,inPhase,asked⟩ := known
  simp only [completed,released,pending,reading,free,Bool.false_eq_true,false_and,if_false,
    reduceCtorEq] at link
  have same : s.target.bytes = s.initiator.bytes := link
  rw [← same]
  cases pc : s.target.pc with
  | waitAck => exact sends.offered (.inr (.inr pc))
  | finished => exact absurd (control.quiet pc inPhase) (by simp [asked])
  | loop => simp [TargetAt,pc,asked] at target
  | waitAckOff => simp [TargetAt,pc,asked] at target
  | setReq => simp [TargetAt,pc,asked] at target
  | waitEnd => simp [TargetAt,pc,asked] at target
  | getDat => simp [TargetAt,pc,free] at target
  | clearReq => simp [TargetAt,pc,free] at target

theorem initiatorReceiveData {buf : Bytes} {count : Nat} {phase : BusPhase} {i i' : Initiator}
    {l l' : Lines} (step : initiatorReceive count i l = some (i',l')) (known : InitiatorAt phase i l)
    (receives : InitiatorReceives buf i) (offered : i.pc = .getDat → buf[i.bytes]? = some l.dat) :
    InitiatorReceives buf i' ∧ l'.dat = l.dat := by
  obtain ⟨pc,bytes,own,sampled⟩ := i
  obtain ⟨stored,bound⟩ := receives
  cases pc with
  | start => cases step; exact ⟨⟨stored,bound⟩,rfl⟩
  | loop =>
    cases step
    split <;> exact ⟨⟨stored,bound⟩,rfl⟩
  | waitReq =>
    simp only [initiatorReceive] at step
    split at step <;> cases step
    exact ⟨⟨stored,bound⟩,rfl⟩
  | checkPhase =>
    cases step
    split <;> exact ⟨⟨stored,bound⟩,rfl⟩
  | getDat =>
    have next := offered rfl
    obtain ⟨inside,_⟩ := List.getElem?_eq_some_iff.mp next
    cases step
    exact ⟨⟨takeSucc stored next,inside⟩,rfl⟩
  | setAck => cases step; exact ⟨⟨stored,bound⟩,rfl⟩
  | waitReqOff =>
    simp only [initiatorReceive] at step
    split at step <;> cases step
    exact ⟨⟨stored,bound⟩,rfl⟩
  | clearAck => cases step; exact ⟨⟨stored,bound⟩,rfl⟩
  | samplePhase =>
    obtain ⟨_,same,inPhase⟩ := known
    have unchanged : ¬ getPhase l ≠ sampled := by simpa using inPhase.trans same.symm
    simp only [initiatorReceive,if_neg unchanged] at step
    cases step
    exact ⟨⟨stored,bound⟩,rfl⟩
  | clearAtn => cases step
  | finished => cases step

def takenBytes (t : Target) : Nat :=
  match t.pc with
  | .clearReq | .waitAckOff => t.bytes+1
  | _ => t.bytes

structure TargetReceives (count : Nat) (buf : Bytes) (t : Target) : Prop where
  stored : t.buf = buf.take (takenBytes t)
  bound : takenBytes t ≤ buf.length
  within : takenBytes t ≤ count
  body : t.pc = .waitAck ∨ t.pc = .getDat → t.bytes < count
  whole : t.pc = .finished → t.bytes = count

structure InitiatorSends (buf : Bytes) (phase : BusPhase) (i : Initiator) (l : Lines) : Prop where
  bound : i.bytes ≤ buf.length
  offered : i.pc = .waitReq ∨ i.pc = .clearAtn ∨ i.pc = .checkPhase ∨ i.pc = .setAck ∨
    i.pc = .waitReqOff → getPhase l = phase → buf[i.bytes]? = some l.dat
  body : i.pc = .clearAck ∨ i.pc = .samplePhase → i.bytes < buf.length

/- What the initiator offers while the target is about to read it. -/
theorem acceptedByte {buf : Bytes} {phase : BusPhase} {s : State} (control : Control true phase s)
    (sends : InitiatorSends buf phase s.initiator s.lines) (reading : s.target.pc = .getDat) :
    buf[s.target.bytes]? = some s.lines.dat := by
  have known := control.target
  have initiator := control.initiator
  have link := control.link
  simp only [TargetAt,reading] at known
  obtain ⟨asked,up⟩ := known
  cases pc : s.initiator.pc with
  | waitReqOff =>
    simp only [InitiatorAt,pc] at initiator
    simp only [completed,released,pending,reading,pc,asked,reduceCtorEq,and_false,if_false,
      Bool.true_eq_false] at link
    have same : s.target.bytes = s.initiator.bytes := link
    rw [same]
    exact sends.offered (by simp [pc]) initiator.2.2
  | start | loop | waitReq | clearAtn | checkPhase | getDat | setAck | samplePhase | finished =>
    simp [InitiatorAt,pc,up] at initiator
  | clearAck => simp [InitiatorAt,pc,asked] at initiator

theorem targetReceiveData {buf : Bytes} {count : Nat} {t t' : Target} {l l' : Lines}
    (step : targetReceive count t l = some (t',l')) (receives : TargetReceives count buf t)
    (offered : t.pc = .getDat → buf[t.bytes]? = some l.dat) :
    TargetReceives count buf t' ∧ l'.dat = l.dat := by
  obtain ⟨pc,bytes,own⟩ := t
  obtain ⟨stored,bound,within,body,whole⟩ := receives
  cases pc with
  | loop =>
    simp only [targetReceive] at step
    split at step <;> cases step
    next more => exact ⟨⟨stored,bound,within,fun _ => more,by simp⟩,rfl⟩
    next more => exact ⟨⟨stored,bound,within,by simp,fun _ => Nat.le_antisymm within (Nat.not_lt.mp more)⟩,rfl⟩
  | waitAck =>
    simp only [targetReceive] at step
    split at step <;> cases step
    exact ⟨⟨stored,bound,within,fun _ => body (.inl rfl),by simp⟩,rfl⟩
  | getDat =>
    have next := offered rfl
    obtain ⟨inside,_⟩ := List.getElem?_eq_some_iff.mp next
    cases step
    exact ⟨⟨takeSucc stored next,inside,body (.inr rfl),by simp,by simp⟩,rfl⟩
  | clearReq => cases step; exact ⟨⟨stored,bound,within,by simp,by simp⟩,rfl⟩
  | waitAckOff =>
    simp only [targetReceive] at step
    split at step <;> cases step
    exact ⟨⟨stored,bound,within,by simp,by simp⟩,rfl⟩
  | setReq => cases step
  | waitEnd => cases step
  | finished => cases step

theorem initiatorSendData {buf : Bytes} {phase : BusPhase} {i i' : Initiator} {l l' : Lines}
    (step : initiatorSend buf i l = some (i',l')) (known : InitiatorAt phase i l)
    (sends : InitiatorSends buf phase i l) : InitiatorSends buf phase i' l' := by
  obtain ⟨pc,bytes,own,sampled⟩ := i
  obtain ⟨bound,offered,body⟩ := sends
  cases pc with
  | start => cases step; exact ⟨bound,by simp,by simp⟩
  | loop =>
    simp only [initiatorSend] at step
    split at step <;> cases step
    next b more => exact ⟨bound,fun _ _ => more,by simp⟩
    next more => exact ⟨bound,by simp,by simp⟩
  | waitReq =>
    simp only [initiatorSend] at step
    split at step <;> cases step
    exact ⟨bound,fun _ => offered (by simp),by simp⟩
  | clearAtn =>
    cases step
    split <;> exact ⟨bound,fun _ => offered (by simp),by simp⟩
  | checkPhase =>
    cases step
    split
    · exact ⟨bound,by simp,by simp⟩
    · exact ⟨bound,fun _ => offered (by simp),by simp⟩
  | setAck => cases step; exact ⟨bound,fun _ => offered (by simp),by simp⟩
  | waitReqOff =>
    simp only [initiatorSend] at step
    split at step <;> cases step
    obtain ⟨inside,_⟩ := List.getElem?_eq_some_iff.mp (offered (by simp) known.2.2)
    exact ⟨bound,by simp,fun _ => inside⟩
  | clearAck => cases step; exact ⟨bound,by simp,fun _ => body (.inl rfl)⟩
  | samplePhase =>
    have inside : bytes < buf.length := body (.inr rfl)
    simp only [initiatorSend] at step
    split at step <;> cases step
    · exact ⟨bound,by simp,by simp⟩
    · exact ⟨inside,by simp,by simp⟩
  | getDat => cases step
  | finished => cases step

/-! The whole invariant and what it says. -/

def Data (x : Transfer) (phase : BusPhase) (s : State) : Prop :=
  match x with
  | .toInitiator buf _ => TargetSends buf s.target s.lines ∧ InitiatorReceives buf s.initiator
  | .toTarget count buf =>
    TargetReceives count buf s.target ∧ InitiatorSends buf phase s.initiator s.lines

structure Inv (x : Transfer) (phase : BusPhase) (s : State) : Prop where
  control : Control x.reads phase s
  data : Data x phase s

theorem invStep {x : Transfer} {phase : BusPhase} (s : State) (a : Action) (s' : State)
    (inv : Inv x phase s) (undisturbed : Undisturbed s a) (step : act x phase s a = some s') :
    Inv x phase s' := by
  obtain ⟨control,data⟩ := inv
  cases a with
  | target =>
    obtain ⟨⟨t,l⟩,moved,rfl⟩ := Option.map_eq_some_iff.mp step
    refine ⟨controlTarget control moved,?_⟩
    cases x with
    | toInitiator buf count => exact ⟨targetSendData moved data.1,data.2⟩
    | toTarget count buf =>
      obtain ⟨receives,sameDat⟩ := targetReceiveData moved data.1 (acceptedByte control data.2)
      obtain ⟨⟨n,change,_⟩,_⟩ := transferTargetStep (x := .toTarget count buf) moved control.target
      have samePhase := targetChangePhase change
      exact ⟨receives,data.2.bound,fun here inPhase => by
        rw [sameDat]; exact data.2.offered here (samePhase.symm.trans inPhase),data.2.body⟩
  | initiator =>
    obtain ⟨⟨i,l⟩,moved,rfl⟩ := Option.map_eq_some_iff.mp step
    refine ⟨controlInitiator control moved,?_⟩
    cases x with
    | toInitiator buf count =>
      obtain ⟨receives,sameDat⟩ :=
        initiatorReceiveData moved control.initiator data.2 (offeredByte control data.1)
      exact ⟨⟨data.1.bound,fun here => by rw [sameDat]; exact data.1.offered here,data.1.body,
        data.1.whole⟩,receives⟩
    | toTarget count buf => exact ⟨data.1,initiatorSendData moved control.initiator data.2⟩
  | leave l =>
    refine ⟨controlLeave control undisturbed step,?_⟩
    simp only [act] at step
    split at step <;> cases step
    next ended =>
      obtain ⟨done,_,_,left⟩ := ended
      cases x with
      | toInitiator buf count =>
        exact ⟨⟨data.1.bound,by simp [done],by simp [done],data.1.whole⟩,data.2⟩
      | toTarget count buf => exact ⟨data.1,data.2.bound,fun _ back => absurd back left,data.2.body⟩

def Transfer.requested : Transfer → Nat
  | .toInitiator buf _ => buf.length
  | .toTarget count _ => count

/- The bytes arrive in order and once each, the count the initiator returns is
that of the bytes the target transferred, and a target that is done has
transferred all it was asked to. -/
structure Safe (x : Transfer) (s : State) : Prop where
  order : received x s = x.sent.take (received x s).length
  counted : s.initiator.pc = .finished →
    s.initiator.bytes = transferred x s ∧ (received x s).length = s.initiator.bytes
  complete : s.target.pc = .finished →
    transferred x s = x.requested ∧ (received x s).length = x.requested

theorem finishedSettled {reads : Bool} {phase : BusPhase} {s : State} (control : Control reads phase s)
    (done : s.initiator.pc = .finished) :
    s.lines.ack = false ∧ completed reads s.target = s.initiator.bytes := by
  have known := control.initiator
  have link := control.link
  simp only [InitiatorAt,done] at known
  simp only [released,done,pending,known,Bool.false_eq_true,false_and,if_false,reduceCtorEq] at link
  exact ⟨known,link⟩

/- A target that has ended leaves no byte half accepted. -/
theorem endedStored {phase : BusPhase} {s : State} (control : Control false phase s)
    (done : s.target.pc = .finished) : storedBytes s.initiator = s.target.bytes := by
  have known := control.target
  have initiator := control.initiator
  have link := control.link
  simp only [TargetAt,done] at known
  simp only [completed,pending,known,Bool.false_eq_true,false_and,if_false] at link
  rw [link]
  cases pc : s.initiator.pc with
  | setAck =>
    simp only [InitiatorAt,pc] at initiator
    simp [control.quiet done initiator.2.2.1] at initiator
  | waitReqOff | clearAck => simp [InitiatorAt,pc,known] at initiator
  | start | loop | waitReq | clearAtn | checkPhase | getDat | samplePhase | finished =>
    simp [storedBytes,released,pc]

theorem invSafe {x : Transfer} {phase : BusPhase} {s : State} (inv : Inv x phase s) : Safe x s := by
  obtain ⟨control,data⟩ := inv
  cases x with
  | toInitiator buf count =>
    obtain ⟨sends,stored,bound⟩ := data
    have length : s.initiator.buf.length = storedBytes s.initiator := by
      rw [stored]
      exact List.length_take_of_le bound
    refine ⟨?_,fun done => ?_,fun done => ?_⟩
    · simp only [received,Transfer.sent,length]
      exact stored
    · have settled := (finishedSettled control done).2
      exact ⟨settled.symm,length.trans (by simp [storedBytes,done])⟩
    · have whole := sends.whole (.inr done)
      exact ⟨whole,length.trans ((endedStored control done).trans whole)⟩
  | toTarget count buf =>
    obtain ⟨⟨stored,bound,_,_,whole⟩,_⟩ := data
    have length : s.target.buf.length = takenBytes s.target := by
      rw [stored]
      exact List.length_take_of_le bound
    refine ⟨?_,fun done => ?_,fun done => ?_⟩
    · simp only [received,Transfer.sent,length]
      exact stored
    · obtain ⟨free,settled⟩ := finishedSettled control done
      have taken : takenBytes s.target = completed true s.target := by
        have known := control.target
        cases pc : s.target.pc with
        | clearReq => simp [TargetAt,pc,free] at known
        | loop | waitAckOff | setReq | waitAck | getDat | waitEnd | finished =>
          simp [takenBytes,completed,pc]
      have same : s.target.buf.length = s.initiator.bytes := length.trans (taken.trans settled)
      exact ⟨same.symm,same⟩
    · have all : s.target.buf.length = count := by
        rw [length,takenBytes,done]
        exact whole done
      exact ⟨all,all⟩

theorem invStart (x : Transfer) {lines : Lines} (req : lines.req = false) (ack : lines.ack = false) :
    Inv x (getPhase lines) { lines } := by
  refine ⟨⟨fun _ => rfl,by simp,⟨req,fun _ => ack⟩,⟨ack,rfl⟩,by simp [completed,released,pending,ack]⟩,?_⟩
  cases x with
  | toInitiator buf count => exact ⟨⟨Nat.zero_le _,by simp,by simp,by simp⟩,rfl,Nat.zero_le _⟩
  | toTarget count buf =>
    exact ⟨⟨rfl,Nat.zero_le _,Nat.zero_le _,by simp,by simp⟩,Nat.zero_le _,by simp,by simp⟩

/- As long as the target leaves its lines alone while the initiator is about to
sample the phase, every interleaving transfers and counts every byte. -/
theorem handshakeSafe (x : Transfer) (lines : Lines) (req : lines.req = false)
    (ack : lines.ack = false) (actions : List Action) {s : State}
    (careful : Schedule.Careful (act x (getPhase lines)) Undisturbed { lines } actions)
    (ran : Schedule.run (act x (getPhase lines)) { lines } actions = some s) : Safe x s :=
  invSafe (Schedule.carefulInvariant invStep (invStart x req ack) careful ran)

def statusLines : Lines := { cd := true, io := true }

/- One STATUS byte, up to where the initiator has released ACK and the target
has seen it. -/
def statusByte : List Action :=
  List.replicate 3 .target ++ List.replicate 6 .initiator ++ List.replicate 3 .target ++
    List.replicate 2 .initiator ++ [.target]

def messageLines : Lines := { msg := true, cd := true, io := true, req := true }

theorem handshakeSafeStatus :
    Safe (.toInitiator [2] 1)
      ⟨{ pc := .finished, bytes := 1 },{ pc := .finished, bytes := 1, buf := [2], phase := .status },
        messageLines⟩ :=
  handshakeSafe (.toInitiator [2] 1) statusLines rfl rfl
    (statusByte ++ [.initiator,.leave messageLines,.initiator])
    (by decide) (by decide)

/- The target may go on to MESSAGE IN as soon as it has seen ACK released. Then
the initiator stores the byte but returns 0. -/
theorem statusByteUncounted :
    ¬ ∀ (x : Transfer) (lines : Lines) (actions : List Action) (s : State),
      lines.req = false → lines.ack = false →
      Schedule.run (act x (getPhase lines)) { lines } actions = some s → Safe x s := by
  intro safe
  have ran : Schedule.run (act (.toInitiator [2] 1) (getPhase statusLines)) { lines := statusLines }
      (statusByte ++ [.leave messageLines,.initiator]) =
      some ⟨{ pc := .finished, bytes := 1 },
        { pc := .finished, bytes := 0, buf := [2], phase := .status },messageLines⟩ := by decide
  have counted := (safe _ _ _ _ rfl rfl ran).counted rfl
  exact absurd counted.1 (by decide)

end Scsi2Pi.Handshake
