import Scsi2Pi.S2pDumpExecutor

/-! InitiatorExecutor: the CDBs in the COMMAND phases of an execution. Linked commands
follow one another in the buffer of the caller, which gets the LUN. -/
namespace Scsi2Pi
open MemoryUtil

namespace InitiatorExecutor
open BoardExecutor (Initiator)

/- The buffer of the caller, and what the target has received of it. -/
structure Execution where
  cdb : Bytes
  cdbOffset : Nat := 0
  received : List Bytes := []
  deriving DecidableEq, Repr

/- What the target asks for: that many bytes in a COMMAND phase, or something else. -/
inductive Phase where
  | command (requested : Nat)
  | other (phase : BusPhase)
  deriving DecidableEq, Repr

/- Nothing is a command outside of the buffer. -/
def command (i : Initiator) (requested : Nat) (e : Execution) : Option Execution :=
  if e.cdbOffset + 1 < e.cdb.length then
    let cdb := if i.targetLun < 8 then
        e.cdb.set (e.cdbOffset+1) (UInt8.ofNat (byteAt e.cdb 1 + i.targetLun * 2^5))
      else e.cdb
    let sent := (cdb.drop e.cdbOffset).take requested
    some ⟨cdb,e.cdbOffset + sent.length,e.received ++ [sent]⟩
  else none

def dispatch (i : Initiator) (e : Execution) : Phase → Option Execution
  | .command requested => command i requested e
  | .other _ => some e

def execute (i : Initiator) (phases : List Phase) (cdb : Bytes) : Option Execution :=
  phases.foldlM (dispatch i) { cdb }

/-! The caller. -/

/- The commands of one execution and the phases of the target. -/
structure Round where
  cdbs : List Bytes
  phases : List Phase

/- The number of bytes asked for in each COMMAND phase. -/
def fetches : List Phase → List Nat
  | [] => []
  | .command requested :: phases => requested :: fetches phases
  | .other _ :: phases => fetches phases

def Round.fetched (r : Round) : Nat := (fetches r.phases).length

/- Before another execution the caller may set everything but the bytes with the LUN. -/
def prepare (old : Bytes) : List Bytes → List Bytes
  | [] => []
  | cdb::cdbs => cdb.set 1 (old.getD 1 0) :: prepare (old.drop cdb.length) cdbs

/- What the target receives in each of the executions with the same buffer. -/
def reuse (i : Initiator) : Bytes → List Round → Option (List (List Bytes))
  | _, [] => some []
  | old, r::rounds => do
    let e ← execute i r.phases (prepare old r.cdbs).flatten
    return e.received :: (← reuse i e.cdb rounds)

/- A CDB as it should be received. -/
def withLun (i : Initiator) (cdb : Bytes) : Bytes := cdb.set 1 (UInt8.ofNat (byteAt cdb 1 % 2^5 + i.targetLun * 2^5))

/- The commands of a round that the target fetches. -/
def Round.taken (r : Round) : List Bytes := r.cdbs.take r.fetched

def asGiven (i : Initiator) (r : Round) : List Bytes := r.taken.map (withLun i)

/- The same commands, with other parameters at most, and a target that fetches them one by one. -/
structure Reuses (given : List Bytes) (r : Round) : Prop where
  lengths : r.cdbs.map List.length = given.map List.length
  bytes : r.cdbs.map (byteAt · 1) = given.map (byteAt · 1)
  asks : fetches r.phases = r.taken.map List.length

/-! One execution. -/

variable {i : Initiator}

/- The byte with the LUN, after the byte of the first command has been used for it. -/
def encode (i : Initiator) (b : UInt8) : UInt8 := UInt8.ofNat (b.toNat + i.targetLun * 2^5)

/- What is received of the commands a target fetches. -/
def sent (i : Initiator) (b : UInt8) : List Bytes → List Bytes
  | [] => []
  | cdb::cdbs => cdb.set 1 (encode i b) :: cdbs.map (·.set 1 (encode i (encode i b)))

theorem setBehind {before after : Bytes} {v : UInt8} : (before ++ after).set (before.length+1) v = before ++ after.set 1 v := by
  rw [List.set_append_right _ _ (Nat.le_add_right _ _),Nat.add_sub_cancel_left]

/- A COMMAND phase at the start of a command. -/
theorem commandSends (before after : Bytes) (received : List Bytes) {cdb : Bytes} (lun : i.targetLun < 8) (complete : 2 ≤ cdb.length)
    {b : UInt8} (first : (before ++ (cdb ++ after)).getD 1 0 = b) :
    command i cdb.length ⟨before ++ (cdb ++ after),before.length,received⟩ =
      some ⟨(before ++ cdb.set 1 (encode i b)) ++ after,(before ++ cdb.set 1 (encode i b)).length,
        received ++ [cdb.set 1 (encode i b)]⟩ := by
  have inside : before.length + 1 < (before ++ (cdb ++ after)).length := by
    simp only [List.length_append]
    omega
  have value : UInt8.ofNat (byteAt (before ++ (cdb ++ after)) 1 + i.targetLun * 2^5) = encode i b := by
    unfold byteAt encode
    rw [first]
  have written : (cdb ++ after).set 1 (encode i b) = cdb.set 1 (encode i b) ++ after :=
    List.set_append_left _ _ complete
  have front : (cdb.set 1 (encode i b) ++ after).take cdb.length = cdb.set 1 (encode i b) := by
    rw [List.take_append_of_le_length (Nat.le_of_eq List.length_set.symm),List.take_of_length_le (Nat.le_of_eq List.length_set)]
  unfold command
  dsimp only
  rw [if_pos inside,if_pos lun,value,setBehind,written,List.drop_left,front,List.length_append,List.append_assoc]

/- A single command, as the executor of s2pdump sends it. -/
theorem singleCommand {cdb : Bytes} (complete : 2 ≤ cdb.length) : execute i [.command cdb.length] cdb =
    some ⟨BoardExecutor.encodeLun i cdb,cdb.length,[BoardExecutor.encodeLun i cdb]⟩ := by
  have inside : 0 + 1 < cdb.length := complete
  have length : (BoardExecutor.encodeLun i cdb).length = cdb.length := by
    unfold BoardExecutor.encodeLun
    split
    · exact List.length_set
    · rfl
  have front : (BoardExecutor.encodeLun i cdb).take cdb.length = BoardExecutor.encodeLun i cdb :=
    List.take_of_length_le (Nat.le_of_eq length)
  change command i cdb.length { cdb } >>= some = _
  unfold command
  rw [if_pos inside]
  change some (Execution.mk (BoardExecutor.encodeLun i cdb) (0 + ((BoardExecutor.encodeLun i cdb).take cdb.length).length)
    ([] ++ [(BoardExecutor.encodeLun i cdb).take cdb.length])) = _
  rw [front,length,Nat.zero_add]
  rfl

theorem getFront {before after : Bytes} (inside : 1 < before.length) : (before ++ after).getD 1 0 = before.getD 1 0 := by
  rw [List.getD_eq_getElem?_getD,List.getD_eq_getElem?_getD,List.getElem?_append_left inside]

/- The commands behind the first one all get the byte of the first one. -/
theorem laterCommands {phases : List Phase} {cdbs : List Bytes} {before : Bytes} (after : Bytes) (received : List Bytes)
    {b : UInt8} (lun : i.targetLun < 8) (complete : ∀ cdb ∈ cdbs, 2 ≤ cdb.length) (asks : fetches phases = cdbs.map List.length)
    (inside : 1 < before.length) (first : before.getD 1 0 = b) :
    ∃ e, phases.foldlM (dispatch i) ⟨before ++ (cdbs.flatten ++ after),before.length,received⟩ = some e ∧
      e.received = received ++ cdbs.map (·.set 1 (encode i b)) ∧ e.cdb.getD 1 0 = b := by
  induction phases generalizing cdbs before received with
  | nil =>
    obtain rfl := List.map_eq_nil_iff.mp asks.symm
    exact ⟨_,rfl,(List.append_nil _).symm,(getFront inside).trans first⟩
  | cons phase phases ih =>
    cases phase with
    | other phase => exact ih received complete asks inside first
    | command requested =>
      cases cdbs with
      | nil => cases asks
      | cons cdb cdbs =>
        obtain ⟨rfl,later⟩ := List.cons.inj asks
        have sends := commandSends before (cdbs.flatten ++ after) received lun (complete cdb List.mem_cons_self)
          ((getFront inside).trans first)
        have longer : 1 < (before ++ cdb.set 1 (encode i b)).length := by
          rw [List.length_append]
          exact Nat.lt_add_right _ inside
        obtain ⟨e,ran,all,same⟩ := ih (received ++ [cdb.set 1 (encode i b)])
          (fun cdb member => complete cdb (List.mem_cons_of_mem _ member)) later longer ((getFront inside).trans first)
        refine ⟨e,?_,?_,same⟩
        · rw [List.foldlM_cons,List.flatten_cons,List.append_assoc]
          change command i cdb.length _ >>= _ = _
          rw [sends]
          exact ran
        · rw [all,List.append_assoc]
          rfl

theorem setSecond {cdb : Bytes} (after : Bytes) {v : UInt8} (complete : 2 ≤ cdb.length) : (cdb.set 1 v ++ after).getD 1 0 = v := by
  rw [getFront (by rwa [List.length_set]),List.getD_eq_getElem?_getD,List.getElem?_set_self complete]
  rfl

/- A whole execution, of which the target fetches some commands. -/
theorem executes {phases : List Phase} {cdbs : List Bytes} {after : Bytes} {b : UInt8} (lun : i.targetLun < 8)
    (complete : ∀ cdb ∈ cdbs, 2 ≤ cdb.length) (asks : fetches phases = cdbs.map List.length)
    (first : (cdbs.flatten ++ after).getD 1 0 = b) :
    ∃ e, execute i phases (cdbs.flatten ++ after) = some e ∧ e.received = sent i b cdbs ∧
      e.cdb.getD 1 0 = if cdbs = [] then b else encode i b := by
  unfold execute
  induction phases with
  | nil =>
    obtain rfl := List.map_eq_nil_iff.mp asks.symm
    exact ⟨_,rfl,rfl,first⟩
  | cons phase phases ih =>
    cases phase with
    | other phase => exact ih asks
    | command requested =>
      cases cdbs with
      | nil => cases asks
      | cons cdb cdbs =>
        obtain ⟨rfl,later⟩ := List.cons.inj asks
        have whole := complete cdb List.mem_cons_self
        rw [List.flatten_cons,List.append_assoc] at first
        have sends := commandSends [] (cdbs.flatten ++ after) [] lun whole first
        have long : 1 < (cdb.set 1 (encode i b)).length := by rwa [List.length_set]
        obtain ⟨e,ran,all,same⟩ := laterCommands after [cdb.set 1 (encode i b)] lun
          (fun cdb member => complete cdb (List.mem_cons_of_mem _ member)) later long
          ((getFront long).symm.trans (setSecond [] whole))
        refine ⟨e,?_,all,same⟩
        rw [List.foldlM_cons,List.flatten_cons,List.append_assoc]
        change command i cdb.length ⟨[] ++ (cdb ++ (cdbs.flatten ++ after)),([] : Bytes).length,[]⟩ >>= _ = _
        rw [sends]
        exact ran

/-! The same buffer again. -/

theorem prepareTake (old : Bytes) (cdbs : List Bytes) (count : Nat) :
    (prepare old cdbs).take count = prepare old (cdbs.take count) := by
  induction cdbs generalizing old count with
  | nil => rw [List.take_nil,prepare,List.take_nil]
  | cons cdb cdbs ih =>
    cases count with
    | zero => rfl
    | succ count => rw [prepare,List.take_succ_cons,List.take_succ_cons,prepare,ih]

theorem prepareLengths (old : Bytes) (cdbs : List Bytes) : (prepare old cdbs).map List.length = cdbs.map List.length := by
  induction cdbs generalizing old with
  | nil => rfl
  | cons cdb cdbs ih => rw [prepare,List.map_cons,List.map_cons,ih,List.length_set]

theorem prepareSet (old : Bytes) (cdbs : List Bytes) (v : UInt8) :
    (prepare old cdbs).map (·.set 1 v) = cdbs.map (·.set 1 v) := by
  induction cdbs generalizing old with
  | nil => rfl
  | cons cdb cdbs ih => rw [prepare,List.map_cons,List.map_cons,ih,List.set_set]

/- What has been sent before makes no difference but for the first byte with the LUN. -/
theorem sentPrepared (old : Bytes) (cdbs : List Bytes) (b : UInt8) : sent i b (prepare old cdbs) = sent i b cdbs := by
  cases cdbs with
  | nil => rfl
  | cons cdb cdbs => rw [prepare,sent,sent,prepareSet,List.set_set]

theorem completeOf {cdbs given : List Bytes} (lengths : cdbs.map List.length = given.map List.length)
    (complete : ∀ cdb ∈ given, 2 ≤ cdb.length) : ∀ cdb ∈ cdbs, 2 ≤ cdb.length := by
  intro cdb member
  have listed : cdb.length ∈ given.map List.length := by
    rw [← lengths]
    exact List.mem_map_of_mem member
  obtain ⟨other,there,same⟩ := List.mem_map.mp listed
  rw [← same]
  exact complete other there

theorem preparedFirst {old : Bytes} {cdbs : List Bytes} (some : cdbs ≠ []) (complete : ∀ cdb ∈ cdbs, 2 ≤ cdb.length) :
    (prepare old cdbs).flatten.getD 1 0 = old.getD 1 0 := by
  cases cdbs with
  | nil => exact absurd rfl some
  | cons cdb cdbs =>
    rw [prepare,List.flatten_cons]
    exact setSecond _ (complete cdb List.mem_cons_self)

/- The first byte with the LUN gets it once more in each execution. -/
def sends (i : Initiator) (b : UInt8) : List (List Bytes) → List (List Bytes)
  | [] => []
  | cdbs::rest => sent i b cdbs :: sends i (if cdbs = [] then b else encode i b) rest

theorem reuseSends {given : List Bytes} {rounds : List Round} (lun : i.targetLun < 8) (some : given ≠ [])
    (complete : ∀ cdb ∈ given, 2 ≤ cdb.length) (reuses : ∀ r ∈ rounds, Reuses given r) (old : Bytes) :
    reuse i old rounds = .some (sends i (old.getD 1 0) (rounds.map Round.taken)) := by
  induction rounds generalizing old with
  | nil => rfl
  | cons r rounds ih =>
    obtain ⟨lengths,_,asks⟩ := reuses r List.mem_cons_self
    have whole := completeOf lengths complete
    have present : r.cdbs ≠ [] := by
      intro none
      rw [none] at lengths
      exact some (List.map_eq_nil_iff.mp lengths.symm)
    have split : (prepare old r.cdbs).flatten =
        (prepare old r.taken).flatten ++ ((prepare old r.cdbs).drop r.fetched).flatten := by
      rw [Round.taken,← prepareTake,← List.flatten_append,List.take_append_drop]
    have ready : ∀ cdb ∈ prepare old r.taken, 2 ≤ cdb.length :=
      completeOf (prepareLengths old r.taken) fun cdb member => whole cdb (List.mem_of_mem_take member)
    obtain ⟨e,ran,received,first⟩ := executes (b := old.getD 1 0) lun ready (asks.trans (prepareLengths old r.taken).symm)
      (by rw [← split]; exact preparedFirst present whole)
    have none : prepare old r.taken = [] ↔ r.taken = [] := by
      cases r.taken <;> simp [prepare]
    rw [if_congr none rfl rfl] at first
    rw [reuse,split,ran]
    change (reuse i e.cdb rounds >>= fun rest => .some (e.received :: rest)) = _
    rw [ih (fun r member => reuses r (List.mem_cons_of_mem _ member)) e.cdb,received,sentPrepared,first]
    rfl

/-! When this is as given. -/

variable {b : UInt8}

theorem encodeHolds (m : Nat) :
    encode i b = UInt8.ofNat (m % 2^5 + i.targetLun * 2^5) ↔ b.toNat = m % 2^5 := by
  have small : b.toNat < 256 := UInt8.toNat_lt _
  unfold encode
  rw [← UInt8.toNat_inj,UInt8.toNat_ofNat',UInt8.toNat_ofNat']
  omega

theorem encodeZero (zero : i.targetLun = 0) : encode i b = b := by
  unfold encode
  rw [zero,Nat.zero_mul,Nat.add_zero,UInt8.ofNat_toNat]

theorem setHolds {cdb : Bytes} (complete : 2 ≤ cdb.length) :
    cdb.set 1 (encode i b) = withLun i cdb ↔ b.toNat = byteAt cdb 1 % 2^5 := by
  rw [← encodeHolds]
  constructor
  · intro same
    have read := congrArg (·.getD 1 0) same
    have written : ∀ v, (cdb.set 1 v).getD 1 0 = v := fun v => by
      rw [List.getD_eq_getElem?_getD,List.getElem?_set_self complete]
      rfl
    rwa [withLun,written,written] at read
  · intro same
    rw [same]
    rfl

/- The CDBs of one execution, with the byte for the first one and that for the others. -/
theorem sentHolds {cdb : Bytes} {cdbs : List Bytes} (complete : ∀ c ∈ cdb :: cdbs, 2 ≤ c.length) :
    sent i b (cdb::cdbs) = (cdb::cdbs).map (withLun i) ↔
      b.toNat = byteAt cdb 1 % 2^5 ∧ ∀ c ∈ cdbs, (encode i b).toNat = byteAt c 1 % 2^5 := by
  rw [sent,List.map_cons,List.cons.injEq,setHolds (complete cdb List.mem_cons_self),List.map_inj_left]
  have each : (∀ c ∈ cdbs, c.set 1 (encode i (encode i b)) = withLun i c) ↔
      ∀ c ∈ cdbs, (encode i b).toNat = byteAt c 1 % 2^5 :=
    forall₂_congr fun c member => setHolds (complete c (List.mem_cons_of_mem _ member))
  rw [each]

def total (chains : List (List Bytes)) : Nat := chains.flatten.length

/- With LUN 0 the byte does not change. -/
theorem sendsZero {chains : List (List Bytes)} (zero : i.targetLun = 0)
    (complete : ∀ cdbs ∈ chains, ∀ cdb ∈ cdbs, 2 ≤ cdb.length) :
    sends i b chains = chains.map (·.map (withLun i)) ↔ ∀ cdbs ∈ chains, ∀ cdb ∈ cdbs, b.toNat = byteAt cdb 1 % 2^5 := by
  induction chains with
  | nil => simp [sends]
  | cons cdbs chains ih =>
    have rest := ih fun cdbs member => complete cdbs (List.mem_cons_of_mem _ member)
    rw [sends,encodeZero zero,ite_self,List.map_cons,List.cons.injEq,rest,List.forall_mem_cons]
    refine and_congr_left fun _ => ?_
    cases cdbs with
    | nil => simp [sent]
    | cons cdb cdbs =>
      rw [sentHolds (complete _ List.mem_cons_self),encodeZero zero,List.forall_mem_cons]

/- A byte that has got a LUN is not that of another command. -/
theorem sendsHigh {chains : List (List Bytes)} (high : 2^5 ≤ b.toNat)
    (complete : ∀ cdbs ∈ chains, ∀ cdb ∈ cdbs, 2 ≤ cdb.length) :
    sends i b chains = chains.map (·.map (withLun i)) ↔ total chains = 0 := by
  induction chains with
  | nil => simp [sends,total]
  | cons cdbs chains ih =>
    have rest := ih fun cdbs member => complete cdbs (List.mem_cons_of_mem _ member)
    cases cdbs with
    | nil =>
      rw [sends,if_pos rfl,List.map_cons,List.cons.injEq,rest]
      simp [sent,total]
    | cons cdb cdbs =>
      rw [sends,List.map_cons,List.cons.injEq,sentHolds (complete _ List.mem_cons_self)]
      constructor
      · rintro ⟨⟨wrong,_⟩,_⟩
        omega
      · intro none
        simp [total] at none

theorem totalCons (cdbs : List Bytes) (chains : List (List Bytes)) : total (cdbs :: chains) = cdbs.length + total chains := by
  rw [total,List.flatten_cons,List.length_append]
  rfl

theorem noneSent {chains : List (List Bytes)} (none : total chains = 0) : ∀ cdbs ∈ chains, cdbs = [] := by
  induction chains with
  | nil => simp
  | cons cdbs chains ih =>
    rw [totalCons] at none
    rw [List.forall_mem_cons]
    exact ⟨List.eq_nil_of_length_eq_zero (by omega),ih (by omega)⟩

/- With another LUN the second command is not as given, wherever it is. -/
theorem sendsOther {chains : List (List Bytes)} (lun : i.targetLun < 8) (other : i.targetLun ≠ 0)
    (complete : ∀ cdbs ∈ chains, ∀ cdb ∈ cdbs, 2 ≤ cdb.length)
    (first : ∀ cdbs ∈ chains, ∀ cdb ∈ cdbs.head?, byteAt cdb 1 = b.toNat) :
    sends i b chains = chains.map (·.map (withLun i)) ↔
      (∀ cdbs ∈ chains, ∀ cdb ∈ cdbs, b.toNat = byteAt cdb 1 % 2^5) ∧ total chains ≤ 1 := by
  induction chains with
  | nil => simp [sends,total]
  | cons cdbs chains ih =>
    have later : ∀ cdbs ∈ chains, ∀ cdb ∈ cdbs, 2 ≤ cdb.length := fun cdbs member => complete cdbs (List.mem_cons_of_mem _ member)
    cases cdbs with
    | nil =>
      rw [sends,if_pos rfl,List.map_cons,List.cons.injEq,ih later fun cdbs member => first cdbs (List.mem_cons_of_mem _ member),
        List.forall_mem_cons,totalCons]
      simp [sent]
    | cons cdb cdbs =>
      have own : byteAt cdb 1 = b.toNat := first _ List.mem_cons_self cdb rfl
      have small : b.toNat < 2^8 := UInt8.toNat_lt b
      have encoded : b.toNat < 2^5 → (encode i b).toNat = b.toNat + i.targetLun * 2^5 := by
        intro low
        unfold encode
        rw [UInt8.toNat_ofNat']
        omega
      rw [sends,if_neg (List.cons_ne_nil _ _),List.map_cons,List.cons.injEq,sentHolds (complete _ List.mem_cons_self),
        List.forall_mem_cons,List.forall_mem_cons,totalCons,List.length_cons]
      constructor
      · rintro ⟨⟨same,others⟩,rest⟩
        have value := encoded (by omega)
        have alone : cdbs = [] := by
          cases cdbs with
          | nil => rfl
          | cons c cdbs =>
            have second := others c List.mem_cons_self
            omega
        have none := (sendsHigh (by omega) later).mp rest
        subst alone
        refine ⟨⟨⟨same,by simp⟩,fun cdbs member cdb inside => ?_⟩,by rw [none]; decide⟩
        rw [noneSent none cdbs member] at inside
        cases inside
      · rintro ⟨⟨⟨same,_⟩,_⟩,few⟩
        have value := encoded (by omega)
        obtain rfl : cdbs = [] := List.eq_nil_of_length_eq_zero (by omega)
        exact ⟨⟨same,by simp⟩,(sendsHigh (by omega) later).mpr (by omega)⟩

theorem firstTaken {given : List Bytes} {r : Round} (complete : ∀ cdb ∈ given, 2 ≤ cdb.length) (reuses : Reuses given r)
    {cdb : Bytes} (first : cdb ∈ r.taken.head?) : byteAt cdb 1 = byteAt given.flatten 1 := by
  obtain ⟨_,bytes,_⟩ := reuses
  unfold Round.taken at first
  cases listed : r.cdbs with
  | nil =>
    rw [listed,List.take_nil] at first
    cases first
  | cons head cdbs =>
    rw [listed] at first bytes
    cases given with
    | nil => cases bytes
    | cons own given =>
      have same : byteAt head 1 = byteAt own 1 := (List.cons.inj bytes).1
      have front : byteAt (own :: given).flatten 1 = byteAt own 1 := by
        unfold byteAt
        rw [List.flatten_cons,getFront (complete own List.mem_cons_self)]
      cases taken : r.fetched with
      | zero =>
        rw [taken] at first
        cases first
      | succ count =>
        rw [taken] at first
        cases first
        rw [same,front]

end InitiatorExecutor
open InitiatorExecutor

/- The CDBs that a target receives are those of the caller if their bytes with the LUN are those of the
first one, without a LUN, and there is LUN 0 or a single command. -/
theorem cdbsSentAsGiven {i : BoardExecutor.Initiator} {given : List Bytes} {rounds : List Round} (lun : i.targetLun < 8)
    (some : given ≠ []) (complete : ∀ cdb ∈ given, 2 ≤ cdb.length) (reuses : ∀ r ∈ rounds, Reuses given r) :
    ∃ received, reuse i given.flatten rounds = .some received ∧
      (received = rounds.map (asGiven i) ↔
        (∀ r ∈ rounds, ∀ cdb ∈ r.taken, byteAt cdb 1 % 2^5 = byteAt given.flatten 1) ∧
          (i.targetLun = 0 ∨ (rounds.flatMap Round.taken).length ≤ 1)) := by
  refine ⟨_,reuseSends lun some complete reuses given.flatten,?_⟩
  have chains : rounds.map (asGiven i) = (rounds.map Round.taken).map (·.map (withLun i)) := by
    rw [List.map_map]
    rfl
  have whole : ∀ cdbs ∈ rounds.map Round.taken, ∀ cdb ∈ cdbs, 2 ≤ cdb.length := by
    rintro _ member cdb inside
    obtain ⟨r,there,rfl⟩ := List.mem_map.mp member
    exact completeOf (reuses r there).lengths complete cdb (List.mem_of_mem_take inside)
  have count : total (rounds.map Round.taken) = (rounds.flatMap Round.taken).length := by
    rw [total,List.flatMap_def]
  have bytes : (∀ cdbs ∈ rounds.map Round.taken, ∀ cdb ∈ cdbs, (given.flatten.getD 1 0).toNat = byteAt cdb 1 % 2^5) ↔
      ∀ r ∈ rounds, ∀ cdb ∈ r.taken, byteAt cdb 1 % 2^5 = byteAt given.flatten 1 := by
    rw [List.forall_mem_map]
    exact forall₄_congr fun _ _ _ _ => eq_comm
  rw [chains]
  by_cases zero : i.targetLun = 0
  · rw [sendsZero zero whole,bytes]
    exact ⟨fun holds => ⟨holds,.inl zero⟩,And.left⟩
  · rw [sendsOther lun zero whole ?_,bytes,count]
    · exact and_congr_right fun _ => ⟨.inr,fun either => either.resolve_left zero⟩
    · rintro _ member cdb first
      obtain ⟨r,there,rfl⟩ := List.mem_map.mp member
      exact firstTaken complete (reuses r there) first

namespace InitiatorExecutor

def rewindTape : Round := ⟨[[0x01,0,0,0,0,0]],[.other .msgOut,.command 6,.other .status,.other .msgIn]⟩

theorem rewindReuses : Reuses [[0x01,0,0,0,0,0]] rewindTape := ⟨rfl,rfl,rfl⟩

/- Twice with LUN 0, and twice with LUN 1. -/
theorem rewoundTwice : ∃ received, reuse {} [[0x01,0,0,0,0,0]].flatten [rewindTape,rewindTape] = some received ∧
    (received = [rewindTape,rewindTape].map (asGiven {}) ↔
      (∀ r ∈ [rewindTape,rewindTape], ∀ cdb ∈ r.taken, byteAt cdb 1 % 2^5 = byteAt [[0x01,0,0,0,0,0]].flatten 1) ∧
        ((0 : Nat) = 0 ∨ ([rewindTape,rewindTape].flatMap Round.taken).length ≤ 1)) :=
  cdbsSentAsGiven (by change 0 < 8; decide) (by decide) (by decide) fun r member => by
    rcases List.mem_pair.mp member with rfl | rfl <;> exact rewindReuses

theorem secondLunAdded : reuse ⟨1⟩ [[0x01,0,0,0,0,0]].flatten [rewindTape,rewindTape] =
      some [[[0x01,0x20,0,0,0,0]],[[0x01,0x40,0,0,0,0]]] ∧
    [rewindTape,rewindTape].map (asGiven ⟨1⟩) = [[[0x01,0x20,0,0,0,0]],[[0x01,0x20,0,0,0,0]]] := by
  decide

end InitiatorExecutor
end Scsi2Pi
