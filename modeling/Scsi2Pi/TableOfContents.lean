import Scsi2Pi.DiskDrives

/-! The table of contents of a CD: one data track, the lead-out behind it and their addresses. -/
namespace Scsi2Pi
open Slices MemoryUtil Handler Eff

namespace TableOfContents

/- The track that Open creates. -/
structure Track (d : ScsiCd) : Prop where
  first : d.firstLba = 0
  last : d.lastLba = uint32 (int32 d.blocks - 1)
  initialized : d.trackInitialized = true

/- No other condition is reported instead. -/
structure Available (d : ScsiCd) : Prop where
  reset : d.reset = false
  attn : d.attn = false
  ready : d.ready = true

def LeadOut (r : Request) : Prop := r.cdbByte 6 = 0xaa

instance (r : Request) : Decidable (LeadOut r) := inferInstanceAs (Decidable (_ = _))

/- The first address of the track, or of what follows the last address. -/
def trackAddress (blocks : Nat) (r : Request) : Nat := if LeadOut r then blocks else 0

/- Minutes, seconds and frames, which start with an offset of two seconds. -/
structure Msf (msf : Bytes) (lba : Nat) : Prop where
  reserved : byteAt msf 0 = 0
  seconds : byteAt msf 2 < 60
  frames : byteAt msf 3 < 75
  decodes : (byteAt msf 1 * 60 + byteAt msf 2) * 75 + byteAt msf 3 = lba + 150

/- The first bytes of the buffer, which are sent. -/
structure Toc (blocks : Nat) (r : Request) (count : Nat) (buf : Bytes) : Prop where
  header : ∀ i < 6, i < count → byteAt buf i = byteAt [0,10,1,1,0,0x14] i
  number : 6 < count → byteAt buf 6 = if LeadOut r then 0xaa else 1
  reserved : 7 < count → byteAt buf 7 = 0
  msf : 11 < count → r.cdbByte 1 &&& 0x02 ≠ 0 → Msf (buf.drop 8) (trackAddress blocks r)
  lba : 11 < count → r.cdbByte 1 &&& 0x02 = 0 → getInt32 buf 8 = trackAddress blocks r

/- Other tracks are refused, and an address that minutes in one byte can't have. -/
inductive Exact (blocks : Nat) (r : Request) : Except ScsiException PhaseCall × HandlerState ScsiCd → Prop where
  | toc {t} : r.cdbByte 6 ≤ 1 ∨ LeadOut r → Toc blocks r (min (r.cdbInt16 7) 12) t.transfer.buffer →
      Exact blocks r (.ok (.dataIn (min (r.cdbInt16 7) 12 : Nat)),t)
  | noTrack {e t} : 1 < r.cdbByte 6 → ¬LeadOut r → Exact blocks r (.error e,t)
  | outside {e t} : r.cdbByte 1 &&& 0x02 ≠ 0 → 256*60*75 ≤ trackAddress blocks r + 150 → Exact blocks r (.error e,t)

/-! Addresses. -/

/- The minutes have one byte. With them the assertions of the source hold. -/
theorem lbaToMsfDecodes {lba : Nat} (inside : lba + 150 < 256*60*75) : Msf (ScsiCd.lbaToMsf lba) lba := by
  have small (n : Nat) (byte : n < 256) : (UInt8.ofNat n).toNat = n := UInt8.toNat_ofNat_of_lt' byte
  unfold ScsiCd.lbaToMsf
  dsimp only
  split
  · refine ⟨rfl,?_,?_,?_⟩ <;> simp only [byteAt,List.getD_cons_succ,List.getD_cons_zero] <;>
      rw [small _ (by omega)] <;> (try rw [small _ (by omega)]) <;> (try rw [small _ (by omega)]) <;> omega
  · refine ⟨rfl,?_,?_,?_⟩ <;> simp only [byteAt,List.getD_cons_succ,List.getD_cons_zero] <;>
      rw [small _ (by omega)] <;> (try rw [small _ (by omega)]) <;> (try rw [small _ (by omega)]) <;> omega

/-! The bytes of the response. -/

def header (buf : Bytes) (length : Nat) : Bytes :=
  setBytes (setBytes (setInt16 (setBytes buf 0 (List.replicate length 0)) 0 10) 2 [1,1]) 5 [0x14,1]

/- The response with the address of the first block. -/
def response (r : Request) (buf : Bytes) : Bytes :=
  let buf := header buf (min (r.cdbInt16 7) 12)
  if r.cdbByte 1 &&& 0x02 ≠ 0 then setBytes buf 8 (ScsiCd.lbaToMsf 0) else setInt16 buf 10 0

theorem readTocSends {r : Request} {s : HandlerState ScsiCd} (available : Available s.device) (track : Track s.device)
    (asked : r.cdbByte 6 ≤ 1 ∨ LeadOut r) : ScsiCd.readToc r s = (.ok (.dataIn (min (r.cdbInt16 7) 12 : Nat)),
      { s with transfer := { s.transfer with buffer := response r s.transfer.buffer } }) := by
  refine ranOk ?_
  unfold ScsiCd.readToc PrimaryDevice.checkReady
  simp only [wpBind,wpSuper,wpGetDevice,wpIte,wpThrow,wpPure,wpGetRequest,wpSetBuffer,Derives.setBaseSelf]
  have reset : (Derives.base s.device : PrimaryDevice).reset = false := available.reset
  have attn : (Derives.base s.device : PrimaryDevice).attn = false := available.attn
  have ready : (Derives.base s.device : PrimaryDevice).ready = true := available.ready
  have inside : ¬(1 < r.cdbByte 6 ∧ r.cdbByte 6 ≠ 170) := by
    rcases asked with few | leadOut
    · omega
    · exact fun other => other.2 leadOut
  rw [reset,attn,ready,track.initialized,track.first]
  refine ⟨fun wrong => absurd wrong (by decide),fun _ => ⟨fun wrong => absurd wrong (by decide),fun _ => ⟨fun wrong => absurd wrong (by decide),
    fun _ => ⟨inside,fun _ => ⟨fun wrong => absurd wrong.2.1 (by decide),fun _ => ⟨?_,?_⟩⟩⟩⟩⟩⟩
  · trivial
  · simp only [response,header,Bool.not_true,Bool.false_eq_true,and_false,if_false]

theorem headerByte (buf : Bytes) {length i : Nat} (inside : i < length) :
    byteAt (header buf length) i = byteAt [0,10,1,1,0,0x14,1] i := by
  have first : byteAt (setBytes buf 0 (List.replicate length 0)) i = 0 := by
    rw [byteAtFront (by rwa [List.length_replicate]),byteAtZeros]
  unfold header setInt16
  rw [byteAtSetBytes,byteAtSetBytes,byteAtSetBytes,first]
  by_cases front : i < 7
  · have table : ∀ k < 7, (if 5 ≤ k ∧ k < 5 + 2 then byteAt [0x14,1] (k-5) else
        if 2 ≤ k ∧ k < 2 + 2 then byteAt [1,1] (k-2) else
          if 0 ≤ k ∧ k < 0 + (bigEndian 2 10).length then byteAt (bigEndian 2 10) (k-0) else 0) =
            byteAt [0,10,1,1,0,0x14,1] k := by
      decide
    exact table i front
  · rw [if_neg (by simp; omega),if_neg (by simp; omega),if_neg (by simp; omega)]
    exact (byteAtBehind (show 7 ≤ i by omega)).symm

theorem responseByte {r : Request} (buf : Bytes) {i : Nat} (front : i < 8) (inside : i < min (r.cdbInt16 7) 12) :
    byteAt (response r buf) i = byteAt [0,10,1,1,0,0x14,1] i := by
  unfold response
  dsimp only
  split
  · rw [byteAtSetBytes,if_neg (by omega),headerByte buf inside]
  · rw [setInt16,byteAtSetBytes,if_neg (by omega),headerByte buf inside]

theorem responseMsf {r : Request} (buf : Bytes) (minutes : r.cdbByte 1 &&& 0x02 ≠ 0) {i : Nat} (inside : i < 4) :
    byteAt (response r buf) (8+i) = byteAt (ScsiCd.lbaToMsf 0) i := by
  have length : (ScsiCd.lbaToMsf 0).length = 4 := rfl
  unfold response
  dsimp only
  rw [if_pos minutes,byteAtSetBytes,length,if_pos (by omega),Nat.add_sub_cancel_left]

theorem responseLba {r : Request} (buf : Bytes) (number : r.cdbByte 1 &&& 0x02 = 0) (room : 12 ≤ r.cdbInt16 7) :
    getInt32 (response r buf) 8 = 0 := by
  have all : min (r.cdbInt16 7) 12 = 12 := by omega
  have zeros : ∀ k, 8 ≤ k → k < 12 → byteAt (response r buf) k = 0 := by
    intro k low high
    unfold response
    dsimp only
    rw [if_neg (not_not_intro number),setInt16,byteAtSetBytes,bigEndianLength,all,headerByte buf high]
    have table : ∀ k < 12, 8 ≤ k → (if 10 ≤ k ∧ k < 10 + 2 then byteAt (bigEndian 2 0) (k-10) else byteAt [0,10,1,1,0,0x14,1] k) = 0 := by
      decide
    exact table k high low
  unfold getInt32 getInt16
  rw [zeros 8 (by omega) (by omega),zeros (8+1) (by omega) (by omega),zeros (8+2) (by omega) (by omega),
    zeros (8+2+1) (by omega) (by omega)]
  rfl

/- Without the lead-out, or without its number, everything is as it has to be. -/
theorem responseToc {r : Request} (buf : Bytes) (blocks : Nat) (kind : ¬LeadOut r ∨ r.cdbInt16 7 ≤ 6) :
    Toc blocks r (min (r.cdbInt16 7) 12) (response r buf) := by
  have first (long : 6 < min (r.cdbInt16 7) 12) : ¬LeadOut r := kind.resolve_right (by omega)
  have address (long : 6 < min (r.cdbInt16 7) 12) : trackAddress blocks r = 0 := if_neg (first long)
  refine ⟨fun i header inside => ?_,fun long => ?_,fun long => ?_,fun long minutes => ?_,fun long number => ?_⟩
  · have table : ∀ k < 6, byteAt [0,10,1,1,0,0x14,1] k = byteAt [0,10,1,1,0,0x14] k := by decide
    exact (responseByte buf (by omega) inside).trans (table i header)
  · rw [if_neg (first long),responseByte buf (by decide) long]
    rfl
  · rw [responseByte buf (by decide) long]
    rfl
  · have zero := lbaToMsfDecodes (show 0 + 150 < 256*60*75 by decide)
    have same {i : Nat} (inside : i < 4) : byteAt ((response r buf).drop 8) i = byteAt (ScsiCd.lbaToMsf 0) i :=
      (byteAtDrop 8 i).trans (responseMsf buf minutes inside)
    rw [address (by omega)]
    exact ⟨(same (by decide)).trans zero.reserved,by rw [same (by decide)]; exact zero.seconds,
      by rw [same (by decide)]; exact zero.frames,by rw [same (by decide),same (by decide),same (by decide)]; exact zero.decodes⟩
  · rw [address (by omega)]
    exact responseLba buf number (by omega)

theorem trackCreated {r : Request} {s : HandlerState ScsiCd} :
    wp ScsiCd.createDataTrack r s (fun _ t => Track t.device) fun _ _ => True := by
  unfold ScsiCd.createDataTrack
  rw [wpModifyDevice]
  exact ⟨rfl,by dsimp only,rfl⟩

/- Behind any computation that comes first. -/
theorem wpAfter {α β : Type} {x : Handler ScsiCd α} {f : α → Handler ScsiCd β} {r : Request} {s : HandlerState ScsiCd}
    {Q : β → HandlerState ScsiCd → Prop} (rest : ∀ a t, wp (f a) r t Q fun _ _ => True) : wp (x >>= f) r s Q fun _ _ => True := by
  rw [wpBind]
  have any : wp x r s (fun _ _ => True) fun _ _ => True := by
    unfold wp
    split <;> trivial
  exact wpMono any (fun a t _ => rest a t) fun _ _ _ => trivial

theorem openCreates (readOnlyFile : Bool) (r : Request) (s : HandlerState ScsiCd) :
    wp (ScsiCd.openFile readOnlyFile) r s (fun opened t => opened = true → Track t.device) fun _ _ => True := by
  unfold ScsiCd.openFile
  refine wpAfter fun _ _ => wpAfter fun valid _ => ?_
  rw [wpIte]
  refine ⟨fun _ wrong => absurd wrong (by decide),fun _ => wpAfter fun _ t => ?_⟩
  rw [wpBind]
  refine wpMono trackCreated (fun _ u track => ?_) fun _ _ _ => trivial
  rw [wpBind,wpModifyDevice,wpPure]
  intro _
  split
  · exact ⟨track.first,track.last,track.initialized⟩
  · exact track

theorem selectCreates (length : Int) (r : Request) (s : HandlerState ScsiCd) :
    wp (ScsiCd.methods.modeSelect length) r s (fun _ t => Track t.device) fun _ _ => True :=
  wpAfter fun _ _ => trackCreated

theorem readTocRefuses {r : Request} {s : HandlerState ScsiCd} (available : Available s.device)
    (other : 1 < r.cdbByte 6 ∧ ¬LeadOut r) : ScsiCd.readToc r s = (.error ⟨.illegalRequest,.invalidFieldInCdb⟩,s) := by
  refine ranError ?_
  unfold ScsiCd.readToc PrimaryDevice.checkReady
  simp only [wpBind,wpSuper,wpGetDevice,wpIte,wpThrow,wpPure,wpGetRequest,wpSetBuffer,Derives.setBaseSelf]
  have reset : (Derives.base s.device : PrimaryDevice).reset = false := available.reset
  have attn : (Derives.base s.device : PrimaryDevice).attn = false := available.attn
  have ready : (Derives.base s.device : PrimaryDevice).ready = true := available.ready
  rw [reset,attn,ready]
  refine ⟨fun wrong => absurd wrong (by decide),fun _ => ⟨fun wrong => absurd wrong (by decide),fun _ => ⟨fun wrong => absurd wrong (by decide),
    fun _ => ⟨fun _ => ⟨trivial,trivial⟩,fun inside => absurd other inside⟩⟩⟩⟩

end TableOfContents

open TableOfContents in
/- Open and MODE SELECT leave a track for which the table of contents is exact, unless the number of the
   lead-out is asked for, which is never sent. -/
theorem tocExact (r : Request) (s : HandlerState ScsiCd) :
    (∀ readOnlyFile t, ScsiCd.openFile readOnlyFile r s = (.ok true,t) → Track t.device) ∧
      (∀ length t, ScsiCd.methods.modeSelect length r s = (.ok (),t) → Track t.device) ∧
        (Available s.device → Track s.device →
          (Exact s.device.blocks r (ScsiCd.readToc r s) ↔ r.cdbByte 6 ≠ 0xaa ∨ r.cdbInt16 7 ≤ 6)) := by
  refine ⟨fun readOnlyFile t opened => wpOk (openCreates readOnlyFile r s) opened rfl,
    fun length t selected => wpOk (selectCreates length r s) selected,fun available track => ?_⟩
  by_cases asked : r.cdbByte 6 ≤ 1 ∨ LeadOut r
  · rw [readTocSends available track asked]
    constructor
    · intro exact
      by_contra wrong
      obtain ⟨leadOut,long⟩ : LeadOut r ∧ 6 < r.cdbInt16 7 := by
        unfold LeadOut
        omega
      have long : 6 < min (r.cdbInt16 7) 12 := by omega
      cases exact with
      | toc _ toc =>
        have number := toc.number long
        rw [if_pos leadOut,responseByte _ (by decide) long] at number
        exact absurd number (by decide)
    · exact fun kind => .toc asked (responseToc _ _ kind)
  · have other : 1 < r.cdbByte 6 ∧ ¬LeadOut r := ⟨by omega,fun leadOut => asked (.inr leadOut)⟩
    rw [readTocRefuses available other]
    exact ⟨fun _ => .inl other.2,fun _ => .noTrack other.1 other.2⟩

namespace TableOfContents

/- A medium with two blocks. -/
def twoBlocks : HandlerState ScsiCd :=
  ⟨{type := .sccd,ready := true,supportedBlockSizes := [512,2048],cachingMode := .piscsi,blockSize := 2048,blocks := 2,lastLba := 1,trackInitialized := true},{},{}⟩

def tocRequest (track : UInt8) : Request := {cdb := [0x43,0,0,0,0,0,track,0,12,0]}

theorem twoBlocksTrack : Track twoBlocks.device := ⟨rfl,by decide,rfl⟩

theorem leadOutMissing : ¬(∀ r s, Available s.device → Track s.device → Exact s.device.blocks r (ScsiCd.readToc r s)) := by
  intro all
  have exact := all (tocRequest 0xaa) twoBlocks ⟨rfl,rfl,rfl⟩ twoBlocksTrack
  rw [readTocSends ⟨rfl,rfl,rfl⟩ twoBlocksTrack (.inr (by decide))] at exact
  cases exact with
  | toc _ toc =>
    have number := toc.number (by decide)
    rw [responseByte _ (by decide) (by decide)] at number
    exact absurd number (by decide)

theorem firstTrackExact : Exact 2 (tocRequest 1) (ScsiCd.readToc (tocRequest 1) twoBlocks) :=
  ((tocExact (tocRequest 1) twoBlocks).2.2 ⟨rfl,rfl,rfl⟩ twoBlocksTrack).mpr (.inl (by decide))

end TableOfContents

end Scsi2Pi
