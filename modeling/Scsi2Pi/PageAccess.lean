import Scsi2Pi.CheckedAccess
import Scsi2Pi.ModeSelect
import Scsi2Pi.PropertyHandler
import Scsi2Pi.S2pExec

/-! The accesses of the page handling: the components of the property keys, the bytes of the pages and those of the
parameter lists. -/
namespace Scsi2Pi
open MemoryUtil S2pUtil Checked ModeSelect

namespace PageAccess

def modePage : String := "mode_page"

def identifier (productData : ProductData) : String := productData.vendor ++ ":" ++ productData.product

/- The page code and the page size of a definition. Page 0 has no well-defined format. -/
def acceptPage (pageCode : Int) (pageData : Bytes) (pages : Pages) : Checked ScsiException Pages :=
  -- A negative page code can only come with an empty page, which has no effect
  if pageData = [] then pure (if 0 ≤ pageCode then pages.set pageCode.toNat [] else pages)
  else if pageCode = 0 then pure (pages.set 0 pageData)
  else do
    let first ← readAt pageData 0
    if pageCode ≠ (first &&& 0x3f).toNat then pure pages
    else do
      let size ← readAt pageData 1
      if UInt8.ofNat (pageData.length + 254) ≠ size then pure pages
      else pure (pages.set pageCode.toNat pageData)

/- The body of the loop of GetCustomModePages. -/
def customModePage (productData : ProductData) (pages : Pages) (property : String × String) : Checked ScsiException Pages := do
  let keyComponents := splitLimit property.1 '.' 3
  let name ← readAt keyComponents 0
  if name ≠ modePage then pure pages
  else do
    let code ← readAt keyComponents 1
    let pageCode := parseAsUnsignedInt code
    if pageCode = -1 ∨ 0x3e < pageCode then pure pages
    else do
      let start ← readAt keyComponents 2
      if !PropertyMap.startsWith (identifier productData) start then pure pages
      else match hexToBytes property.2.toList with
        | none => pure pages
        | some pageData => acceptPage pageCode pageData pages

def getCustomModePages (properties : PropertyMap) (productData : ProductData) : Checked ScsiException Pages :=
  properties.foldlM (customModePage productData) []

def setUpModePages (r : Request) : AnyDevice → Nat → Bool → Pages
  | .scsiHd d, page, changeable => ScsiHd.setUpModePages r d page changeable []
  | .sasiHd d, page, changeable => SasiHd.setUpModePages r d page changeable []
  | .opticalMemory d, page, changeable => OpticalMemory.setUpModePages r d page changeable []
  | .scsiCd d, page, changeable => ScsiCd.setUpModePages r d page changeable []
  | .tape d, page, changeable => Tape.setUpModePages r d page changeable []
  | .hostServices d, page, changeable => HostServices.setUpModePages r d page changeable []
  | _, _, _ => []

/- The data of a page with its page code and its page size. -/
def appendPage (result : Bytes) (page : Nat × Bytes) : Checked ScsiException Bytes := do
  let off := result.length
  let result := result ++ page.2
  let first ← readAt result off
  let result ← setAt result off (first ||| UInt8.ofNat page.1)
  setAt result (off+1) (UInt8.ofNat (page.2.length - 2))

def concatPages (pages : Pages) : Checked ScsiException Bytes := do
  let result ← (pages.filter (·.1 ≠ 0)).foldlM appendPage []
  pure (result ++ (pages.lookup 0).getD [])

def addModePages (properties : PropertyMap) (d : AnyDevice) (r : Request) (buf : Bytes) (offset length maxSize : Nat) :
    Checked ScsiException (Nat × Bytes) :=
  if length < offset then pure (length,buf)
  else do
    let custom ← getCustomModePages properties d.primary.productData
    let pages := (setUpModePages r d (r.cdbByte 2 &&& 0x3f) (r.cdbByte 2 &&& 0xc0 = 0x40)).customize custom
    if pages.isEmpty then throws ⟨.illegalRequest,.invalidFieldInCdb⟩
    else do
      let result ← concatPages pages
      if maxSize < result.length then throws ⟨.illegalRequest,.invalidFieldInCdb⟩
      else do
        let size := min (length - offset) result.length
        let buf ← copyAt buf offset (result.take size)
        pure (min (size + offset) length,buf)

def readInt16At (buf : Bytes) (offset : Nat) : Checked ScsiException Nat := do
  let high ← readAt buf offset
  let low ← readAt buf (offset+1)
  pure (high.toNat * 2^8 + low.toNat)

def readDescriptorLength (mode10 : Bool) (buf : Bytes) : Checked ScsiException Nat :=
  if mode10 then readInt16At buf 6 else do pure (← readAt buf 3).toNat

variable (verifyBlockSizeChange : Nat → Bool → Except ScsiException Nat)

/- The buffer is the parameter list. -/
def evaluateBlockDescriptors (mode10 : Bool) (buf : Bytes) (size : Nat) : Checked ScsiException (Nat × Nat) :=
  let required := if mode10 then 8 else 4
  if buf.length < required then throws ⟨.illegalRequest,.parameterListLengthError⟩
  else do
    let descriptor ← readDescriptorLength mode10 buf
    if buf.length < descriptor + required then throws ⟨.illegalRequest,.parameterListLengthError⟩
    else if descriptor ≠ 0 ∧ required + 8 ≤ buf.length then do
      let requested ← readInt16At buf (required + 6)
      let size ← lift (verifyBlockSizeChange requested true)
      pure (descriptor + required,size)
    else pure (descriptor + required,size)

/- The switch over the page codes. -/
def applyPage (pageCode : Nat) (buf : Bytes) (offset : Nat) : Checked ScsiException Unit :=
  if pageCode = 0x03 then do
    let requested ← readInt16At buf (offset + 12)
    let _ ← lift (verifyBlockSizeChange requested false)
    pure ()
  else if pageCode = 0x01 ∨ pageCode = 0x07 ∨ pageCode = 0x08 then pure ()
  else throws ⟨.illegalRequest,.invalidFieldInParameterList⟩

/- The loop ends because each page takes at least two bytes. -/
def selectPages (pages : Pages) (buf : Bytes) (offset length : Nat) : Checked ScsiException Unit :=
  if length = 0 then pure ()
  else do
    let pageCode ← readAt buf offset
    match pages.lookup pageCode.toNat with
    | none => throws ⟨.illegalRequest,.invalidFieldInParameterList⟩
    | some data =>
      if pageCode = 0 then pure ()
      else if length < 2 then throws ⟨.illegalRequest,.parameterListLengthError⟩
      else do
        let payload ← readAt buf (offset+1)
        let pageSize := payload.toNat + 2
        if data.length ≠ pageSize ∨ length < pageSize then throws ⟨.illegalRequest,.invalidFieldInParameterList⟩
        else do
          applyPage verifyBlockSizeChange pageCode.toNat buf offset
          selectPages pages buf (offset + pageSize) (length - pageSize)
termination_by length
decreasing_by omega

/- ModeSelect up to the change of the block size, which does not read the list. -/
def modeSelect (properties : PropertyMap) (d : AnyDevice) (r : Request) (buf : Bytes) (blockSize : Nat) : Checked ScsiException Unit :=
  if buf.length = 0 then pure ()
  else do
    let (offset,_) ← evaluateBlockDescriptors verifyBlockSizeChange (r.opcode = .modeSelect10) buf blockSize
    if r.cdbByte 1 &&& 0x10 = 0 then pure ()
    else do
      let custom ← getCustomModePages properties d.primary.productData
      let pages := (setUpModePages r d 0x3f true).customize custom
      selectPages verifyBlockSizeChange pages buf offset (buf.length - offset)

/-! What a property defines. -/

variable {productData : ProductData} {property : String × String} {pages : Pages}

/- Page codes that are not ignored. -/
def ValidCode (code : String) : Prop := ¬(parseAsUnsignedInt code = -1 ∨ 0x3e < parseAsUnsignedInt code)

instance (code : String) : Decidable (ValidCode code) := inferInstanceAs (Decidable (¬_))

/- The components that are needed are there, and so is the page size. -/
structure Complete (productData : ProductData) (property : String × String) : Prop where
  name : 1 ≤ (splitLimit property.1 '.' 3).length
  code : (splitLimit property.1 '.' 3).getD 0 "" = modePage → 2 ≤ (splitLimit property.1 '.' 3).length
  start : (splitLimit property.1 '.' 3).getD 0 "" = modePage → ValidCode ((splitLimit property.1 '.' 3).getD 1 "") →
    3 ≤ (splitLimit property.1 '.' 3).length
  size : (splitLimit property.1 '.' 3).getD 0 "" = modePage → ValidCode ((splitLimit property.1 '.' 3).getD 1 "") →
    PropertyMap.startsWith (identifier productData) ((splitLimit property.1 '.' 3).getD 2 "") = true →
      ∀ b, hexToBytes property.2.toList = some [b] → parseAsUnsignedInt ((splitLimit property.1 '.' 3).getD 1 "") ≠ 0 →
        parseAsUnsignedInt ((splitLimit property.1 '.' 3).getD 1 "") ≠ (b &&& 0x3f).toNat

/- The page of a definition that is accepted. -/
def accepted (pageCode : Int) (pageData : Bytes) : Option (Nat × Bytes) :=
  if pageData = [] then if 0 ≤ pageCode then some (pageCode.toNat,[]) else none
  else if pageCode = 0 then some (0,pageData)
  else if pageCode = (pageData.getD 0 0 &&& 0x3f).toNat ∧ pageData[1]? = some (UInt8.ofNat (pageData.length + 254)) then
    some (pageCode.toNat,pageData)
  else none

def defined (productData : ProductData) (property : String × String) : Option (Nat × Bytes) :=
  let keyComponents := splitLimit property.1 '.' 3
  let code := keyComponents.getD 1 ""
  if keyComponents.getD 0 "" = modePage ∧ ValidCode code ∧
      PropertyMap.startsWith (identifier productData) (keyComponents.getD 2 "") = true then
    (hexToBytes property.2.toList).bind (accepted (parseAsUnsignedInt code))
  else none

def define (pages : Pages) : Option (Nat × Bytes) → Pages
  | some (code,data) => pages.set code data
  | none => pages

theorem readGetD {α ε : Type} {xs : List α} {i : Nat} (inside : i < xs.length) (a : α) :
    (readAt xs i : Checked ε α) = .ok (xs.getD i a) := by
  rw [readInside inside,List.getD_eq_getElem?_getD,List.getElem?_eq_getElem inside]
  rfl

theorem acceptPageDefines {pageCode : Int} {pageData : Bytes}
    (size : ∀ b, pageData = [b] → pageCode ≠ 0 → pageCode ≠ (b &&& 0x3f).toNat) :
    acceptPage pageCode pageData pages = .ok (define pages (accepted pageCode pageData)) := by
  unfold acceptPage accepted
  by_cases empty : pageData = []
  · rw [if_pos empty,if_pos empty]
    split <;> rfl
  rw [if_neg empty,if_neg empty]
  by_cases zero : pageCode = 0
  · rw [if_pos zero,if_pos zero]
    rfl
  have some : 0 < pageData.length := List.length_pos_iff.mpr empty
  rw [if_neg zero,if_neg zero,readGetD some 0,okBind]
  by_cases same : pageCode = (pageData.getD 0 0 &&& 0x3f).toNat
  · have two : 1 < pageData.length := by
      by_contra short
      obtain ⟨b,single⟩ := List.length_eq_one_iff.mp (show pageData.length = 1 by omega)
      rw [single] at same
      exact size b single zero same
    rw [if_neg (not_not_intro same),readInside two,okBind,List.getElem?_eq_getElem two]
    by_cases sized : UInt8.ofNat (pageData.length + 254) = pageData[1]
    · rw [if_neg (not_not_intro sized),if_pos ⟨same,congrArg Option.some sized.symm⟩]
      rfl
    · rw [if_pos sized,if_neg fun both => sized (Option.some.inj both.2).symm]
      rfl
  · rw [if_pos same,if_neg fun both => same both.1]
    rfl

/- A single byte with the page code is taken for a page whose size is read behind it. -/
theorem acceptPageOutside {pageCode : Int} {b : UInt8} (some : pageCode ≠ 0) (same : pageCode = (b &&& 0x3f).toNat) :
    acceptPage pageCode [b] pages = .error .outside := by
  unfold acceptPage
  rw [if_neg (List.cons_ne_nil _ _),if_neg some,readGetD (show 0 < [b].length from Nat.one_pos) 0,okBind]
  refine (if_neg (not_not_intro same)).trans ?_
  rw [readOutside (Nat.le_refl 1)]
  rfl

theorem customModePageDefines (complete : Complete productData property) :
    customModePage productData pages property = .ok (define pages (defined productData property)) := by
  unfold customModePage defined
  dsimp only
  rw [readGetD complete.name "",okBind]
  by_cases name : (splitLimit property.1 '.' 3).getD 0 "" = modePage
  swap
  · rw [if_pos name,if_neg fun all => name all.1]
    rfl
  rw [if_neg (not_not_intro name),readGetD (complete.code name) "",okBind]
  by_cases valid : ValidCode ((splitLimit property.1 '.' 3).getD 1 "")
  swap
  · rw [if_pos (not_not.mp valid),if_neg fun all => valid all.2.1]
    rfl
  rw [if_neg valid,readGetD (complete.start name valid) "",okBind]
  by_cases start : PropertyMap.startsWith (identifier productData) ((splitLimit property.1 '.' 3).getD 2 "") = true
  · rw [if_neg (by rw [start]; decide),if_pos ⟨name,valid,start⟩]
    cases data : hexToBytes property.2.toList with
    | none => rfl
    | some pageData => 
      refine acceptPageDefines fun b single => ?_
      exact complete.size name valid start b (data.trans (congrArg some single))
  · rw [if_pos (by simpa using start),if_neg fun all => start all.2.2]
    rfl

theorem customModePageOutside (incomplete : ¬Complete productData property) :
    customModePage productData pages property = .error .outside := by
  unfold customModePage
  dsimp only
  by_cases one : 1 ≤ (splitLimit property.1 '.' 3).length
  swap
  · rw [readOutside (by omega)]
    rfl
  rw [readGetD one "",okBind]
  by_cases name : (splitLimit property.1 '.' 3).getD 0 "" = modePage
  swap
  · exact absurd ⟨one,fun same => absurd same name,fun same => absurd same name,fun same => absurd same name⟩ incomplete
  rw [if_neg (not_not_intro name)]
  by_cases two : 2 ≤ (splitLimit property.1 '.' 3).length
  swap
  · rw [readOutside (by omega)]
    rfl
  rw [readGetD two "",okBind]
  by_cases valid : ValidCode ((splitLimit property.1 '.' 3).getD 1 "")
  swap
  · exact absurd ⟨one,fun _ => two,fun _ same => absurd same valid,fun _ same => absurd same valid⟩ incomplete
  rw [if_neg valid]
  by_cases three : 3 ≤ (splitLimit property.1 '.' 3).length
  swap
  · rw [readOutside (by omega)]
    rfl
  rw [readGetD three "",okBind]
  by_cases start : PropertyMap.startsWith (identifier productData) ((splitLimit property.1 '.' 3).getD 2 "") = true
  swap
  · exact absurd ⟨one,fun _ => two,fun _ _ => three,fun _ _ same => absurd same start⟩ incomplete
  rw [if_neg (by rw [start]; decide)]
  have byte : ∃ b, hexToBytes property.2.toList = some [b] ∧ parseAsUnsignedInt ((splitLimit property.1 '.' 3).getD 1 "") ≠ 0 ∧
      parseAsUnsignedInt ((splitLimit property.1 '.' 3).getD 1 "") = (b &&& 0x3f).toNat := by
    by_contra none
    exact incomplete ⟨one,fun _ => two,fun _ _ => three,fun _ _ _ b single some same => none ⟨b,single,some,same⟩⟩
  obtain ⟨b,single,some,same⟩ := byte
  rw [single]
  exact acceptPageOutside some same

/-! The custom pages. -/

variable {properties : PropertyMap}

def customPages (productData : ProductData) (properties : PropertyMap) : Pages :=
  (properties.map (defined productData)).foldl define []

theorem getCustomModePagesInside (complete : ∀ property ∈ properties, Complete productData property) :
    getCustomModePages properties productData = .ok (customPages productData properties) := by
  have runs (pages : Pages) : properties.foldlM (customModePage productData) pages =
      .ok ((properties.map (defined productData)).foldl define pages) := by
    induction properties generalizing pages with
    | nil => rfl
    | cons property properties ih =>
      rw [List.foldlM_cons,customModePageDefines (complete property (List.mem_cons_self ..)),okBind]
      exact ih (fun other listed => complete other (List.mem_cons_of_mem _ listed)) _
  exact runs []

theorem getCustomModePagesOutside (incomplete : ¬∀ property ∈ properties, Complete productData property) :
    getCustomModePages properties productData = .error .outside := by
  have runs (pages : Pages) : properties.foldlM (customModePage productData) pages = .error .outside := by
    induction properties generalizing pages with
    | nil => exact absurd (fun _ listed => by cases listed) incomplete
    | cons property properties ih =>
      rw [List.foldlM_cons]
      by_cases complete : Complete productData property
      · rw [customModePageDefines complete,okBind]
        refine ih (fun others => incomplete fun other listed => ?_) _
        rcases List.mem_cons.mp listed with rfl | listed
        · exact complete
        · exact others other listed
      · rw [customModePageOutside complete]
        rfl
  exact runs []

/-! Finding a page. -/

def Ascending (pages : Pages) : Prop := pages.Pairwise fun p q => p.1 < q.1

theorem memSet {code : Nat} {data : Bytes} {p : Nat × Bytes} (inside : p ∈ pages.set code data) : p = (code,data) ∨ p ∈ pages := by
  induction pages with
  | nil => exact .inl (List.mem_singleton.mp inside)
  | cons q pages ih =>
    unfold Pages.set at inside
    split at inside
    · exact List.mem_cons.mp inside
    · split at inside
      · rcases List.mem_cons.mp inside with same | rest
        · exact .inl same
        · exact .inr (List.mem_cons_of_mem _ rest)
      · rcases List.mem_cons.mp inside with same | rest
        · exact .inr (same ▸ List.mem_cons_self ..)
        · exact (ih rest).imp_right (List.mem_cons_of_mem _)

theorem lookupCons (p : Nat × Bytes) (pages : Pages) (k : Nat) :
    List.lookup k (p :: pages) = if k = p.1 then some p.2 else List.lookup k pages := by
  by_cases same : k = p.1
  · rw [if_pos same,List.lookup_cons,beq_iff_eq.mpr same]
  · rw [if_neg same,List.lookup_cons,beq_false_of_ne same]

theorem lookupSet (pages : Pages) (code : Nat) (data : Bytes) (k : Nat) :
    (pages.set code data).lookup k = if k = code then some data else pages.lookup k := by
  induction pages with
  | nil => exact lookupCons (code,data) [] k
  | cons q pages ih =>
    unfold Pages.set
    split
    · exact lookupCons (code,data) (q :: pages) k
    · split
      · next same =>
        rw [lookupCons,lookupCons]
        split
        · rfl
        · next other => rw [if_neg (by rw [← same]; exact other)]
      · next less other =>
        rw [lookupCons,ih,lookupCons]
        by_cases first : k = q.1
        · rw [if_pos first,if_pos first,if_neg (by omega)]
        · rw [if_neg first,if_neg first]

theorem memLookup {k : Nat} {data : Bytes} (found : List.lookup k pages = some data) : (k,data) ∈ pages := by
  obtain ⟨before,after,same,_⟩ := List.lookup_eq_some_iff.mp found
  rw [same]
  exact List.mem_append_right _ (List.mem_cons_self ..)

theorem lookupErase (pages : Pages) (code k : Nat) : (pages.erase code).lookup k = if k = code then none else pages.lookup k := by
  unfold Pages.erase
  induction pages with
  | nil => split <;> rfl
  | cons q pages ih =>
    by_cases same : q.1 = code
    · rw [List.filter_cons_of_neg (by simpa using same),ih,lookupCons]
      split
      · rfl
      · next other => rw [if_neg (by rw [same]; exact other)]
    · rw [List.filter_cons_of_pos (by simpa using same),lookupCons,ih,lookupCons]
      by_cases first : k = q.1
      · rw [if_pos first,if_pos first,if_neg (by rw [first]; exact same)]
      · rw [if_neg first,if_neg first]

theorem setAscending {code : Nat} {data : Bytes} (ascending : Ascending pages) : Ascending (pages.set code data) := by
  induction pages with
  | nil => exact List.pairwise_singleton _ _
  | cons q pages ih =>
    obtain ⟨first,rest⟩ := List.pairwise_cons.mp ascending
    unfold Pages.set
    split
    · next less =>
      refine List.pairwise_cons.mpr ⟨fun p inside => ?_,ascending⟩
      rcases List.mem_cons.mp inside with rfl | inside
      · exact less
      · exact Nat.lt_trans less (first p inside)
    · split
      · next same => exact List.pairwise_cons.mpr ⟨fun p inside => by rw [same]; exact first p inside,rest⟩
      · next less other =>
        refine List.pairwise_cons.mpr ⟨fun p inside => ?_,ih rest⟩
        rcases memSet inside with rfl | inside
        · exact Nat.lt_of_le_of_ne (Nat.le_of_not_lt less) (Ne.symm other)
        · exact first p inside

theorem lookupAbsent {k : Nat} (absent : ∀ p ∈ pages, p.1 ≠ k) : pages.lookup k = none := by
  induction pages with
  | nil => rfl
  | cons p pages ih =>
    rw [lookupCons,if_neg (Ne.symm (absent p (List.mem_cons_self ..)))]
    exact ih fun q inside => absent q (List.mem_cons_of_mem _ inside)

def customizeOne (pages : Pages) (p : Nat × Bytes) : Pages := if p.2.isEmpty then pages.erase p.1 else pages.set p.1 p.2

theorem lookupCustomizeOne (pages : Pages) (p : Nat × Bytes) (k : Nat) : (customizeOne pages p).lookup k =
    if k = p.1 then (if p.2 = [] then none else some p.2) else pages.lookup k := by
  unfold customizeOne
  by_cases empty : p.2 = []
  · rw [if_pos (by rw [empty]; rfl),lookupErase,if_pos empty]
  · rw [if_neg (by simpa using empty),lookupSet,if_neg empty]

/- A page that a custom page replaces or removes, and any other one. -/
theorem lookupCustomize {custom : Pages} (ascending : Ascending custom) (pages : Pages) (k : Nat) :
    (pages.customize custom).lookup k =
      ((custom.lookup k).map fun data => if data = [] then none else some data).getD (pages.lookup k) := by
  induction custom generalizing pages with
  | nil => rfl
  | cons p custom ih =>
    obtain ⟨first,rest⟩ := List.pairwise_cons.mp ascending
    refine (ih rest (customizeOne pages p)).trans ?_
    rw [lookupCons,lookupCustomizeOne]
    by_cases same : k = p.1
    · have absent : List.lookup k custom = none := lookupAbsent fun q inside => by
        have less := first q inside
        omega
      rw [if_pos same,if_pos same,absent]
      rfl
    · rw [if_neg same,if_neg same]

/- The last definition of a page counts. -/
theorem lookupCustomPages (properties : PropertyMap) (k : Nat) : (customPages productData properties).lookup k =
    (properties.filterMap (defined productData)).reverse.lookup k := by
  have found (pages : Pages) : ((properties.map (defined productData)).foldl define pages).lookup k =
      ((properties.filterMap (defined productData)).reverse.lookup k).or (pages.lookup k) := by
    induction properties generalizing pages with
    | nil => rfl
    | cons property properties ih =>
      rw [List.map_cons,List.foldl_cons,ih,List.filterMap_cons]
      cases defined productData property with
      | none => rfl
      | some p =>
        have own : (pages.set p.1 p.2).lookup k = (List.lookup k [p]).or (pages.lookup k) := by
          rw [lookupSet,lookupCons]
          split <;> rfl
        refine (congrArg _ own).trans ?_
        rw [List.reverse_cons,List.lookup_append,Option.or_assoc]
  exact (found []).trans (Option.or_none ..)

theorem customAscending (properties : PropertyMap) : Ascending (customPages productData properties) := by
  have keeps (definitions : List (Option (Nat × Bytes))) {pages : Pages} (ascending : Ascending pages) :
      Ascending (definitions.foldl define pages) := by
    induction definitions generalizing pages with
    | nil => exact ascending
    | cons definition definitions ih =>
      cases definition with
      | none => exact ih ascending
      | some p => exact ih (setAscending ascending)
  exact keeps _ .nil

/-! The sizes of the pages. -/

/- Enough for page code and page size, and for the block size in the format page. -/
def Wide (pages : Pages) : Prop := ∀ p ∈ pages, 2 ≤ p.2.length ∧ (p.1 = 0x03 → 14 ≤ p.2.length)

theorem wideSetIf {asked : Bool} {code : Nat} {data : Bytes} (wide : Wide pages) (long : 2 ≤ data.length)
    (format : code = 0x03 → 14 ≤ data.length) : Wide (pages.setIf asked code data) := by
  unfold Pages.setIf
  split
  · intro p inside
    rcases memSet inside with rfl | inside
    · exact ⟨long,format⟩
    · exact wide p inside
  · exact wide

theorem wideStorage (page : Nat) : Wide (StorageDevice.setUpModePages page []) := by
  unfold StorageDevice.setUpModePages
  refine wideSetIf (wideSetIf (wideSetIf (fun p inside => by cases inside) ?_ ?_) ?_ ?_) ?_ ?_ <;> decide

theorem wideDisk (page : Nat) (changeable : Bool) : Wide (Disk.setUpModePages page changeable []) := by
  unfold Disk.setUpModePages
  refine wideSetIf (wideSetIf (wideSetIf (wideStorage page) ?_ ?_) ?_ ?_) ?_ ?_ <;> cases changeable <;> decide

theorem formatLong (d : Disk) (changeable : Bool) : 14 ≤ (ScsiHd.formatPage d changeable).length := by
  have grows (buf : Bytes) (offset value : Nat) : buf.length ≤ (setInt16 buf offset value).length := setBytesGrows _ _ _
  have zeros : (List.replicate 24 (0 : UInt8)).length = 24 := List.length_replicate
  have sized : (List.replicate 24 (0 : UInt8)).length ≤ (setInt16 (setInt16 (setInt16 (setInt16 (setInt16 ((List.replicate 24 0).set 3 0x08)
      10 25) 12 d.blockSize) 14 1) 16 11) 18 20).length := by
    refine le_trans ?_ (grows _ _ _)
    refine le_trans ?_ (grows _ _ _)
    refine le_trans ?_ (grows _ _ _)
    refine le_trans ?_ (grows _ _ _)
    refine le_trans ?_ (grows _ _ _)
    rw [List.length_set]
  unfold ScsiHd.formatPage
  dsimp only
  split
  · exact le_trans (by rw [zeros]; decide) (grows _ _ _)
  · rw [List.length_set]
    split
    · exact le_trans (by rw [zeros]; decide) sized
    · rw [zeros]
      decide

theorem driveLong (d : Disk) (changeable : Bool) : 2 ≤ (ScsiHd.drivePage d changeable).length := by
  have zeros : (List.replicate 24 (0 : UInt8)).length = 24 := List.length_replicate
  unfold ScsiHd.drivePage
  dsimp only
  split
  · refine le_trans ?_ (setBytesGrows _ _ _)
    rw [List.length_set]
    exact le_trans (by rw [zeros]; decide) (setBytesGrows _ _ _)
  · rw [zeros]
    decide

theorem vendorLong (d : Disk) (changeable : Bool) : 2 ≤ (OpticalMemory.vendorPage d changeable).length := by
  have zeros : (List.replicate 12 (0 : UInt8)).length = 12 := List.length_replicate
  unfold OpticalMemory.vendorPage
  dsimp only
  split
  · refine le_trans (le_trans (le_trans ?_ (setBytesGrows _ _ _)) (setBytesGrows _ _ _)) (setBytesGrows _ _ _)
    rw [zeros]
    decide
  · rw [zeros]
    decide

theorem clockLong (r : Request) (changeable : Bool) : 2 ≤ (HostServices.realtimeClockPage r changeable).length := by
  unfold HostServices.realtimeClockPage
  split
  · decide
  · rw [List.length_append]
    exact Nat.le_add_right_of_le (by decide)

theorem wideDefaults (r : Request) (d : AnyDevice) (page : Nat) (changeable : Bool) : Wide (setUpModePages r d page changeable) := by
  have none : Wide [] := fun p inside => by cases inside
  cases d with
  | scsiHd d =>
    have format := formatLong d changeable
    exact wideSetIf (wideSetIf (wideSetIf (wideSetIf (wideDisk page changeable) (by omega) fun _ => format)
      (driveLong d changeable) fun wrong => absurd wrong (by decide)) (by decide) (by decide)) (by decide) (by decide)
  | sasiHd d => exact wideDisk page changeable
  | opticalMemory d =>
    exact wideSetIf (wideSetIf (wideDisk page changeable) (by decide) (by decide)) (vendorLong d changeable)
      fun wrong => absurd wrong (by decide)
  | scsiCd d =>
    refine wideSetIf (wideDisk page changeable) ?_ ?_ <;> cases changeable <;> decide
  | tape d =>
    refine wideSetIf (wideSetIf (wideSetIf (wideStorage page) ?_ ?_) ?_ ?_) ?_ ?_ <;> cases changeable <;> decide
  | hostServices d =>
    exact wideSetIf none (clockLong r changeable) fun wrong => absurd wrong (by decide)
  | printer d => exact none
  | daynaPort d => exact none
  | scsiGeneric d => exact none

/-! Each part stays inside. -/

theorem memDefine {definitions : List (Option (Nat × Bytes))} {pages : Pages} {p : Nat × Bytes}
    (inside : p ∈ definitions.foldl define pages) : some p ∈ definitions ∨ p ∈ pages := by
  induction definitions generalizing pages with
  | nil => exact .inr inside
  | cons definition definitions ih =>
    rcases ih inside with listed | before
    · exact .inl (List.mem_cons_of_mem _ listed)
    · cases definition with
      | none => exact .inr before
      | some q =>
        rcases memSet before with rfl | before
        · exact .inl (List.mem_cons_self ..)
        · exact .inr before

theorem definedSized {p : Nat × Bytes} (found : defined productData property = some p) (other : p.1 ≠ 0) :
    p.2 = [] ∨ 2 ≤ p.2.length := by
  unfold defined at found
  dsimp only at found
  split at found
  swap
  · cases found
  obtain ⟨pageData,_,accepts⟩ := Option.bind_eq_some_iff.mp found
  unfold accepted at accepts
  split at accepts
  · split at accepts
    · cases accepts
      exact .inl rfl
    · cases accepts
  · split at accepts
    · cases accepts
      exact absurd rfl other
    · split at accepts
      · next sized =>
        cases accepts
        exact .inr (List.getElem?_eq_some_iff.mp sized.2).1
      · cases accepts

theorem memCustomize {custom : Pages} {p : Nat × Bytes} (inside : p ∈ pages.customize custom) :
    p ∈ pages ∨ p ∈ custom ∧ p.2 ≠ [] := by
  unfold Pages.customize at inside
  induction custom generalizing pages with
  | nil => exact .inl inside
  | cons q custom ih =>
    rcases ih inside with before | ⟨listed,some⟩
    · have before : p ∈ customizeOne pages q := before
      unfold customizeOne at before
      split at before
      · exact .inl (List.mem_of_mem_filter before)
      · next some =>
        rcases memSet before with rfl | before
        · exact .inr ⟨List.mem_cons_self ..,fun empty => some (by rw [empty]; rfl)⟩
        · exact .inl before
    · exact .inr ⟨List.mem_cons_of_mem _ listed,some⟩

/- The pages of a device with its custom pages. -/
def devicePages (properties : PropertyMap) (d : AnyDevice) (r : Request) (page : Nat) (changeable : Bool) : Pages :=
  (setUpModePages r d page changeable).customize (customPages d.primary.productData properties)

theorem devicePagesSized {d : AnyDevice} {r : Request} {page : Nat} {changeable : Bool} {p : Nat × Bytes}
    (inside : p ∈ devicePages properties d r page changeable) (other : p.1 ≠ 0) : 2 ≤ p.2.length := by
  rcases memCustomize inside with default | ⟨custom,some⟩
  · exact (wideDefaults r d page changeable p default).1
  · rcases memDefine custom with listed | none
    · obtain ⟨property,_,found⟩ := List.mem_map.mp listed
      exact (definedSized found other).resolve_left some
    · cases none

theorem appendPageInside {p : Nat × Bytes} (long : 2 ≤ p.2.length) (result : Bytes) :
    appendPage result p = .ok (result ++ Pages.complete p.1 p.2) := by
  have length : (result ++ p.2).length = result.length + p.2.length := List.length_append
  have first : (result ++ p.2).getD result.length 0 = p.2.getD 0 0 := by
    rw [List.getD_eq_getElem?_getD,List.getElem?_append_right (Nat.le_refl _),Nat.sub_self,List.getD_eq_getElem?_getD]
  unfold appendPage Pages.complete
  dsimp only
  rw [readGetD (by omega) 0,okBind,setInside (by omega),okBind,setInside (by rw [List.length_set]; omega),first,
    List.set_append_right _ _ (Nat.le_refl _),Nat.sub_self,List.set_append_right _ _ (by omega),Nat.add_sub_cancel_left]

/- Pages of at least two bytes have room for page code and page size. -/
theorem concatPagesInside (sized : ∀ p ∈ pages, p.1 ≠ 0 → 2 ≤ p.2.length) : concatPages pages = .ok pages.concat := by
  have runs (some : Pages) (sized : ∀ p ∈ some, 2 ≤ p.2.length) (result : Bytes) :
      some.foldlM appendPage result = .ok (result ++ some.flatMap fun p => Pages.complete p.1 p.2) := by
    induction some generalizing result with
    | nil => exact congrArg Except.ok (List.append_nil _).symm
    | cons p some ih =>
      have long := sized p (List.mem_cons_self ..)
      rw [List.foldlM_cons,appendPageInside long,okBind,ih (fun q listed => sized q (List.mem_cons_of_mem _ listed)),List.flatMap_cons,
        List.append_assoc]
  unfold concatPages
  rw [runs _ (fun p listed => ?_) [],okBind]
  · rfl
  · obtain ⟨listed,other⟩ := List.mem_filter.mp listed
    exact sized p listed (by simpa using other)

theorem addModePagesInside {d : AnyDevice} (complete : ∀ property ∈ properties, Complete d.primary.productData property)
    (r : Request) {buf : Bytes} (offset maxSize : Nat) {length : Nat} (inside : length ≤ buf.length) :
    Meets (fun _ => True) (addModePages properties d r buf offset length maxSize) := by
  unfold addModePages
  refine meetsIte (fun _ => trivial) fun fits => ?_
  have joined (page : Nat) (changeable : Bool) :
      concatPages ((setUpModePages r d page changeable).customize (customPages d.primary.productData properties)) =
        .ok (devicePages properties d r page changeable).concat :=
    concatPagesInside fun _ listed other => devicePagesSized listed other
  rw [getCustomModePagesInside complete,okBind]
  refine meetsIte (fun _ => trivial) fun _ => ?_
  rw [joined,okBind]
  refine meetsIte (fun _ => trivial) fun _ => meetsBind (meetsCopy ?_) fun _ _ => trivial
  rw [List.length_take]
  omega

theorem readInt16Inside {buf : Bytes} {offset : Nat} (inside : offset + 2 ≤ buf.length) :
    Meets (fun _ => True) (readInt16At buf offset) :=
  meetsBind (meetsRead (by omega)) fun _ _ => meetsBind (meetsRead (by omega)) fun _ _ => trivial

theorem readInt16Outside {buf : Bytes} {offset : Nat} (behind : buf.length < offset + 2) :
    readInt16At buf offset = .error .outside := by
  unfold readInt16At
  by_cases first : offset < buf.length
  · rw [readInside first,okBind,readOutside (by omega)]
    rfl
  · rw [readOutside (by omega)]
    rfl

variable {verifyBlockSizeChange : Nat → Bool → Except ScsiException Nat}

theorem evaluateInside (mode10 : Bool) (buf : Bytes) (size : Nat) :
    Meets (fun result => result.1 ≤ buf.length) (evaluateBlockDescriptors verifyBlockSizeChange mode10 buf size) := by
  unfold evaluateBlockDescriptors
  dsimp only
  refine meetsIte (fun _ => trivial) fun required => ?_
  have descriptor : Meets (fun _ => True) (readDescriptorLength mode10 buf) := by
    refine meetsIte (fun ten => readInt16Inside ?_) fun six => meetsBind (meetsRead ?_) fun _ _ => trivial
    · rw [if_pos ten] at required
      omega
    · rw [if_neg six] at required
      omega
  refine meetsBind descriptor fun length _ => ?_
  refine meetsIte (fun _ => trivial) fun whole => ?_
  have within : length + (if mode10 then 8 else 4) ≤ buf.length := Nat.le_of_not_lt whole
  exact meetsIte (fun some => meetsBind (readInt16Inside (by omega)) fun _ _ => meetsBind (meetsLift _) fun _ _ => within) fun _ => within

/- Induction on the length that is left. The format page has room for its block size. -/
theorem selectPagesInside {buf : Bytes} (format : ∀ data, pages.lookup 0x03 = some data → 14 ≤ data.length) {offset length : Nat}
    (whole : offset + length = buf.length) : Meets (fun _ => True) (selectPages verifyBlockSizeChange pages buf offset length) := by
  induction length using Nat.strongRecOn generalizing offset with
  | ind length ih =>
    unfold selectPages
    refine meetsIte (fun _ => trivial) fun some => meetsBind (meetsRead (by omega)) fun pageCode _ => ?_
    cases known : pages.lookup pageCode.toNat with
    | none => trivial
    | some data =>
      refine meetsIte (fun _ => trivial) fun _ => meetsIte (fun _ => trivial) fun two => ?_
      refine meetsBind (meetsRead (by omega)) fun payload _ => meetsIte (fun _ => trivial) fun valid => ?_
      have applied : Meets (fun _ => True) (applyPage verifyBlockSizeChange pageCode.toNat buf offset) := by
        refine meetsIte (fun three => ?_) fun _ => meetsIte (fun _ => trivial) fun _ => trivial
        rw [three] at known
        have wide := format data known
        exact meetsBind (readInt16Inside (by omega)) fun _ _ => meetsBind (meetsLift _) fun _ _ => trivial
      exact meetsBind applied fun _ _ => ih _ (by omega) (by omega)

/- The last definition of the format page is no page that is too short for the block size. -/
def FormatLong (productData : ProductData) (properties : PropertyMap) : Prop :=
  ∀ data, (properties.filterMap (defined productData)).reverse.lookup 0x03 = some data → data = [] ∨ 14 ≤ data.length

theorem formatFound {d : AnyDevice} {r : Request} (long : FormatLong d.primary.productData properties) {data : Bytes}
    (found : (devicePages properties d r 0x3f true).lookup 0x03 = some data) : 14 ≤ data.length := by
  unfold devicePages at found
  rw [lookupCustomize (customAscending properties),lookupCustomPages] at found
  cases custom : (properties.filterMap (defined d.primary.productData)).reverse.lookup 0x03 with
  | none =>
    rw [custom] at found
    have listed : (0x03,data) ∈ setUpModePages r d 0x3f true := memLookup found
    exact (wideDefaults r d 0x3f true _ listed).2 rfl
  | some page =>
    rw [custom,Option.map_some,Option.getD_some] at found
    split at found
    · cases found
    · next some =>
      cases found
      exact (long _ custom).resolve_left some

theorem modeSelectInside {d : AnyDevice} (complete : ∀ property ∈ properties, Complete d.primary.productData property)
    (long : FormatLong d.primary.productData properties) (r : Request) (buf : Bytes) (blockSize : Nat) :
    Meets (fun _ => True) (modeSelect verifyBlockSizeChange properties d r buf blockSize) := by
  unfold modeSelect
  refine meetsIte (fun _ => trivial) fun _ => meetsBind (evaluateInside _ buf blockSize) fun result within => ?_
  refine meetsIte (fun _ => trivial) fun _ => ?_
  rw [getCustomModePagesInside complete,okBind]
  exact selectPagesInside (fun data found => formatFound (r := r) long found) (by omega)

/- The parameter list of MODE SELECT(6) with a format page. -/
def formatList (size : Nat) : Bytes := [0,0,0,0,3,UInt8.ofNat (size - 2)] ++ List.replicate (size - 2) 0

def selects : Request := { cdb := [ScsiCommand.modeSelect6,0x10,0,0,0,0] }

/- The block size is read behind a short page, and behind the end of the list. -/
theorem modeSelectOutside {d : AnyDevice} (complete : ∀ property ∈ properties, Complete d.primary.productData property) {data : Bytes}
    (found : (properties.filterMap (defined d.primary.productData)).reverse.lookup 0x03 = some data) (some : data ≠ [])
    (short : data.length < 14) : modeSelect verifyBlockSizeChange properties d selects (formatList data.length) 0 = .error .outside := by
  obtain ⟨property,_,defines⟩ := List.mem_filterMap.mp (List.mem_reverse.mp (memLookup found))
  have two : 2 ≤ data.length := (definedSized defines (show (3 : Nat) ≠ 0 by decide)).resolve_left some
  have known : (devicePages properties d selects 0x3f true).lookup 3 = Option.some data := by
    unfold devicePages
    rw [lookupCustomize (customAscending properties),lookupCustomPages,found,Option.map_some,Option.getD_some,if_neg some]
  have size : (UInt8.ofNat (data.length - 2)).toNat + 2 = data.length := by
    rw [UInt8.toNat_ofNat']
    omega
  have length : (formatList data.length).length = data.length + 4 := by
    unfold formatList
    rw [List.length_append,List.length_replicate]
    simp only [List.length_cons,List.length_nil]
    omega
  have header : evaluateBlockDescriptors verifyBlockSizeChange false (formatList data.length) 0 = .ok (4,0) := by
    have descriptor : readDescriptorLength false (formatList data.length) = .ok 0 := rfl
    unfold evaluateBlockDescriptors
    dsimp only
    rw [if_neg Bool.false_ne_true,if_neg (by omega),descriptor,okBind,if_neg (by omega),if_neg fun both => both.1 rfl]
    rfl
  have first : (readAt (formatList data.length) 4 : Checked ScsiException UInt8) = .ok 3 := rfl
  have second : (readAt (formatList data.length) (4+1) : Checked ScsiException UInt8) = .ok (UInt8.ofNat (data.length - 2)) := rfl
  have behind : applyPage verifyBlockSizeChange 3 (formatList data.length) 4 = .error .outside := by
    unfold applyPage
    rw [if_pos rfl,readInt16Outside (by omega)]
    rfl
  have selected : selectPages verifyBlockSizeChange (devicePages properties d selects 0x3f true) (formatList data.length) 4 data.length =
      .error .outside := by
    unfold selectPages
    rw [if_neg (by omega),first,okBind]
    dsimp only
    rw [show (3 : UInt8).toNat = 3 from rfl,known]
    dsimp only
    rw [if_neg (by decide),if_neg (by omega),second,okBind,size,if_neg (by omega),behind]
    rfl
  unfold modeSelect
  rw [if_neg (by omega),show decide (selects.opcode = .modeSelect10) = false from rfl,header,okBind]
  dsimp only
  rw [if_neg (by decide),getCustomModePagesInside complete,okBind,length]
  exact selected

/- Every access of the four functions is inside, for any list and any CDB. -/
structure Inside (properties : PropertyMap) (d : AnyDevice) : Prop where
  custom : getCustomModePages properties d.primary.productData ≠ .error .outside
  sense : ∀ r buf offset allocationLength maxSize,
    addModePages properties d r buf offset (min buf.length allocationLength) maxSize ≠ .error .outside
  select : ∀ save, selectFlags d = some (true,save) → ∀ verifyBlockSizeChange r buf blockSize,
    modeSelect verifyBlockSizeChange properties d r buf blockSize ≠ .error .outside

end PageAccess

open PageAccess in
/- Keys and values of the properties decide whether the page handling stays inside. -/
theorem pagesInside (properties : PropertyMap) (d : AnyDevice) : Inside properties d ↔
    (∀ property ∈ properties, Complete d.primary.productData property) ∧
      ((∃ save, selectFlags d = some (true,save)) → FormatLong d.primary.productData properties) := by
  constructor
  · intro inside
    have complete : ∀ property ∈ properties, Complete d.primary.productData property := by
      by_contra incomplete
      exact inside.custom (getCustomModePagesOutside incomplete)
    refine ⟨complete,?_⟩
    rintro ⟨save,supported⟩ data found
    by_contra wrong
    obtain ⟨some,short⟩ := not_or.mp wrong
    exact inside.select save supported (fun _ _ => .ok 0) selects (formatList data.length) 0
      (modeSelectOutside complete found some (Nat.lt_of_not_le short))
  · rintro ⟨complete,long⟩
    refine ⟨?_,fun r buf offset allocationLength maxSize => ?_,fun save supported verify r buf blockSize => ?_⟩
    · rw [getCustomModePagesInside complete]
      exact fun wrong => by cases wrong
    · exact meetsInside (addModePagesInside complete r offset maxSize (Nat.min_le_left ..))
    · exact meetsInside (modeSelectInside complete (long ⟨save,supported⟩) r buf blockSize)

namespace PageAccess

/- A key without a product. -/
def shortKey : PropertyMap := [("mode_page.8","")]

theorem shortKeyOutside : ¬∀ properties d, Inside properties d := by
  intro all
  have inside := (all shortKey (.scsiHd { type := .schd, supportedBlockSizes := [512], cachingMode := .piscsi })).custom
  exact inside (by decide +kernel)

end PageAccess
end Scsi2Pi
