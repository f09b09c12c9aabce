import Scsi2Pi.ImageSupport
import Scsi2Pi.LexicalPath

/-! Where the image commands create, remove and change files: inside the default folder,
and the default folder inside the parent of the home folder, if no name climbs out of them. -/
namespace Scsi2Pi
open Eff

namespace PathName

/-! The names of a path. -/

theorem namesOfAppend (a b : List Char) : namesOf (a ++ '/' :: b) = namesOf a ++ namesOf b := by
  have split : List.splitOnP (· == '/') (a ++ '/' :: b) = _ := List.splitOnP_append_cons a b rfl
  simp only [namesOf,List.splitOn_eq_splitOnP,split,List.filter_append]

theorem namesOfPlain {b : List Char} (plain : '/' ∉ b) : (namesOf b).length ≤ 1 := by
  have single : List.splitOnP (· == '/') b = [b] := by
    refine List.splitOnP_eq_singleton fun c listed => beq_eq_false_iff_ne.mpr ?_
    rintro rfl
    exact plain listed
  rw [namesOf,List.splitOn_eq_splitOnP,single]
  exact List.length_filter_le _ _

theorem namesAppend (a b : String) : names (a ++ "/" ++ b) = names a ++ names b := by
  have chars : (a ++ "/" ++ b).toList = a.toList ++ '/' :: b.toList := by simp
  rw [names,chars,namesOfAppend,List.map_append]
  rfl

/- Slashes at the end do not count. -/
theorem namesOfTrimmed (a : List Char) : namesOf (a.rdropWhile (· = '/')) = namesOf a := by
  induction a using List.reverseRecOn with
  | nil => rfl
  | append_singleton a c ih =>
    by_cases slash : c = '/'
    · rw [List.rdropWhile_concat,if_pos (decide_eq_true slash),ih,slash,namesOfAppend]
      exact (List.append_nil _).symm
    · rw [List.rdropWhile_concat,if_neg fun same => slash (of_decide_eq_true same)]

theorem lastSlash (text : List Char) : '/' ∉ text ∨ ∃ a b, text = a ++ '/' :: b ∧ '/' ∉ b := by
  induction text with
  | nil => exact .inl List.not_mem_nil
  | cons c text ih =>
    rcases ih with plain | ⟨a,b,rfl,plain⟩
    · by_cases slash : c = '/'
      · exact .inr ⟨[],text,by rw [slash,List.nil_append],plain⟩
      · refine .inl fun listed => ?_
        rcases List.mem_cons.mp listed with same | later
        · exact slash same.symm
        · exact plain later
    · exact .inr ⟨c::a,b,rfl,plain⟩

theorem dropName {a b : List Char} (plain : '/' ∉ b) : (a ++ '/' :: b).rdropWhile (· ≠ '/') = a ++ ['/'] := by
  induction b using List.reverseRecOn with
  | nil => exact List.rdropWhile_concat_neg _ _ _ (by decide)
  | append_singleton b c ih =>
    have other : decide (c ≠ '/') = true := by
      refine decide_eq_true fun same => plain ?_
      rw [same]
      exact List.mem_append_right _ List.mem_cons_self
    rw [← List.cons_append,← List.append_assoc,List.rdropWhile_concat,if_pos other]
    exact ih fun listed => plain (List.mem_append_left _ listed)

section
variable {p : String} {a b : List Char}

theorem parentFront (split : p.toList = a ++ '/' :: b) (plain : '/' ∉ b) :
    (p.toList.rdropWhile (· ≠ '/')).rdropWhile (· = '/') = a.rdropWhile (· = '/') := by
  rw [split,dropName plain,List.rdropWhile_concat_pos _ _ _ (by decide)]

theorem parentNames (split : p.toList = a ++ '/' :: b) (plain : '/' ∉ b) :
    names (parentPath p) = (namesOf a).map String.ofList := by
  have trimmed := namesOfTrimmed a
  unfold parentPath
  rw [parentFront split plain]
  dsimp only
  split
  · next root =>
    rw [root.1] at trimmed
    rw [← trimmed]
    rfl
  · rw [names,String.toList_ofList,trimmed]

theorem parentAbsolute (split : p.toList = a ++ '/' :: b) (plain : '/' ∉ b) : isAbsolute (parentPath p) = isAbsolute p := by
  unfold parentPath
  rw [parentFront split plain]
  dsimp only
  split
  · next root => exact root.2.symm ▸ rfl
  · next other =>
    obtain ⟨rest,whole⟩ := List.rdropWhile_prefix (· = '/') a
    unfold isAbsolute at other ⊢
    rw [split] at other ⊢
    cases named : a.rdropWhile (· = '/') with
    | nil =>
      refine absurd ⟨named,?_⟩ other
      have slashes := List.rdropWhile_eq_nil_iff.mp named
      cases a with
      | nil => rfl
      | cons c a =>
        have slash := slashes c List.mem_cons_self
        simpa using slash
    | cons c name =>
      rw [named] at whole
      rw [← whole,String.toList_ofList]
      rfl

/- A name without a slash has no parent. -/
theorem parentNone (plain : '/' ∉ p.toList) : parentPath p = "" := by
  have front : p.toList.rdropWhile (· ≠ '/') = [] := by
    refine List.rdropWhile_eq_nil_iff.mpr fun c listed => decide_eq_true ?_
    rintro rfl
    exact plain listed
  have relative : ¬isAbsolute p = true := by
    unfold isAbsolute
    intro absolute
    exact plain (List.mem_of_mem_head? (of_decide_eq_true absolute))
  unfold parentPath
  rw [front]
  exact if_neg fun both => relative both.2

theorem beforeLastSlashParts {folder : String} (here : beforeLastSlash p = some folder) :
    ∃ rest, p.toList = folder.toList ++ '/' :: rest := by
  unfold beforeLastSlash at here
  rcases lastSlash p.toList with plain | ⟨a,b,split,plain⟩
  · rw [if_neg plain] at here
    cases here
  · rw [if_pos (by rw [split]; exact List.mem_append_right _ List.mem_cons_self),split,dropName plain,
      List.dropLast_concat] at here
    cases here
    exact ⟨b,by rw [String.toList_ofList,split]⟩

end
end PathName

namespace ImageFolder
open PathName CommandImageSupport LexicalPath

def InFolder (base p : String) : Prop :=
  isAbsolute p = isAbsolute base ∧ Inside "." ".." (isAbsolute base) (names base) (names p)

instance (base p : String) : Decidable (InFolder base p) := inferInstanceAs (Decidable (_ ∧ _))

/- A name that does not climb out of the folder it is relative to. -/
def StaysIn (name : String) : Prop := Stays "." ".." (names name)

instance (name : String) : Decidable (StaysIn name) := inferInstanceAs (Decidable (Stays _ _ _))

/- The folder, or the one above it, is there. -/
def FolderPresent {φ : Type} (service : FileService φ) (files : φ) (folder : String) : Prop :=
  (∀ p, isAbsolute p = isAbsolute folder → names p = names folder → service.present files p = true) ∨
    ∀ p, isAbsolute p = isAbsolute folder → names p = (names folder).dropLast → service.present files p = true

/- A folder on the way from the default folder to a file. -/
structure OnTheWay (folder name p : String) : Prop where
  absolute : isAbsolute p = isAbsolute folder
  below : ∃ rest, names p = names folder ++ rest ∧ rest <+: names name

section
variable {folder name p : String}

theorem onTheWayInside (stays : StaysIn name) (way : OnTheWay folder name p) : InFolder folder p := by
  obtain ⟨rest,whole,front⟩ := way.below
  refine ⟨way.absolute,?_⟩
  rw [whole]
  exact insideAppend _ _ (staysPrefix stays front)

theorem absoluteFull (some : folder ≠ "") : isAbsolute (folder ++ "/" ++ name) = isAbsolute folder := by
  have chars : folder.toList ≠ [] := fun none => some (String.toList_eq_nil_iff.mp none)
  unfold isAbsolute
  rw [String.toList_append,String.toList_append,List.append_assoc,List.head?_append_of_ne_nil _ chars]

theorem onTheWayFull (some : folder ≠ "") : OnTheWay folder name (folder ++ "/" ++ name) :=
  ⟨absoluteFull some,names name,namesAppend folder name,List.prefix_rfl⟩

/- The parent of a file of the folder. -/
theorem onTheWayParent (some : folder ≠ "") : OnTheWay folder name (parentPath (folder ++ "/" ++ name)) := by
  have chars : (folder ++ "/" ++ name).toList = folder.toList ++ '/' :: name.toList := by simp
  rcases lastSlash name.toList with plain | ⟨a,b,split,plain⟩
  · refine ⟨(parentAbsolute chars plain).trans (absoluteFull some),[],?_,List.nil_prefix⟩
    rw [parentNames chars plain,List.append_nil]
    rfl
  · have whole : (folder ++ "/" ++ name).toList = (folder.toList ++ '/' :: a) ++ '/' :: b := by
      rw [chars,split,List.append_assoc,List.cons_append]
    refine ⟨(parentAbsolute whole plain).trans (absoluteFull some),(namesOf a).map String.ofList,?_,?_⟩
    · rw [parentNames whole plain,namesOfAppend,List.map_append]
      rfl
    · rw [names,split,namesOfAppend,List.map_append]
      exact List.prefix_append _ _

theorem missingWithin {φ : Type} {service : FileService φ} {files : φ} {fuel : Nat} {missing found : List String}
    (here : FolderPresent service files folder) (stays : StaysIn name) (way : OnTheWay folder name p)
    (absent : service.present files p = false) (known : ∀ q ∈ missing, InFolder folder q)
    (result : missingFolders service files fuel p missing = some found) : ∀ q ∈ found, InFolder folder q := by
  induction fuel generalizing p missing with
  | zero =>
    cases result
    exact known
  | succ fuel ih =>
    rw [missingFolders] at result
    have pushed : ∀ q ∈ if fileName p = "." ∨ fileName p = ".." then missing else p :: missing, InFolder folder q := by
      split
      · exact known
      · intro q listed
        rcases List.mem_cons.mp listed with rfl | listed
        · exact onTheWayInside stays way
        · exact known q listed
    by_cases none : parentPath p = ""
    · rw [if_pos none] at result
      cases result
      exact pushed
    · rw [if_neg none] at result
      by_cases above : service.present files (parentPath p) = true
      · rw [if_pos above] at result
        split at result
        · cases result
          exact pushed
        · cases result
      · rw [if_neg above] at result
        refine ih ?_ (Bool.not_eq_true _ ▸ above) pushed result
        rcases lastSlash p.toList with plain | ⟨a,b,split,plain⟩
        · exact absurd (parentNone plain) none
        · obtain ⟨rest,whole,front⟩ := way.below
          have absolute := (parentAbsolute split plain).trans way.absolute
          refine ⟨absolute,?_⟩
          have parts : names p = names (parentPath p) ++ (namesOf b).map String.ofList := by
            rw [parentNames split plain,names,split,namesOfAppend,List.map_append]
          have short : ((namesOf b).map String.ofList).length ≤ 1 := by
            rw [List.length_map]
            exact namesOfPlain plain
          generalize (namesOf b).map String.ofList = last at parts short
          rw [whole] at parts
          rcases last with _ | ⟨x,_ | ⟨y,last⟩⟩
          · exact ⟨rest,by rw [parts,List.append_nil],front⟩
          · rcases List.eq_nil_or_concat rest with rfl | ⟨rest,y,rfl⟩
            · rw [List.append_nil] at parts whole
              rcases here with here | here
              · exact absurd (here p way.absolute whole) (by rw [absent]; decide)
              · exact absurd (here _ absolute (by rw [parts,List.dropLast_concat])) above
            · rw [List.concat_eq_append] at parts front
              rw [← List.append_assoc] at parts
              have same := (List.append_inj' parts rfl).1
              exact ⟨rest,same.symm,List.IsPrefix.trans (List.prefix_append _ _) front⟩
          · simp only [List.length_cons] at short
            omega

end

/-! What the commands change. -/

structure Safe {φ : Type} (folder : String) (s : ImageState φ) : Prop where
  same : s.defaultFolder = folder
  inside : ∀ c ∈ s.changes, ∀ p ∈ c.paths, InFolder folder p

def Kept {φ α : Type} (env : ImageEnv φ) (folder : String) (x : ImageEff φ α) : Prop :=
  ∀ s, Safe folder s → wp x env s (fun _ => Safe folder) fun _ => Safe folder

section
variable {φ α β : Type} {env : ImageEnv φ} {folder name p : String} {s : ImageState φ}

theorem keptPure (a : α) : Kept env folder (pure a : ImageEff φ α) := fun _ safe => safe

theorem keptFails (message : String) : Kept env folder (fails message : ImageEff φ α) := fun _ safe => safe

theorem keptBind {x : ImageEff φ α} {f : α → ImageEff φ β} (first : Kept env folder x) (then_ : ∀ a, Kept env folder (f a)) :
    Kept env folder (x >>= f) := by
  intro s safe
  rw [wpBind]
  exact wpMono (first s safe) (fun a t safe => then_ a t safe) fun _ _ safe => safe

theorem keptIte {c : Prop} [Decidable c] {x y : ImageEff φ α} (yes : c → Kept env folder x) (no : ¬c → Kept env folder y) :
    Kept env folder (if c then x else y) := by
  split
  · next holds => exact yes holds
  · next fails => exact no fails

theorem wpCaught {x : ImageEff φ α} {handle : ImageError → ImageEff φ α}
    (tried : wp x env s (fun _ => Safe folder) fun _ => Safe folder) (handled : ∀ e, Kept env folder (handle e)) :
    wp (tryCatch x handle) env s (fun _ => Safe folder) fun _ => Safe folder := by
  rw [wpTryCatch]
  exact wpMono tried (fun _ _ safe => safe) fun e t safe => handled e t safe

theorem wpQuery {f : FileService φ → φ → α} {Q : α → ImageState φ → Prop} {E : ImageError → ImageState φ → Prop} :
    wp (query f) env s Q E ↔ Q (f env.service s.files) s := Iff.rfl

theorem keptQuery (f : FileService φ → φ → α) : Kept env folder (query f) := fun _ safe => safe

theorem keptChange {c : FileChange} (inside : ∀ p ∈ c.paths, InFolder folder p) : Kept env folder (change c) := by
  intro s safe
  refine ⟨safe.same,fun d listed => ?_⟩
  rcases List.mem_append.mp listed with listed | listed
  · exact safe.inside d listed
  · rw [List.mem_singleton.mp listed]
    exact inside

theorem keptMustChange {c : FileChange} (inside : ∀ p ∈ c.paths, InFolder folder p) : Kept env folder (mustChange c) := by
  refine keptBind (keptChange inside) fun result => ?_
  cases result with
  | ok done => exact keptPure done
  | error text => exact fun _ safe => safe

theorem keptChangeOwner {readOnly : Bool} (inside : InFolder folder p) : Kept env folder (changeOwner p readOnly) := by
  have one : ∀ q ∈ [p], InFolder folder q := fun q listed => List.mem_singleton.mp listed ▸ inside
  refine keptBind (keptChange one) fun result => ?_
  cases result with
  | ok done => exact keptBind (keptMustChange one) fun _ => keptPure _
  | error text => exact keptBind (keptChange one) fun _ => keptFails _

theorem keptCreateAll {folders : List String} (inside : ∀ p ∈ folders, InFolder folder p) :
    Kept env folder (createAll folders) := by
  induction folders with
  | nil => exact keptPure _
  | cons p folders ih =>
    refine keptBind (keptMustChange fun q listed => List.mem_singleton.mp listed ▸ inside p List.mem_cons_self) fun _ => ?_
    exact ih fun q listed => inside q (List.mem_cons_of_mem _ listed)

/- Only the folders on the way to the file are created. -/
theorem wpCreateImageFolder (some : folder ≠ "") (stays : StaysIn name) (present : FolderPresent env.service s.files folder)
    (safe : Safe folder s) :
    wp (createImageFolder (folder ++ "/" ++ name)) env s (fun _ => Safe folder) fun _ => Safe folder := by
  have way : OnTheWay folder name _ := onTheWayParent some
  have inside := onTheWayInside stays way
  unfold createImageFolder
  simp only [wpIte,wpBind,wpPure,wpQuery]
  refine ⟨fun _ => ⟨fun _ => safe,fun absent => ?_⟩,fun _ => safe⟩
  refine wpCaught ?_ fun e => ?_
  · unfold createDirectories
    simp only [wpBind,wpIte,wpQuery,wpPure]
    refine ⟨fun _ => keptChangeOwner inside s safe,fun _ => ?_⟩
    cases found : missingFolders env.service s.files ((parentPath (folder ++ "/" ++ name)).length + 1)
        (parentPath (folder ++ "/" ++ name)) [] with
    | none => exact safe
    | some missing =>
      have within := missingWithin present stays way (Bool.not_eq_true _ ▸ absent) (fun _ wrong => absurd wrong List.not_mem_nil)
        found
      exact wpMono (keptCreateAll within s safe) (fun _ t safe => keptChangeOwner inside t safe) fun _ _ safe => safe
  · cases e <;> exact keptFails _

theorem wpFails {message : String} {Q : α → ImageState φ → Prop} {E : ImageError → ImageState φ → Prop} :
    wp (fails message) env s Q E ↔ E (.status message) s := Iff.rfl

theorem wpReserved {file op : String} {Q : Unit → ImageState φ → Prop} {E : ImageError → ImageState φ → Prop}
    (taken : ∀ e, E e s) (free : Q () s) : wp (isReservedFile file op) env s Q E := by
  unfold isReservedFile
  rw [wpBind,wpRead]
  cases env.reservedFiles file with
  | some unit => exact taken _
  | none => exact free

theorem fullName (safe : Safe folder s) (name : String) : getFullName s name = folder ++ "/" ++ name := by
  rw [getFullName,safe.same]

theorem fullNameInside (some : folder ≠ "") (stays : StaysIn name) : InFolder folder (folder ++ "/" ++ name) :=
  onTheWayInside stays (onTheWayFull some)

theorem one {q : String} (inside : InFolder folder p) (listed : q ∈ [p]) : InFolder folder q :=
  List.mem_singleton.mp listed ▸ inside

theorem two {q q' : String} (inside : InFolder folder p) (inside' : InFolder folder q) (listed : q' ∈ [p,q]) :
    InFolder folder q' := by
  rcases List.mem_cons.mp listed with rfl | listed
  · exact inside
  · exact one inside' listed

/- What a name that a command uses has to be: one that stays, unless it is rejected. -/
def Admitted (s : ImageState φ) (name : String) : Prop := checkDepth s name = true → StaysIn name

section
variable {params : List (String × String)} {op : String}

theorem createImageSafe (some : folder ≠ "") (present : FolderPresent env.service s.files folder)
    (admitted : Admitted s (getParam params "file")) (safe : Safe folder s) :
    wp (createImage params) env s (fun _ => Safe folder) fun _ => Safe folder := by
  unfold createImage isValidDstFilename
  simp only [wpBind,wpIte,wpGet,wpQuery,wpFails,fullName safe]
  refine ⟨fun _ => safe,fun _ => ⟨fun _ => safe,fun valid => ⟨fun _ => safe,fun _ => ⟨fun _ => safe,fun _ => ?_⟩⟩⟩⟩
  have stays := admitted (by simpa using valid)
  have inside := fullNameInside some stays
  cases stoull (getParam params "size") with
  | none => exact safe
  | some value =>
    simp only [wpIte,wpBind,wpFails]
    refine ⟨fun _ => safe,fun _ => ?_⟩
    refine wpMono (wpCreateImageFolder some stays present safe) (fun _ t safe => ?_) fun _ _ safe => safe
    refine wpCaught ?_ fun e => ?_
    · refine keptBind (keptChange fun _ => one inside) (fun _ => ?_) t safe
      exact keptBind (keptChangeOwner inside) fun _ => keptBind (keptMustChange fun _ => one inside) fun _ => keptPure _
    · cases e with
      | filesystemError text => exact keptBind (keptChange fun _ => one inside) fun _ => keptFails _
      | status message => exact keptFails _

theorem keptDeleteFolders (some : folder ≠ "") {fuel : Nat} (stays : StaysIn name) :
    Kept env folder (deleteFolders fuel name) := by
  induction fuel generalizing name with
  | zero => exact keptPure _
  | succ fuel ih =>
    intro s safe
    rw [deleteFolders]
    cases here : beforeLastSlash name with
    | none => exact safe
    | some above =>
      obtain ⟨rest,split⟩ := beforeLastSlashParts here
      have front : StaysIn above := by
        refine staysPrefix stays ⟨(namesOf rest).map String.ofList,?_⟩
        rw [names,names,split,namesOfAppend,List.map_append]
      simp only [wpBind,wpIte,wpGet,wpQuery,wpFails,fullName safe]
      refine ⟨fun _ => ?_,fun _ => safe⟩
      refine wpMono (keptMustChange (fun _ => one (fullNameInside some front)) s safe) (fun done t safe => ?_) fun _ _ safe => safe
      exact ⟨fun _ => safe,fun _ => ih front t safe⟩

theorem deleteImageSafe (some : folder ≠ "") (admitted : Admitted s (getParam params "file")) (safe : Safe folder s) :
    wp (deleteImage params) env s (fun _ => Safe folder) fun _ => Safe folder := by
  unfold deleteImage
  simp only [wpBind,wpIte,wpGet,wpQuery,wpFails,fullName safe]
  refine ⟨fun _ => safe,fun _ => ⟨fun _ => safe,fun valid => ⟨fun _ => safe,fun _ => ?_⟩⟩⟩
  have stays := admitted (by simpa using valid)
  have inside := fullNameInside some stays
  refine wpReserved (fun _ => safe) ?_
  have removed : Kept env folder (change (.remove (folder ++ "/" ++ getParam params "file"))) :=
    keptChange fun _ => one inside
  refine wpMono (removed s safe) (fun result t safe => ?_) fun _ _ safe => safe
  rcases result with text | done
  · exact safe
  · cases done with
    | false => exact safe
    | true => exact keptDeleteFolders some stays t safe

theorem validateParamsSafe (some : folder ≠ "") (present : FolderPresent env.service s.files folder)
    (source : Admitted s (getParam params "from")) (target : Admitted s (getParam params "to")) (safe : Safe folder s) :
    wp (validateParams params op) env s
      (fun names t => Safe folder t ∧ InFolder folder names.1 ∧ InFolder folder names.2) fun _ => Safe folder := by
  unfold validateParams isValidSrcFilename isValidDstFilename
  simp only [wpBind,wpIte,wpGet,wpQuery,wpFails,fullName safe]
  refine ⟨fun _ => safe,fun _ => ⟨fun _ => safe,fun valid => ⟨fun _ => safe,fun _ => ⟨fun _ => safe,fun valid' =>
    ⟨fun _ => safe,fun _ => ⟨fun _ => safe,fun _ => ?_⟩⟩⟩⟩⟩⟩
  have stays := source (by simpa using valid)
  have stays' := target (by simpa using valid')
  refine wpReserved (fun _ => safe) ?_
  refine wpMono (wpCreateImageFolder some stays' present safe) (fun _ t safe => ?_) fun _ _ safe => safe
  exact ⟨safe,fullNameInside some stays,fullNameInside some stays'⟩

theorem renameImageSafe (some : folder ≠ "") (present : FolderPresent env.service s.files folder)
    (source : Admitted s (getParam params "from")) (target : Admitted s (getParam params "to")) (safe : Safe folder s) :
    wp (renameImage params) env s (fun _ => Safe folder) fun _ => Safe folder := by
  unfold renameImage
  rw [wpBind]
  refine wpMono (validateParamsSafe some present source target safe) (fun names t known => ?_) fun _ _ safe => safe
  obtain ⟨safe,inside,inside'⟩ := known
  refine keptBind (keptChange fun _ => two inside inside') (fun result => ?_) t safe
  cases result with
  | ok done => exact keptPure _
  | error text => exact keptFails _

theorem copyImageSafe (some : folder ≠ "") (present : FolderPresent env.service s.files folder)
    (source : Admitted s (getParam params "from")) (target : Admitted s (getParam params "to")) (safe : Safe folder s) :
    wp (copyImage params) env s (fun _ => Safe folder) fun _ => Safe folder := by
  unfold copyImage
  rw [wpBind]
  refine wpMono (validateParamsSafe some present source target safe) (fun names t known => ?_) fun _ _ safe => safe
  obtain ⟨safe,inside,inside'⟩ := known
  refine keptBind (keptQuery _) (fun link => keptIte (fun _ => ?_) fun _ => ?_) t safe
  · refine keptBind (keptChange fun _ => two inside inside') fun result => ?_
    cases result with
    | ok done => exact keptPure _
    | error text => exact keptFails _
  · refine keptBind (keptChange fun _ => two inside inside') fun result => ?_
    cases result with
    | error text => exact keptFails _
    | ok done =>
      refine keptBind (keptChange fun _ => one inside') fun result => ?_
      cases result with
      | ok done => exact keptPure _
      | error text => exact keptFails _

theorem setImagePermissionsSafe {protect : Bool} (some : folder ≠ "") (admitted : Admitted s (getParam params "file"))
    (safe : Safe folder s) :
    wp (setImagePermissions params protect) env s (fun _ => Safe folder) fun _ => Safe folder := by
  unfold setImagePermissions isValidSrcFilename
  simp only [wpBind,wpIte,wpGet,wpQuery,wpFails,fullName safe]
  refine ⟨fun _ => safe,fun _ => ⟨fun _ => safe,fun valid => ⟨fun _ => safe,fun _ => ?_⟩⟩⟩
  have stays := admitted (by simpa using valid)
  have inside := fullNameInside some stays
  have changed : Kept env folder (change (.permissions (folder ++ "/" ++ getParam params "file") protect)) :=
    keptChange fun _ => one inside
  refine ⟨fun _ => wpReserved (fun _ => safe) ?_,fun _ => ?_⟩ <;>
  · refine wpMono (changed s safe) (fun result t safe => ?_) fun _ _ safe => safe
    cases result <;> exact safe

end
end

/-! Commands, one after the other. -/

/- An absolute path without names for the folder above. -/
structure HomeDir where
  path : String
  absolute : isAbsolute path = true
  plain : ".." ∉ names path

structure ImageServer (φ : Type) where
  service : FileService φ
  home : HomeDir

/- A command, with the files that are in use, or a change of the files by other programs. -/
inductive ImageAction (φ : Type) where
  | command (reservedFiles : String → Option (Int × Nat)) (command : PbCommand)
  | files (files : φ)

namespace ImageServer

variable {φ : Type}

def env (server : ImageServer φ) (reservedFiles : String → Option (Int × Nat)) : ImageEnv φ :=
  ⟨server.service,server.home.path,reservedFiles⟩

def start (server : ImageServer φ) (files : φ) (depth : Int) : ImageState φ :=
  { files, depth, defaultFolder := server.home.path ++ "/images" }

/- The changes recorded are those of the last command. -/
def step (server : ImageServer φ) (s : ImageState φ) : ImageAction φ → ImageState φ
  | .command reservedFiles command => (dispatch command (server.env reservedFiles) { s with changes := [] }).2
  | .files files => { s with files, changes := [] }

def run (server : ImageServer φ) (s : ImageState φ) (actions : List (ImageAction φ)) : ImageState φ :=
  actions.foldl server.step s

def homeRoot (server : ImageServer φ) : String := parentPath server.home.path

structure Secure (server : ImageServer φ) (s : ImageState φ) : Prop where
  folder : InFolder server.homeRoot s.defaultFolder
  changes : ∀ c ∈ s.changes, ∀ p ∈ c.paths, InFolder s.defaultFolder p

def namedFolder (server : ImageServer φ) (f : String) : String :=
  if isAbsolute f then f else server.home.path ++ "/" ++ f

/- The folder of a DEFAULT_FOLDER that is not rejected: what it names is inside, not only
its text begins like that of a path inside, and so is what a link stands for. -/
def CarefulFolder (server : ImageServer φ) (files : φ) (f : String) : Prop :=
  PropertyMap.startsWith (server.namedFolder f) server.homeRoot = true →
    InFolder server.homeRoot
      (if server.service.isSymlink files (server.namedFolder f) then server.service.readSymlink files (server.namedFolder f)
        else server.namedFolder f)

/- A name that may need folders. -/
def CarefulTarget (server : ImageServer φ) (s : ImageState φ) (name : String) : Prop :=
  Admitted s name ∧ FolderPresent server.service s.files s.defaultFolder

def Careful (server : ImageServer φ) (s : ImageState φ) : ImageAction φ → Prop
  | .files _ => True
  | .command _ command => match command.operation with
    | .defaultFolder => server.CarefulFolder s.files (getParam command.params "folder")
    | .createImage => server.CarefulTarget s (getParam command.params "file")
    | .deleteImage | .protectImage | .unprotectImage => Admitted s (getParam command.params "file")
    | .renameImage | .copyImage =>
      Admitted s (getParam command.params "from") ∧ server.CarefulTarget s (getParam command.params "to")
    | _ => True

def CarefulRun (server : ImageServer φ) (s : ImageState φ) : List (ImageAction φ) → Prop
  | [] => True
  | action::rest => server.Careful s action ∧ server.CarefulRun (server.step s action) rest

section
variable {server : ImageServer φ} {s : ImageState φ}

theorem homeParts (server : ImageServer φ) : isAbsolute server.homeRoot = true ∧
    ∃ last, names server.home.path = names server.homeRoot ++ last := by
  have absolute := server.home.absolute
  rcases lastSlash server.home.path.toList with plain | ⟨a,b,split,plain⟩
  · exact absurd (List.mem_of_mem_head? (of_decide_eq_true absolute)) plain
  · refine ⟨(parentAbsolute split plain).trans absolute,(namesOf b).map String.ofList,?_⟩
    rw [homeRoot,parentNames split plain,names,split,namesOfAppend,List.map_append]

theorem startSecure (server : ImageServer φ) (files : φ) (depth : Int) : server.Secure (server.start files depth) := by
  obtain ⟨absolute,last,whole⟩ := homeParts server
  have some : server.home.path ≠ "" := by
    intro none
    have absolute := server.home.absolute
    rw [none] at absolute
    exact absurd absolute (by decide)
  have split : (server.start files depth).defaultFolder = server.home.path ++ "/" ++ "images" := by
    have literal : "/images" = "/" ++ "images" := by decide
    rw [start,literal,String.append_assoc]
  have name : names "images" = ["images"] := by decide +kernel
  refine ⟨⟨?_,?_⟩,fun c listed => absurd listed List.not_mem_nil⟩
  · rw [split,absolute,absoluteFull some]
    exact server.home.absolute
  · rw [split,namesAppend,whole,List.append_assoc,name]
    refine insideAppend _ _ (staysPlain fun listed => ?_)
    rcases List.mem_append.mp listed with listed | listed
    · exact server.home.plain (by rw [whole]; exact List.mem_append_right _ listed)
    · exact absurd (List.mem_singleton.mp listed) (by decide)

theorem someFolder (secure : server.Secure s) : s.defaultFolder ≠ "" := by
  intro none
  have absolute := secure.folder.1
  rw [none,(homeParts server).1] at absolute
  exact absurd absolute (by decide)

theorem setDefaultFolderSecure (reservedFiles : String → Option (Int × Nat)) {f : String} (secure : server.Secure s)
    (careful : server.CarefulFolder s.files f) :
    wp (setDefaultFolder f) (server.env reservedFiles) { s with changes := [] } (fun _ => server.Secure) fun _ => server.Secure := by
  have kept : server.Secure { s with changes := [] } := ⟨secure.folder,fun c listed => absurd listed List.not_mem_nil⟩
  unfold setDefaultFolder
  simp only [wpBind,wpIte,wpFails,wpRead,wpQuery,wpModify]
  refine ⟨fun _ => kept,fun _ => ⟨fun _ => kept,fun inside => ⟨fun _ => kept,fun _ => ?_⟩⟩⟩
  refine ⟨careful ?_,fun c listed => absurd listed List.not_mem_nil⟩
  by_contra outside
  exact inside (congrArg (! ·) (Bool.not_eq_true _ ▸ outside))

theorem stepSecure {action : ImageAction φ} (secure : server.Secure s) (careful : server.Careful s action) :
    server.Secure (server.step s action) := by
  cases action with
  | files files => exact ⟨secure.folder,fun c listed => absurd listed List.not_mem_nil⟩
  | command reservedFiles command =>
    have some := someFolder secure
    have safe : Safe s.defaultFolder { s with changes := [] } := ⟨rfl,fun c listed => absurd listed List.not_mem_nil⟩
    have settled {x : ImageEff φ Unit}
        (known : wp x (server.env reservedFiles) { s with changes := [] } (fun _ => Safe s.defaultFolder)
          fun _ => Safe s.defaultFolder) :
        server.Secure (x (server.env reservedFiles) { s with changes := [] }).2 := by
      unfold wp at known
      split at known <;>
      · next result t same =>
        rw [same]
        exact ⟨by rw [known.same]; exact secure.folder,by rw [known.same]; exact known.inside⟩
    simp only [Careful] at careful
    simp only [step,dispatch]
    cases operation : command.operation <;> simp only [operation] at careful ⊢
    case createImage => exact settled (createImageSafe some careful.2 careful.1 safe)
    case deleteImage => exact settled (deleteImageSafe some careful safe)
    case renameImage => exact settled (renameImageSafe some careful.2.2 careful.1 careful.2.1 safe)
    case copyImage => exact settled (copyImageSafe some careful.2.2 careful.1 careful.2.1 safe)
    case protectImage => exact settled (setImagePermissionsSafe some careful safe)
    case unprotectImage => exact settled (setImagePermissionsSafe some careful safe)
    case defaultFolder =>
      have known := setDefaultFolderSecure reservedFiles secure careful
      unfold wp at known
      split at known <;>
      · next result t same =>
        rw [same]
        exact known
    all_goals exact settled (keptPure () _ safe)

theorem runSecure {actions : List (ImageAction φ)} (secure : server.Secure s) (careful : server.CarefulRun s actions) :
    ∀ before after, actions = before ++ after → server.Secure (server.run s before) := by
  induction actions generalizing s with
  | nil =>
    intro before after split
    rw [(List.append_eq_nil_iff.mp split.symm).1]
    exact secure
  | cons action actions ih =>
    intro before after split
    cases before with
    | nil => exact secure
    | cons first before =>
      rw [List.cons_append] at split
      obtain ⟨rfl,rest⟩ := List.cons.inj split
      exact ih (stepSecure secure careful.1) careful.2 before after rest

end

/- Whatever the files are: if no name climbs out of the folder it is for, and the default
folder is not missing, all changes are inside the default folder, and it is inside the
parent of the home folder. -/
theorem imagesInFolder (server : ImageServer φ) (files : φ) (depth : Int) (actions : List (ImageAction φ))
    (careful : server.CarefulRun (server.start files depth) actions) (before after : List (ImageAction φ))
    (split : actions = before ++ after) : server.Secure (server.run (server.start files depth) before) :=
  runSecure (startSecure server files depth) careful before after split

/-! Files without links, given by the names of their paths. -/

abbrev PlainFiles := List (List String)

def normalNames (p : String) : List String := normal "." ".." true (names p)

def isFolder (files : PlainFiles) (p : String) : Bool :=
  files.any fun file => decide (normalNames p <+: file) && decide (normalNames p ≠ file)

/- Folders are those of the files, and there is no empty one. -/
def plainService : FileService PlainFiles where
  present files p := decide (normalNames p ∈ files) || isFolder files p
  isDirectory := isFolder
  isRegularFile files p := decide (normalNames p ∈ files)
  isSymlink _ _ := false
  isEmpty _ _ := false
  readSymlink _ _ := ""
  change files c := match c with
    | .createFile p => (.ok true,normalNames p :: files)
    | .remove p => if normalNames p ∈ files then (.ok true,files.erase (normalNames p)) else (.ok false,files)
    | .rename source target => (.ok true,normalNames target :: files.erase (normalNames source))
    | .copyFile _ target | .copySymlink _ target => (.ok true,normalNames target :: files)
    | .createDirectory _ | .resizeFile .. | .changeOwner _ | .permissions .. => (.ok true,files)

def plainServer : ImageServer PlainFiles where
  service := plainService
  home := ⟨"/home/pi",by decide,by decide +kernel⟩

def twoFiles : PlainFiles := [["home","pi","images","disk.hds"],["home","pi","notes"]]

def deleteCommand (filename : String) : ImageAction PlainFiles :=
  .command (fun _ => none) { operation := .deleteImage, params := [("file",filename)] }

def createCommand (filename : String) : ImageAction PlainFiles :=
  .command (fun _ => none) { operation := .createImage, params := [("file",filename),("size","512")] }

/- An image is created in a subfolder, and another one is deleted. -/
theorem createDeleteInFolder :
    plainServer.Secure (plainServer.run (plainServer.start twoFiles 1) [createCommand "new/disk.hds",deleteCommand "disk.hds"]) := by
  refine imagesInFolder plainServer twoFiles 1 [createCommand "new/disk.hds",deleteCommand "disk.hds"] ⟨⟨fun _ => ?_,.inl fun p _ same => ?_⟩,fun _ => ?_,trivial⟩ _ []
    (List.append_nil _).symm
  · decide +kernel
  · have folder : names (plainServer.start twoFiles 1).defaultFolder = ["home","pi","images"] := by decide +kernel
    have there : isFolder twoFiles "/home/pi/images" = true := by decide +kernel
    have normal : normalNames p = normalNames "/home/pi/images" := by
      unfold normalNames
      rw [same,folder]
      decide +kernel
    change (decide (normalNames p ∈ twoFiles) || isFolder twoFiles p) = true
    unfold isFolder at there ⊢
    rw [normal,there,Bool.or_true]
  · decide +kernel

/- A file of the home folder is deleted. -/
theorem parentFileDeleted : ¬∀ (φ : Type) (server : ImageServer φ) (files : φ) (depth : Int) (actions before after : List (ImageAction φ)),
    actions = before ++ after → server.Secure (server.run (server.start files depth) before) := by
  intro claimed
  have secure := claimed PlainFiles plainServer twoFiles 1 _ [deleteCommand "../notes"] [] rfl
  have changes : (plainServer.run (plainServer.start twoFiles 1) [deleteCommand "../notes"]).changes =
      [.remove "/home/pi/images/../notes"] := by decide +kernel
  have folder : (plainServer.run (plainServer.start twoFiles 1) [deleteCommand "../notes"]).defaultFolder =
      "/home/pi/images" := by decide +kernel
  have inside := secure.changes (.remove "/home/pi/images/../notes") (by rw [changes]; exact List.mem_cons_self)
    "/home/pi/images/../notes" List.mem_cons_self
  rw [folder] at inside
  exact absurd inside (by decide +kernel)

end ImageServer
end ImageFolder
end Scsi2Pi
