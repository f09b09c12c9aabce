import Mathlib.Data.List.DropRight
import Scsi2Pi.Effect
import Scsi2Pi.PropertyHandler
import Scsi2Pi.S2pInterface
import Scsi2Pi.S2pUtil

/-! CommandImageSupport: the default folder and the commands for image files. What the
files of the computer are is left open, and each change a command makes is recorded. -/
namespace Scsi2Pi

/-! Path names as texts. -/

namespace PathName

def isAbsolute (p : String) : Bool := p.toList.head? = some '/'

def namesOf (text : List Char) : List (List Char) := (text.splitOn '/').filter (· ≠ [])

/- The names between the slashes. -/
def names (p : String) : List String := (namesOf p.toList).map String.ofList

/- The last name is dropped, with the slashes in front of it. -/
def parentPath (p : String) : String :=
  let front := (p.toList.rdropWhile (· ≠ '/')).rdropWhile (· = '/')
  if front = [] ∧ isAbsolute p then "/" else String.ofList front

def fileName (p : String) : String := String.ofList (p.toList.rtakeWhile (· ≠ '/'))

/- The text in front of the last slash. -/
def beforeLastSlash (p : String) : Option String :=
  if '/' ∈ p.toList then some (String.ofList (p.toList.rdropWhile (· ≠ '/')).dropLast) else none

end PathName

/- What a command changes. Write access can be taken away. -/
inductive FileChange where
  | createDirectory (path : String)
  | createFile (path : String)
  | resizeFile (path : String) (size : Int)
  | changeOwner (path : String)
  | permissions (path : String) (readOnly : Bool)
  | remove (path : String)
  | rename (source target : String)
  | copyFile (source target : String)
  | copySymlink (source target : String)
  deriving DecidableEq, Repr

def FileChange.paths : FileChange → List String
  | .createDirectory path | .createFile path | .resizeFile path _ | .changeOwner path | .permissions path _
  | .remove path => [path]
  | .rename source target | .copyFile source target | .copySymlink source target => [source,target]

/- The functions of the operating system. A change that fails has an error text, and it may
have nothing to do. -/
structure FileService (φ : Type) where
  present : φ → String → Bool
  isDirectory : φ → String → Bool
  isRegularFile : φ → String → Bool
  isSymlink : φ → String → Bool
  isEmpty : φ → String → Bool
  readSymlink : φ → String → String
  change : φ → FileChange → Except String Bool × φ

structure ImageEnv (φ : Type) where
  service : FileService φ
  home : String := "/home/pi"
  reservedFiles : String → Option (Int × Nat) := fun _ => none

structure ImageState (φ : Type) where
  files : φ
  defaultFolder : String
  depth : Int := 1
  changes : List FileChange := []

/- An error status, or an exception of the file system that is not handled there. -/
inductive ImageError where
  | status (message : String)
  | filesystemError (text : String)
  deriving DecidableEq, Repr

abbrev ImageEff (φ α : Type) := Eff (ImageEnv φ) (ImageState φ) ImageError α

namespace CommandImageSupport
open PathName

variable {φ : Type}

def query {α : Type} (f : FileService φ → φ → α) : ImageEff φ α := do return f (← read).service (← get).files

def fails {α : Type} (message : String) : ImageEff φ α := throw (.status message)

def change (c : FileChange) : ImageEff φ (Except String Bool) := do
  let (result,files) := (← read).service.change (← get).files c
  modify fun s => { s with files, changes := s.changes ++ [c] }
  return result

/- The functions without an error code throw. -/
def mustChange (c : FileChange) : ImageEff φ Bool := do
  match ← change c with
  | .ok done => return done
  | .error text => throw (.filesystemError text)

def checkDepth (s : ImageState φ) (filename : String) : Bool := filename.toList.count '/' ≤ s.depth

def getFullName (s : ImageState φ) (filename : String) : String := s.defaultFolder ++ "/" ++ filename

def changeOwner (filename : String) (readOnly : Bool) : ImageEff φ Unit := do
  match ← change (.changeOwner filename) with
  | .error text =>
    let _ ← change (.remove filename)
    fails s!"Can't change ownership of '{filename}': {text}"
  | .ok _ =>
    let _ ← mustChange (.permissions filename readOnly)

/- The folders that are missing, the uppermost one first. There is none if there is a file
in the place of a folder above them. -/
def missingFolders (service : FileService φ) (files : φ) : Nat → String → List String → Option (List String)
  | 0, _, missing => some missing
  | fuel+1, folder, missing =>
    let missing := if fileName folder = "." ∨ fileName folder = ".." then missing else folder :: missing
    let above := parentPath folder
    if above = "" then some missing
    else if service.present files above then if service.isDirectory files above then some missing else none
    else missingFolders service files fuel above missing

def createAll : List String → ImageEff φ Unit
  | [] => return
  | folder :: folders => do
    let _ ← mustChange (.createDirectory folder)
    createAll folders

def createDirectories (folder : String) : ImageEff φ Unit := do
  if ← query fun service files => service.isDirectory files folder then return
  match ← query fun service files => missingFolders service files (folder.length + 1) folder [] with
  | some missing => createAll missing
  | none => throw (.filesystemError "Not a directory")

def createImageFolder (filename : String) : ImageEff φ Unit := do
  let folder := parentPath filename
  if folder ≠ "" then
    if ← query fun service files => service.present files folder then return
    try
      createDirectories folder
      changeOwner folder false
    catch e =>
      match e with
      | .filesystemError text => fails s!"Can't create image folder '{folder}': {text}"
      | .status message => fails message

/- The folder may be relative to the home folder. There is a message if it is not accepted. -/
def setDefaultFolder (f : String) : ImageEff φ Unit := do
  if f = "" then fails "Missing default folder name"
  let home := (← read).home
  let folder := if isAbsolute f then f else home ++ "/" ++ f
  let homeRoot := parentPath home
  if !PropertyMap.startsWith folder homeRoot then fails s!"Default image folder must be located in '{homeRoot}'"
  let folder ← query fun service files =>
    if service.isSymlink files folder then service.readSymlink files folder else folder
  if !(← query fun service files => service.isDirectory files folder) then
    fails s!"'{folder}' is not a valid image folder"
  modify fun s => { s with defaultFolder := folder }

def isReservedFile (file op : String) : ImageEff φ Unit := do
  match (← read).reservedFiles file with
  | some (id,lun) => fails s!"Can't {op} image file '{file}', it is currently being used by device {id}:{lun}"
  | none => return

def isValidSrcFilename (filename : String) : ImageEff φ Bool :=
  query fun service files => service.isRegularFile files filename || service.isSymlink files filename

def isValidDstFilename (filename : String) : ImageEff φ Bool :=
  query fun service files => !service.present files filename

/- stoull: blanks, a sign, and the digits that follow. A negative number wraps. -/
def stoull (text : String) : Option Nat :=
  let chars := text.toList.dropWhile Char.isWhitespace
  let negative := chars.head? = some '-'
  let unsigned := if negative ∨ chars.head? = some '+' then chars.tail else chars
  let digits := unsigned.takeWhile Char.isDigit
  let value := S2pUtil.digitsValue digits
  if digits = [] ∨ 2^64 ≤ value then none else some (if negative then (2^64 - value) % 2^64 else value)

/- An off_t. -/
def offset (value : Nat) : Int := if 2^63 ≤ value then value - 2^64 else value

def createImage (params : List (String × String)) : ImageEff φ Unit := do
  let filename := getParam params "file"
  if filename = "" then fails "Missing image filename"
  if !checkDepth (← get) filename then fails s!"Invalid folder hierarchy depth '{filename}'"
  let fullFilename := getFullName (← get) filename
  if !(← isValidDstFilename fullFilename) then fails s!"Can't create image file '{fullFilename}': File already exists"
  let size := getParam params "size"
  if size = "" then fails s!"Can't create image file '{fullFilename}': Missing file size"
  match stoull size with
  | none => fails s!"Can't create image file '{fullFilename}': Invalid file size: {size}"
  | some value =>
    let len := offset value
    if len < 512 ∨ len % 512 ≠ 0 then fails s!"Invalid image file size: {len} (not a multiple of 512)"
    createImageFolder fullFilename
    try
      let _ ← change (.createFile fullFilename)
      changeOwner fullFilename (getParam params "read_only" = "true")
      let _ ← mustChange (.resizeFile fullFilename len)
    catch e =>
      match e with
      | .filesystemError text =>
        let _ ← change (.remove fullFilename)
        fails s!"Can't create image file '{fullFilename}': {text}"
      | .status message => fails message

/- The folders of a deleted file, as long as they are empty. -/
def deleteFolders : Nat → String → ImageEff φ Unit
  | 0, _ => return
  | fuel+1, filename =>
    match beforeLastSlash filename with
    | none => return
    | some folder => do
      let fullFolder := getFullName (← get) folder
      if ← query fun service files => service.isEmpty files fullFolder then
        if !(← mustChange (.remove fullFolder)) then fails s!"Can't delete empty image folder '{fullFolder}'"
        deleteFolders fuel folder

def deleteImage (params : List (String × String)) : ImageEff φ Unit := do
  let filename := getParam params "file"
  if filename = "" then fails "Missing image filename"
  if !checkDepth (← get) filename then fails s!"Invalid folder hierarchy depth '{filename}'"
  let fullFilename := getFullName (← get) filename
  if !(← query fun service files => service.present files fullFilename) then
    fails s!"Image file '{fullFilename}' does not exist"
  isReservedFile fullFilename "delete"
  match ← change (.remove fullFilename) with
  | .ok true => deleteFolders filename.length filename
  | _ => fails s!"Can't delete image file '{fullFilename}'"

/- The full names of the source and of the target. -/
def validateParams (params : List (String × String)) (op : String) : ImageEff φ (String × String) := do
  let source := getParam params "from"
  if source = "" then fails s!"Can't {op} image file: Missing source filename"
  if !checkDepth (← get) source then fails s!"Invalid folder hierarchy depth '{source}'"
  let target := getParam params "to"
  if target = "" then fails s!"Can't {op} image file '{source}': Missing destination filename"
  if !checkDepth (← get) target then fails s!"Invalid folder hierarchy depth '{target}'"
  let source := getFullName (← get) source
  if !(← isValidSrcFilename source) then fails s!"Can't {op} image file: '{source}': Invalid name or type"
  let target := getFullName (← get) target
  if !(← isValidDstFilename target) then fails s!"Can't {op} image file '{source}' to '{target}': File already exists"
  isReservedFile source op
  createImageFolder target
  return (source,target)

def renameImage (params : List (String × String)) : ImageEff φ Unit := do
  let (source,target) ← validateParams params "rename/move"
  match ← change (.rename source target) with
  | .ok _ => return
  | .error text => fails s!"Can't rename/move image file '{source}': {text}"

def copyImage (params : List (String × String)) : ImageEff φ Unit := do
  let (source,target) ← validateParams params "copy"
  if ← query fun service files => service.isSymlink files source then
    match ← change (.copySymlink source target) with
    | .ok _ => return
    | .error text => fails s!"Can't copy image file symlink '{source}': {text}"
  else
    match ← change (.copyFile source target) with
    | .error text => fails s!"Can't copy image file '{source}': {text}"
    | .ok _ =>
      match ← change (.permissions target (getParam params "read_only" = "true")) with
      | .ok _ => return
      | .error text => fails s!"Can't copy image file '{source}': {text}"

def setImagePermissions (params : List (String × String)) (protect : Bool) : ImageEff φ Unit := do
  let filename := getParam params "file"
  if filename = "" then fails "Missing image filename"
  if !checkDepth (← get) filename then fails s!"Invalid folder hierarchy depth '{filename}'"
  let fullFilename := getFullName (← get) filename
  if !(← isValidSrcFilename fullFilename) then fails s!"Can't modify image file '{fullFilename}': Invalid name or type"
  if protect then isReservedFile fullFilename "protect"
  match ← change (.permissions fullFilename protect) with
  | .ok _ => return
  | .error text =>
    let op := if protect then "protect" else "unprotect"
    fails s!"Can't {op} image file '{fullFilename}': {text}"

/- The commands the dispatcher gives to CommandImageSupport. -/
def dispatch (command : PbCommand) : ImageEff φ Unit :=
  match command.operation with
  | .defaultFolder => setDefaultFolder (getParam command.params "folder")
  | .createImage => createImage command.params
  | .deleteImage => deleteImage command.params
  | .renameImage => renameImage command.params
  | .copyImage => copyImage command.params
  | .protectImage => setImagePermissions command.params true
  | .unprotectImage => setImagePermissions command.params false
  | _ => return

end CommandImageSupport
end Scsi2Pi
