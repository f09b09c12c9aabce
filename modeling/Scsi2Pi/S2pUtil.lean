import Scsi2Pi.MachineInt

/-! The text functions of the utilities: components, numbers and file extensions.
They work on the characters of a string. -/
namespace Scsi2Pi.S2pUtil

def componentSeparator : Char := ':'
def keyValueSeparator : Char := '='

/- What getline extracts, and what it leaves: nothing if it reached the end. -/
def getline (separator : Char) (text : List Char) : List Char × Option (List Char) :=
  (text.takeWhile (· ≠ separator),(text.dropWhile (· ≠ separator)).tail?)

/- After the last component that getline may extract, the rest of the line is one more. -/
def splitChars (separator : Char) : Nat → List Char → List (List Char)
  | 0, text => [text.takeWhile (· ≠ '\n')]
  | n+1, text =>
    if text = [] then []
    else match getline separator text with
      | (component,none) => [component]
      | (component,some rest) => component :: splitChars separator n rest

def splitLimit (text : String) (separator : Char) (limit : Nat) : List String :=
  (splitChars separator (limit-1) text.toList).map String.ofList

/- There are never more components than characters. -/
def split (text : String) (separator : Char) : List String := splitLimit text separator (text.length+2)

/- An empty text before it leaves a component without separator. -/
def join (separator : String) (texts : List String) : String :=
  texts.foldl (fun text component => (if text.isEmpty then text else text ++ separator) ++ component) ""

def toLower (text : List Char) : List Char := text.map Char.toLower
def toUpper (text : List Char) : List Char := text.map Char.toUpper

def trimChars (text : List Char) : List Char :=
  let blank := fun c : Char => c = ' ' || c = '\r'
  ((text.dropWhile blank).reverse.dropWhile blank).reverse

def trim (text : String) : String := String.ofList (trimChars text.toList)

def digitsValue (digits : List Char) : Nat := digits.foldl (fun value c => value * 10 + (c.toNat - '0'.toNat)) 0

/- stoul reads the first number, and the result is narrowed. -/
def parseAsUnsignedInt (value : String) : Int :=
  if value.toList.any fun c => c ≠ ' ' && !c.isDigit then -1
  else
    let digits := (value.toList.dropWhile (· = ' ')).takeWhile Char.isDigit
    if digits = [] ∨ 2^64 ≤ digitsValue digits then -1 else int32 (digitsValue digits)

/- The name behind the last slash; a leading dot starts no extension. -/
def getExtensionLowerCase (filename : String) : String :=
  let file := (filename.toList.reverse.takeWhile (· ≠ '/')).reverse
  let suffix := (file.reverse.takeWhile (· ≠ '.')).reverse
  if file = ['.','.'] ∨ file.length ≤ suffix.length + 1 then "" else String.ofList (toLower suffix)

/- The id and the LUN, -1 without one, or an error. -/
def parseIdAndLun (idSpec : String) : Except String (Int × Int) :=
  match splitLimit idSpec componentSeparator 2 with
  | [] => .error "Missing device ID"
  | first::rest =>
    let id := parseAsUnsignedInt first
    if id = -1 ∨ 7 < id then .error s!"Invalid device ID: '{first}' (0-7)"
    else match rest with
      | [] => .ok (id,-1)
      | second::_ =>
        let lun := parseAsUnsignedInt second
        if lun = -1 ∨ 32 ≤ lun then .error "Invalid LUN (0-31)" else .ok (id,lun)

end Scsi2Pi.S2pUtil
