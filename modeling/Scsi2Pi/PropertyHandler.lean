import Scsi2Pi.S2pUtil

/-! The properties: a sorted map of keys and values, the lines of the property
file, and the properties that nobody has asked for yet. -/
namespace Scsi2Pi
open S2pUtil

/- In ascending order of the keys. -/
abbrev PropertyMap := List (String × String)

namespace PropertyMap

def set (key value : String) : PropertyMap → PropertyMap
  | [] => [(key,value)]
  | (k,v)::rest =>
    if key < k then (key,value)::(k,v)::rest
    else if key = k then (key,value)::rest
    else (k,v)::set key value rest

def startsWith (key filter : String) : Bool := filter.toList.isPrefixOf key.toList

end PropertyMap

structure PropertyHandler where
  propertyCache : PropertyMap := []
  unknownProperties : PropertyMap := []
  deriving DecidableEq, Repr

namespace PropertyHandler
open PropertyMap

def getProperties (p : PropertyHandler) (filter : String) : PropertyMap :=
  if filter.isEmpty then p.propertyCache else p.propertyCache.filter fun entry => startsWith entry.1 filter

def addProperty (p : PropertyHandler) (key value : String) : PropertyHandler :=
  { propertyCache := p.propertyCache.set key value
    unknownProperties := p.unknownProperties.set key value }

/- The value of a property that is known from now on. -/
def removeProperty (p : PropertyHandler) (key defaultValue : String) : String × PropertyHandler :=
  match p.propertyCache.lookup key with
  | some value => (value,{ p with unknownProperties := p.unknownProperties.filter (·.1 ≠ key) })
  | none => (defaultValue,p)

def removeProperties (p : PropertyHandler) (filter : String) : PropertyHandler :=
  { p with unknownProperties := p.unknownProperties.filter fun entry => !startsWith entry.1 filter }

/-! The property file. -/

def line (entry : String × String) : String := entry.1 ++ "=" ++ entry.2 ++ "\n"

/- The text of the property file that Persist writes. -/
def persist (p : PropertyHandler) : String := String.join ((p.getProperties "").map line)

def parseLine (properties : PropertyMap) (text : String) : Except String PropertyMap :=
  if text.isEmpty || startsWith text "#" then .ok properties
  else match splitLimit text '=' 2 with
    | key::value::_ => .ok (properties.set key value)
    | _ => .error s!"Invalid property '{text}'"

def parsePropertyFile (properties : PropertyMap) (text : String) : Except String PropertyMap :=
  (split text '\n').foldlM parseLine properties

/- An explicit LUN is added to the keys of device properties without one. -/
def normalize (key : String) : String :=
  match split key '.' with
  | [first,second,third] =>
    if startsWith key "device." && !key.toList.contains ':' then first ++ "." ++ second ++ ":0." ++ third else key
  | _ => key

/- Init with the text of the global property file, without further files and properties. -/
def init (text : String) : Except String PropertyHandler := do
  let properties ← parsePropertyFile [] text
  let added := properties.foldl (fun (p : PropertyHandler) (key,value) => p.addProperty (normalize key) value) {}
  return added.removeProperties "mode_page."

end PropertyHandler
end Scsi2Pi
