import Scsi2Pi.Effect
import Scsi2Pi.Scsi
import Scsi2Pi.S2pUtil

/-! S2pExec: commands are read line by line, parsed like a command line and executed. What is
done with received data is left out. -/
namespace Scsi2Pi

abbrev HexText := List Char

namespace S2pUtil

def hexToDec (c : Char) : Option Nat :=
  if '0' ≤ c ∧ c ≤ '9' then some (c.toNat - '0'.toNat)
  else if 'a' ≤ c ∧ c ≤ 'f' then some (c.toNat - 'a'.toNat + 10)
  else none

def hexPair (high low : Char) : Option UInt8 := do
  return UInt8.ofNat ((← hexToDec high) * 16 + (← hexToDec low))

/- A colon in front of two digits is skipped. -/
def hexDigits : HexText → Option (List UInt8)
  | [] => some []
  | [_] => none
  | ':'::high::low::rest => do return (← hexPair high low) :: (← hexDigits rest)
  | high::low::rest => do return (← hexPair high low) :: (← hexDigits rest)

def hexLine (line : HexText) : Option (List UInt8) :=
  if line.head? = some ':' ∨ line.getLast? = some ':' then none else hexDigits (toLower line)

/- What successive calls of getline extract: behind the last line end there is no line. -/
def inputLines (text : List Char) : List (List Char) :=
  let lines := text.splitOn '\n'
  if lines.getLast? = some [] then lines.dropLast else lines

def hexToBytes (hex : HexText) : Option (List UInt8) := do
  return (← (inputLines hex).mapM hexLine).flatten

/- A text up to a comment. An empty result means that there is no more input. -/
def getLine (input : List Char) : List (List Char) → List Char × List (List Char)
  | [] => ([],[])
  | text::rest =>
    let line := (trimChars text).takeWhile (· ≠ '#')
    if line = "exit".toList ∨ line = "quit".toList then ([],rest)
    else if line ≠ [] ∧ line.getLast? ≠ some '\\' then (input ++ line,rest)
    else getLine (input ++ line.dropLast) rest

end S2pUtil

/-! getopt_long. -/

namespace GetOpt

/- An option with a character for it, and whether it has an argument. -/
structure LongOption where
  name : String
  required : Bool
  val : Char

structure OptionSet where
  short : List (Char × Bool)
  long : List LongOption

/- The name may be abbreviated as long as it is not ambiguous. -/
def findLong (options : OptionSet) (name : List Char) : Option LongOption :=
  match options.long.find? fun o => o.name.toList = name with
  | some o => some o
  | none => match options.long.filter fun o => name.isPrefixOf o.name.toList with
    | [o] => some o
    | _ => none

/- The options in one element of the command line, and the one that waits for its argument. -/
def cluster (options : OptionSet) : List Char → List (Char × List Char) × Option Char
  | [] => ([],none)
  | c::rest => match options.short.lookup c with
    | none => let (found,pending) := cluster options rest; (('?',[]) :: found,pending)
    | some false => let (found,pending) := cluster options rest; ((c,[]) :: found,pending)
    | some true => if rest = [] then ([],some c) else ([(c,rest)],none)

def longOption (options : OptionSet) (text : List Char) : List (Char × List Char) × Option Char :=
  let name := text.takeWhile (· ≠ '=')
  let value := (text.dropWhile (· ≠ '=')).tail?
  match findLong options name with
  | none => ([('?',[])],none)
  | some o => match o.required, value with
    | true, some value => ([(o.val,value)],none)
    | true, none => ([],some o.val)
    | false, some _ => ([('?',[])],none)
    | false, none => ([(o.val,[])],none)

/- Elements that are no options are skipped, and nothing behind -- is an option. -/
def parse (options : OptionSet) : Option Char → List (List Char) → List (Char × List Char)
  | some _, [] => [('?',[])]
  | some c, arg::args => (c,arg) :: parse options none args
  | none, [] => []
  | none, ('-' :: '-' :: [])::_ => []
  | none, ('-' :: '-' :: text)::args =>
    let (found,pending) := longOption options text
    found ++ parse options pending args
  | none, ('-' :: c::text)::args =>
    let (found,pending) := cluster options (c::text)
    found ++ parse options pending args
  | none, _::args => parse options none args

end GetOpt

/-! The program. -/

inductive DataSource where
  | none
  | data (bytes : List UInt8)
  | hexFile (filename : String)
  | binaryFile (filename : String)
  deriving DecidableEq, Repr

/- A command that has been sent to a target. -/
structure Execution where
  targetId : Int
  targetLun : Int
  cdb : List UInt8
  dataOut : DataSource := .none
  deriving DecidableEq, Repr

/- Whether the bus and a device file can be used, and the status codes of commands. -/
structure ExecEnv where
  initBus : Bool := true
  initDevice : String → Bool := fun _ => false
  status : Execution → Int := fun _ => 0

structure S2pExec where
  version : Bool := false
  help : Bool := false
  initiatorId : Int := 7
  targetId : Int := -1
  targetLun : Int := 0
  timeout : Int := 3
  logLimit : String := "128"
  requestSense : Bool := true
  resetBus : Bool := false
  hexOnly : Bool := false
  sasi : Bool := false
  useSg : Bool := false
  isInitialized : Bool := false
  binaryInputFilename : String := ""
  binaryOutputFilename : String := ""
  hexInputFilename : String := ""
  hexOutputFilename : String := ""
  command : HexText := []
  data : HexText := []
  logLevel : String := ""
  lastInput : List Char := []
  deviceFile : String := ""
  executor : Bool := false
  isSg : Bool := false
  executions : List Execution := []
  deriving DecidableEq

abbrev ExecEff (α : Type) := Eff ExecEnv S2pExec String α

namespace S2pExec
open S2pUtil

def options : GetOpt.OptionSet where
  short := [('b',true),('B',true),('c',true),('d',true),('f',true),('F',true),('g',true),('h',true),('i',true),('L',true),
    ('l',true),('t',true),('T',true),('H',false),('r',false),('R',false),('v',false),('x',false)]
  long := [⟨"buffer-size",true,'b'⟩,⟨"board-id",true,'B'⟩,⟨"binary-input-file",true,'f'⟩,⟨"binary-output-file",true,'F'⟩,
    ⟨"cdb",true,'c'⟩,⟨"data",true,'d'⟩,⟨"help",false,'H'⟩,⟨"hex-only",false,'x'⟩,⟨"hex-output-file",true,'T'⟩,
    ⟨"request-sense",false,'R'⟩,⟨"log-level",true,'L'⟩,⟨"log-limit/-l",true,'l'⟩,⟨"reset-bus",false,'r'⟩,
    ⟨"scsi-generic",true,'g'⟩,⟨"scsi-target",true,'i'⟩,⟨"sasi-target",true,'h'⟩,⟨"timeout",true,'o'⟩,⟨"version",false,'v'⟩]

structure Arguments where
  initiator : String := ""
  target : String := ""
  buf : String := ""
  tout : String := ""

/- The last one of several options counts. There is no result for an unknown one. -/
def applyOption (e : S2pExec) (a : Arguments) (opt : Char) (optarg : List Char) : Option (S2pExec × Arguments) :=
  let text := String.ofList optarg
  match opt with
  | 'b' => some (e,{ a with buf := text })
  | 'B' => some (e,{ a with initiator := text })
  | 'c' => some ({ e with command := optarg },a)
  | 'd' => match optarg with
    | '@'::c::rest => some ({ e with hexInputFilename := String.ofList (c::rest) },a)
    | _ => some ({ e with data := optarg },a)
  | 'f' => some ({ e with binaryInputFilename := text },a)
  | 'F' => some ({ e with binaryOutputFilename := text },a)
  | 'g' =>
    if e.deviceFile ≠ text then
      some ({ e with deviceFile := text, useSg := true, isInitialized := false },{ a with target := "" })
    else some (e,a)
  | 'h' => some ({ e with sasi := true },{ a with target := text })
  | 'H' => some ({ e with help := true },a)
  | 'i' =>
    if a.target ≠ text then
      some ({ e with deviceFile := "", useSg := false, isInitialized := false },{ a with target := text })
    else some (e,a)
  | 'l' => some ({ e with logLimit := text },a)
  | 'L' => some ({ e with logLevel := text },a)
  | 'r' => some ({ e with resetBus := true },a)
  | 'R' => some ({ e with requestSense := true },a)
  | 't' => some (e,{ a with tout := text })
  | 'T' => some ({ e with hexOutputFilename := text },a)
  | 'v' => some ({ e with version := true },a)
  | 'x' => some ({ e with hexOnly := true },a)
  | _ => none

def applyOptions (e : S2pExec) (a : Arguments) : List (Char × List Char) → Bool × S2pExec × Arguments
  | [] => (true,e,a)
  | (opt,optarg)::rest => match applyOption e a opt optarg with
    | none => (false,e,a)
    | some (e,a) => applyOptions e a rest

def logLevels : List String := ["trace","debug","info","warning","error","critical","off"]

def setLogLevel : ExecEff Unit := do
  let level := (← get).logLevel
  if level ≠ "" ∧ level ∉ logLevels then
    modify fun e => { e with logLevel := "" }
    throw s!"Invalid log level: '{level}'"

def setInitiator (initiator : String) : ExecEff Unit := do
  if initiator ≠ "" then
    modify fun e => { e with initiatorId := parseAsUnsignedInt initiator }
    let id := (← get).initiatorId
    if id = -1 ∨ 7 < id then throw s!"Invalid initiator ID: '{initiator}' (0-7)"

def setTarget (target : String) : ExecEff Unit := do
  if target ≠ "" then
    match parseIdAndLun target with
    | .ok (id,lun) => modify fun e => { e with targetId := id, targetLun := lun }
    | .error message =>
      modify fun e => { e with targetId := -1, targetLun := -1 }
      throw message

/- Init has no result if it fails. -/
def init : ExecEff Bool := do
  modify fun e => { e with executor := true }
  let e ← get
  if e.useSg then
    let opened := (← read).initDevice e.deviceFile
    modify fun e => { e with isSg := opened }
    return opened
  else
    let opened := (← read).initBus
    modify fun e => { e with isSg := if opened then false else e.isSg }
    return opened

/- Whether parsing goes on. -/
def prepareExecutor (target : String) : ExecEff Bool := do
  modify fun e => { e with isSg := if e.executor && e.isSg ≠ e.useSg then false else e.isSg }
  let e ← get
  if !e.isInitialized && (e.deviceFile ≠ "" || target ≠ "") then
    let opened ← init
    modify fun e => { e with isInitialized := opened }
    return opened
  else return true

def setLogLimit : ExecEff Unit := do
  let limit := (← get).logLimit
  if limit ≠ "" then
    if parseAsUnsignedInt limit < 0 then
      modify fun e => { e with logLimit := "" }
      throw s!"Invalid log limit: '{limit}'"

def setTimeout (tout : String) : ExecEff Unit := do
  if tout ≠ "" then
    let t := parseAsUnsignedInt tout
    if t ≤ 0 then throw s!"Invalid command timeout value: '{tout}'"
    modify fun e => { e with timeout := t }

/- Some options only make sense when there is a command. -/
def checkCommand : ExecEff Unit := do
  let e ← get
  if e.command ≠ [] then
    if !e.useSg && e.targetId = -1 && !e.resetBus then throw "Missing target ID"
    if e.data ≠ [] ∧ (e.binaryInputFilename ≠ "" ∨ e.hexInputFilename ≠ "") then
      throw "An input file is not permitted when providing explicit data"
    if e.binaryInputFilename ≠ "" ∧ e.hexInputFilename ≠ "" then throw "There can only be a single input file"
    if e.binaryOutputFilename ≠ "" ∧ e.hexOutputFilename ≠ "" then throw "There can only be a single output file"

def checkBufferSize (buf : String) : ExecEff Unit := do
  if buf ≠ "" then
    if parseAsUnsignedInt buf ≤ 0 then throw s!"Invalid receive buffer size: '{buf}'"

/- What is known from an earlier line is reset. -/
def resetOptions (e : S2pExec) : S2pExec :=
  { e with
    command := []
    data := []
    requestSense := false
    resetBus := false
    binaryInputFilename := ""
    hexInputFilename := "" }

/- There is a command line to be executed if the result is true. -/
def parseArguments (args : List (List Char)) : ExecEff Bool := do
  let (known,e,a) := applyOptions (resetOptions (← get)) {} (GetOpt.parse options none args)
  set e
  if !known then return false
  if e.help then return true
  if e.version then return true
  setLogLevel
  setInitiator a.initiator
  setTarget a.target
  if !(← prepareExecutor a.target) then return false
  setLogLimit
  let e ← get
  if e.targetId = e.initiatorId then throw "Target ID and initiator ID must not be identical"
  modify fun e => { e with targetLun := if e.targetLun = -1 then 0 else e.targetLun }
  setTimeout a.tout
  checkCommand
  checkBufferSize a.buf
  return true

/- A command is sent to the target. -/
def execute (cdb : List UInt8) (dataOut : DataSource) : ExecEff Int := do
  let e ← get
  let execution : Execution := { targetId := e.targetId, targetLun := e.targetLun, cdb, dataOut }
  modify fun e => { e with executions := e.executions ++ [execution] }
  return (← read).status execution

/- The data of the command line, or those of an input file. -/
def dataToSend : ExecEff DataSource := do
  let e ← get
  if e.data ≠ [] then
    match hexToBytes e.data with
    | none => throw "Invalid data input format"
    | some bytes => return .data bytes
  else if e.binaryInputFilename ≠ "" then return .binaryFile e.binaryInputFilename
  else if e.hexInputFilename ≠ "" then return .hexFile e.hexInputFilename
  else return .none

/- REQUEST SENSE may follow an error. -/
def evaluateStatus (status : Int) : ExecEff Unit := do
  if status ≠ 0 then
    if status ≠ 0xff ∧ (← get).requestSense then
      let _ ← execute [ScsiCommand.requestSense,0,0,0,255,0] .none
    else throw s!"Status {status}"

def executeCommand : ExecEff Unit := do
  let command := (← get).command
  match hexToBytes command with
  | none => throw s!"Invalid CDB input format: '{String.ofList command}'"
  | some cdb => evaluateStatus (← execute cdb (← dataToSend))

/- A reset of the bus excludes a command. -/
def runOnce : ExecEff Unit := do
  let e ← get
  if e.resetBus && e.executor then return
  executeCommand

/- One command line. Errors are displayed. -/
def interactive (args : List (List Char)) : ExecEff Unit := do
  try
    if ← parseArguments args then
      let e ← get
      if e.command ≠ [] ∨ (e.executor ∧ e.resetBus) then runOnce
  catch _ => return

/- The arguments of a line. -/
def lineArguments (input : List Char) : List (List Char) :=
  match splitChars ' ' (input.length + 1) input with
  | [] => []
  | first::rest => first :: rest.filter (· ≠ [])

def runInteractive (env : ExecEnv) : Nat → List (List Char) → S2pExec → S2pExec
  | 0, _, e => e
  | fuel+1, lines, e =>
    let (input,rest) := getLine [] lines
    if input = [] then e
    else if input = "!!".toList then
      runInteractive env fuel rest (interactive (lineArguments e.lastInput) env e).2
    else if input.head? ≠ some '-' then runInteractive env fuel rest e
    else runInteractive env fuel rest (interactive (lineArguments input) env { e with lastInput := input }).2

/- A file is the standard input. Each command takes at least one line of it. -/
def feed (env : ExecEnv) (file : List Char) : S2pExec :=
  runInteractive env ((inputLines file).length + 1) (inputLines file) {}

end S2pExec
end Scsi2Pi
