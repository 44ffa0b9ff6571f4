import Typescribe.Files.Path
import Typescribe.Text.Digit

/-!
This module contains the arguments of the command line: which of them are switches, and what they
say together. A switch with two dashes can be shortened as long as it stays the only one.
-/

namespace Typescribe.Command

inductive Switch where
  | help
  | ambient
  | split
  | fromSnapshot
  | fromApi
  | fromDatabase
  | token
  | lenient
  | strict
  | noPrefetch
deriving DecidableEq, Repr

def Switch.takesValue : Switch → Bool
  | fromSnapshot | fromApi | fromDatabase | token => true
  | _ => false

def Switch.isSource : Switch → Bool
  | fromSnapshot | fromApi | fromDatabase => true
  | _ => false

def generalSwitches : List (String × Switch) := [("-h", .help), ("--help", .help)]

def snapshotSwitches : List (String × Switch) := generalSwitches ++ [
  ("-g", .ambient),
  ("--global", .ambient),
  ("--split", .split),
  ("--from-snapshot", .fromSnapshot),
  ("--from-api", .fromApi),
  ("--from-database", .fromDatabase),
  ("--token", .token),
  ("--lenient", .lenient),
  ("--strict", .strict),
  ("--no-prefetch", .noPrefetch)
]

inductive Usage where
  | help
  | wrong
deriving DecidableEq, Repr

/-- The exit code of a program that was used so. -/
def Usage.exitCode : Usage → Nat
  | help => 0
  | wrong => 2

/--
What an argument is: an operand, or a switch, perhaps with a value in the same argument. The value
stands right behind the letter of the switch or behind an equals sign.
-/
inductive Mark where
  | operand
  | switch (switch : Switch) (isJoined : Bool) (value : Option String)
  | unknownSwitch
  | ambiguous
  /-- The two dashes behind which there are operands only. -/
  | endOfSwitches
deriving DecidableEq, Repr

def splitValue (arg : List Char) : List Char × Option String :=
  match Text.cutAt '=' arg with
  | some (name, value) => (name, some (String.ofList value))
  | none => (arg, none)

/-- The readings of an argument with two dashes: switches that start with it. -/
def longReadings (switches : List (String × Switch)) (arg : List Char) : List Mark :=
  let (name, value) := splitValue arg
  switches.filterMap fun (full, switch) =>
    if Text.startsWith name full.toList then some (.switch switch false value) else none

/-- The readings of an argument with one dash: a switch of one letter with its value behind it. -/
def shortReadings (switches : List (String × Switch)) (arg : List Char) : List Mark :=
  switches.filterMap fun (full, switch) =>
    if full.toList = arg.take 2 then
      some (.switch switch true (some (String.ofList (arg.drop 2))))
    else if Text.startsWith arg full.toList then some (.switch switch false none)
    else none

def exactReading? (switches : List (String × Switch)) (arg : String) : Option Mark :=
  match switches.lookup arg with
  | some switch => some (.switch switch false none)
  | none =>
    let (name, value) := splitValue arg.toList
    match value, switches.lookup (String.ofList name) with
    | some value, some switch => some (.switch switch false (some value))
    | _, _ => none

def isNegativeNumber : List Char → Bool
  | '-' :: rest =>
    let isEnd := fun cs : List Char => cs = [] || cs = ['\n']
    let hasWhole := (rest.head?.map Text.isAnyDigit).getD false
    match rest.dropWhile Text.isAnyDigit with
    | '.' :: fraction =>
      (fraction.head?.map Text.isAnyDigit).getD false && isEnd (fraction.dropWhile Text.isAnyDigit)
    | ending => hasWhole && isEnd ending
  | _ => false

def mark (switches : List (String × Switch)) (arg : String) : Mark :=
  let cs := arg.toList
  if cs = ['-', '-'] then .endOfSwitches
  else if cs.head? ≠ some '-' || cs = ['-'] then .operand
  else
    match exactReading? switches arg with
    | some reading => reading
    | none =>
      let readings :=
        if Text.startsWith ['-', '-'] cs then longReadings switches cs
        else shortReadings switches cs
      match readings with
      | [reading] => reading
      | _ :: _ :: _ => .ambiguous
      | [] => if isNegativeNumber cs || cs.contains ' ' then .operand else .unknownSwitch

def marks (switches : List (String × Switch)) : List String → List (String × Mark)
  | [] => []
  | arg :: args =>
    let m := mark switches arg
    (arg, m) ::
      (if m = .endOfSwitches then args.map fun arg => (arg, .operand) else marks switches args)

structure Arguments where
  path : FilePath
  isAmbient : Bool := false
  split : Bool := false
  fromSnapshot : Option FilePath := none
  fromApi : Option String := none
  fromDatabase : Option String := none
  token : Option String := none
  lenient : Bool := false
  strict : Bool := false
  noPrefetch : Bool := false
deriving DecidableEq, Repr

structure Reading where
  arguments : Arguments := { path := {} }
  hasPath : Bool := false
  hasExtra : Bool := false
  source : Option Switch := none

/-- Takes an operand: the first one is the path. -/
def Reading.operand (reading : Reading) (arg : String) : Reading :=
  if reading.hasPath then { reading with hasExtra := true }
  else
    { reading with
      arguments := { reading.arguments with path := .ofString arg }
      hasPath := true }

def Reading.flag (reading : Reading) (switch : Switch) : Reading :=
  let a := reading.arguments
  { reading with
    arguments :=
      match switch with
      | .ambient => { a with isAmbient := true }
      | .split => { a with split := true }
      | .lenient => { a with lenient := true }
      | .strict => { a with strict := true }
      | .noPrefetch => { a with noPrefetch := true }
      | _ => a }

/-- Takes a switch with its value, unless another switch has named the source. -/
def Reading.value (reading : Reading) (switch : Switch) (value : String) :
    Except Usage Reading :=
  let a := reading.arguments
  let conflicts := switch.isSource && reading.source.any fun other => other ≠ switch
  if conflicts then .error .wrong
  else
    .ok { reading with
      source := if switch.isSource then some switch else reading.source
      arguments :=
        match switch with
        | .fromSnapshot => { a with fromSnapshot := some (.ofString value) }
        | .fromApi => { a with fromApi := some value }
        | .fromDatabase => { a with fromDatabase := some value }
        | .token => { a with token := some value }
        | _ => a }

/--
Takes the letters behind a switch of one letter, which are switches themselves. Nothing can be made
of those from the first unknown one on.
-/
def Reading.letters (switches : List (String × Switch)) (reading : Reading) (helps : Bool) :
    List Char → Except Usage Reading
  | [] => if helps then .error .help else .ok reading
  | letter :: rest =>
    if letter = '-' || letter = '=' then
      .error .wrong
    else
      match switches.lookup (String.ofList ['-', letter]) with
      | none => if helps then .error .help else .ok { reading with hasExtra := true }
      | some switch =>
        if switch.takesValue then .error .wrong
        else if switch = .help then reading.letters switches true rest
        else (reading.flag switch).letters switches helps rest

/-- Takes a switch with a value that stands in the same argument. -/
def Reading.attached (switches : List (String × Switch)) (reading : Reading) (switch : Switch)
    (isJoined : Bool) (value : String) : Except Usage Reading :=
  if switch.takesValue then reading.value switch value
  else if isJoined && value ≠ "" then
    if switch = .help then reading.letters switches true value.toList
    else (reading.flag switch).letters switches false value.toList
  else .error .wrong

def Reading.run (switches : List (String × Switch)) (reading : Reading) :
    List (String × Mark) → Except Usage Reading
  | [] => .ok reading
  | (arg, .operand) :: (_, .endOfSwitches) :: rest => (reading.operand arg).run switches rest
  | (arg, .operand) :: rest => (reading.operand arg).run switches rest
  | (_, .endOfSwitches) :: rest =>
    ({ reading with hasExtra := reading.hasExtra || reading.hasPath }).run switches rest
  | (_, .unknownSwitch) :: rest => ({ reading with hasExtra := true }).run switches rest
  | (_, .ambiguous) :: _ => .error .wrong
  | (_, .switch switch isJoined (some value)) :: rest => do
    (← reading.attached switches switch isJoined value).run switches rest
  | (_, .switch switch _ none) :: rest =>
    if switch = .help then .error .help
    else if switch.takesValue then
      match rest with
      | (value, .operand) :: rest => do (← reading.value switch value).run switches rest
      | _ => .error .wrong
    else (reading.flag switch).run switches rest

/-- The arguments of the command; a path has to be among them, and nothing that has no meaning. -/
def readSnapshot (hasExtra : Bool) (args : List String) : Except Usage Arguments := do
  let marked := marks snapshotSwitches args
  if marked.any (·.2 = .ambiguous) then .error .wrong
  else
    let reading ← Reading.run snapshotSwitches { hasExtra } marked
    if reading.hasPath && !reading.hasExtra then return reading.arguments else .error .wrong

def readGeneral (hasExtra : Bool) : List String → Except Usage Arguments
  | [] => .error .wrong
  | arg :: args =>
    match mark generalSwitches arg with
    | .operand => if arg = "snapshot" then readSnapshot hasExtra args else .error .wrong
    | .unknownSwitch => readGeneral true args
    | .switch _ _ none => .error .help
    | .switch switch isJoined (some value) =>
      match Reading.attached generalSwitches {} switch isJoined value with
      | .error usage => .error usage
      | .ok _ => .error .wrong
    | _ => .error .wrong

def Arguments.ofList (args : List String) : Except Usage Arguments :=
  readGeneral false args

end Typescribe.Command
