import Fortune.Command.Arguments
import Fortune.Command.Basic

/-!
The command line: the name of a command, then its options and positionals. What an option does not
give is left at its default.
-/
namespace Fortune.Command
open Arguments Decimal

inductive Request where
  | refused
  | help
  /-- The version, of the program or as a command states it. -/
  | version (command : Option String)
  | perform (command : Command)
deriving DecidableEq, Repr

def luck? (text : String) : Option Int := intWithin? least32 greatest32 text.toList

/-- A number of ticks: a 32-bit natural number. -/
def ticks? (text : String) : Option Nat :=
  (intWithin? 0 (words32 - 1) text.toList).map Int.toNat

def word? (text : String) : Option Nat :=
  if text.toList.head? == some '-' then none
  else (intWithin? 0 (words64 - 1) text.toList).map Int.toNat

def directoryFlag : Flag := { long := "dir", short := some 'd', admits := fun v => !v.isEmpty }

def reservedFlag : Flag := { long := "reserved-prefix" }

def luckFlag : Flag where
  long := "luck"
  short := some 'l'
  hyphens := .numbers
  admits v := (luck? v).isSome

def countFlag : Flag :=
  { long := "count", short := some 'c', admits := fun v => (word? v).isSome }

def seedFlag : Flag :=
  { long := "seed", short := some 's', admits := fun v => (word? v).isSome }

def ticksFlag : Flag :=
  { long := "ticks", short := some 't', admits := fun v => (ticks? v).isSome }

def posFlag : Flag := { long := "pos", short := some 'p', hyphens := .accepted }

def playerFlag : Flag := { long := "player" }

def playerPosFlag : Flag := { long := "player-pos", hyphens := .accepted }

def given (flag : Flag) (options : List (String × String)) : Option String :=
  options.lookup flag.long

def value {α : Type} (flag : Flag) (read : String → Option α) (default : α)
    (options : List (String × String)) : α :=
  ((given flag options).bind read).getD default

def packOf (options : List (String × String)) : PackChoice where
  path := value directoryFlag some "." options
  reserved := value reservedFlag some defaultReserved options

def seedOf (options : List (String × String)) : UInt64 :=
  UInt64.ofNat (value seedFlag word? 42 options)

def posOf (options : List (String × String)) : String := value posFlag some "0,64,0" options

inductive Name where
  | list
  | draw
  | resolve
  | run
deriving DecidableEq, Repr

namespace Name

def text : Name → String
  | .list => "list"
  | .draw => "draw"
  | .resolve => "resolve"
  | .run => "run"

def all : List Name := [.list, .draw, .resolve, .run]

def ofText? (text : String) : Option Name := all.find? fun name => name.text == text

def flags : Name → List Flag
  | .list => [directoryFlag, reservedFlag]
  | .draw => [directoryFlag, luckFlag, countFlag, seedFlag, reservedFlag]
  | .resolve => [posFlag, playerFlag, playerPosFlag, seedFlag]
  | .run => [directoryFlag, luckFlag, ticksFlag, seedFlag, posFlag, playerFlag, reservedFlag]

def limit : Name → Nat
  | .list => 0
  | .draw => 0
  | .resolve => 1
  | .run => 1

def command? (options : List (String × String)) (positionals : List String) :
    Name → Option Command
  | .list => some (.list (packOf options))
  | .draw => some (.draw {
      pack := packOf options
      luck := value luckFlag luck? 0 options
      count := value countFlag word? 1000 options
      seed := seedOf options })
  | .resolve => positionals.head?.map fun template => .resolve {
      template
      pos := posOf options
      player := (given playerFlag options).map fun name => ⟨name, given playerPosFlag options⟩
      seed := seedOf options }
  | .run => some (.run {
      id := positionals.head?
      pack := packOf options
      luck := value luckFlag luck? 0 options
      ticks := value ticksFlag ticks? 20 options
      seed := seedOf options
      pos := posOf options
      player := value playerFlag some "Steve" options })

def request (name : Name) (arguments : List String) : Request :=
  match Arguments.parse name.flags name.limit arguments with
  | .refused => .refused
  | .version => .version (some name.text)
  | .help => .help
  | .values options positionals =>
    match name.command? options positionals with
    | some command => .perform command
    | none => .refused

end Name

namespace Request

def parse : List String → Request
  | [] => .refused
  | first :: rest =>
    match Name.ofText? first with
    | some name => name.request rest
    | none =>
      match classify [] first with
      | .version => .version none
      | .help => .help
      | _ => if first == "help" then .help else .refused

def program : String := "luckbox"

def versionText (command : Option String) : String :=
  program ++ (match command with | some name => "-" ++ name | none => "") ++ " 0.1.0"

def usage : List String :=
  ("Usage: " ++ program ++ " <COMMAND>") :: "" :: "Commands:" ::
    Name.all.map fun name => "  " ++ name.text

def directory? : Request → Option String
  | .perform command => command.directory?
  | _ => none

def report (data : Option Tree) (uuid : Uuid) : Request → Report
  | .refused => { code := 2, errors := printed usage }
  | .help => .success usage
  | .version command => .success [versionText command]
  | .perform command => command.perform data uuid

end Request

/-- Runs a command line on a tree of directories. -/
def runLine (arguments : List String) (root : Tree) (uuid : Uuid) : Report :=
  let request := Request.parse arguments
  let data := request.directory?.bind fun path => (root.at? path).bind (Tree.entry? "data")
  request.report data uuid

end Fortune.Command
