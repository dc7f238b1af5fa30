/-!
Arguments of a command line: options with values and positionals. A value follows its option's name
as the next argument, after an equals sign, or right behind a one-letter name. Two hyphens alone end
the options.
-/
namespace Fortune.Arguments

/-- Which values that begin with a hyphen an option takes as its next argument. -/
inductive Hyphens where
  | refused
  | numbers
  | accepted
deriving DecidableEq, Repr

/-- An option: its names, and the values it admits. -/
structure Flag where
  long : String
  short : Option Char := none
  hyphens : Hyphens := .refused
  admits : String → Bool := fun _ => true

inductive Parsed where
  | refused
  | version
  | help
  | values (options : List (String × String)) (positionals : List String)
deriving DecidableEq, Repr

/-- Digits with at most one point and one exponent letter. Neither comes first, and the letter does
not come last. -/
def looksNumeric (text : List Char) : Bool :=
  go false false text true && text.getLast? != some 'e' && text.getLast? != some 'E'
where
  go (point exponent : Bool) : List Char → (first : Bool) → Bool
    | [], _ => true
    | c :: rest, first =>
      if '0' ≤ c && c ≤ '9' then go point exponent rest false
      else if c == '.' && !point && !exponent && !first then go true exponent rest false
      else if (c == 'e' || c == 'E') && !exponent && !first then go point true rest false
      else false

/-- The argument can be the value of an option before it. -/
def Flag.takes (f : Flag) (argument : String) : Bool :=
  match argument.toList with
  | '-' :: c :: rest =>
    match f.hyphens with
    | .accepted => true
    | .numbers => looksNumeric (c :: rest)
    | .refused => false
  | _ => true

def store (f : Flag) (value : String) (options : List (String × String)) :
    Option (List (String × String)) :=
  if (options.lookup f.long).isSome || !f.admits value then none
  else some (options ++ [(f.long, value)])

inductive Look where
  | endOfOptions
  | version
  | help
  | option (f : Flag) (value : Option String)
  | unknown
  | positional

def classify (flags : List Flag) (argument : String) : Look :=
  match argument.toList with
  | ['-', '-'] => .endOfOptions
  | '-' :: '-' :: name =>
    let key := String.ofList (name.takeWhile (· != '='))
    let value := match name.dropWhile (· != '=') with
      | '=' :: value => some (String.ofList value)
      | _ => none
    match flags.find? fun f => f.long == key with
    | some f => .option f value
    | none =>
      if value.isSome then .unknown
      else if key == "version" then .version
      else if key == "help" then .help
      else .unknown
  | '-' :: c :: rest =>
    match flags.find? fun f => f.short == some c with
    | some f =>
      match rest with
      | [] => .option f none
      | '=' :: value => .option f (some (String.ofList value))
      | value => .option f (some (String.ofList value))
    | none => if c == 'V' then .version else if c == 'h' then .help else .unknown
  | _ => .positional

/-- Reads arguments from left to right; `awaiting` is an option that still needs its value. -/
def scan (flags : List Flag) (limit : Nat) (awaiting : Option Flag)
    (options : List (String × String)) (positionals : List String) : List String → Parsed
  | [] => if awaiting.isSome then .refused else .values options positionals
  | argument :: rest =>
    match awaiting with
    | some f =>
      if f.takes argument then
        match store f argument options with
        | some options => scan flags limit none options positionals rest
        | none => .refused
      else .refused
    | none =>
      match classify flags argument with
      | .endOfOptions =>
        if positionals.length + rest.length ≤ limit then .values options (positionals ++ rest)
        else .refused
      | .version => .version
      | .help => .help
      | .unknown => .refused
      | .positional =>
        if positionals.length < limit then
          scan flags limit none options (positionals ++ [argument]) rest
        else .refused
      | .option f none => scan flags limit (some f) options positionals rest
      | .option f (some value) =>
        match store f value options with
        | some options => scan flags limit none options positionals rest
        | none => .refused

def parse (flags : List Flag) (limit : Nat) (arguments : List String) : Parsed :=
  scan flags limit none [] [] arguments

end Fortune.Arguments
