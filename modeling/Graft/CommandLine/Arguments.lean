set_option autoImplicit false

/-!
# Arguments

What the command line asks for. Options may stand before, between and behind other arguments; a value
follows its option or is joined to it. Whatever does not fit is a usage error.
-/

namespace Graft.CommandLine

/-- What to look for in a file. -/
inductive Lookup where
  | kind (name : String)
  | component (tag : String)
  | function (name : String)
  | query (source : String)
  | pattern (source : String)
  deriving BEq, DecidableEq, Inhabited, Repr

structure ApplyOptions where
  plan : String
  paths : List String
  write : Bool
  diff : Bool
  json : Bool
  deriving BEq, DecidableEq, Inhabited, Repr

inductive Command where
  | apply (options : ApplyOptions)
  | query (file : String) (lookup : Lookup)
  | check (file : String)
  | version
  | help
  deriving BEq, DecidableEq, Inhabited, Repr

/-! ## Options -/

/-- An option: its long name, its letter if it has one, and whether it takes a value. -/
structure OptionSpec where
  long : String
  letter : Option Char := none
  takesValue : Bool := false

/-- Options that are understood everywhere. -/
def commonOptions : List OptionSpec := [{ long := "verbose", letter := some 'v' }, { long := "help", letter := some 'h' }]

def topOptions : List OptionSpec := { long := "version", letter := some 'V' } :: commonOptions

def applyOptions : List OptionSpec :=
  [{ long := "plan", letter := some 'p', takesValue := true }, { long := "write", letter := some 'w' },
    { long := "diff", letter := some 'd' }, { long := "json" }] ++ commonOptions

/-- The options that say what to look for; exactly one of them is given. -/
def lookups : List (String × (String → Lookup)) :=
  [("kind", .kind), ("component", .component), ("function", .function), ("sexp", .query), ("pattern", .pattern)]

def queryOptions : List OptionSpec := (lookups.map fun (long, _) => { long, takesValue := true }) ++ commonOptions

/-- Options in the order given, with their values, and the other arguments. -/
structure Parsed where
  options : List (String × String) := []
  others : List String := []

namespace Parsed

def has (p : Parsed) (name : String) : Bool := p.options.any (·.1 == name)

def value? (p : Parsed) (name : String) : Option String := p.options.lookup name

/-- Take an option, which must not have been given before. -/
def take (p : Parsed) (name value : String) : Option Parsed :=
  if p.has name then none else some { p with options := p.options ++ [(name, value)] }

end Parsed

/-- Whether an argument cannot be a value on its own. -/
def looksLikeOption (argument : String) : Bool := argument.startsWith "-" && argument != "-"

/-- Options that are answered at once, whatever else is asked for. -/
def urgentOptions : List String := ["help", "version"]

/-- Read the letters behind one dash. The value of an option is the rest, or the next argument, which is
then used up. -/
def readLetters (specs : List OptionSpec) (next : Option String) : List Char → Parsed → Option (Parsed × Bool)
  | [], p => some (p, false)
  | c :: cs, p => do
    let spec ← specs.find? fun s => s.letter == some c
    if urgentOptions.contains spec.long then return (← p.take spec.long "", false)
    else if spec.takesValue then
      match cs with
      | [] =>
        let value ← next
        if looksLikeOption value then none else return (← p.take spec.long value, true)
      | '=' :: value => return (← p.take spec.long (String.ofList value), false)
      | value => return (← p.take spec.long (String.ofList value), false)
    else readLetters specs next cs (← p.take spec.long "")

/-- Read an argument that starts with two dashes. -/
def readLong (specs : List OptionSpec) (next : Option String) (argument : List Char) (p : Parsed) :
    Option (Parsed × Bool) := do
  let name := String.ofList (argument.takeWhile (· != '='))
  let joined := match argument.dropWhile (· != '=') with
    | _ :: value => some (String.ofList value)
    | [] => none
  let spec ← specs.find? (·.long == name)
  match spec.takesValue, joined with
  | true, some value => return (← p.take name value, false)
  | true, none =>
    let value ← next
    if looksLikeOption value then none else return (← p.take name value, true)
  | false, some _ => none
  | false, none => return (← p.take name "", false)

/-- Read all arguments. `used` says that the first one was the value of an option. Asking for help ends
the reading. -/
def readAll (specs : List OptionSpec) : Bool → List String → Parsed → Option Parsed
  | _, [], p => some p
  | true, _ :: rest, p => readAll specs false rest p
  | false, argument :: rest, p =>
    if p.has "help" then some p
    else match argument.toList with
      | ['-', '-'] => some { p with others := p.others ++ rest }
      | '-' :: '-' :: long => (readLong specs rest.head? long p).bind fun (p, used) => readAll specs used rest p
      | '-' :: c :: letters =>
        (readLetters specs rest.head? (c :: letters) p).bind fun (p, used) => readAll specs used rest p
      | _ => readAll specs false rest { p with others := p.others ++ [argument] }

/-! ## Commands -/

def readApply (arguments : List String) : Option Command := do
  let p ← readAll applyOptions false arguments {}
  if p.has "help" then return .help
  let plan ← p.value? "plan"
  if plan.isEmpty || p.others.isEmpty || p.others.any (·.isEmpty) then none
  else return .apply { plan, paths := p.others, write := p.has "write", diff := p.has "diff", json := p.has "json" }

def readQuery (arguments : List String) : Option Command := do
  let p ← readAll queryOptions false arguments {}
  if p.has "help" then return .help
  let given := lookups.filterMap fun (name, lookup) => (p.value? name).map lookup
  match p.others, given with
  | [file], [lookup] => if file.isEmpty then none else some (.query file lookup)
  | _, _ => none

def readCheck (arguments : List String) : Option Command := do
  let p ← readAll commonOptions false arguments {}
  if p.has "help" then return .help
  match p.others with
  | [file] => if file.isEmpty then none else some (.check file)
  | _ => none

/-- Help is given on everything and on single commands. -/
def readHelp : List String → Option Command
  | [] | ["apply"] | ["query"] | ["check"] | ["help"] => some .help
  | _ => none

/-- The options in front of the name of a command, and what follows. -/
def readTop : List String → Parsed → Option Command
  | [], _ => none
  | argument :: rest, p =>
    match argument.toList with
    | '-' :: '-' :: long => (readLong topOptions none long p).bind fun (p, _) => ending rest p
    | '-' :: c :: letters => (readLetters topOptions none (c :: letters) p).bind fun (p, _) => ending rest p
    | _ => match argument with
      | "apply" => readApply rest
      | "query" => readQuery rest
      | "check" => readCheck rest
      | "help" => readHelp rest
      | _ => none
where
  ending (rest : List String) (p : Parsed) : Option Command :=
    if p.has "version" then some .version else if p.has "help" then some .help else readTop rest p

namespace Command

/-- What the arguments ask for; nothing if they are used wrongly. -/
def read (arguments : List String) : Option Command := readTop arguments {}

/-- The paths of files that a command reads. -/
def paths : Command → List String
  | apply options => options.plan :: options.paths
  | query file _ | check file => [file]
  | version | help => []

end Command

end Graft.CommandLine
