import CriteriaSearch.Named

/-!
# Command line arguments

Options with a value or without, by a long name or a letter. A value is attached to its option or is
the next argument, whatever that is; letters may be joined; `--` ends the options.
-/

namespace CriteriaSearch.Arguments

/-- An option: its long name, its letter, and whether it takes a value. -/
structure OptionSpec where
  name : String
  letter : Option Char := none
  takesValue : Bool := true

/-- The options given, each with its last value, and the other arguments. -/
structure Parsed where
  options : Named String := []
  rest : List String := []

namespace Parsed

def value? (p : Parsed) (name : String) : Option String := p.options.get? name

def has (p : Parsed) (name : String) : Bool := Named.has p.options name

def setOption (p : Parsed) (name value : String) : Parsed :=
  { p with options := p.options.set name value }

end Parsed

def byName? (specs : List OptionSpec) (name : List Char) : Option OptionSpec :=
  specs.find? fun o => ("--" ++ o.name).toList == name

def byLetter? (specs : List OptionSpec) (c : Char) : Option OptionSpec :=
  specs.find? (·.letter == some c)

/-- What a group of letters asks for: options without value, and at its end one that takes the
remaining letters, or the next argument if there are none. -/
inductive Letters where
  | flags (given : List OptionSpec)
  | value (flags : List OptionSpec) (o : OptionSpec) (attached : List Char)

def letters? (specs : List OptionSpec) : List Char → Option Letters
  | [] => some (.flags [])
  | c :: cs =>
    match byLetter? specs c with
    | none => none
    | some o =>
      if o.takesValue then some (.value [] o cs)
      else (letters? specs cs).map fun
        | .flags given => .flags (o :: given)
        | .value flags last attached => .value (o :: flags) last attached

def setFlags (p : Parsed) (flags : List OptionSpec) : Parsed :=
  flags.foldl (fun p o => p.setOption o.name "") p

/-- Whether an argument is written as an option. -/
def isOption (arg : String) : Bool := arg.toList.head? = some '-' && 1 < arg.length

/-- Read arguments. Unless `interspersed`, the first one that is no option ends the options. -/
def parse (specs : List OptionSpec) (interspersed : Bool) (p : Parsed) :
    List String → Option Parsed
  | [] => some p
  | arg :: args =>
    if arg = "--" then some { p with rest := p.rest ++ args }
    else if !isOption arg then
      if interspersed then parse specs interspersed { p with rest := p.rest ++ [arg] } args
      else some { p with rest := p.rest ++ arg :: args }
    else
      let cs := arg.toList
      match byName? specs (cs.takeWhile (· != '=')), cs.dropWhile (· != '=') with
      | some o, _ :: attached =>
        if o.takesValue then
          parse specs interspersed (p.setOption o.name (String.ofList attached)) args
        else none
      | some o, [] =>
        if !o.takesValue then parse specs interspersed (p.setOption o.name "") args
        else match args with
          | [] => none
          | value :: args => parse specs interspersed (p.setOption o.name value) args
      | none, _ =>
        if "--".toList.isPrefixOf cs then none
        else match letters? specs (cs.drop 1) with
          | none => none
          | some (.flags given) => parse specs interspersed (setFlags p given) args
          | some (.value flags o attached) =>
            let p := setFlags p flags
            match attached, args with
            | [], [] => none
            | [], value :: args => parse specs interspersed (p.setOption o.name value) args
            | attached, args =>
              parse specs interspersed (p.setOption o.name (String.ofList attached)) args

end CriteriaSearch.Arguments
