import RecordGate.Record

/-!
# Arguments

Arguments are options with a value, flags, and positional arguments. The value of an option stands after
it or behind an equals sign; a value that stands after its option does not begin with a dash, unless it
is a lone dash. Two dashes end the options. No option and no flag is given twice.

Main definitions: `Arguments`, `Arguments.read?`.
-/

namespace RecordGate

/-- Arguments taken apart. -/
structure Arguments where
  options : Record String
  flags : List String
  positional : List String

namespace Arguments

def empty : Arguments := ⟨.empty, [], []⟩

/-- The name of an option, and the value behind its equals sign. -/
def named? (argument : String) : Option (String × Option String) :=
  match argument.toList with
  | '-' :: '-' :: cs =>
    let name := String.ofList (cs.takeWhile (· != '='))
    match cs.dropWhile (· != '=') with
    | _ :: value => some (name, some (String.ofList value))
    | [] => some (name, none)
  | _ => none

/-- Whether an argument begins with a dash and is not a lone dash. -/
def isDashed (argument : String) : Bool :=
  match argument.toList with
  | '-' :: _ :: _ => true
  | _ => false

/-- Gives an option its value, once. -/
def withOption? (a : Arguments) (name value : String) : Option Arguments :=
  if (a.options.get? name).isSome then none else some { a with options := a.options.set name value }

/-- Sets a flag, once. -/
def withFlag? (a : Arguments) (name : String) : Option Arguments :=
  if a.flags.contains name then none else some { a with flags := a.flags ++ [name] }

/-- Adds arguments to those read so far, given the names of the options and of the flags. -/
def readFrom? (options flags : List String) : Arguments → List String → Option Arguments
  | a, [] => some a
  | a, argument :: rest =>
    if argument == "--" then some { a with positional := a.positional ++ rest }
    else
      match named? argument with
      | some (name, some value) =>
        if options.contains name then do readFrom? options flags (← a.withOption? name value) rest
        else none
      | some (name, none) =>
        if flags.contains name then do readFrom? options flags (← a.withFlag? name) rest
        else if options.contains name then
          match rest with
          | value :: rest =>
            if isDashed value then none
            else do readFrom? options flags (← a.withOption? name value) rest
          | [] => none
        else none
      | none =>
        if isDashed argument then none
        else readFrom? options flags { a with positional := a.positional ++ [argument] } rest

/-- Takes arguments apart, given the names of the options and of the flags. -/
def read? (options flags : List String) (arguments : List String) : Option Arguments :=
  readFrom? options flags empty arguments

/-- An option that need not be given. -/
def option? {α : Type} (a : Arguments) (name : String) (value? : String → Option α) : Option (Option α) :=
  match a.options.get? name with
  | some s => (value? s).map some
  | none => some none

/-- An option that must be given. -/
def required? {α : Type} (a : Arguments) (name : String) (value? : String → Option α) : Option α :=
  (a.options.get? name).bind value?

/-- The positional argument, when there is exactly one. -/
def single? {α : Type} (a : Arguments) (value? : String → Option α) : Option α :=
  match a.positional with
  | [s] => value? s
  | _ => none

end Arguments

end RecordGate
