/-
Module: Lectern.Console.Arguments
Purpose: Reading the arguments of a command: options with and without values, and what is left.
Main exports: Console.Switch, Console.Given, Console.readArguments
-/
import Lectern.Schema.Scalar
import Lectern.Text.WordChar

namespace Lectern.Console

/-- An option: the names it goes by, the first of which counts, and whether a value follows it. -/
structure Switch where
  names : List String
  takesValue : Bool := true
  deriving DecidableEq, Repr, Inhabited

namespace Switch

/-- The name that counts. -/
def key (switch : Switch) : String := switch.names.headD ""

/-- The option that asks for help. -/
def help : Switch := ⟨["--help"], false⟩

end Switch

/-- What is given: options with their values, in order, and the other arguments. -/
structure Given where
  options : List (String × String) := []
  others : List String := []
  deriving DecidableEq, Repr, Inhabited

namespace Given

/-- The last value of an option. -/
def value? (given : Given) (key : String) : Option String :=
  (given.options.reverse.find? (·.1 == key)).map (·.2)

/-- Is an option there? -/
def has (given : Given) (key : String) : Bool := (given.value? key).isSome

end Given

/-- The option with a name. -/
def switchNamed? (switches : List Switch) (name : String) : Option Switch :=
  switches.find? fun switch => switch.names.contains name

/-- Options in one argument, each a letter. The last may take a value: what is left of the argument,
or the next one. -/
def readLetters (switches : List Switch) :
    List Char → List String → Option (List (String × String) × List String)
  | [], rest => some ([], rest)
  | letter :: letters, rest => do
    let switch ← switchNamed? switches (String.ofList ['-', letter])
    if !switch.takesValue then
      let (options, rest) ← readLetters switches letters rest
      return ((switch.key, "") :: options, rest)
    else if !letters.isEmpty then return ([(switch.key, String.ofList letters)], rest)
    else
      match rest with
      | value :: rest => return ([(switch.key, value)], rest)
      | [] => none

/-- A named option, with what follows it. Its value may be attached by an equals sign. -/
def readNamed (switches : List Switch) (argument : List Char) (rest : List String) :
    Option (List (String × String) × List String) := do
  let switch ← switchNamed? switches (String.ofList (argument.takeWhile (· != '=')))
  match switch.takesValue, argument.dropWhile (· != '='), rest with
  | true, '=' :: value, _ => return ([(switch.key, String.ofList value)], rest)
  | true, _, value :: rest => return ([(switch.key, value)], rest)
  | false, [], _ => return ([(switch.key, "")], rest)
  | _, _, _ => none

/-- The options in an argument that starts with a dash, with what follows them. -/
def readOption (switches : List Switch) (argument : String) (rest : List String) :
    Option (List (String × String) × List String) :=
  if argument.startsWith "--" then readNamed switches argument.toList rest
  else readLetters switches (argument.toList.drop 1) rest

/-- Read arguments one by one. With `mixed`, options may follow other arguments. `fuel` bounds how
many are read. -/
def readFrom (switches : List Switch) (mixed : Bool) :
    Nat → List String → Option (List (String × String) × List String)
  | 0, arguments => some ([], arguments)
  | _ + 1, [] => some ([], [])
  | fuel + 1, argument :: rest =>
    if argument == "--" then some ([], rest)
    else if argument.startsWith "-" && argument.length > 1 then do
      let (found, rest) ← readOption switches argument rest
      let (options, others) ← readFrom switches mixed fuel rest
      return (found ++ options, others)
    else if mixed then do
      let (options, others) ← readFrom switches mixed fuel rest
      return (options, argument :: others)
    else some ([], argument :: rest)

/-- What is given by some arguments, unless they are not understood. -/
def readArguments (switches : List Switch) (mixed : Bool) (arguments : List String) :
    Option Given :=
  (readFrom (switches ++ [.help]) mixed (arguments.length + 1) arguments).map
    fun (options, others) => ⟨options, others⟩

/-- A whole number as it is spelled on a command line. -/
def readWhole? (text : String) : Option Int := do
  let (negative, rest) := Schema.splitSign (Text.trim text.toList)
  let digits ← Schema.withoutUnderscores? rest
  let value ← Text.decimalNumber? digits
  return if negative then -(value : Int) else value

end Lectern.Console
