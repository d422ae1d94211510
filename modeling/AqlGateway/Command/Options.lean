import AqlGateway.Text.Split

/-!
# Options of a command line

Arguments are options with a value and others. The value of an option stands in the same argument,
behind an equals sign, or in the next one; everything behind `--` is no option.

* `Options` — arguments sorted into options and others;
* `Options.ofList` — sorts arguments, with the long names of the short options;
* `Options.value?` — the value of an option.
-/

namespace AqlGateway

/-- Arguments sorted into options with their values and others. -/
structure Options where
  values : List (String × String) := []
  others : List String := []
  deriving DecidableEq, Repr, Inhabited

namespace Options

def addValue (name value : String) (options : Options) : Options :=
  { options with values := (name, value) :: options.values }

def addOther (argument : String) (options : Options) : Options :=
  { options with others := argument :: options.others }

def value? (name : String) (options : Options) : Option String := options.values.lookup name

/-- The name of a long option and its value, which stand in one argument. -/
def longWithValue? (argument : List Char) : Option (String × String) :=
  match Text.expect? ['-', '-'] argument with
  | none => none
  | some rest => match Text.breakAt? ['='] rest with
    | some (name, _ :: value) => some (String.ofList name, String.ofList value)
    | _ => none

/-- The name of a short option and its value, which stand in one argument. -/
def shortWithValue? (shorts : List (Char × String)) : List Char → Option (String × String)
  | '-' :: letter :: '=' :: value =>
    (shorts.lookup letter).map fun name => (name, String.ofList value)
  | '-' :: letter :: c :: value =>
    (shorts.lookup letter).map fun name => (name, String.ofList (c :: value))
  | _ => none

/-- The name of an option whose value is the next argument. -/
def name? (shorts : List (Char × String)) : List Char → Option String
  | ['-', letter] => shorts.lookup letter
  | '-' :: '-' :: c :: rest => some (String.ofList (c :: rest))
  | _ => none

/-- The name of an option and its value, which stand in one argument. -/
def withValue? (shorts : List (Char × String)) (argument : List Char) :
    Option (String × String) :=
  (longWithValue? argument).or (shortWithValue? shorts argument)

def ofList (shorts : List (Char × String)) : List String → Options
  | [] => {}
  | argument :: rest =>
    if argument = "--" then { others := rest }
    else match withValue? shorts argument.toList with
      | some (name, value) => (ofList shorts rest).addValue name value
      | none => match name? shorts argument.toList, rest with
        | some name, value :: rest => (ofList shorts rest).addValue name value
        | _, rest => (ofList shorts rest).addOther argument

end Options

end AqlGateway
