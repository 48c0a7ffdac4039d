import QueryHeaders.Generation

/-!
Arguments: what a command line asks for.

An option is a mark or a setting with a value, long after two dashes or as a letter after one;
letters may stand together, and the last of them may have a value. All else is an operand, and so
is everything after two bare dashes. Options and operands may be mixed. Every value is a path, so
none is empty. Each option is given at most once, except that verbosity adds up.
-/
namespace QueryHeaders

structure OptionSpec where
  name : String
  letter : Option Char := none
  takesValue : Bool := false
  deriving DecidableEq, Repr

/-- One thing that is said on a command line. -/
inductive Item where
  | mark (name : String)
  | setting (name value : String)
  | operand (text : String)
  deriving DecidableEq, Repr

namespace Item

/-- The option, if it must not be given again. -/
def onceOnly? : Item → Option String
  | .mark name => if name = "verbose" then none else some name
  | .setting name _ => some name
  | .operand _ => none

def value? : Item → Option String
  | .mark _ => none
  | .setting _ value => some value
  | .operand text => some text

/-- Options given once and values that are not empty. -/
def areFit (items : List Item) : Bool :=
  decide (items.filterMap onceOnly?).Nodup && (items.filterMap value?).all (· != "")

def has (name : String) (items : List Item) : Bool := items.contains (.mark name)

def setting? (name : String) (items : List Item) : Option String :=
  items.findSome? fun
    | .setting other value => if other = name then some value else none
    | _ => none

def operands (items : List Item) : List String :=
  items.filterMap fun
    | .operand text => some text
    | _ => none

def verbosity (items : List Item) : Nat := items.count (.mark "verbose")

/-- Letters behind one dash; an option that still needs its value comes with its name. -/
def ofLetters? (specs : List OptionSpec) : List Char → Option (List Item × Option String)
  | [] => some ([], none)
  | c :: rest => do
      let spec ← specs.find? (·.letter == some c)
      if spec.takesValue then
        match rest with
        | [] => return ([], some spec.name)
        | '=' :: value => return ([.setting spec.name (String.ofList value)], none)
        | value => return ([.setting spec.name (String.ofList value)], none)
      else
        let (items, pending) ← ofLetters? specs rest
        return (.mark spec.name :: items, pending)

/-- A long option and the value that is attached to it. -/
def ofLong? (specs : List OptionSpec) (text : List Char) : Option (List Item × Option String) := do
  let name := String.ofList (text.takeWhile (· != '='))
  let spec ← specs.find? (·.name == name)
  match text.dropWhile (· != '='), spec.takesValue with
  | [], false => return ([.mark name], none)
  | [], true => return ([], some name)
  | _ :: value, true => return ([.setting name (String.ofList value)], none)
  | _ :: _, false => none

/-- Whether an argument can be the value of the option before it. -/
def isValue (argument : String) : Bool :=
  argument == "-" || argument.toList.head? != some '-'

/-- What the arguments say, if all their options are known. -/
def ofArguments? (specs : List OptionSpec) : List String → Option (List Item)
  | [] => some []
  | argument :: rest =>
      let options : Option (List Item × Option String) → Option (List Item)
        | none => none
        | some (items, none) => (ofArguments? specs rest).map (items ++ ·)
        | some (items, some name) =>
            match rest with
            | [] => none
            | value :: rest =>
                if isValue value then
                  (ofArguments? specs rest).map (items ++ .setting name value :: ·)
                else none
      match argument.toList with
      | ['-', '-'] => some (rest.map .operand)
      | '-' :: '-' :: text => options (ofLong? specs text)
      | '-' :: c :: letters => options (ofLetters? specs (c :: letters))
      | _ => (ofArguments? specs rest).map (.operand argument :: ·)

end Item

/-! ## Commands -/

structure ValidateSettings where
  /-- Files and directories; none means the usual definitions file. -/
  paths : List String := []
  schemaPath : Option String := none
  strict : Bool := false
  diagnose : Bool := false
  deriving DecidableEq, Repr

inductive Command where
  | generate (s : Settings)
  | validate (s : ValidateSettings)
  deriving DecidableEq, Repr

inductive Invocation where
  | version
  | command (verbosity : Nat) (c : Command)
  deriving DecidableEq, Repr

namespace Command

def verboseOption : OptionSpec := ⟨"verbose", some 'v', false⟩

def generateOptions : List OptionSpec := [
  verboseOption,
  ⟨"definitions", none, true⟩,
  ⟨"output-dir", none, true⟩,
  ⟨"schema", none, true⟩,
  ⟨"caos-example-query", none, false⟩,
  ⟨"caos-template-query", none, false⟩,
  ⟨"no-schema-validation", none, false⟩,
  ⟨"require-schema", none, false⟩,
  ⟨"dry-run", none, false⟩]

def validateOptions : List OptionSpec := [
  verboseOption,
  ⟨"schema", some 's', true⟩,
  ⟨"strict", none, false⟩,
  ⟨"diagnose", some 'd', false⟩]

def generateOfItems? (items : List Item) : Option Settings := do
  let definitions ← Item.setting? "definitions" items
  let outputDir ← Item.setting? "output-dir" items
  let disabled := Item.has "no-schema-validation" items
  let required := Item.has "require-schema" items
  if !(Item.operands items).isEmpty || (disabled && required) then none
  else return {
    definitions, outputDir
    schemaPath := Item.setting? "schema" items
    policy := if disabled then .disabled else if required then .required else .bestEffort
    features := {
      sample := Item.has "caos-example-query" items
      template := Item.has "caos-template-query" items }
    dryRun := Item.has "dry-run" items }

def validateOfItems (items : List Item) : ValidateSettings where
  paths := Item.operands items
  schemaPath := Item.setting? "schema" items
  strict := Item.has "strict" items
  diagnose := Item.has "diagnose" items

/-- The command of a name with its arguments, and how often it asks for more words. -/
def ofArguments? (name : String) (arguments : List String) : Option (Nat × Command) :=
  match name with
  | "generate" => do
      let items ← Item.ofArguments? generateOptions arguments
      let s ← generateOfItems? items
      if Item.areFit items then return (Item.verbosity items, .generate s) else none
  | "validate" => do
      let items ← Item.ofArguments? validateOptions arguments
      if Item.areFit items then
        return (Item.verbosity items, .validate (validateOfItems items))
      else none
  | _ => none

end Command

namespace Invocation

/-- What stands before the command: the letters or the name of an option. Whatever follows the
wish for the version is not looked at. -/
inductive Opening where
  | verbose (times : Nat)
  | version
  deriving DecidableEq, Repr

def openingOfLetters? (times : Nat) : List Char → Option Opening
  | [] => some (.verbose times)
  | 'v' :: rest => openingOfLetters? (times + 1) rest
  | 'V' :: _ => some .version
  | _ => none

def opening? (argument : String) : Option Opening :=
  match argument.toList with
  | '-' :: '-' :: _ =>
      if argument = "--verbose" then some (.verbose 1)
      else if argument = "--version" then some .version
      else none
  | '-' :: c :: letters => openingOfLetters? 0 (c :: letters)
  | _ => none

def ofArgumentsFrom? (verbosity : Nat) : List String → Option Invocation
  | [] => none
  | argument :: rest =>
      match opening? argument with
      | some .version => some .version
      | some (.verbose times) => ofArgumentsFrom? (verbosity + times) rest
      | none =>
          (Command.ofArguments? argument rest).map fun (more, c) => .command (verbosity + more) c

/-- What a command line asks for, if it follows the rules. -/
def ofArguments? (arguments : List String) : Option Invocation := ofArgumentsFrom? 0 arguments

end Invocation

end QueryHeaders
