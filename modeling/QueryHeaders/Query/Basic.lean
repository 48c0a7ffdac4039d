/-!
Query definitions: the methods for which headers are generated.

A query belongs to a category. Standard queries need no permission; examples and templates are
each permitted by a feature of their own.
-/
namespace QueryHeaders

/-- What a run may permit beyond standard queries. -/
inductive Feature where
  | sample
  | template
  deriving DecidableEq, Repr

/-- The spelling of a feature on the command line. -/
def Feature.flag : Feature → String
  | .sample => "--caos-example-query"
  | .template => "--caos-template-query"

/-- The features of a run. -/
structure Features where
  sample : Bool := false
  template : Bool := false
  deriving DecidableEq, Repr

def Features.permits (fs : Features) : Feature → Bool
  | .sample => fs.sample
  | .template => fs.template

/-- A query is standard, or of the kind that a feature permits. -/
inductive Category where
  | standard
  | special (feature : Feature)
  deriving DecidableEq, Repr

namespace Category

def name : Category → String
  | .standard => "standard"
  | .special .sample => "example"
  | .special .template => "template"

def all : List Category := [.standard, .special .sample, .special .template]

/-- The category of a name, spelled exactly. -/
def ofName? (s : String) : Option Category := all.find? (·.name = s)

def samplePrefix : String := "IQuery_Example_"

def templatePrefix : String := "IQuery_Template_"

/-- The category that a query's name suggests. -/
def infer (queryName : String) : Category :=
  if samplePrefix.toList.isPrefixOf queryName.toList then .special .sample
  else if templatePrefix.toList.isPrefixOf queryName.toList then .special .template
  else .standard

end Category

/-- How the key of an authenticated query is come by. -/
inductive KeyBehavior where
  | required
  | optional
  /-- The token is made automatically. -/
  | auto
  deriving DecidableEq, Repr

def KeyBehavior.name : KeyBehavior → String
  | .required => "REQUIRED"
  | .optional => "OPTIONAL"
  | .auto => "AUTO"

/-- Authentication by a token, which an environment variable holds. -/
structure Authentication where
  envVar : String
  keyBehavior : KeyBehavior
  deriving DecidableEq, Repr

/-- The enumerator of the generated `AuthType`; there is no other kind of authentication. -/
def Authentication.typeName : String := "TOKEN"

structure Parameter where
  type : String
  name : String
  deriving DecidableEq, Repr

def Parameter.declaration (p : Parameter) : String := p.type ++ " " ++ p.name

/-- A query method. The texts of its parameters in a declaration and in a call always follow from the
parameters, so that they are functions, `fullParameters` and `callParameters`, and not fields. -/
structure Query where
  name : String
  returnType : String
  parameters : List Parameter
  category : Category
  /-- `none` if the query needs no authentication. -/
  authentication : Option Authentication := none
  enabled : Bool := true
  deriving DecidableEq, Repr

namespace Query

/-- The parameters as a method declares them. -/
def fullParameters (q : Query) : String :=
  ", ".intercalate (q.parameters.map Parameter.declaration)

/-- The parameters as a call passes them on. -/
def callParameters (q : Query) : String :=
  ", ".intercalate (q.parameters.map Parameter.name)

def isAutoToken (q : Query) : Bool :=
  match q.authentication with
  | some a => a.keyBehavior = .auto
  | none => false

end Query

end QueryHeaders
