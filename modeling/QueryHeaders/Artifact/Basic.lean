import QueryHeaders.Artifact.Header
import QueryHeaders.Query.Basic

/-!
The six generated files.

Two headers declare the queries of the interface, two forward them from a wrapping class to the
member it wraps, one lists their authentication, and a CMake fragment says which queries exist.
Each is a function of the list of included queries, well formed also for none.
-/
namespace QueryHeaders

/-- How a declaration of the interface ends. -/
inductive Declaration where
  | pure
  | overriding
  deriving DecidableEq, Repr

/-- The class whose methods forward to a member. -/
inductive Wrapper where
  | cache
  | database
  deriving DecidableEq, Repr

inductive Artifact where
  | declarations (kind : Declaration)
  | forwarding (wrapper : Wrapper)
  | authentication
  | cmake
  deriving DecidableEq, Repr

namespace Declaration

def specifier : Declaration → String
  | .pure => "= 0"
  | .overriding => "override"

def macroName : Declaration → String
  | .pure => "QUERY_DEFINITION"
  | .overriding => "QUERY_OVERRIDE"

def guard (d : Declaration) : String := d.macroName ++ "_HPP"

/-- The declaration of one query. -/
def line (d : Declaration) (q : Query) : String :=
  "    virtual " ++ q.returnType ++ " " ++ q.name ++ "(" ++ q.fullParameters ++ ") " ++
    d.specifier ++ ";"

def render (d : Declaration) (qs : List Query) : String :=
  Header.guarded d.guard (Header.macroLines d.macroName (qs.map d.line))

end Declaration

namespace Wrapper

def className : Wrapper → String
  | .cache => "Cache"
  | .database => "Database"

def member : Wrapper → String
  | .cache => "cache"
  | .database => "database"

def macroName : Wrapper → String
  | .cache => "QUERY_FORWARDING_CACHE"
  | .database => "QUERY_FORWARDING_DATABASE"

def guard : Wrapper → String
  | .cache => "CACHE_QUERY_FORWARDING_HPP"
  | .database => "DATABASE_QUERY_FORWARDING_HPP"

/-- The three lines of one forwarding method. -/
def method (w : Wrapper) (q : Query) : List String :=
  ["    " ++ q.returnType ++ " " ++ w.className ++ "::" ++ q.name ++ "(" ++ q.fullParameters ++
      ") \x7b",
    "        return this->" ++ w.member ++ "->" ++ q.name ++ "(" ++ q.callParameters ++ ");",
    "    \x7d"]

def render (w : Wrapper) (qs : List Query) : String :=
  Header.guarded w.guard (Header.macroLines w.macroName (qs.flatMap w.method))

end Wrapper

/-! ## Authentication -/

namespace AuthenticationTable

def preamble : List String := [
  "#include <string>",
  "#include <unordered_map>",
  "#include <array>",
  "",
  "enum class AuthType \x7b TOKEN \x7d;",
  "",
  "struct AuthConfig \x7b",
  "    AuthType type;",
  "    std::string envVar;",
  "\x7d;",
  ""]

/-- The variables whose tokens are made automatically. -/
def autoTokens (qs : List Query) : List String :=
  (qs.filter Query.isAutoToken).filterMap fun q => q.authentication.map Authentication.envVar

/-- The entry of a query that needs authentication. -/
def entry? (q : Query) : Option String :=
  q.authentication.map fun a =>
    "    \x7b" ++ Header.literal q.name ++ ", \x7bAuthType::" ++ Authentication.typeName ++ ", " ++
      Header.literal a.envVar ++ "\x7d\x7d"

def autoTokenLines (envVars : List String) : List String :=
  Header.initialized
    ("static constexpr std::array<const char*, " ++ toString envVars.length ++ "> AutoToken")
    (envVars.map fun v => "    " ++ Header.literal v)

def mapLines (qs : List Query) : List String :=
  Header.initialized "static std::unordered_map<std::string, AuthConfig> QUERY_AUTH_MAP"
    (qs.filterMap entry?)

def render (qs : List Query) : String :=
  Header.guarded "AUTH_CONFIG_HPP"
    (preamble ++ (if qs.isEmpty then [Header.noQueries] else []) ++
      autoTokenLines (autoTokens qs) ++ [""] ++ mapLines qs)

end AuthenticationTable

/-! ## Build flags -/

namespace BuildFlags

def marker : String := "# Auto-generated CMake configuration - DO NOT EDIT MANUALLY"

/-- The compile definition that says that a query exists. -/
def flag (q : Query) : String := "QUERY_EXISTS_" ++ q.name

def lines (qs : List Query) : List String :=
  [marker, ""] ++
    if qs.isEmpty then
      ["# No query definitions found",
        "# target_compile_definitions will be empty",
        "# No individual query flags to set"]
    else
      ["# Query definitions found", "add_compile_definitions("] ++
        qs.map (fun q => "    " ++ flag q) ++
        [")", "", "# Set individual query flags"] ++
        qs.map fun q => "set(" ++ flag q ++ " TRUE)"

def render (qs : List Query) : String := Text.ofLines (lines qs)

end BuildFlags

/-! ## All of them -/

namespace Artifact

/-- The artifacts in the order in which they are written. -/
def all : List Artifact := [
  .declarations .pure, .declarations .overriding, .forwarding .cache, .forwarding .database,
  .authentication, .cmake]

def fileName : Artifact → String
  | .declarations .pure => "Query_Definition.hpp"
  | .declarations .overriding => "Query_Override.hpp"
  | .forwarding .cache => "Cache_Query_Forwarding.hpp"
  | .forwarding .database => "Database_Query_Forwarding.hpp"
  | .authentication => "AuthConfig.hpp"
  | .cmake => "Query_Config.cmake"

def render (a : Artifact) (qs : List Query) : String :=
  match a with
  | .declarations kind => kind.render qs
  | .forwarding wrapper => wrapper.render qs
  | .authentication => AuthenticationTable.render qs
  | .cmake => BuildFlags.render qs

end Artifact

/-- An artifact and its text. -/
structure Rendered where
  artifact : Artifact
  content : String
  deriving DecidableEq, Repr

/-- The text of every artifact. -/
def renderAll (qs : List Query) : List Rendered :=
  Artifact.all.map fun a => ⟨a, a.render qs⟩

end QueryHeaders
