import SnippetCheck.Json.Write
import SnippetCheck.Token.Basic

namespace SnippetCheck

/-- What the analyzer says about itself. -/
structure Info where
  name : String
  description : String
  version : String
  capabilities : List String
  supportedConstructs : List String
  tokenTypes : List String

/-- A sign of life. -/
structure Health where
  status : String
  service : String
  version : String

def version : String :=
  "0.2.0"

def serviceName : String :=
  "minipy-analyzer"

def analyzerInfo : Info where
  name := "MiniPy lexical, syntactic and semantic analyzer"
  description := "Analysis pipeline for short Python-like snippets"
  version := version
  capabilities :=
    ["lexical analysis with token classification",
     "syntactic analysis with AST construction",
     "semantic analysis with a symbol table",
     "checks for a distinguished recursive function"]
  supportedConstructs :=
    ["function definitions",
     "conditionals (if-else)",
     "recursive calls",
     "arithmetic expressions",
     "variable assignment",
     "function calls"]
  tokenTypes := TokenKind.all.map TokenKind.name

def analyzerHealth : Health :=
  ⟨"ok", serviceName, version⟩

def Info.toJson (info : Info) : Json :=
  .object
    [("name", .string info.name), ("description", .string info.description),
     ("version", .string info.version), ("capabilities", .strings info.capabilities),
     ("supported_constructs", .strings info.supportedConstructs),
     ("token_types", .strings info.tokenTypes)]

def Health.toJson (health : Health) : Json :=
  .object
    [("status", .string health.status), ("service", .string health.service),
     ("version", .string health.version)]

end SnippetCheck
