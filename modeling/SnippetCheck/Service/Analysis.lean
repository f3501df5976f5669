import SnippetCheck.Json.Record
import SnippetCheck.Json.Write
import SnippetCheck.Service.Settings
import SnippetCheck.Wire.Report

namespace SnippetCheck

open Json (Reader Shape)

/-- Why nothing is analyzed: the request cannot be read, there is no source or too much of it,
or the settings are of no use. -/
inductive Rejection
  | invalidRequest (fault : Json.Fault)
  | emptySource
  | sourceTooLarge (size : Nat) (limit : UInt64)
  | settings (cause : String)

def Rejection.message : Rejection → String
  | .invalidRequest fault => s!"invalid JSON: {fault.message}"
  | .emptySource => "code must not be empty"
  | .sourceTooLarge size limit =>
    s!"code is {size} bytes, which exceeds the limit of {limit.toNat} bytes"
  | .settings cause => s!"configuration error: {cause}"

/-- What is sent in place of a report. -/
structure Refusal where
  success : Bool
  message : String

namespace Refusal

def toJson (refusal : Refusal) : Json :=
  .object [("success", .bool refusal.success), ("message", .string refusal.message)]

def shape : Shape Refusal where
  name := "RejectionResponse"
  blank := ⟨false, ""⟩
  fields :=
    [⟨"success", false, do let success ← Reader.bool; return ({ · with success })⟩,
     ⟨"message", false, do let message ← Reader.string; return ({ · with message })⟩]

def reader (levels : Nat) : Reader Refusal :=
  shape.reader levels

end Refusal

def Rejection.refusal (rejection : Rejection) : Refusal :=
  ⟨false, rejection.message⟩

/-- A request to analyze a source. -/
structure Request where
  code : String

namespace Request

def toJson (request : Request) : Json :=
  .object [("code", .string request.code)]

def shape : Shape Request where
  name := "AnalysisRequest"
  blank := ⟨""⟩
  fields := [⟨"code", true, do let code ← Reader.string; return fun _ => ⟨code⟩⟩]

def reader (levels : Nat) : Reader Request :=
  shape.reader levels

end Request

namespace Settings

/-- Read settings. What is not given keeps its default. -/
def ofText (text : String) : Except Rejection Settings :=
  ((reader Json.Reader.maxLevels).run text).mapError fun fault => .settings fault.message

/-- Whether a source may be analyzed: it is not empty and within the limit. -/
def accept (settings : Settings) (source : String) : Except Rejection Unit :=
  if source.isEmpty then .error .emptySource
  else match settings.sizeLimit with
    | none => .ok ()
    | some limit =>
      if limit.toNat < source.utf8ByteSize then
        .error (.sourceTooLarge source.utf8ByteSize limit)
      else .ok ()

/-- Analyze any source. What is wrong with it is told in the report. -/
def analyze (settings : Settings) (source : String) : Report :=
  .ofSource settings.watch source

def analyzeAccepted (settings : Settings) (source : String) : Except Rejection Report := do
  settings.accept source
  return settings.analyze source

/-- Analyze the source in a request. -/
def answer (settings : Settings) (body : String) : Except Rejection Report := do
  let request ← ((Request.reader Json.Reader.maxLevels).run body).mapError .invalidRequest
  settings.analyzeAccepted request.code

/-- The text of the answer to a request, whatever comes of it. -/
def respond (settings : Settings) (body : String) : String :=
  match settings.answer body with
  | .ok report => report.toJson.compact
  | .error rejection => rejection.refusal.toJson.compact

end Settings
end SnippetCheck
