import SnippetCheck.Check.Basic
import SnippetCheck.Json.Record
import SnippetCheck.Json.Write

namespace SnippetCheck

open Json (Reader Shape)

namespace WatchList

def toJson (watch : WatchList) : Json :=
  .object
    [("target_function", .string watch.targetFunction),
     ("tracked_parameter", .string watch.trackedParameter),
     ("call_builtin", .string watch.callBuiltin),
     ("scope_pair", .strings [watch.scopePair.1, watch.scopePair.2])]

/-- Fields that are not given keep their defaults. -/
def shape (levels : Nat) : Shape WatchList where
  name := "AnalyzerConfig"
  blank := {}
  fields :=
    [⟨"target_function", true, do
        let targetFunction ← Reader.string; return ({ · with targetFunction })⟩,
     ⟨"tracked_parameter", true, do
        let trackedParameter ← Reader.string; return ({ · with trackedParameter })⟩,
     ⟨"call_builtin", true, do
        let callBuiltin ← Reader.string; return ({ · with callBuiltin })⟩,
     ⟨"scope_pair", true, do
        let scopePair ← Reader.pair Reader.string levels; return ({ · with scopePair })⟩]

def reader (levels : Nat) : Reader WatchList :=
  (shape (levels - 1)).reader levels

end WatchList

/-- How the service is set up: the names that checks look for, and the largest source it takes,
in bytes. Without a limit every source is taken. -/
structure Settings where
  watch : WatchList := {}
  sizeLimit : Option UInt64 := some 65536
  deriving DecidableEq

namespace Settings

def toJson (settings : Settings) : Json :=
  .object
    [("analyzer", settings.watch.toJson),
     ("max_source_bytes", match settings.sizeLimit with
      | none => .null
      | some limit => .number limit.toNat)]

def shape (levels : Nat) : Shape Settings where
  name := "EngineConfig"
  blank := {}
  fields :=
    [⟨"analyzer", true, do let watch ← WatchList.reader levels; return ({ · with watch })⟩,
     ⟨"max_source_bytes", true, do
        let sizeLimit ← Reader.nullable Reader.word64; return ({ · with sizeLimit })⟩]

def reader (levels : Nat) : Reader Settings :=
  (shape (levels - 1)).reader levels

end Settings
end SnippetCheck
