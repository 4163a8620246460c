import ReplayProxy.FileTree
import ReplayProxy.Regex.Parser
import ReplayProxy.Transform

/-!
# Errors of the proxy

The causes for which the engine, the import and the handling of requests give up, each with
its sentence.
-/

namespace ReplayProxy

/-- Why the proxy gives up. -/
inductive ProxyError where
  | io (cause : FileError)
  /-- A request or response is not HTTP. -/
  | http (reason : String)
  /-- The real destination gave no response. -/
  | destination (reason : String)
  | json (cause : Json.Fault)
  | storage (cause : StorageError)
  | encoding (cause : EncodingError)
  | transform (cause : TransformError)
  | mode (cause : Mode.Unknown)
  /-- The pattern for destinations is none. -/
  | pattern (cause : Regex.Error)
  | config (reason : String)
  | importing (reason : String)
  deriving DecidableEq

namespace ProxyError

/-- The sentence on an error. -/
def message : ProxyError → String
  | .io e => "IO error: " ++ e.message
  | .http reason => "HTTP error: " ++ reason
  | .destination reason => "Upstream error: " ++ reason
  | .json e => "JSON error: " ++ e.message
  | .storage e => "Storage error: " ++ e.message
  | .encoding e => "Encoding error: " ++ e.message
  | .transform e => "Middleware error: " ++ e.message
  | .mode e => e.message
  | .pattern e => "Invalid destination pattern: " ++ e.message
  | .config reason => "Configuration error: " ++ reason
  | .importing reason => "Import error: " ++ reason

/-- Whether the error only says that nothing is stored under a key. -/
def isNotFound : ProxyError → Bool
  | .storage e => e.isNotFound
  | _ => false

/-- The error of a mode that lacks its transform. -/
def missingTransform (m : Mode) : ProxyError := .config (m.name ++ " mode requires middleware")

end ProxyError

end ReplayProxy
