import Formwork.Net.Address
import Formwork.Yaml.Basic

/-! # Settings of an application

The settings that the library understands, and the whole document they come from,
in which an application looks up keys of its own. `problems` lists what is wrong
with settings that were read; settings are used only if nothing is.
-/

namespace Formwork

namespace Settings

/-- How a database is reached. -/
structure Database where
  host : String := ""
  user : String := ""
  password : String := ""
  database : String := ""
  driver : String := ""
deriving DecidableEq

/-- Files under `directory` answer requests under `path`. -/
structure StaticFiles where
  path : String := ""
  directory : String := ""
deriving DecidableEq

/-- Limits on requests: the size of a body in octets, and the time for an answer
in seconds, where zero means no limit. -/
structure Limits where
  bodySize : Nat := 10485760
  timeout : Nat := 30
deriving DecidableEq

/-- What an application tells about its work. -/
structure Observability where
  logLevel : String := "info"
  metricsEnabled : Bool := false
  metricsAddress : String := "0.0.0.0:9090"
deriving DecidableEq

end Settings

/-- The settings of an application. Port zero means that none was given; sessions
are signed with `sessionKey` and disabled where it is empty. -/
structure Settings where
  port : Nat := 0
  database : Settings.Database := {}
  staticFiles : Settings.StaticFiles := {}
  sessionKey : String := ""
  limits : Settings.Limits := {}
  observability : Settings.Observability := {}
  document : Yaml := .null

namespace Settings

/-- Files are served. -/
def StaticFiles.isServed (s : StaticFiles) : Bool := !s.path.isEmpty && !s.directory.isEmpty

/-- The value that a key leads to in the document. Points cut the key into names of
nested mappings; the empty key leads to the whole document. -/
def find? (s : Settings) (key : String) : Option Yaml :=
  if key.isEmpty then some s.document else s.document.memberAlong? (Text.split '.' key)

/-- The value under a key of the mapping `testing`; the key is one name. -/
def testingValue? (s : Settings) (key : String) : Option Yaml :=
  (s.find? "testing").bind (·.member? key)

/-- What can be wrong with settings. -/
inductive Problem where
  | portMissing
  | staticIncomplete
  | staticPathRelative
  | staticPathRoot
  | bodySizeZero
  | metricsAddress (text : String)
deriving DecidableEq

namespace Problem

/-- The key that the problem is about. -/
def field : Problem → String
  | portMissing => "port"
  | staticIncomplete => "static"
  | staticPathRelative => "static.path"
  | staticPathRoot => "static.path"
  | bodySizeZero => "limits.body_bytes"
  | metricsAddress _ => "observability.metrics_address"

/-- The problem in words. -/
def message : Problem → String
  | portMissing => "the port is required"
  | staticIncomplete => "both `path` and `dir` must be set to serve static files"
  | staticPathRelative => "must start with `/`"
  | staticPathRoot => "cannot be the root path, routes would be shadowed"
  | bodySizeZero => "must be greater than zero"
  | metricsAddress text => "`" ++ text ++ "` is not a socket address"

/-- The key and the problem in words. -/
def text (p : Problem) : String := p.field ++ ": " ++ p.message

end Problem

/-- What is wrong with a path under which files are served: it begins with a slash
and does not consist of slashes. -/
def StaticFiles.pathProblem? (s : StaticFiles) : Option Problem :=
  if s.path.isEmpty then none
  else if !Text.hasHead "/" s.path then some .staticPathRelative
  else if s.path.toList.all (· == '/') then some .staticPathRoot
  else none

/-- The address under which metrics are published is needed and is none. -/
def Observability.addressProblem? (o : Observability) : Option Problem :=
  if o.metricsEnabled && !Net.isSocketAddress o.metricsAddress then
    some (.metricsAddress o.metricsAddress)
  else none

/-- All that is wrong with the settings, in the order of their keys. -/
def problems (s : Settings) : List Problem :=
  (if s.port = 0 then [Problem.portMissing] else []) ++
    (if s.staticFiles.path.isEmpty != s.staticFiles.directory.isEmpty then
      [Problem.staticIncomplete] else []) ++
    s.staticFiles.pathProblem?.toList ++
    (if s.limits.bodySize = 0 then [Problem.bodySizeZero] else []) ++
    s.observability.addressProblem?.toList

end Settings

end Formwork
