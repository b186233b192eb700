import RecordSearch.Config.Basic
import RecordSearch.Data.Tree

/-!
Configurations as data documents.

Everything has a default, so an empty record is a configuration; a name that is not known is passed
over.  The argument `places` tells whether the members of a record may be told apart by their places
in a list.
-/

namespace RecordSearch

namespace Tree

def port? : Tree → Option Nat := asNat? 65536

def word? : Tree → Option Nat := asNat? 18446744073709551616

end Tree

namespace Locator

def tag : String := "strategy"

/-- The locator that has one parameter, by the name of the strategy. Scalars have the type that
they show here. -/
def ofStrategy? (strategy : String) (parameter : String → Option Tree) : Option Locator :=
  match strategy with
  | "retrieve_endpoint" => (parameter "prefix").bind fun t => retrieve <$> t.typed.asText?
  | "stored_attribute" => (parameter "attribute").bind fun t => stored <$> t.typed.asText?
  | _ => none

def ofTree? : Tree → Option Locator
  | .list [strategy, parameter] => do
    ofStrategy? (← strategy.asText?) fun _ => some parameter
  | .record entries => do
    let m ← (Tree.record entries).members? false [tag]
    let strategy ← m.required tag Tree.asText?
    ofStrategy? strategy fun name => do
      let m ← (Tree.record entries).members? false [name]
      m.required name some
  | _ => none

def toTree : Locator → Tree
  | retrieve base => .named [(tag, .text "retrieve_endpoint"), ("prefix", .text base)]
  | stored name => .named [(tag, .text "stored_attribute"), ("attribute", .text name)]

end Locator

namespace ExtractorConfig

def ofTree? (places : Bool) (t : Tree) : Option ExtractorConfig := do
  let m ← t.members? places ["max_length", "overflow"]
  let maxLength ← m.withDefault "max_length" none (Tree.asOption? Tree.word?)
  let overflow ← m.withDefault "overflow" .truncate fun t =>
    (t.choice? places).bind Overflow.ofName?
  return { maxLength, overflow }

def toTree (c : ExtractorConfig) : Tree :=
  .named
    [("max_length", (c.maxLength.map Tree.nat).getD .null),
      ("overflow", .text c.overflow.name)]

end ExtractorConfig

namespace Config

def serverOfTree? (places : Bool) (t : Tree) : Option ServerConfig := do
  let m ← t.members? places ["host", "port"]
  let host ← m.withDefault "host" ({} : ServerConfig).host Tree.asText?
  let port ← m.withDefault "port" ({} : ServerConfig).port Tree.port?
  return { host, port }

def indexOfTree? (places : Bool) (t : Tree) : Option IndexConfig := do
  let m ← t.members? places ["path", "writer_heap_bytes"]
  let path ← m.withDefault "path" none (Tree.asOption? Tree.asText?)
  let heapBytes ← m.withDefault "writer_heap_bytes" ({} : IndexConfig).heapBytes Tree.word?
  return { path, heapBytes }

def timeoutOfTree? (places : Bool) (t : Tree) : Option Nat := do
  let m ← t.members? places ["http_timeout_secs"]
  m.withDefault "http_timeout_secs" ({} : Config).timeout Tree.word?

def limitsOfTree? (places : Bool) (t : Tree) : Option Limits := do
  let m ← t.members? places ["max_query_length", "max_payload_bytes"]
  let queryLength ← m.withDefault "max_query_length" ({} : Limits).queryLength Tree.word?
  let payloadBytes ← m.withDefault "max_payload_bytes" ({} : Limits).payloadBytes Tree.word?
  return { queryLength, payloadBytes }

def memberNames : List String :=
  ["server", "index", "schema_path", "write_mode", "locator", "extractor", "loader", "limits",
    "index_api_version"]

def ofTree? (places : Bool) (t : Tree) : Option Config := do
  let m ← t.members? places memberNames
  let server ← m.withDefault "server" {} (serverOfTree? places)
  let index ← m.withDefault "index" {} (indexOfTree? places)
  let schemaPath ← m.withDefault "schema_path" none (Tree.asOption? Tree.asText?)
  let writeMode ← m.withDefault "write_mode" .extraction fun t =>
    (t.choice? places).bind WriteMode.ofName?
  let locator ← m.withDefault "locator" .standard Locator.ofTree?
  let extractor ← m.withDefault "extractor" {} (ExtractorConfig.ofTree? places)
  let timeout ← m.withDefault "loader" ({} : Config).timeout (timeoutOfTree? places)
  let limits ← m.withDefault "limits" {} (limitsOfTree? places)
  let version ← m.withDefault "index_api_version" ({} : Config).version Tree.asText?
  return { server, index, schemaPath, writeMode, locator, extractor, timeout, limits, version }

def toTree (c : Config) : Tree :=
  let text (s : Option String) : Tree := (s.map Tree.text).getD .null
  .named
    [("server", .named [("host", .text c.server.host), ("port", .nat c.server.port)]),
      ("index",
        .named [("path", text c.index.path), ("writer_heap_bytes", .nat c.index.heapBytes)]),
      ("schema_path", text c.schemaPath), ("write_mode", .text c.writeMode.name),
      ("locator", c.locator.toTree), ("extractor", c.extractor.toTree),
      ("loader", .named [("http_timeout_secs", .nat c.timeout)]),
      ("limits",
        .named
          [("max_query_length", .nat c.limits.queryLength),
            ("max_payload_bytes", .nat c.limits.payloadBytes)]),
      ("index_api_version", .text c.version)]

end Config

end RecordSearch
