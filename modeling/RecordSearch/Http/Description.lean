import RecordSearch.Data.Tree

/-!
The description of the documents that are sent and received, as an OpenAPI document.
-/

namespace RecordSearch.Http.Description

structure Property where
  name : String
  /-- The members that tell its type. -/
  type : List (String × Tree)
  meaning : String
  sample : Option Tree := none
  required : Bool := true

structure Schema where
  name : String
  meaning : String
  properties : List Property

def string : List (String × Tree) := [("type", .text "string")]

def boolean : List (String × Tree) := [("type", .text "boolean")]

def natural : List (String × Tree) := [("type", .text "integer"), ("minimum", .nat 0)]

def longNatural : List (String × Tree) := ("format", .text "int64") :: natural

def float : List (String × Tree) := [("type", .text "number"), ("format", .text "float")]

def strings : List (String × Tree) := [("type", .text "array"), ("items", .named string)]

def optionalString : List (String × Tree) := string ++ [("nullable", .bool true)]

def Property.document (p : Property) : Tree :=
  let sample : List (String × Tree) :=
    match p.sample with
    | some t => [("example", t)]
    | none => []
  .named (p.type ++ [("description", .text p.meaning)] ++ sample)

def Schema.document (s : Schema) : Tree :=
  .named
    [("type", .text "object"), ("description", .text s.meaning),
      ("required", .list ((s.properties.filter Property.required).map fun p => .text p.name)),
      ("properties", .named (s.properties.map fun p => (p.name, p.document)))]

def searchParameters : Schema where
  name := "SearchParams"
  meaning := "Query string parameters of the search endpoint"
  properties :=
    [{ name := "q", type := string, meaning := "CommonQL filter expression, URL-encoded",
       sample := some (.text "contents LIKE 'Winterfell'") }]

def searchResult : Schema where
  name := "SearchResponse"
  meaning := "Response model for search results"
  properties :=
    [{ name := "query", type := string, meaning := "The original query string",
       sample := some (.text "contents LIKE 'Winterfell'") },
      { name := "duration", type := float, meaning := "Query execution duration in seconds",
        sample := some (.real "0.023") },
      { name := "result_count", type := natural, meaning := "Number of locators returned",
        sample := some (.nat 1) },
      { name := "results", type := strings,
        meaning := "Locators of the matching documents, sorted",
        sample := some (.list
          [.text "http://localhost:8080/api/v1/retrieve/00067360b70e4acfab561fe593ad3f7a"]) }]

def indexBody : Schema where
  name := "IndexRequestBody"
  meaning := "Body of an index request in extraction mode"
  properties :=
    [{ name := "sourceLocation", type := string, meaning := "Location of the document bytes",
       sample := some (.text "file:///data/winterfell.txt") },
      { name := "metadataLocation", type := string, meaning := "Location of the metadata resource",
        sample := some (.text "http://store:9041/metadata/00067360b70e4acfab561fe593ad3f7a") },
      { name := "mediaType", type := optionalString,
        meaning := "Declared media type of the document; guessed from the source extension when " ++
          "absent",
        sample := some (.text "text/plain"), required := false }]

def error : Schema where
  name := "ErrorResponse"
  meaning := "Error response model"
  properties :=
    [{ name := "error", type := string, meaning := "Error message",
       sample := some (.text "Unsupported query attributes: \x7bcolour\x7d") },
      { name := "error_type", type := string, meaning := "Error type",
        sample := some (.text "IllegalQuery") },
      { name := "detail", type := optionalString,
        meaning := "Underlying cause, for client errors", required := false }]

def health : Schema where
  name := "HealthResponse"
  meaning := "Health check response"
  properties :=
    [{ name := "status", type := string, meaning := "Service status",
       sample := some (.text "healthy") },
      { name := "service", type := string, meaning := "Service name",
        sample := some (.text "CommonQL Search API") }]

def stats : Schema where
  name := "StatsResponse"
  meaning := "Index statistics response"
  properties :=
    [{ name := "total_docs", type := longNatural,
       meaning := "Total number of documents in the index", sample := some (.nat 100) },
      { name := "read_only", type := boolean,
        meaning := "Whether another process holds the index lock" },
      { name := "write_mode", type := string, meaning := "How index requests are interpreted",
        sample := some (.text "extraction") },
      { name := "queryable_attributes", type := strings,
        meaning := "Attributes accepted in queries",
        sample := some (.list [.text "contents", .text "countryCode", .text "id"]) }]

def schemas : List Schema := [searchParameters, searchResult, indexBody, error, health, stats]

def document : Tree :=
  .named
    [("openapi", .text "3.0.3"),
      ("info", .named
        [("title", .text "CommonQL Search API"),
          ("description", .text ("CommonQL filter queries and a uniqueness-checked indexing " ++
            "pipeline over a tantivy index")),
          ("license", .named [("name", .text "")]), ("version", .text "0.1.0")]),
      ("paths", .record []),
      ("components", .named
        [("schemas", .named (schemas.map fun s => (s.name, s.document)))])]

end RecordSearch.Http.Description
