import RecordSearch.Config.Load
import RecordSearch.Service.Indexing
import RecordSearch.Service.Search
import RecordSearch.Store.Disk

/-!
Starting the services of a configuration.
-/

namespace RecordSearch

open RecordSearch.Time (Instant)

structure Services where
  config : Config
  registry : Registry
  store : Store
  /-- The folder of the index, if it is kept in one. -/
  place : Option Names

inductive StartFault where
  | schema (fault : SchemaFault)
  | index (path : String) (fault : StoreFault)
  deriving DecidableEq, Repr

namespace StartFault

def message : StartFault → String
  | schema fault => fault.message
  | index path _ => "Failed to open index at " ++ path

def causes : StartFault → List String
  | schema _ => []
  | index _ fault => fault.message :: fault.causes

end StartFault

namespace Services

def registryOf (files : Files) (config : Config) : Except SchemaFault Registry :=
  match config.schemaPath with
  | some path => Registry.load files path
  | none => .ok .standard

/-- Starts the services of a configuration. An index without a path is kept in memory, where it has
the memory that its writer needs. -/
def start (config : Config) (disk : Disk) : Except StartFault Services × Disk :=
  match registryOf disk.files config with
  | .error fault => (.error (.schema fault), disk)
  | .ok registry =>
    match config.index.path with
    | none => (.ok ⟨config, registry, .inMemory registry, none⟩, disk)
    | some path =>
      match disk.openIndex registry config.index.heapBytes path with
      | (.error fault, disk) => (.error (.index path fault), disk)
      | (.ok (place, store), disk) => (.ok ⟨config, registry, store, some place⟩, disk)

/-- Puts the index back into its folder. -/
def stop (s : Services) (disk : Disk) : Disk :=
  match s.place with
  | some place => disk.keep place s.store.index
  | none => disk

def world (s : Services) (load : Loader) (guess : MediaType.Guess) (now : Instant) : World :=
  ⟨load, guess, s.config.extractor, now⟩

def act {α : Type} (s : Services) (action : Store → α × Store) : α × Services :=
  let (a, store) := action s.store
  (a, { s with store := store })

def index (s : Services) (load : Loader) (guess : MediaType.Guess) (now : Instant) (id : String)
    (request : IndexRequest) : Except Failure Unit × Services :=
  s.act (Indexing.index s.registry Store.repository (s.world load guess now) id request)

def indexEnvelope (s : Services) (id mediaType : String) (payload : Content) :
    Except Failure Unit × Services :=
  s.act (Indexing.indexEnvelope s.registry Store.repository id mediaType payload)

def find (s : Services) (q : String) : Except Failure (List String) × Services :=
  s.act (Search.find s.registry Store.repository s.config.locator q)

end Services

end RecordSearch
