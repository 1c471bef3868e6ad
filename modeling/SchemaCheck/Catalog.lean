import SchemaCheck.Catalog.Bundle
import SchemaCheck.Document
import SchemaCheck.Files

/-!
# Catalogs

A `Catalog` holds schemas by name.  It is loaded from an `Origin`: one document, a directory of
documents, or a bundle.  A chain of origins gives the catalog of the first one that can be loaded.
-/

namespace SchemaCheck

/-- Where the schemas of a catalog may be found. -/
inductive Origin
  | file (path : String)
  | directory (path : String)
  | bundle (path : String)
  deriving DecidableEq

/-- Where the schemas of a catalog came from. -/
inductive Source
  | memory
  | origin (origin : Origin)
  | chain (origins : List Origin)
  deriving DecidableEq

/-- Schemas by name, and where they came from. -/
structure Catalog where
  schemas : NameMap Schema
  source : Source

/-- Why a catalog could not be loaded or written. -/
inductive CatalogError
  | file (error : FileError)
  | json (message : String)
  | schema (name : String) (failure : Failure)
  | noSources

def CatalogError.message : CatalogError → String
  | .file error => "I/O error: " ++ error.message
  | .json message => "JSON error: " ++ message
  | .schema name failure => "invalid schema " ++ name ++ ": " ++ failure.message
  | .noSources => "no schema sources available"

def Schema.ofFile (files : Files) (path : String) : Except Failure Schema :=
  match files.read path with
  | .ok bytes => ofBytes bytes
  | .error error => .error (.unreadable path error.message)

namespace Catalog

def empty : Catalog := ⟨.empty, .memory⟩

def get? (catalog : Catalog) (name : String) : Option Schema := catalog.schemas.get? name

/-- The catalog with a schema set under a name. -/
def insert (catalog : Catalog) (name : String) (schema : Schema) : Catalog :=
  { catalog with schemas := catalog.schemas.insert name schema }

/-- The violations of a document of the schema of that name. -/
def validate (catalog : Catalog) (name : String) (document : Json) : Option (List Violation) :=
  (catalog.get? name).map (·.validate document)

/-- A document in a file, under the name of the file without its extension. -/
def loadDocument (files : Files) (path : String) : Except CatalogError (String × Schema) :=
  match files.read path with
  | .error error => .error (.file error)
  | .ok bytes =>
    match Schema.ofBytes bytes with
    | .ok schema => .ok (Files.stem path, schema)
    | .error failure => .error (.schema (Files.stem path) failure)

/-- Whether an entry of a directory holds a document, by its name. -/
def isDocumentName (name : String) : Bool := Files.extension? name == some "json"

def loadDirectory (files : Files) (path : String) : Except CatalogError (List (String × Schema)) :=
  match files.list path with
  | .error error => .error (.file error)
  | .ok names =>
    (names.filter isDocumentName).mapM fun name => loadDocument files (Files.join path name)

/-- The documents of a bundle.  What cannot be read as a bundle is no JSON, even if it is a
directory. -/
def loadBundle (files : Files) (path : String) : Except CatalogError (List (String × Schema)) :=
  match files.read path with
  | .error .isDirectory => .error (.json FileError.isDirectory.message)
  | .error error => .error (.file error)
  | .ok bytes =>
    match Bundle.read bytes with
    | .error fault => .error (.json (fault.streamMessage bytes))
    | .ok documents => documents.mapM fun (name, document) =>
        match Schema.ofJson document with
        | .ok schema => .ok (name, schema)
        | .error failure => .error (.schema name failure)

def loadSchemas (files : Files) : Origin → Except CatalogError (List (String × Schema))
  | .file path => (loadDocument files path).map ([·])
  | .directory path => loadDirectory files path
  | .bundle path => loadBundle files path

def load (files : Files) (origin : Origin) : Except CatalogError Catalog :=
  (loadSchemas files origin).map fun schemas => ⟨.ofList schemas, .origin origin⟩

/-- The catalog of the first origin of a chain that can be loaded. -/
def loadFirst (files : Files) (origins : List Origin) : Except CatalogError Catalog :=
  match origins.findSome? fun origin => (load files origin).toOption with
  | some catalog => .ok { catalog with source := .chain origins }
  | none => .error .noSources

/-- The text of a catalog as a bundle. -/
def bundle (catalog : Catalog) : String := Bundle.write (catalog.schemas.map Schema.toSpec)

end Catalog

end SchemaCheck
