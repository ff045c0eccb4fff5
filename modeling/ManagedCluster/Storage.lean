import ManagedCluster.Options
import ManagedCluster.Spec.Fields
import ManagedCluster.Yaml.Layout
import ManagedCluster.Yaml.Tree

/-! # Documents in files

Specs and options are kept as texts in the files of a folder. A path names a file of the folder; a
text that is written takes the place of the whole file.
-/

namespace ManagedCluster

/-- Why a file could not be read or written. -/
inductive FileError where
  | notFound
  | notFolder
  | isFolder
  | nameTooLong
  | badName
  /-- The bytes are no text. -/
  | notText
  deriving Repr, DecidableEq

namespace FileError

def message : FileError → String
  | notFound => "No such file or directory (os error 2)"
  | notFolder => "Not a directory (os error 20)"
  | isFolder => "Is a directory (os error 21)"
  | nameTooLong => "File name too long (os error 36)"
  | badName => "file name contained an unexpected NUL byte"
  | notText => "stream did not contain valid UTF-8"

end FileError

/-- A folder without folders in it: the names of its files and what they hold. -/
structure Folder where
  files : List (String × List UInt8) := []

/-- What follows the name of a file in a path. -/
inductive PathEnd where
  | nothing
  | slash
  /-- A point that stands for the folder of this name. -/
  | point
  deriving Repr, DecidableEq

/-- What a path leads to. -/
inductive Place where
  | folder
  /-- A file of the folder, or a folder of this name if something follows it. -/
  | file (name : String) (ending : PathEnd)

namespace Folder

/-- The most bytes of a file name. -/
def maxNameBytes : Nat := 255

/-- The most bytes of a path. -/
def maxPathBytes : Nat := 4095

/-- What follows the last name among the parts of a path. -/
def pathEnd (parts : List String) : PathEnd :=
  let after := parts.reverse.takeWhile fun part => part.isEmpty || part == "."
  if after.contains "." then .point
  else if after.isEmpty then .nothing
  else .slash

/-- Where a path leads. It is followed name by name, so the first that cannot be found decides. -/
def place (folder : Folder) (path : String) : Except FileError Place :=
  let parts := path.splitOn "/"
  let names := parts.filter fun part => !part.isEmpty && part != "."
  if path.isEmpty then .error .notFound
  else if path.toList.contains '\x00' then .error .badName
  else if maxPathBytes < path.utf8ByteSize then .error .nameTooLong
  else
    match names.dropWhile (· == "..") with
    | [] => .ok .folder
    | name :: rest =>
      if maxNameBytes < name.utf8ByteSize then .error .nameTooLong
      else if names.head? != some name || path.startsWith "/" then .error .notFound
      else if rest.isEmpty then .ok (.file name (pathEnd parts))
      else if (folder.files.lookup name).isSome then .error .notFolder
      else .error .notFound

def readText (folder : Folder) (path : String) : Except FileError String := do
  match ← folder.place path with
  | .folder => throw .isFolder
  | .file name ending =>
    match folder.files.lookup name with
    | none => throw .notFound
    | some bytes =>
      if ending != .nothing then throw .notFolder
      match String.fromUTF8? ⟨bytes.toArray⟩ with
      | some text => return text
      | none => throw .notText

/-- The folder with some bytes in a file. -/
def put (folder : Folder) (name : String) (bytes : List UInt8) : Folder :=
  ⟨(name, bytes) :: folder.files.filter (·.1 != name)⟩

def writeText (folder : Folder) (path text : String) : Except FileError Folder := do
  match ← folder.place path with
  | .folder => throw .isFolder
  | .file name ending =>
    match ending with
    | .nothing => return folder.put name text.toUTF8.toList
    | .slash => throw .isFolder
    | .point => throw (if (folder.files.lookup name).isSome then .notFolder else .notFound)

end Folder

/-- Why a text could not be loaded or stored. -/
inductive TextError where
  | read (path : String) (error : FileError)
  | load (error : Yaml.LoadError)
  /-- There is no room for the mark of the start of a document. -/
  | separator
  /-- There is no room for the document. -/
  | serialize
  | write (error : FileError)
  deriving Repr, DecidableEq

namespace TextError

def noRoom : String := "no room"

def message : TextError → String
  | read path _ => "failed to read YAML from file " ++ Text.quotedPath path
  | load _ => "failed to deserialize YAML"
  | separator => "failed to write YAML document separator"
  | serialize => "failed to serialize YAML"
  | write _ => "failed to write YAML to file"

def causes : TextError → List String
  | read _ error | write error => [error.message]
  | load error => [error.message]
  | separator | serialize => [noRoom]

end TextError

/-- What could not be loaded, and why. -/
inductive LoadFailure where
  | cluster (error : TextError)
  | options (error : TextError)
  deriving Repr, DecidableEq

namespace LoadFailure

def message : LoadFailure → String
  | cluster _ => "failed to load cluster document"
  | options _ => "failed to load reconciler options"

def causes : LoadFailure → List String
  | cluster error | options error => error.message :: error.causes

end LoadFailure

def loadText {α : Type} (codec : Codec α) (text : String) : Except TextError α :=
  (Yaml.load codec.read text).mapError .load

def loadFile {α : Type} (codec : Codec α) (folder : Folder) (path : String) :
    Except TextError α := do
  let text ← (folder.readText path).mapError (.read path)
  loadText codec text

/-- Write a document into a space of the given number of bytes. The result is what is left of it. -/
def storeWithin (space : Nat) (explicitStart : Bool) (document : Document) :
    Except TextError Nat :=
  match Yaml.spaceAfter? space (Yaml.start explicitStart) with
  | none => .error .separator
  | some rest =>
    match Yaml.spaceAfter? rest (Yaml.write false document) with
    | none => .error .serialize
    | some rest => .ok rest

/-- How a document is written as a text. -/
structure TextOptions where
  /-- Mark the start of the document. -/
  explicitStart : Bool := true
  /-- Write a choice as a map of its name to its content. -/
  singletonMap : Bool := true
  deriving Repr, DecidableEq

namespace Spec

def ofText (text : String) : Except LoadFailure Spec :=
  (loadText codec text).mapError .cluster

def ofFile (folder : Folder) (path : String) : Except LoadFailure Spec :=
  (loadFile codec folder path).mapError .cluster

def toText (spec : Spec) (explicitStart : Bool) : String :=
  Yaml.write explicitStart spec.toDocument

/-- The text of a spec. There are no choices in it, so it does not matter how they are written. -/
def text (spec : Spec) (options : TextOptions) : String :=
  spec.toText options.explicitStart

def toFile (spec : Spec) (explicitStart : Bool) (folder : Folder) (path : String) :
    Except TextError Folder :=
  (folder.writeText path (spec.toText explicitStart)).mapError .write

end Spec

namespace Options

def ofText (text : String) : Except TextError Options := loadText codec text

def ofFile (folder : Folder) (path : String) : Except LoadFailure Options :=
  (loadFile codec folder path).mapError .options

end Options

end ManagedCluster
