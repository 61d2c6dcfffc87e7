import DocStore.Path
import DocStore.Value.Literal

/-!
# Store options

`Options` say how a named store is located and kept. They are made from a name and keywords by
`Options.make`, which takes the file suffix off the name and refuses names that are empty or hold a
path separator; what is left is a `StoreName`.

The switches may be any values: they are kept as they are given and count by whether they are
truthy.
-/

namespace DocStore

/-- The suffix of store files. -/
def fileSuffix : List Char := ['.', 'j', 's', 'o', 'n']

/-- Whether a character separates the names of a path on some system. -/
def isPathSeparator (c : Char) : Bool := c == '/' || c == '\\'

/-- A name that a store may have. -/
structure StoreName where
  text : String
  nonempty : text ≠ ""
  noSeparator : text.toList.any isPathSeparator = false
  deriving DecidableEq

/-- The reasons for which options are refused by the rules on names. -/
inductive ConfigError where
  /-- The name is no text, or empty. -/
  | nameRequired
  /-- Nothing but the file suffix. -/
  | invalidName (given : String)
  | separatorInName (given : String)
  deriving DecidableEq

/-- The text of a config error. -/
def ConfigError.message : ConfigError → String
  | .nameRequired => "store name is required"
  | .invalidName given => "invalid store name: " ++ quoted given
  | .separatorInName given => "store name must not contain a path separator: " ++ quoted given

/-- The reasons for which options cannot be made. -/
inductive OptionsFault where
  | unknownKeyword
  | directoryNotText
  | config (e : ConfigError)
  deriving DecidableEq

/-- A name without the file suffix, if it ends in it. -/
def dropSuffix (name : List Char) : List Char :=
  if fileSuffix.isSuffixOf name then name.take (name.length - fileSuffix.length) else name

/-- The name of a store that a text asks for. -/
def StoreName.ofText? (given : String) : Except ConfigError StoreName :=
  if given = "" then .error .nameRequired
  else
    let name := String.ofList (dropSuffix given.toList)
    if hn : name = "" then .error (.invalidName given)
    else if hs : name.toList.any isPathSeparator = true then .error (.separatorInName given)
    else .ok ⟨name, hn, by simpa using hs⟩

/-- How a named store is located and kept. -/
structure Options where
  name : StoreName
  directory : Path
  /-- Whether the store is kept in memory only. -/
  inMemory : Value
  /-- Whether a store that does not exist is created when it is opened. -/
  createIfMissing : Value
  /-- Whether every write is forced to the disk. -/
  syncEveryWrite : Value

namespace Options

/-- The names of the keywords, besides the name of the store. -/
def keywordNames : List String :=
  ["dirname", "in_memory", "create_if_not_exists", "sync_every_write"]

/-- The directory where none is given: the one from the environment, if it is set and not empty,
else the current one. -/
def defaultDirectory (environment : Option String) : Path :=
  match environment with
  | some d => if d = "" then Path.ofString "." else Path.ofString d
  | none => Path.ofString "."

/-- The directory that the keywords ask for. -/
def directoryOf (environment : Option String) : Option Value → Except OptionsFault Path
  | none => .ok (defaultDirectory environment)
  | some (.scalar (.text d)) => .ok (Path.ofString d)
  | some _ => .error .directoryNotText

/-- Makes options from a name and keywords. Of several faults, an unknown keyword counts before the
name, and the name before the directory. -/
def make (environment : Option String) (name : Value) (keywords : List (String × Value)) :
    Except OptionsFault Options :=
  if keywords.any fun k => !keywordNames.contains k.1 then .error .unknownKeyword
  else
    -- a name that is no text is as good as none
    let given := match name with
      | .scalar (.text s) => s
      | _ => ""
    match StoreName.ofText? given with
    | .error e => .error (.config e)
    | .ok name =>
      match directoryOf environment (keywords.lookup "dirname") with
      | .error e => .error e
      | .ok directory =>
        .ok {
          name := name
          directory := directory
          inMemory := (keywords.lookup "in_memory").getD (.bool false)
          createIfMissing := (keywords.lookup "create_if_not_exists").getD (.bool false)
          syncEveryWrite := (keywords.lookup "sync_every_write").getD (.bool false) }

/-- The name of the store file. -/
def fileName (o : Options) : String := String.ofList (o.name.text.toList ++ fileSuffix)

/-- The path of the store file. -/
def path (o : Options) : Path := o.directory.child o.fileName

/-- The options that are written into the store file. -/
def toValue (o : Options) : Value := .object [
  (.text "name", .text o.name.text),
  (.text "dirname", .text o.directory.text),
  (.text "in_memory", o.inMemory)]

/-- Whether the store is kept in memory only. -/
def isInMemory (o : Options) : Bool := o.inMemory.isTruthy

end Options

end DocStore
