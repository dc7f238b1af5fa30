import Fortune.Document.Reader
import Fortune.Identifier
import Fortune.Pack.Tree

/-!
Packs: directories whose `data/<namespace>/outcomes` hold documents at any depth. A file's
identifier is its namespace and its path without the extension `json`. Files whose identifier is
refused or whose text is no document are passed over.
-/
namespace Fortune.Pack

def join (path name : String) : String :=
  if path.isEmpty || path.toList.getLast? == some '/' then path ++ name else path ++ "/" ++ name

/-- Cuts a name at its last dot. A dot at the very beginning does not count. -/
def splitExtension (name : String) : Option (String × String) :=
  let reversed := name.toList.reverse
  match reversed.dropWhile (· != '.') with
  | '.' :: before =>
    if before.isEmpty then none
    else some (String.ofList before.reverse, String.ofList (reversed.takeWhile (· != '.')).reverse)
  | _ => none

/-- The name of a document without its extension; none for files that are no documents. A single dot
cannot stand alone as a name and becomes two. -/
def documentName? (name : String) : Option String :=
  match splitExtension name with
  | some (stem, "json") => some (if stem == "." then ".." else stem)
  | _ => none

structure DocumentFile where
  names : List String
  text : Option String
deriving Repr

inductive Error where
  | noData (path : String)
  | unreadable (path why : String)
deriving DecidableEq, Repr

def Error.message : Error → String
  | .noData path => "no data directory in " ++ path
  | .unreadable path why => "cannot read " ++ path ++ ": " ++ why

mutual

/-- The document files of a directory or of a single file of a given name, in the order of their
paths; `path` leads to the directory and `names` are those behind the outcomes directory. -/
def filesOf (path : String) (names : List String) (name : String) :
    Tree → Except Error (List DocumentFile)
  | .file text =>
    match documentName? name with
    | some stem => .ok [⟨names ++ [stem], text⟩]
    | none => .ok []
  | .locked why => .error (.unreadable (join path name) why)
  | .directory entries => filesOfEntries (join path name) (names ++ [name]) entries

def filesOfEntries (path : String) (names : List String) :
    List (String × Tree) → Except Error (List DocumentFile)
  | [] => .ok []
  | (name, t) :: rest => do
    let files ← filesOf path names name t
    return files ++ (← filesOfEntries path names rest)

end

def outcomeFiles (path : String) : Tree → Except Error (List DocumentFile)
  | .directory entries => filesOfEntries path [] entries
  | .locked why => .error (.unreadable path why)
  | .file _ => .ok []

def pathText (names : List String) : String := "/".intercalate names

def document? (scope : String) (file : DocumentFile) : Option (Identifier × Document) := do
  let id ← (Identifier.ofParts scope (pathText file.names)).toOption
  let document ← Document.read (← file.text)
  return (id, document)

def namespaceDocuments (path scope : String) (t : Tree) :
    Except Error (List (Identifier × Document)) :=
  match t.entry? "outcomes" with
  | none => .ok []
  | some outcomes => do
    let files ← outcomeFiles (join (join path scope) "outcomes") outcomes
    return files.filterMap (document? scope)

def documentsOf (path : String) :
    List (String × Tree) → Except Error (List (Identifier × Document))
  | [] => .ok []
  | (scope, t) :: rest => do
    let here ← namespaceDocuments path scope t
    return here ++ (← documentsOf path rest)

/-- The documents of the pack in a directory, given what its entry `data` is, if it has one. -/
def documents (path : String) (data : Option Tree) :
    Except Error (List (Identifier × Document)) :=
  match data with
  | some (.directory entries) => documentsOf (join path "data") entries
  | some (.locked why) => .error (.unreadable (join path "data") why)
  | _ => .error (.noData path)

end Fortune.Pack
