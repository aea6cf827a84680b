import WorkflowCheck.FileTree
import WorkflowCheck.Notice

/-! Finding the fixtures of a directory: each of its subdirectories is one, with the first YAML
document in it and the stored snapshot beside that. Names are taken in the order of their bytes,
so the order in which directories are listed does not matter. All texts are read before any
fixture runs, and the first one that cannot be read ends the search. -/

namespace WorkflowCheck

structure FixtureCase where
  document : Bytes
  documentText : String
  snapshot : Bytes
  snapshotText : String
  deriving DecidableEq, Repr

def FixtureCase.kind (case : FixtureCase) : Kind := Kind.ofPath case.document

namespace Discovery

structure Finding (α : Type) where
  notices : List Notice
  result : Except Failure α

def Finding.fail {α : Type} (failure : Failure) : Finding α := ⟨[], .error failure⟩

def yamlEndings : List Bytes := [".yml", ".yaml"].map Text.encode

/-- Names have to be texts, and the case of letters counts. -/
def isYamlName (name : Bytes) : Bool :=
  (Text.decode? name).isSome && yamlEndings.any (·.isSuffixOf name)

def sortNames (names : List Bytes) : List Bytes := names.mergeSort fun a b => decide (a ≤ b)

def entries (t : FileTree) (directory : Bytes) : Except Failure (List Bytes) :=
  match t.list directory with
  | .ok names => .ok ((sortNames names).map (Path.join directory))
  | .error cause => .error (.io directory cause)

def isDocument (t : FileTree) (path : Bytes) : Bool :=
  t.isFile path && ((Path.fileName path).map isYamlName).getD false

/-- The input document of a fixture. That there are several is worth a notice. -/
def select (t : FileTree) (directory : Bytes) : Finding Bytes :=
  match entries t directory with
  | .error failure => .fail failure
  | .ok paths =>
    match paths.filter (isDocument t) with
    | [] => .fail (.missingDocument directory)
    | [path] => ⟨[], .ok path⟩
    | path :: others =>
      ⟨[.severalDocuments directory (others.length + 1) path], .ok path⟩

def readText (t : FileTree) (path : Bytes) : Except Failure String :=
  match t.readText path with
  | .ok text => .ok text
  | .error cause => .error (.io path cause)

def readCase (t : FileTree) (document snapshot : Bytes) : Except Failure FixtureCase := do
  let documentText ← readText t document
  let snapshotText ← readText t snapshot
  return ⟨document, documentText, snapshot, snapshotText⟩

def fixture (t : FileTree) (snapshotFile directory : Bytes) : Finding FixtureCase :=
  let selected := select t directory
  match selected.result with
  | .error failure => ⟨selected.notices, .error failure⟩
  | .ok document =>
    match readCase t document (Path.join directory snapshotFile) with
    | .error failure => ⟨selected.notices, .error failure⟩
    | .ok case => ⟨selected.notices ++ [.discovered document], .ok case⟩

def fixtures (t : FileTree) (snapshotFile : Bytes) : List Bytes → Finding (List FixtureCase)
  | [] => ⟨[], .ok []⟩
  | directory :: rest =>
    let first := fixture t snapshotFile directory
    match first.result with
    | .error failure => ⟨first.notices, .error failure⟩
    | .ok case =>
      let others := fixtures t snapshotFile rest
      ⟨first.notices ++ others.notices, others.result.map (case :: ·)⟩

def discover (t : FileTree) (root snapshotFile : Bytes) : Finding (List FixtureCase) :=
  if !t.isDirectory root then .fail (.notADirectory root)
  else match entries t root with
    | .error failure => .fail failure
    | .ok paths => fixtures t snapshotFile (paths.filter t.isDirectory)

end Discovery

end WorkflowCheck
