import LogSteward.Connection.FileTree

/-!
# Mounted secrets

Secrets mounted into a file tree: a directory for each secret and in it a file for each entry.
Entries whose name begins with a dot are passed over, and so is everything that is not a file once
links are followed.
-/

namespace LogSteward.Mount

/-- Whether a part of a path stands for the directory it is in. -/
def isIdle (part : String) : Bool :=
  part = "" || part = "."

/-- A path below the directory of all secrets as it is shown: nothing that only stands for a
directory is left at its ends. -/
def shown (path : String) : String :=
  let parts := (path.splitOn "/").dropWhile isIdle
  "/".intercalate (parts.reverse.dropWhile isIdle).reverse

/-- What an entry of a secret's directory contributes to the secret. -/
def entry (t : FileTree) (directory root name key : String) :
    Except ReadFailure (Option (String × Octets)) :=
  let path := FileTree.join name key
  if key.startsWith "." then .ok none
  else match t.resolve directory (FileTree.join root path) with
    | .error e => .error ⟨shown path, e⟩
    | .ok (.file content) => .ok (some (key, content))
    | .ok _ => .ok none

/-- The secrets below a directory `root`, as seen from another directory. -/
def source (t : FileTree) (directory root : String) : SecretSource := fun name =>
  match t.list directory (FileTree.join root name) with
  | .error .notFound => .ok none
  | .error e => .error ⟨shown name, e⟩
  | .ok entries =>
    match entries.mapM fun (key, _) => entry t directory root name key with
    | .error e => .error e
    | .ok found => .ok (some (Secret.ofList name (found.filterMap id)))

end LogSteward.Mount
