import PadRelay.Ini.Parser
import PadRelay.Text.Utf8

/-!
# PadRelay.Loader

Loading a configuration from a file.

* `ReadFailure`: why a file cannot be read, with the wording of the system.
* `Directory`: a directory that holds nothing or one file, and what reading a path in it gives.
* `load`: the configuration of a file, or why there is none (`LoadError`).
-/

namespace PadRelay

/-- Why a file or a connection cannot be had. -/
inductive ReadFailure where
  | notFound
  | notDirectory
  | isDirectory
  | nameTooLong
  | networkUnreachable
  | notText
  | nulInName
  | other (reason : String)
  deriving DecidableEq, Repr

/-- The failure in the system's words. -/
def ReadFailure.message : ReadFailure → String
  | .notFound => "No such file or directory (os error 2)"
  | .notDirectory => "Not a directory (os error 20)"
  | .isDirectory => "Is a directory (os error 21)"
  | .nameTooLong => "File name too long (os error 36)"
  | .networkUnreachable => "Network is unreachable (os error 101)"
  | .notText => "stream did not contain valid UTF-8"
  | .nulInName => "file name contained an unexpected NUL byte"
  | .other reason => reason

/-- Why a configuration cannot be loaded. -/
inductive LoadError where
  | read (path : String) (failure : ReadFailure)
  | parse (path : String) (e : Ini.ParseError)
  deriving DecidableEq, Repr

def LoadError.message : LoadError → String
  | .read path failure => "IO error reading " ++ path ++ ": " ++ failure.message
  | .parse path e => "Parse error in " ++ path ++ ": " ++ e.message

/-- The configuration of a file, of which `read` gives the bytes. -/
def load (read : String → Except ReadFailure Bytes) (path : String) :
    Except LoadError Ini.Profile :=
  match read path with
  | .error failure => .error (.read path failure)
  | .ok bytes =>
    match Text.ofUtf8? bytes with
    | none => .error (.read path .notText)
    | some text =>
      match Ini.parse text with
      | .error e => .error (.parse path e)
      | .ok profile => .ok profile

/-- A directory that holds at most one file: the file's place, by the names on the way to it, and
its bytes. -/
structure Directory where
  file : Option (List String × Bytes)
  deriving DecidableEq, Repr

namespace Directory

/-- The longest name that a directory can hold, in bytes. -/
def maxName : Nat := 255

/-- The longest path, in bytes. -/
def maxPath : Nat := 4095

/-- The names of a path, dots and empty ones left out. -/
def names (path : String) : List String :=
  (path.splitOn "/").filter fun name => name != "" && name != "."

/-- A directory with one file at this path. -/
def holding (path : String) (bytes : Bytes) : Directory := ⟨some (names path, bytes)⟩

/-- Follows names from the directory reached by `place`. Nothing is known above the first one. -/
def follow (d : Directory) (place : List String) : List String → Except ReadFailure Bytes
  | [] => .error .isDirectory
  | name :: rest =>
    if name = "" ∨ name = "." then follow d place rest
    else if maxName < name.utf8ByteSize then .error .nameTooLong
    else if name = ".." then
      if rest.all fun n => n = "" || n = "." || n = ".." then .error .isDirectory
      else follow d place.dropLast rest
    else
      match d.file with
      | none => .error .notFound
      | some (target, bytes) =>
        let reached := place ++ [name]
        if reached = target then if rest.isEmpty then .ok bytes else .error .notDirectory
        else if reached.isPrefixOf target then follow d reached rest
        else .error .notFound

def read (d : Directory) (path : String) : Except ReadFailure Bytes :=
  if path.toList.any (·.toNat = 0) then .error .nulInName
  else if path = "" then .error .notFound
  else if maxPath < path.utf8ByteSize then .error .nameTooLong
  else if path.startsWith "/" then
    if (names path).isEmpty then .error .isDirectory else .error .notFound
  else d.follow [] (path.splitOn "/")

end Directory
end PadRelay
