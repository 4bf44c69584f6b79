import ApiDiscovery.NameTable
import ApiDiscovery.Text.Pieces
import ApiDiscovery.Text.Utf8

/-!
# Files

What reading a file gives.  The contents are octets; a text file is one whose
octets are UTF-8.  A folder of files and empty folders is a simple store to read
from.
-/

namespace ApiDiscovery

inductive ReadFault where
  | missing
  | isDirectory
  | notDirectory
  | notText
  | other (reason : String)
deriving DecidableEq, Repr

def ReadFault.message : ReadFault → String
  | .missing => "No such file or directory (os error 2)"
  | .isDirectory => "Is a directory (os error 21)"
  | .notDirectory => "Not a directory (os error 20)"
  | .notText => "stream did not contain valid UTF-8"
  | .other reason => reason

abbrev Files := String → Except ReadFault (List UInt8)

def Files.readText (files : Files) (path : String) : Except ReadFault String :=
  match files path with
  | .error fault => .error fault
  | .ok octets =>
      match Text.Utf8.decode octets with
      | none => .error .notText
      | some text => .ok (String.ofList text)

/-- Files and empty folders, the latter without content, under their names. -/
abbrev Folder := NameTable (Option (List UInt8))

namespace Folder

/-- Where a path has led so far: to a folder that is empty or not, or to a file. -/
inductive Spot where
  | top
  | emptyFolder
  | file (content : List UInt8)

def step (folder : Folder) (spot : Spot) (component : List Char) : Except ReadFault Spot :=
  match spot with
  | .file _ => .error .notDirectory
  | .emptyFolder =>
      if component = [] ∨ component = ['.'] then .ok .emptyFolder
      else if component = ['.', '.'] then .ok .top
      else .error .missing
  | .top =>
      if component = [] ∨ component = ['.'] then .ok .top
      else if 255 < Text.Utf8.octetCount component then
        .error (.other "File name too long (os error 36)")
      else
        match folder.get? (String.ofList component) with
        | none => .error .missing
        | some none => .ok .emptyFolder
        | some (some content) => .ok (.file content)

/-- The folder as a store: relative paths lead through it, absolute ones nowhere. -/
def files (folder : Folder) : Files := fun path =>
  if path.toList.contains '\x00' then
    .error (.other "file name contained an unexpected NUL byte")
  else if path.toList.isEmpty || path.toList.head? = some '/' then .error .missing
  else
    match (Text.splitAll '/' path.toList).foldlM (step folder) .top with
    | .error fault => .error fault
    | .ok (.file content) => .ok content
    | .ok _ => .error .isDirectory

end Folder

end ApiDiscovery
