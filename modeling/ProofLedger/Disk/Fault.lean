import ProofLedger.Text.Quoted

/-!
# Paths that cannot be used

Why a path does not lead where it should: nothing is there, or something
that should not be, or no system could have a file of that name.
-/

namespace ProofLedger

/-- Why a path cannot be used as wanted. -/
inductive DiskFault where
  | missing
  /-- Something is there already. -/
  | taken
  /-- A file stands where a folder is needed. -/
  | notFolder
  /-- A folder stands where a file is needed. -/
  | folder
  | longName
  | nullPoint
  | unencodable (points : Text.Unencodable)
  deriving DecidableEq, Repr

namespace DiskFault

def label : DiskFault → Text
  | .missing => "FileNotFoundError"
  | .taken => "FileExistsError"
  | .notFolder => "NotADirectoryError"
  | .folder => "IsADirectoryError"
  | .longName => "OSError"
  | .nullPoint => "ValueError"
  | .unencodable _ => "UnicodeEncodeError"

/-- A fault of the storage with its number, and the path. -/
def numbered (number : Nat) (reason path : Text) : Text :=
  "[Errno " ++ Text.ofNat number ++ "] " ++ reason ++ ": " ++ path.quoted

/-- What is said of a path. -/
def message (path : Text) : DiskFault → Text
  | .missing => numbered 2 "No such file or directory" path
  | .taken => numbered 17 "File exists" path
  | .notFolder => numbered 20 "Not a directory" path
  | .folder => numbered 21 "Is a directory" path
  | .longName => numbered 36 "File name too long" path
  | .nullPoint => "embedded null byte"
  | .unencodable u => u.message

/-- Whether the fault is one of the storage, rather than of the path itself. -/
def isSystem : DiskFault → Bool
  | .nullPoint | .unencodable _ => false
  | _ => true

end DiskFault

end ProofLedger
