import CannedHttp.Path
import CannedHttp.Text.Quoted

/-!
Failures of the file system and the network. A failure has a kind and a text, and those that the
operating system reports also have its number.
-/
namespace CannedHttp

inductive SystemError where
  | notFound
  | permissionDenied
  | notADirectory
  | isADirectory
  | exists
  | tooManyLinks
  | nameTooLong
  | addressInUse
  | addressUnavailable
  deriving DecidableEq

namespace SystemError

def code : SystemError → Nat
  | .notFound => 2
  | .permissionDenied => 13
  | .exists => 17
  | .notADirectory => 20
  | .isADirectory => 21
  | .nameTooLong => 36
  | .tooManyLinks => 40
  | .addressInUse => 98
  | .addressUnavailable => 99

def kind : SystemError → Text
  | .notFound => "NotFound".toList
  | .permissionDenied => "PermissionDenied".toList
  | .exists => "AlreadyExists".toList
  | .notADirectory => "NotADirectory".toList
  | .isADirectory => "IsADirectory".toList
  | .nameTooLong => "InvalidFilename".toList
  | .tooManyLinks => "FilesystemLoop".toList
  | .addressInUse => "AddrInUse".toList
  | .addressUnavailable => "AddrNotAvailable".toList

def description : SystemError → Text
  | .notFound => "No such file or directory".toList
  | .permissionDenied => "Permission denied".toList
  | .exists => "File exists".toList
  | .notADirectory => "Not a directory".toList
  | .isADirectory => "Is a directory".toList
  | .nameTooLong => "File name too long".toList
  | .tooManyLinks => "Too many levels of symbolic links".toList
  | .addressInUse => "Address already in use".toList
  | .addressUnavailable => "Cannot assign requested address".toList

end SystemError

inductive IoError where
  | system (e : SystemError)
  | notText
  /-- A file that was listed is gone. -/
  | vanished (path : Path)
  | denied
  | badSocketAddress
  | badPort
  | unknownHost
  deriving DecidableEq

namespace IoError

def kind : IoError → Text
  | .system e => e.kind
  | .notText => "InvalidData".toList
  | .vanished _ => "NotFound".toList
  | .denied => "PermissionDenied".toList
  | .badSocketAddress | .badPort => "InvalidInput".toList
  | .unknownHost => "Uncategorized".toList

def message : IoError → Text
  | .system e => e.description ++ " (os error ".toList ++ Text.ofNat e.code ++ [')']
  | .notText => "stream did not contain valid UTF-8".toList
  | .vanished path => path.display ++ " not found".toList
  | .denied => "permission denied".toList
  | .badSocketAddress => "invalid socket address".toList
  | .badPort => "invalid port value".toList
  | .unknownHost =>
    "failed to lookup address information: Temporary failure in name resolution".toList

open Text.Diagnostic (record) in
def diagnostic (e : IoError) : Text :=
  let quoted := Text.Quoted.diagnostic
  match e with
  | .system e =>
    record "Os" [("code", Text.ofNat e.code), ("kind", e.kind), ("message", quoted e.description)]
  | .vanished _ | .denied | .unknownHost =>
    record "Custom" [("kind", e.kind), ("error", quoted e.message)]
  | .notText | .badSocketAddress | .badPort =>
    record "Error" [("kind", e.kind), ("message", quoted e.message)]

end IoError
end CannedHttp
