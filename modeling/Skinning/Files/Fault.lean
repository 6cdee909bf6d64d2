/-! Why a file cannot be read or written, in the words of the system. -/
namespace Skinning

inductive FileFault where
  | notFound
  | notDirectory
  | isDirectory
  | notText
  | nameTooLong
  /-- A path with a zero character, which ends a path too early. -/
  | zeroInPath
  deriving DecidableEq, Repr

def FileFault.message : FileFault → String
  | .notFound => "No such file or directory (os error 2)"
  | .notDirectory => "Not a directory (os error 20)"
  | .isDirectory => "Is a directory (os error 21)"
  | .notText => "stream did not contain valid UTF-8"
  | .nameTooLong => "File name too long (os error 36)"
  | .zeroInPath => "file name contained an unexpected NUL byte"

end Skinning
