import Codebook.Text

/-!
# What can go wrong with a file

The causes for which a file is not read or not written, in the words of the operating system.
-/

namespace Codebook

/-- Why a file or directory could not be read, created or written. -/
inductive FileFault where
  /-- Nothing has this name. -/
  | notFound
  /-- Something has this name already. -/
  | alreadyExists
  /-- A directory was needed. -/
  | notDirectory
  /-- A file was needed. -/
  | isDirectory
  /-- The path, or one of its names, is longer than names may be. -/
  | nameTooLong
  /-- There is no room for what is written. -/
  | noSpace
  /-- The path holds the character that ends names. -/
  | nulInPath
  /-- The file is not UTF-8, and a text was wanted. -/
  | notUtf8
  /-- Anything else that the system reports. -/
  | other (report : Text)
  deriving DecidableEq, Repr

/-- The fault in words. -/
def FileFault.message : FileFault → Text
  | .notFound => "No such file or directory (os error 2)".toList
  | .alreadyExists => "File exists (os error 17)".toList
  | .notDirectory => "Not a directory (os error 20)".toList
  | .isDirectory => "Is a directory (os error 21)".toList
  | .nameTooLong => "File name too long (os error 36)".toList
  | .noSpace => "No space left on device (os error 28)".toList
  | .nulInPath => "file name contained an unexpected NUL byte".toList
  | .notUtf8 => "stream did not contain valid UTF-8".toList
  | .other report => report

end Codebook
