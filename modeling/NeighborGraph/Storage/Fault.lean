/-!
What can go wrong with files.
-/

namespace NeighborGraph

/-- Why a file or directory could not be used. -/
inductive FileFault where
  | notFound
  | isDirectory
  | notDirectory
  | alreadyExists
  | nameTooLong
  /-- The path has been led on by more links than are followed. -/
  | tooManyLinks
  /-- The path has a character that no path may have. -/
  | nulCharacter
  /-- The content is no text. -/
  | notText
  deriving DecidableEq

/-- The reason in words. -/
def FileFault.message : FileFault → String
  | notFound => "No such file or directory (os error 2)"
  | isDirectory => "Is a directory (os error 21)"
  | notDirectory => "Not a directory (os error 20)"
  | alreadyExists => "File exists (os error 17)"
  | nameTooLong => "File name too long (os error 36)"
  | tooManyLinks => "Too many levels of symbolic links (os error 40)"
  | nulCharacter => "file name contained an unexpected NUL byte"
  | notText => "stream did not contain valid UTF-8"

end NeighborGraph
