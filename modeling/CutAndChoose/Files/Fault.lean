/-!
# CutAndChoose.Files.Fault

Why a file cannot be read or written, in the words of the operating system.
-/

namespace CutAndChoose

inductive FileFault where
  | notFound
  | notDirectory
  | isDirectory
  | nameTooLong
  | nulInName
  /-- Any other refusal, in its own words. -/
  | other (reason : String)
  deriving DecidableEq

namespace FileFault

def message : FileFault → String
  | notFound => "No such file or directory (os error 2)"
  | notDirectory => "Not a directory (os error 20)"
  | isDirectory => "Is a directory (os error 21)"
  | nameTooLong => "File name too long (os error 36)"
  | nulInName => "file name contained an unexpected NUL byte"
  | other reason => reason

end FileFault

inductive TextFault where
  | file (fault : FileFault)
  | notUtf8
  deriving DecidableEq

def TextFault.message : TextFault → String
  | file f => f.message
  | notUtf8 => "stream did not contain valid UTF-8"

def decodeText (bytes : ByteArray) : Except TextFault String :=
  match String.fromUTF8? bytes with
  | some text => .ok text
  | none => .error .notUtf8

end CutAndChoose
