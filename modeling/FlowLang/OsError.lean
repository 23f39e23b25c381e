import FlowLang.Text.Quoted

/-!
# Errors of the operating system

An error that the operating system gives: a number, its meaning in words, and the file that it is about if there is one.
-/

namespace FlowLang

open Text

/-- An error of the operating system. -/
structure OsError where
  number : Int
  reason : Text
  file : Option Text := none
  deriving DecidableEq, Repr

namespace OsError

/-- The error says that a file, or the program to start, does not exist. -/
def isMissing (e : OsError) : Bool :=
  e.number == 2

/-- The error in words. -/
def message (e : OsError) : Text :=
  let head := "[Errno ".toList ++ ofInt e.number ++ "] ".toList ++ e.reason
  match e.file with
  | some file => head ++ ": ".toList ++ quoted file
  | none => head

/-- There is no such file. -/
def missing (file : Text) : OsError :=
  ⟨2, "No such file or directory".toList, some file⟩

/-- A part of the path that has to be a directory is none. -/
def notDirectory (file : Text) : OsError :=
  ⟨20, "Not a directory".toList, some file⟩

/-- The file is a directory. -/
def isDirectory (file : Text) : OsError :=
  ⟨21, "Is a directory".toList, some file⟩

/-- A part of the path is longer than a file's name can be. -/
def nameTooLong (file : Text) : OsError :=
  ⟨36, "File name too long".toList, some file⟩

end OsError

end FlowLang
