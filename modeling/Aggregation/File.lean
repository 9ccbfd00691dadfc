/-
**Files as the aggregator reads them.**

A file is its bytes, or nothing if there is no such file; a `Directory` has the files by their
paths. Reading a file fails if there is none, and reading it as text if its bytes are not text.
-/

import Aggregation.Bytes
import Aggregation.Table

namespace Aggregation

/-- The bytes of a file, or nothing if there is none. -/
abbrev File := Option Bytes

/-- The files that there are, by their paths. -/
abbrev Directory := Table String Bytes

/-- Why a file cannot be read. -/
inductive FileError where
  | missing
  | notText
deriving DecidableEq

namespace FileError

/-- The error in words. -/
def message : FileError → String
  | missing => "No such file or directory (os error 2)"
  | notText => "stream did not contain valid UTF-8"

end FileError

namespace File

/-- The bytes of a file. -/
def bytes (file : File) : Except FileError Bytes :=
  match file with
  | none => .error .missing
  | some bytes => .ok bytes

/-- The text of a file. -/
def text (file : File) : Except FileError (List Char) :=
  match file with
  | none => .error .missing
  | some bytes =>
    match Text.Utf8.decode? bytes with
    | none => .error .notText
    | some text => .ok text

end File

namespace Directory

/-- The file of a path. -/
def file (files : Directory) (path : String) : File := files.get? path

/-- Writes a file, or removes it. -/
def write (files : Directory) (path : String) (content : File) : Directory :=
  match content with
  | none => files.erase path
  | some bytes => files.insert path bytes

end Directory

end Aggregation
