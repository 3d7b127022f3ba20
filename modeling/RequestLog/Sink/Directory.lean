import RequestLog.Action
import RequestLog.Table
import RequestLog.Text.Blank

/-!
A directory of files, and handles by which they are written. A handle writes either at the end of
its file or from the file's start on; opening a file of the second kind empties it.
-/
namespace RequestLog

/-- A handle on a file; without a position it writes at the end. -/
structure Handle where
  file : String
  position : Option Nat
  closed : Bool
deriving DecidableEq, Repr

/-- The files of a directory by name, and the handles on them by number. -/
structure Directory where
  files : Table (List UInt8)
  handles : List Handle

namespace Directory

def empty : Directory := ⟨Table.empty, []⟩

/-- The names of a path below the directory: dots stand for nothing and two dots for a step
back. -/
def stepsFrom (back : List (List Char)) : List (List Char) → List (List Char)
  | [] => back.reverse
  | [] :: rest => stepsFrom back rest
  | ['.'] :: rest => stepsFrom back rest
  | ['.', '.'] :: rest => stepsFrom (back.drop 1) rest
  | name :: rest => stepsFrom (name :: back) rest

def steps (path : String) : List String :=
  (stepsFrom [] (Text.splitOn '/' path.toList)).map String.ofList

def maxName : Nat := 255

/-- The longest path below the directory, in octets. -/
def maxPath : Nat := 4078

/-- A refusal of what is too long. -/
def tooLong : Fault := .fileRefused 36 "File name too long"

/-- The file of a list of names, which has to be in the directory itself. -/
def fileOf (d : Directory) : List String → Except Fault String
  | [] => .error (.fileRefused 21 "Is a directory")
  | first :: rest =>
    if maxPath < ("/".intercalate (first :: rest)).utf8ByteSize ||
      maxName < first.utf8ByteSize then .error tooLong
    else if rest.isEmpty then .ok first
    else if d.files.contains first then .error (.fileRefused 20 "Not a directory")
    else .error (.fileRefused 2 "No such file or directory")

/-- The file that a path names; a path has no null character. -/
def locate (d : Directory) (path : String) : Except Fault String :=
  if path.toList.contains (Char.ofNat 0) then .error .nullInPath else d.fileOf (steps path)

/-- The content of a file; a file that is missing is empty. -/
def content (d : Directory) (name : String) : List UInt8 :=
  (d.files.get? name).getD []

/-- Opens a file, which is made if it is missing, and emptied for overwriting. The result is the
number of the handle. -/
def openHandle (d : Directory) (name : String) (overwrite : Bool) : Nat × Directory :=
  let kept := if overwrite then [] else d.content name
  let handle : Handle := ⟨name, if overwrite then some 0 else none, false⟩
  (d.handles.length, ⟨d.files.put name kept, d.handles ++ [handle]⟩)

/-- Octets with others written over them from a position on; a gap before it is filled with
zeros. -/
def overwriteAt (position : Nat) (os written : List UInt8) : List UInt8 :=
  os.take position ++ List.replicate (position - os.length) 0 ++ written
    ++ os.drop (position + written.length)

def written (d : Directory) (number : Nat) (h : Handle) (os : List UInt8) : Directory :=
  match h.position with
  | none => { d with files := d.files.put h.file (d.content h.file ++ os) }
  | some position =>
    { files := d.files.put h.file (overwriteAt position (d.content h.file) os)
      handles := d.handles.set number { h with position := some (position + os.length) } }

/-- Writes octets by a handle, unless it is closed. -/
def write (d : Directory) (number : Nat) (os : List UInt8) : Except Fault Unit × Directory :=
  match d.handles[number]? with
  | some h =>
    if h.closed then (.error (.fileClosed "write to closed file"), d)
    else (.ok (), d.written number h os)
  | none => (.error (.fileClosed "write to closed file"), d)

def flush (d : Directory) (number : Nat) : Except Fault Unit :=
  match d.handles[number]? with
  | some h => if h.closed then .error (.fileClosed "flush of closed file") else .ok ()
  | none => .error (.fileClosed "flush of closed file")

def close (d : Directory) (number : Nat) : Directory :=
  match d.handles[number]? with
  | some h => { d with handles := d.handles.set number { h with closed := true } }
  | none => d

end Directory

/-- Where a host keeps its directory; what is put there is found there. -/
structure DirectoryOf (σ : Type) where
  get : σ → Directory
  set : Directory → σ → σ
  get_set : ∀ d s, get (set d s) = d := by intros; rfl
  /-- The description of a handle on a file of a name. -/
  shown : String → String

end RequestLog
