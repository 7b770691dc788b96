/-
# What a disk does

Everything that is read or written goes through the few operations here.  A
disk answers each of them or says why it refuses; it never does half of one.
The same code therefore runs on the disk of a machine and on a file tree that
is nothing but a value (`Scaffold.FileTree`), about which facts can be proved.
-/
import Scaffold.Path
import Scaffold.Text.Quoted
import Scaffold.Decimal.Double

namespace Scaffold

namespace Disk

/-- What can stand at a path. -/
inductive Kind where
  | file
  | directory
deriving DecidableEq, Repr

/-- Why a disk refuses. -/
inductive Fault where
  | missing
  | present
  | notDirectory
  | isDirectory
  | nameTooLong
  | nulByte
  | notText
  | other (code : Nat) (description : Text)
deriving DecidableEq, Repr

def systemMessage (description : Text) (code : Nat) : Text :=
  description ++ " (os error ".toList ++ Decimal.natText code ++ [')']

def Fault.message : Fault → Text
  | missing => systemMessage "No such file or directory".toList 2
  | present => systemMessage "File exists".toList 17
  | notDirectory => systemMessage "Not a directory".toList 20
  | isDirectory => systemMessage "Is a directory".toList 21
  | nameTooLong => systemMessage "File name too long".toList 36
  | nulByte => "file name contained an unexpected NUL byte".toList
  | notText => "stream did not contain valid UTF-8".toList
  | other code description => systemMessage description code

end Disk

/-- The operations of a disk in a monad. -/
class Disk (m : Type → Type) where
  /-- The directory that relative paths start from. -/
  current : m Path
  /-- What stands at a path; `none` if nothing does or it cannot be reached. -/
  kind? : Path → m (Option Disk.Kind)
  makeDirectory : Path → m (Except Disk.Fault Unit)
  read : Path → m (Except Disk.Fault Text)
  /-- Writes a file that may or may not exist. -/
  write : Path → Text → m (Except Disk.Fault Unit)

namespace Disk

variable {m : Type → Type} [Monad m] [Disk m]

/-! ## Directories with those around them -/

/-- The path and what is left of it as components are taken off its end, as
long as something is left. -/
def ancestorsUpTo : Nat → Path → List Path
  | 0, _ => []
  | n + 1, p =>
    match p.parent? with
    | none => []
    | some q => if p.text.isEmpty then [] else p :: ancestorsUpTo n q

def ancestors (p : Path) : List Path :=
  ancestorsUpTo (p.text.length + 1) p

/-- Makes the first of these directories that can be made or is there, and
answers with those before it, which are still missing. -/
def makeFirst : List Path → m (Except Fault (List Path))
  | [] => return .ok []
  | p :: r => do
    match ← makeDirectory p with
    | .ok () => return .ok []
    | .error .missing => return (← makeFirst r).map (p :: ·)
    | .error .present =>
      if (← kind? p) == some .directory then return .ok [] else return .error .present
    | .error f => return .error f

/-- Makes all of these directories, or finds them there. -/
def makeEach : List Path → m (Except Fault Unit)
  | [] => return .ok ()
  | p :: r => do
    match ← makeDirectory p with
    | .ok () => makeEach r
    | .error .present =>
      if (← kind? p) == some .directory then makeEach r else return .error .present
    | .error f => return .error f

/-- Makes a directory and those around it that are missing. -/
def makeAll (p : Path) : m (Except Fault Unit) := do
  match ← makeFirst (ancestors p) with
  | .error f => return .error f
  | .ok missing => makeEach missing.reverse

end Disk

end Scaffold
