/-
# The program

Reads and writes the disk of the machine it runs on.  All that it decides is
decided in `Scaffold.CommandLine`.
-/
import Scaffold.CommandLine

namespace Scaffold

/-- The code of an error, which may come negated. -/
def codeOf (code : UInt32) : Nat :=
  min code.toNat (0 - code).toNat

/-- The code and the description that come with an error. -/
def systemError : IO.Error → Nat × String
  | .alreadyExists _ code details => (codeOf code, details)
  | .otherError code details => (codeOf code, details)
  | .resourceBusy code details => (codeOf code, details)
  | .resourceVanished code details => (codeOf code, details)
  | .unsupportedOperation code details => (codeOf code, details)
  | .hardwareFault code details => (codeOf code, details)
  | .unsatisfiedConstraints code details => (codeOf code, details)
  | .illegalOperation code details => (codeOf code, details)
  | .protocolError code details => (codeOf code, details)
  | .timeExpired code details => (codeOf code, details)
  | .interrupted _ code details => (codeOf code, details)
  | .noFileOrDirectory _ code details => (codeOf code, details)
  | .invalidArgument _ code details => (codeOf code, details)
  | .permissionDenied _ code details => (codeOf code, details)
  | .resourceExhausted _ code details => (codeOf code, details)
  | .inappropriateType _ code details => (codeOf code, details)
  | .noSuchThing _ code details => (codeOf code, details)
  | .unexpectedEof => (0, "unexpected end of file")
  | .userError details => (0, details)

/-- What an error of the machine says about the disk. -/
def faultOf (e : IO.Error) : Disk.Fault :=
  match systemError e with
  | (2, _) => .missing
  | (17, _) => .present
  | (20, _) => .notDirectory
  | (21, _) => .isDirectory
  | (36, _) => .nameTooLong
  | (code, details) => .other code details.toList

/-- Does something with a path that has no NUL. -/
def guarded {α : Type} (p : Path) (step : String → IO α) : IO (Except Disk.Fault α) := do
  if p.text.contains '\x00' then return .error .nulByte
  else
    try
      return .ok (← step (String.ofList p.text))
    catch e =>
      return .error (faultOf e)

/-- What can be opened and read is a file, what can only be opened a directory. -/
def kindOnDisk? (p : Path) : IO (Option Disk.Kind) := do
  match ← guarded p fun name => IO.FS.Handle.mk name .read with
  | .error _ => return none
  | .ok handle =>
    match ← guarded p fun _ => handle.read 1 with
    | .error .isDirectory => return some .directory
    | _ => return some .file

/-- The text of a file. -/
def readFromDisk (p : Path) : IO (Except Disk.Fault Text) := do
  match ← guarded p fun name => IO.FS.readBinFile name with
  | .error f => return .error f
  | .ok bytes => return (Utf8.decode bytes.toList).mapError fun _ => .notText

instance : Disk IO where
  current := do return ⟨(← IO.currentDir).toString.toList⟩
  kind? := kindOnDisk?
  makeDirectory p := guarded p fun name => IO.FS.createDir name
  read := readFromDisk
  write p text := guarded p fun name => IO.FS.writeFile name (String.ofList text)

/-- The input, if a word asks for it. -/
def inputFor (words : List Text) : IO Bytes := do
  if words.contains ['-'] then
    return (← (← IO.getStdin).readBinToEnd).toList
  else
    return []

end Scaffold

open Scaffold in
def main (args : List String) : IO UInt32 := do
  let words := args.map String.toList
  let response : CommandLine.Response ← CommandLine.run words (← inputFor words)
  IO.print (String.ofList response.output)
  IO.eprint (String.ofList response.complaint)
  return UInt32.ofNat response.code
