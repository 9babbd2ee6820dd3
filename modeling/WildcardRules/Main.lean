import WildcardRules.CommandLine.Run

set_option autoImplicit false

namespace WildcardRules

open CommandLine

def CommandLine.Command.file? : Command → Option Text
  | .replace (.config path _) _ => some path
  | .replace (.options _ _) _ => none
  | .showConfig file => some file
  | .validateConfig file => some file

def CommandLine.Command.readsInput : Command → Bool
  | .replace _ values => values.isEmpty
  | _ => false

-- The system's number of an error, which may be given below zero.
def systemNumber (code : UInt32) : Nat := min code.toNat (UInt32.size - code.toNat)

def failureOf (e : IO.Error) : ReadFailure :=
  match e with
  | .noFileOrDirectory .. => .missing
  | .inappropriateType _ code _ => if systemNumber code = 21 then .directory else .notDirectory
  | .invalidArgument _ code _ =>
      if systemNumber code = 36 then .nameTooLong else .refused (toString e).toList
  | e => .refused (toString e).toList

def readFile (path : Text) : IO (Except ReadFailure Bytes) :=
  tryCatch (do return .ok (← IO.FS.readBinFile (String.ofList path)).toList) fun e =>
    return .error (failureOf e)

partial def readInput (stream : IO.FS.Stream) (read : ByteArray) : IO Bytes := do
  let chunk ← stream.read 65536
  if chunk.isEmpty then return read.toList else readInput stream (read ++ chunk)

def surroundings (arguments : List Text) : IO Surroundings := do
  let logSpecification := (← IO.getEnv "RUST_LOG").map String.toList
  match parse arguments with
  | .error _ => return { files := fun _ => .error .missing, logSpecification }
  | .ok invocation =>
      let content ← match invocation.command.file? with
        | some path => readFile path
        | none => pure (.error .missing)
      let input ←
        if invocation.command.readsInput then readInput (← IO.getStdin) ByteArray.empty
        else pure []
      return { files := fun _ => content, input, logSpecification }

end WildcardRules

open WildcardRules in
def main (arguments : List String) : IO UInt32 := do
  let arguments := arguments.map String.toList
  let outcome := CommandLine.run arguments (← surroundings arguments)
  (← IO.getStdout).putStr (String.ofList outcome.output)
  (← IO.getStderr).putStr (String.ofList outcome.errors)
  return outcome.exitCode.toUInt32
