import DocFilter.CommandLine

/-!
# The program

Reads standard input where the command asks for it and it is no terminal, and writes what the
command leaves behind.
-/

open DocFilter

def main (args : List String) : IO UInt32 := do
  let stdin ← IO.getStdin
  let bytes ← match Command.ofArguments args with
    | .ok command =>
      if command.readsInput then
        if ← stdin.isTty then pure none else some <$> readAll stdin
      else pure none
    | .error _ => pure none
  let output := runCommandLine args bytes
  (← IO.getStdout).putStr output.stdout
  (← IO.getStderr).putStr output.stderr
  pure (UInt32.ofNat output.exit)
where
  /-- Everything up to the end of the stream. -/
  readAll (stream : IO.FS.Stream) : IO ByteArray := do
    let mut bytes := ByteArray.empty
    repeat
      let chunk ← stream.read 65536
      if chunk.isEmpty then break
      bytes := bytes ++ chunk
    pure bytes
