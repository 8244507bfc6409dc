import PlaceholderScripts.CommandLine.Run

/-!
# The program

Answers the requests of the command line from the disk and the clock, and prints its outcome. Nothing is
decided here but which cause of failure an error of the system stands for.
-/

namespace PlaceholderScripts.Program

/-- The number and the words of an error of the system. -/
def systemError : IO.Error → Nat × String
  | .alreadyExists _ code words | .otherError code words | .resourceBusy code words
  | .resourceVanished code words | .unsupportedOperation code words | .hardwareFault code words
  | .unsatisfiedConstraints code words | .illegalOperation code words | .protocolError code words
  | .timeExpired code words | .interrupted _ code words | .noFileOrDirectory _ code words
  | .invalidArgument _ code words | .permissionDenied _ code words | .resourceExhausted _ code words
  | .inappropriateType _ code words | .noSuchThing _ code words =>
    (if code.toNat < 2 ^ 31 then code.toNat else 2 ^ 32 - code.toNat, words)
  | .unexpectedEof => (0, "unexpected end of file")
  | .userError words => (0, words)

/-- The cause that an error of the system stands for. -/
def fileError (e : IO.Error) : FileError :=
  match systemError e with
  | (2, _) => .notFound
  | (17, _) => .exists
  | (20, _) => .notDirectory
  | (21, _) => .isDirectory
  | (36, _) => .nameTooLong
  | (code, words) => .other (words ++ " (os error " ++ toString code ++ ")")

/-- What an action gives, or the cause for which it failed. -/
def attempt {α : Type} (action : IO α) : IO (Except FileError α) := do
  try return .ok (← action)
  catch e => return .error (fileError e)

/-- The text of a file on the disk. -/
def readTextFile (path : Path) : IO (Except FileError String) := do
  match ← attempt (IO.FS.readBinFile path) with
  | .error e => return .error e
  | .ok bytes =>
    match String.fromUTF8? bytes with
    | some text => return .ok text
    | none => return .error .notText

/-- Whether there is a directory at a path. Only a directory cannot be read for being one. -/
def isDirectory (path : Path) : IO Bool := do
  match ← attempt (IO.FS.readBinFile path) with
  | .error .isDirectory => return true
  | _ => return false

/-- Makes the directories of the given names, each inside the one before. -/
def createDirectories (base : Path) : List String → IO (Except FileError Unit)
  | [] => return .ok ()
  | name :: rest => do
    let path := base ++ name
    match ← attempt (IO.FS.createDir path) with
    | .ok () => createDirectories (path ++ "/") rest
    | .error .exists =>
      if !rest.isEmpty || (← isDirectory path) then createDirectories (path ++ "/") rest
      else return .error .exists
    | .error e => return .error e

/-- The clock in nanoseconds, which does not go back. -/
def clock : IO Instant := return (Instant.ofNanos? (← IO.monoNanosNow)).getD .zero

/-- Answers a request. -/
def reply (service : SubstitutionService) : (request : Request) → IO request.Reply
  | .now => clock
  | .readText path => readTextFile path
  | .writeText path text => attempt (IO.FS.writeFile path text)
  | .createParents path =>
    match Path.parentNames? path with
    | none => return .ok ()
    | some names => createDirectories (if Path.isAbsolute path then "/" else "") names
  | .substitute form identity text => return service form identity text

/-- A fresh player id with the marks of a random one. -/
def freshId : IO PlayerId := do
  let bytes ← IO.getRandomBytes 16
  let value := bytes.toList.foldl (fun n b => 256 * n + b.toNat) 0
  let marked := value &&& 0xffffffffffff0fff3fffffffffffffff ||| 0x40008000000000000000
  return ⟨BitVec.ofNat 128 marked⟩

/-- The settings for the environment of the program. -/
def settings : IO Settings := do
  let environment ← Settings.variableNames.mapM fun name => return (name, ← IO.getEnv name)
  return .ofLookup fun name => (environment.lookup name).join

/-- Reads a stream up to its end. -/
partial def readAll (stream : IO.FS.Stream) (before : ByteArray) : IO ByteArray := do
  let bytes ← stream.read 65536
  if bytes.isEmpty then return before else readAll stream (before ++ bytes)

/-- Carries out an invocation. Only the console reads the input. -/
def carryOut (invocation : CommandLine.Invocation) : IO CommandLine.Outcome := do
  let (factory, _) ← (Factory.acquire Script.allowedRounds none .embedded).runM (reply invocation.service)
  match factory with
  | .error e =>
    IO.eprintln e.message
    return ⟨1, []⟩
  | .ok factory =>
    let input ← if invocation.action = .console then readAll (← IO.getStdin) .empty
      else pure .empty
    (invocation.run (← settings) factory (← freshId)
      (Console.inputLines input.toList)).runM (reply invocation.service)

end PlaceholderScripts.Program

/-- Carries out the command line. -/
def main (args : List String) : IO UInt32 := do
  let outcome ← match PlaceholderScripts.CommandLine.read args with
    | .ok invocation => PlaceholderScripts.Program.carryOut invocation
    | .error stop => pure stop.outcome
  IO.print outcome.text
  return outcome.exit.toUInt32
