import HostBridge.Config.Lookup

/-!
# Places of configuration files

Paths are rows of parts under a root. Empty parts and single dots vanish, double dots stay, and an
absolute path put after another one replaces it. A leading double slash is a root of its own.
-/

namespace HostBridge.Config

/-- A path: its root (empty for a relative one) and its parts. -/
structure FilePath where
  /-- The slashes it starts with. -/
  root : String
  /-- The names on the way. -/
  parts : List String
deriving DecidableEq, Repr

namespace FilePath

/-- The pieces between slashes. -/
def pieces : List Char → List (List Char)
  | [] => [[]]
  | c :: rest =>
    if c = '/' then [] :: pieces rest
    else match pieces rest with
      | [] => [[c]]
      | piece :: others => (c :: piece) :: others

/-- The root that a number of leading slashes stands for. -/
def rootOf (slashes : Nat) : String :=
  if slashes = 0 then "" else if slashes = 2 then "//" else "/"

/-- Read a path. -/
def ofString (s : String) : FilePath :=
  { root := rootOf (s.toList.takeWhile (· == '/')).length
    parts := ((pieces s.toList).map String.ofList).filter fun p => !p.isEmpty && p != "." }

/-- Put one path after another. -/
def append (p q : FilePath) : FilePath :=
  if q.root.isEmpty then { p with parts := p.parts ++ q.parts } else q

instance : HDiv FilePath String FilePath := ⟨fun p s => p.append (ofString s)⟩

/-- The text of a path; a path without parts is the current place. -/
def toString (p : FilePath) : String :=
  if p.root.isEmpty && p.parts.isEmpty then "." else p.root ++ "/".intercalate p.parts

end FilePath

/-- The home directory that a variable names: slashes at its end do not count, and an empty one is the
root. It may not again refer to a home. -/
def homePath (home : String) : Except Fault FilePath :=
  let trimmed := String.ofList (home.toList.reverse.dropWhile (· == '/')).reverse
  if trimmed.isEmpty then .ok (FilePath.ofString "/")
  else if trimmed.toList.head? == some '~' then
    .error (.standard .runtime "Could not determine home directory.")
  else .ok (FilePath.ofString trimmed)

/-- Where a configuration file lies (`get_system_file_path`), by the name of the operating system: under the home
directory, in the application data, or in a local directory where neither is known. -/
def systemFilePath (system filename home : String) (appData : Option String) : Except Fault FilePath :=
  if system == "Linux" || system == "Darwin" then do
    return (← homePath home) / ".config" / "cljbridge" / filename
  else match (if system == "Windows" then appData else none) with
    | some directory => .ok (FilePath.ofString directory / "cljbridge" / filename)
    | none => .ok (FilePath.ofString "data" / filename)

end HostBridge.Config
