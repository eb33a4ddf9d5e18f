import RegistryBench.Text.Cut

/-!
# Storage paths

A path is absolute and normalised: `/`, or components each after a slash, none of them empty, `.`
or `..`.
-/

namespace RegistryBench.Storage

/-- Whether two slashes stand together. -/
def hasDoubleSlash : List Char → Bool
  | '/' :: '/' :: _ => true
  | _ :: rest => hasDoubleSlash rest
  | [] => false

/-- Whether a text is a path. -/
def isPath (path : String) : Bool :=
  path == "/" ||
    (path.toList.head? == some '/' && path.toList.getLast? != some '/' &&
      !hasDoubleSlash path.toList &&
      !(Text.split '/' path).any fun component => component == "." || component == "..")

/-- What all paths below a directory begin with. -/
def directoryPrefix (path : String) : String :=
  if path = "/" then path else path ++ "/"

end RegistryBench.Storage
