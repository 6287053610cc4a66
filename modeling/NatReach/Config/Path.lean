namespace NatReach.ConfigPath

/-- A path seen from a directory. An absolute path stays what it is. -/
def join (directory path : List Char) : List Char :=
  if path.head? = some '/' then path
  else if directory.isEmpty || directory.getLast? = some '/' then directory ++ path
  else directory ++ '/' :: path

def expandChars (home : Option (List Char)) : List Char → List Char
  | '~' :: '/' :: rest =>
    match home with
    | some directory => join directory rest
    | none => '~' :: '/' :: rest
  | path => path

def expand (home : Option String) (path : String) : String :=
  String.ofList (expandChars (home.map String.toList) path.toList)

end NatReach.ConfigPath
