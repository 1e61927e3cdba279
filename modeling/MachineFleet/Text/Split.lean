/-!
Cutting texts at a separator, and joining the pieces again.
-/

namespace MachineFleet.Text

def splitOn (sep : Char) : List Char → List (List Char)
  | [] => [[]]
  | c :: rest =>
    if c = sep then [] :: splitOn sep rest
    else match splitOn sep rest with
      | [] => [[c]]
      | p :: ps => (c :: p) :: ps

def cutAt (sep : Char) : List Char → Option (List Char × List Char)
  | [] => none
  | c :: rest =>
    if c = sep then some ([], rest)
    else (cutAt sep rest).map fun r => (c :: r.1, r.2)

def containsChars (word : List Char) : List Char → Bool
  | [] => word.isEmpty
  | c :: rest => word.isPrefixOf (c :: rest) || containsChars word rest

def contains (s word : String) : Bool := containsChars word.toList s.toList

def split (sep : Char) (s : String) : List String := (splitOn sep s.toList).map String.ofList

def cut (sep : Char) (s : String) : Option (String × String) :=
  (cutAt sep s.toList).map fun r => (String.ofList r.1, String.ofList r.2)

def unlines (ls : List String) : String := String.join (ls.map (· ++ "\n"))

def lowerAscii (s : String) : String := s.map Char.toLower

end MachineFleet.Text
