/-!
# Slash-separated paths

A path is a number of leading slashes and a list of components. Reading one drops empty components
and single dots and keeps double dots; exactly two leading slashes are kept, and three or more
count as one.
-/

namespace BytecodeFacts

structure Path where
  root : Nat
  parts : List String
  deriving DecidableEq

namespace Path

/-- The pieces of `s` between slashes: one more than it has slashes. -/
def pieces : List Char → List (List Char)
  | [] => [[]]
  | c :: rest =>
    match pieces rest with
    | [] => []
    | piece :: more => if c = '/' then [] :: piece :: more else (c :: piece) :: more

def rootOf (s : List Char) : Nat :=
  match (s.takeWhile (· = '/')).length with
  | 0 => 0
  | 2 => 2
  | _ => 1

def ofString (s : String) : Path where
  root := rootOf s.toList
  parts := ((pieces s.toList).filter fun piece => piece ≠ [] && piece ≠ ['.']).map String.ofList

/-- The path that names no component and no root is written as a single dot. -/
def text (path : Path) : String :=
  if path.root = 0 && path.parts.isEmpty then "."
  else String.ofList (List.replicate path.root '/') ++ "/".intercalate path.parts

end Path

end BytecodeFacts
