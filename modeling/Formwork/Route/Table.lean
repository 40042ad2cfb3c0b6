import Formwork.Dict
import Formwork.Route.Basic

/-! # Paths of named routes

A table holds the path of every named route. `RouteTable.urlFor` fills the
placeholders of a path: braces around one or more characters that are no braces. A
star in front of a placeholder's name does not belong to the name. Everything else
is copied.
-/

namespace Formwork

/-- Why a name leads to no path, or names to no table. -/
inductive RouteError where
  | unknownRoute (name : String)
  | missingParam (route param : String)
  | duplicateName (name : String)
deriving DecidableEq

/-- The error in words. -/
def RouteError.message : RouteError → String
  | unknownRoute name => "no route named `" ++ name ++ "`"
  | missingParam route param => "route `" ++ route ++ "` requires parameter `" ++ param ++ "`"
  | duplicateName name => "route name `" ++ name ++ "` is used for different paths"

/-- A part of a path: a character, or a placeholder with the characters between its
braces. -/
inductive PathPart where
  | literal (c : Char)
  | placeholder (inner : List Char)
deriving DecidableEq

namespace PathPart

/-- A brace. -/
def isBrace (c : Char) : Bool := c == '\x7b' || c == '\x7d'

/-- The name of a placeholder: its characters without a star in front, unless that
is all there is. -/
def key (inner : List Char) : String :=
  match inner with
  | '*' :: c :: rest => String.ofList (c :: rest)
  | _ => String.ofList inner

/-- Reads the rest of a placeholder behind its opening brace. -/
def placeholder? (cs : List Char) : Option (List Char × List Char) :=
  match cs.dropWhile fun c => !isBrace c with
  | '\x7d' :: after =>
    if (cs.takeWhile fun c => !isBrace c).isEmpty then none
    else some (cs.takeWhile fun c => !isBrace c, after)
  | _ => none

/-- The characters of a placeholder with its closing brace are those that were
read. -/
theorem placeholder?_chars {cs inner after : List Char}
    (h : placeholder? cs = some (inner, after)) : inner ++ '\x7d' :: after = cs := by
  unfold placeholder? at h
  split at h
  · rename_i heq
    split at h
    · cases h
    · cases h
      rw [← heq, List.takeWhile_append_dropWhile]
  · cases h

theorem placeholder?_length_lt {cs inner after : List Char}
    (h : placeholder? cs = some (inner, after)) : after.length < cs.length := by
  rw [← placeholder?_chars h]
  simp
  omega

/-- The parts of a path. -/
def ofChars : List Char → List PathPart
  | [] => []
  | c :: rest =>
    if c = '\x7b' then
      match _h : placeholder? rest with
      | some (inner, after) => placeholder inner :: ofChars after
      | none => literal c :: ofChars rest
    else literal c :: ofChars rest
termination_by cs => cs.length
decreasing_by
  · have := placeholder?_length_lt _h
    simp only [List.length_cons]
    omega
  · simp
  · simp

/-- Fills a part from pairs of names and values; the first pair with its name
counts. The error is the name that has no value. -/
def fill (params : List (String × String)) : PathPart → Except String (List Char)
  | literal c => .ok [c]
  | placeholder inner =>
    match params.lookup (key inner) with
    | some value => .ok value.toList
    | none => .error (key inner)

end PathPart

/-- The paths of named routes. -/
structure RouteTable where
  paths : Dict String

namespace RouteTable

variable {M A : Type}

/-- Adds the name of a route, which may not stand for another path. -/
def add (t : RouteTable) (r : Route M A) : Except RouteError RouteTable :=
  if r.name.isEmpty then .ok t
  else match t.paths.get? r.name with
    | some path => if path = r.path then .ok t else .error (.duplicateName r.name)
    | none => .ok ⟨t.paths.insert r.name r.path⟩

/-- The table of the names of routes. -/
def ofRoutes (routes : List (Route M A)) : Except RouteError RouteTable := routes.foldlM add ⟨∅⟩

/-- The path of a name. -/
def pattern? (t : RouteTable) (name : String) : Option String := t.paths.get? name

/-- The name stands for a path. -/
def contains (t : RouteTable) (name : String) : Bool := t.paths.contains name

/-- The path of a name with its placeholders filled. -/
def urlFor (t : RouteTable) (name : String) (params : List (String × String)) :
    Except RouteError String :=
  match t.pattern? name with
  | none => .error (.unknownRoute name)
  | some pattern =>
    match (PathPart.ofChars pattern.toList).mapM (PathPart.fill params) with
    | .ok filled => .ok (String.ofList filled.flatten)
    | .error param => .error (.missingParam name param)

end RouteTable

end Formwork
