import Formwork.Text.Cut

/-! # Routes and groups

A route ties a method and a path to an action. Routes are declared in a tree of
groups; a group gives its path, its name and its middlewares to all routes inside
it. `Group.resolve` lists the routes with absolute paths, full names and complete
chains of middlewares. The kinds of middlewares and actions are parameters.
-/

namespace Formwork

/-- The methods that a route can answer. -/
inductive Verb where
  | get
  | post
  | put
  | delete
  | patch
deriving DecidableEq

namespace Verb

/-- The method as requests name it. -/
def text : Verb → String
  | get => "GET"
  | post => "POST"
  | put => "PUT"
  | delete => "DELETE"
  | patch => "PATCH"

/-- All methods. -/
def all : List Verb := [get, post, put, delete, patch]

/-- The method that a request names. -/
def ofText? (s : String) : Option Verb := all.find? fun v => v.text == s

end Verb

/-- A route. As declared, its path, name and middlewares are relative to its group;
once resolved, they are complete. -/
structure Route (M A : Type) where
  verb : Verb
  path : String
  name : String := ""
  action : A
  middlewares : List M := []

/-- A group of routes and groups. -/
inductive Group (M A : Type) where
  | mk (path name : String) (middlewares : List M) (routes : List (Route M A))
      (groups : List (Group M A))

namespace Route

/-- What the groups around a route contribute to it. -/
structure Enclosure (M : Type) where
  path : String := ""
  name : String := ""
  middlewares : List M := []

variable {M A : Type}

/-- A path behind the path of its groups, which loses its slashes at the end. An
absolute path begins with a slash. -/
def joinPath (outer path : String) : String :=
  let joined := Text.trimEndBy (· == '/') outer ++ path
  if Text.hasHead "/" joined then joined else "/" ++ joined

/-- The route within its groups. A route without a name stays without one. -/
def within (e : Enclosure M) (r : Route M A) : Route M A :=
  { r with
    path := joinPath e.path r.path
    name := if r.name.isEmpty then "" else e.name ++ r.name
    middlewares := e.middlewares ++ r.middlewares }

end Route

namespace Group

variable {M A : Type}

/-- A group with nothing in it. -/
def empty : Group M A := .mk "" "" [] [] []

instance : Inhabited (Group M A) := ⟨empty⟩

mutual

/-- The routes of a group that stands within others. -/
def resolveWithin (e : Route.Enclosure M) : Group M A → List (Route M A)
  | .mk path name middlewares routes groups =>
    let inner : Route.Enclosure M :=
      ⟨e.path ++ path, e.name ++ name, e.middlewares ++ middlewares⟩
    routes.map (Route.within inner) ++ resolveAllWithin inner groups

/-- The routes of groups that stand within others. -/
def resolveAllWithin (e : Route.Enclosure M) : List (Group M A) → List (Route M A)
  | [] => []
  | group :: groups => resolveWithin e group ++ resolveAllWithin e groups

end

/-- The routes of a tree: those of a group in order, then those of its groups. -/
def resolve (g : Group M A) : List (Route M A) := resolveWithin {} g

/-- Absolute paths begin with a slash. -/
theorem hasHead_joinPath (outer path : String) :
    Text.hasHead "/" (Route.joinPath outer path) = true := by
  unfold Route.joinPath
  simp only []
  split
  · assumption
  · simp [Text.hasHead, String.toList_append]

end Group

end Formwork
