import LogSteward.Json.Record

/-!
# Roles

A role bundles privileges: on the cluster, on indices whose names match patterns, and on the
resources of applications.  Its document is JSON; the list of applications is left out when it is
empty, and the parts of a grant are the only fields that have to be there on reading.
-/

namespace LogSteward

open Json

/-- Privileges on the indices whose names match one of the patterns. -/
structure IndexGrant where
  names : List String
  privileges : List String
deriving DecidableEq

namespace IndexGrant

inductive Key where
  | names
  | privileges
deriving DecidableEq

def layout : Layout IndexGrant where
  Field := Key
  fields := [.names, .privileges]
  key
    | .names => "names"
    | .privileges => "privileges"
  Value _ := List String
  read _ := readList readText
  build? slots := do
    let names ← slots .names
    let privileges ← slots .privileges
    return { names, privileges }

def toJson (g : IndexGrant) : Json :=
  .object [("names", .list (g.names.map .text)), ("privileges", .list (g.privileges.map .text))]

end IndexGrant

/-- Privileges on an application's resources. -/
structure ApplicationGrant where
  application : String
  privileges : List String
  resources : List String
deriving DecidableEq

namespace ApplicationGrant

inductive Key where
  | application
  | privileges
  | resources
deriving DecidableEq

def layout : Layout ApplicationGrant where
  Field := Key
  fields := [.application, .privileges, .resources]
  key
    | .application => "application"
    | .privileges => "privileges"
    | .resources => "resources"
  Value
    | .application => String
    | .privileges | .resources => List String
  read
    | .application => readText
    | .privileges | .resources => readList readText
  build? slots := do
    let application ← slots .application
    let privileges ← slots .privileges
    let resources ← slots .resources
    return { application, privileges, resources }

def toJson (g : ApplicationGrant) : Json :=
  .object
    [ ("application", .text g.application)
    , ("privileges", .list (g.privileges.map .text))
    , ("resources", .list (g.resources.map .text)) ]

end ApplicationGrant

/-- What a role allows. -/
structure RoleDefinition where
  cluster : List String := []
  indices : List IndexGrant := []
  applications : List ApplicationGrant := []
deriving DecidableEq

namespace RoleDefinition

inductive Key where
  | cluster
  | indices
  | applications
deriving DecidableEq

def layout : Layout RoleDefinition where
  Field := Key
  fields := [.cluster, .indices, .applications]
  key
    | .cluster => "cluster"
    | .indices => "indices"
    | .applications => "applications"
  Value
    | .cluster => List String
    | .indices => List IndexGrant
    | .applications => List ApplicationGrant
  read
    | .cluster => readList readText
    | .indices => readList IndexGrant.layout.reader
    | .applications => readList ApplicationGrant.layout.reader
  build? slots :=
    some
      { cluster := (slots .cluster).getD []
        indices := (slots .indices).getD []
        applications := (slots .applications).getD [] }

def toJson (r : RoleDefinition) : Json :=
  .object <|
    [ ("cluster", .list (r.cluster.map .text))
    , ("indices", .list (r.indices.map IndexGrant.toJson)) ]
    ++ match r.applications with
      | [] => []
      | apps => [("applications", .list (apps.map ApplicationGrant.toJson))]

/-- The role that a text describes. -/
def decode (s : String) : Except Fault RoleDefinition :=
  Json.decode layout.reader s

/-- The text that describes a role. -/
def encode (r : RoleDefinition) : String :=
  r.toJson.compact

end RoleDefinition

/-- A role of a principal.  One without a definition is only referred to by its name. -/
structure Role where
  name : String
  definition : Option RoleDefinition := none
deriving DecidableEq

end LogSteward
