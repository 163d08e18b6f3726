import LogSteward.Access.Role
import LogSteward.Text.Diagnostic

/-!
# Principals

A principal is an identity that can log in to the store: a name, a password and roles in the order
in which they are granted.  Two principals are known by heart, the one that writes logs and the one
that installs dashboards; each has a role of its own name, and both names carry the cluster and the
tenant they are for.
-/

namespace LogSteward

structure Principal where
  username : String
  /-- Empty for a principal that was read from the store. -/
  password : String := ""
  roles : List Role := []
deriving DecidableEq

/-- What is sent to the store to write a principal. -/
structure UserBody where
  password : String
  roles : List String
deriving DecidableEq

/-- A principal as the store lists it. -/
structure UserRecord where
  username : String
  roles : List String
deriving DecidableEq

namespace UserBody

open Json in
def toJson (b : UserBody) : Json :=
  .object [("password", .text b.password), ("roles", .list (b.roles.map .text))]

/-- The text that is sent. -/
def encode (b : UserBody) : String :=
  b.toJson.compact

/-- The body as it is shown in diagnostics, without its password. -/
def diagnostic (b : UserBody) : String :=
  Diagnostic.record "PrincipalBody"
    [("password", Diagnostic.redacted), ("roles", Diagnostic.strings b.roles)]

end UserBody

namespace IndexGrant

def diagnostic (g : IndexGrant) : String :=
  Diagnostic.record "RoleIndex"
    [("names", Diagnostic.strings g.names), ("privileges", Diagnostic.strings g.privileges)]

end IndexGrant

namespace ApplicationGrant

def diagnostic (g : ApplicationGrant) : String :=
  Diagnostic.record "ApplicationPrivilege"
    [ ("application", Diagnostic.quoted g.application)
    , ("privileges", Diagnostic.strings g.privileges)
    , ("resources", Diagnostic.strings g.resources) ]

end ApplicationGrant

namespace RoleDefinition

def diagnostic (r : RoleDefinition) : String :=
  Diagnostic.record "RoleDefinition"
    [ ("cluster", Diagnostic.strings r.cluster)
    , ("indices", Diagnostic.list (r.indices.map IndexGrant.diagnostic))
    , ("applications", Diagnostic.list (r.applications.map ApplicationGrant.diagnostic)) ]

end RoleDefinition

namespace Role

/-- A role that is only referred to. -/
def named (name : String) : Role := { name }

def diagnostic (r : Role) : String :=
  Diagnostic.record "Role"
    [ ("name", Diagnostic.quoted r.name)
    , ("definition", Diagnostic.option (r.definition.map RoleDefinition.diagnostic)) ]

end Role

namespace UserRecord

/-- The principal that a listing describes: its roles are only referred to. -/
def toPrincipal (u : UserRecord) : Principal where
  username := u.username
  roles := u.roles.map Role.named

end UserRecord

namespace Principal

def withPassword (p : Principal) (password : String) : Principal :=
  { p with password }

def roleNames (p : Principal) : List String :=
  p.roles.map (·.name)

/-- What is sent to the store to write the principal. -/
def body (p : Principal) : UserBody where
  password := p.password
  roles := p.roleNames

/-- The principal as it is shown in diagnostics, without its password. -/
def diagnostic (p : Principal) : String :=
  Diagnostic.record "Principal"
    [ ("username", Diagnostic.quoted p.username)
    , ("password", Diagnostic.redacted)
    , ("roles", Diagnostic.list (p.roles.map Role.diagnostic)) ]

/-- A name for a cluster and a tenant; the separator stays where the tenant is empty. -/
def scopedName (name cluster tenant : String) : String :=
  name ++ "_" ++ cluster ++ "_" ++ tenant

/-- A pattern for the indices of a cluster and, if there is one, a tenant. -/
def indexPattern (stem cluster suffix tenant : String) : String :=
  if tenant = "" then stem ++ "." ++ cluster ++ suffix
  else stem ++ "." ++ tenant ++ "." ++ cluster ++ suffix

/-- The name of the principal that writes logs. -/
def ingestionName : String := "tigera-ee-linseed"

/-- The name of the principal that installs dashboards. -/
def dashboardName : String := "tigera-ee-dashboards-installer"

/-- A principal with one role, of the same name. -/
def withOwnRole (name : String) (definition : RoleDefinition) : Principal where
  username := name
  roles := [{ name, definition := some definition }]

/-- The principal that writes logs: it manages the indices of all clusters of its tenant. -/
def ingestion (cluster tenant : String) : Principal :=
  withOwnRole (scopedName ingestionName cluster tenant)
    { cluster := ["monitor", "manage_index_templates", "manage_ilm"]
      indices :=
        [{ names := [indexPattern "tigera_secure_ee_*" "*" ".*" tenant, "calico_*"]
           privileges := ["create_index", "write", "manage", "read"] }] }

/-- The principal that installs dashboards: it has all privileges on the dashboard application. -/
def dashboard (cluster tenant : String) : Principal :=
  withOwnRole (scopedName dashboardName cluster tenant)
    { applications :=
        [{ application := "kibana-.kibana", privileges := ["all"], resources := ["*"] }] }

end Principal

end LogSteward
