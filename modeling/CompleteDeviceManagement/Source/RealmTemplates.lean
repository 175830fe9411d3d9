import CompleteDeviceManagement.Library.Sed

/-!
# Realm templates

Source: tenant-stack/keycloak/docker-entrypoint.sh and
provider-stack/keycloak/docker-entrypoint.sh, the template loops. Each makes one
sed program of its variables and runs it over every template.
-/

set_option autoImplicit false

namespace CompleteDeviceManagement.Source.RealmTemplates
open CompleteDeviceManagement.Library.Sed

inductive Stack where
  | tenant | provider
  deriving DecidableEq, Repr

/-- A line `-e "s|\${NAME}|${NAME:-default}|g"`. -/
structure Variable where
  name : String
  default : String
  deriving DecidableEq, Repr

/-- The lines in their order. -/
def substituted : Stack → List Variable
  | .tenant =>
      [⟨"TENANT_ID", "tenant"⟩,
        ⟨"TENANT_DISPLAY_NAME", "My Tenant"⟩,
        ⟨"TENANT_ADMIN_EMAIL", "admin@tenant.example.com"⟩,
        ⟨"TENANT_ADMIN_PASSWORD", "changeme"⟩,
        ⟨"TENANT_OPERATOR_EMAIL", "operator@tenant.example.com"⟩,
        ⟨"TENANT_OPERATOR_PASSWORD", "changeme"⟩,
        ⟨"TENANT_VIEWER_EMAIL", "viewer@tenant.example.com"⟩,
        ⟨"TENANT_VIEWER_PASSWORD", "changeme"⟩,
        ⟨"GRAFANA_OIDC_SECRET", "changeme"⟩,
        ⟨"TB_OIDC_SECRET", "changeme"⟩,
        ⟨"HB_OIDC_SECRET", "changeme"⟩,
        ⟨"BRIDGE_OIDC_SECRET", "changeme"⟩,
        ⟨"PORTAL_OIDC_SECRET", "changeme"⟩,
        ⟨"EXTERNAL_URL", "http://localhost:8888"⟩,
        ⟨"TB_EXTERNAL_URL", "http://localhost:9090"⟩]
  | .provider =>
      [⟨"KC_ADMIN_USER", "admin"⟩,
        ⟨"KC_ADMIN_PASSWORD", "changeme"⟩,
        ⟨"GRAFANA_OIDC_SECRET", "changeme"⟩,
        ⟨"GRAFANA_BROKER_SECRET", "changeme"⟩,
        ⟨"BRIDGE_OIDC_SECRET", ""⟩,
        ⟨"PORTAL_OIDC_SECRET", "changeme"⟩,
        ⟨"PGADMIN_OIDC_SECRET", "changeme"⟩,
        ⟨"RABBITMQ_MANAGEMENT_OIDC_SECRET", "changeme"⟩,
        ⟨"PROVIDER_OPERATOR_PASSWORD", "changeme"⟩,
        ⟨"EXTERNAL_URL", "http://localhost:8888"⟩]

abbrev Environment := String → Option Text

/-- `${NAME:-default}`: the default also stands for an empty value. -/
def Variable.value (v : Variable) (env : Environment) : Text :=
  match env v.name with
  | some (c :: rest) => c :: rest
  | _ => v.default.toList

/-- `${NAME}` -/
def Variable.placeholder (v : Variable) : Text := '$' :: '\x7b' :: (v.name.toList ++ ['\x7d'])

def Variable.expression (v : Variable) (env : Environment) : Text :=
  's' :: '|' :: (v.placeholder ++ '|' :: (v.value env ++ '|' :: ['g']))

/-- One template with the expressions in the given order. -/
def renderWith (sed : Editor) (order : List Variable) (env : Environment) (template : Text) :
    Option Text :=
  sed.run (order.map fun v => v.expression env) template

def render (sed : Editor) (stack : Stack) : Environment → Text → Option Text :=
  renderWith sed (substituted stack)

/-! ## The loop -/

/-- `$(basename "${tpl%.tpl}")` of a file `*.json.tpl` -/
def destination (tpl : String) : String := .ofList (tpl.toList.take (tpl.length - 4))

/-- The import directory after the loop: with `set -e` a sed that fails ends the script,
and the file it was to write is empty then. -/
def prepareImports (sed : Editor) (stack : Stack) (env : Environment) :
    List (String × Text) → List (String × Text) × Bool
  | [] => ([], true)
  | (tpl, template) :: rest =>
      match render sed stack env template with
      | none => ([(destination tpl, [])], false)
      | some out =>
          let later := prepareImports sed stack env rest
          ((destination tpl, out) :: later.1, later.2)

end CompleteDeviceManagement.Source.RealmTemplates
