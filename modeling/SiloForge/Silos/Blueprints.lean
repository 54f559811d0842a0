import SiloForge.Core.Json

/-!
# Blueprints

What a silo is made of: its roles, each on a gateway or a runtime of its own, and where they are provisioned. One
blueprint is built in.

* `SiloBlueprint`, `SiloPreview` : the roles of a kind of silo, and those of one silo with their places;
* `defaultFourAgentBlueprint` : the built-in blueprint;
* `SiloBlueprint.WellFormed`, `wellFormed_default` : a blueprint names each role once.
-/

namespace SiloForge

inductive RuntimeKind where
  | gateway | symphony
  deriving DecidableEq

def RuntimeKind.text : RuntimeKind → String
  | gateway => "gateway"
  | symphony => "symphony"

inductive RoleType where
  | pm | designer | techLead | engineer | orchestrator
  deriving DecidableEq

def RoleType.text : RoleType → String
  | pm => "pm"
  | designer => "designer"
  | techLead => "tech_lead"
  | engineer => "engineer"
  | orchestrator => "orchestrator"

inductive HostKind where
  | mac | linux | pi | ec2 | generic
  deriving DecidableEq

structure SiloSecretBinding where
  name : String
  vaultPath : String
  vaultKey : String
  envVar : String
  required : Bool := true
  deriving DecidableEq

structure SiloProvisionTarget where
  roleSlug : String
  gatewayName : String
  workspaceRoot : String
  deriving DecidableEq

structure SiloRoleBlueprint where
  slug : String
  displayName : String
  roleType : RoleType
  hostKind : HostKind := .generic
  runtimeKind : RuntimeKind := .gateway
  defaultModel : Option String := none
  fallbackModel : Option String := none
  channelName : Option String := none
  secretBindings : List SiloSecretBinding := []
  deriving DecidableEq

structure SiloBlueprint where
  slug : String
  version : String
  roles : List SiloRoleBlueprint
  sharedSecretBindings : List SiloSecretBinding
  provisionTargets : List SiloProvisionTarget
  supportsSymphony : Bool
  supportsTelemetry : Bool
  deriving DecidableEq

/-- A role of a silo with its place, as the desired state has it. -/
structure SiloRoleDesiredState where
  slug : String
  displayName : String
  roleType : RoleType
  runtimeKind : RuntimeKind
  hostKind : HostKind
  defaultModel : Option String := none
  fallbackModel : Option String := none
  channelName : Option String := none
  gatewayId : Option String := none
  gatewayName : Option String := none
  workspaceRoot : Option String := none
  secretBindings : List SiloSecretBinding := []
  deriving DecidableEq

structure SiloPreview where
  slug : String
  name : String
  blueprintSlug : String
  blueprintVersion : String
  enableSymphony : Bool
  enableTelemetry : Bool
  roles : List SiloRoleDesiredState
  sharedSecretBindings : List SiloSecretBinding
  warnings : List String
  deriving DecidableEq

/-! ## The built-in blueprint -/

def defaultPrimaryModel : String := "anthropic/claude-sonnet-4-6"

def defaultFallbackModel : String := "openai-codex/gpt-5.3-codex"

def sharedSecretBindings : List SiloSecretBinding :=
  [{ name := "anthropic_api_key", vaultPath := "secret/shared/anthropic"
     vaultKey := "ANTHROPIC_API_KEY", envVar := "ANTHROPIC_API_KEY" },
   { name := "linear_api_key", vaultPath := "secret/shared/linear"
     vaultKey := "LINEAR_API_KEY", envVar := "LINEAR_API_KEY" }]

def roleSecretBindings (roleSlug : String) : List SiloSecretBinding :=
  [{ name := roleSlug ++ "_discord_bot_token", vaultPath := "secret/agents/" ++ roleSlug ++ "/discord"
     vaultKey := "DISCORD_BOT_TOKEN", envVar := "DISCORD_BOT_TOKEN" },
   { name := roleSlug ++ "_gateway_token", vaultPath := "secret/agents/" ++ roleSlug ++ "/discord"
     vaultKey := "GATEWAY_TOKEN", envVar := "GATEWAY_TOKEN" }] ++
  if roleSlug = "bunny" then
    [{ name := "bunny_figma_pat", vaultPath := "secret/agents/bunny/figma"
       vaultKey := "FIGMA_PAT", envVar := "FIGMA_PAT" },
     { name := "bunny_notion_api_key", vaultPath := "secret/agents/bunny/notion"
       vaultKey := "NOTION_API_KEY", envVar := "NOTION_API_KEY" }]
  else []

def gatewayRole (slug displayName : String) (roleType : RoleType) (hostKind : HostKind) : SiloRoleBlueprint where
  slug
  displayName
  roleType
  hostKind
  defaultModel := some defaultPrimaryModel
  fallbackModel := some defaultFallbackModel
  channelName := some (slug ++ "-tasks")
  secretBindings := roleSecretBindings slug

def gatewayTarget (slug : String) : SiloProvisionTarget :=
  { roleSlug := slug, gatewayName := slug ++ "-gateway", workspaceRoot := "~/.openclaw" }

def defaultFourAgentBlueprint : SiloBlueprint where
  slug := "default-four-agent"
  version := "0.1.0"
  roles :=
    [gatewayRole "fox" "Fox" .pm .ec2,
     gatewayRole "bunny" "Bunny" .designer .mac,
     gatewayRole "owl" "Owl" .techLead .pi,
     gatewayRole "otter" "Otter" .engineer .ec2,
     { slug := "symphony", displayName := "Symphony", roleType := .orchestrator, hostKind := .ec2
       runtimeKind := .symphony, defaultModel := some "claude-cli/claude", fallbackModel := some "codex-cli/codex" }]
  sharedSecretBindings := sharedSecretBindings
  provisionTargets :=
    [gatewayTarget "fox", gatewayTarget "bunny", gatewayTarget "owl", gatewayTarget "otter",
     { roleSlug := "symphony", gatewayName := "otter-gateway", workspaceRoot := "~/symphony" }]
  supportsSymphony := true
  supportsTelemetry := true

def listBuiltinBlueprints : List SiloBlueprint := [defaultFourAgentBlueprint]

def getBuiltinBlueprint (slug : String) : Option SiloBlueprint :=
  listBuiltinBlueprints.find? fun b => b.slug = strip slug

variable {blueprint : SiloBlueprint}

namespace SiloBlueprint

/-- `target_by_role`: of two targets for a role, the last. -/
def targetOf (blueprint : SiloBlueprint) (roleSlug : String) : Option SiloProvisionTarget :=
  blueprint.provisionTargets.reverse.find? fun t => t.roleSlug = roleSlug

/-- The roles of a silo: a Symphony role only where Symphony is enabled. -/
def rolesFor (blueprint : SiloBlueprint) (enableSymphony : Bool) : List SiloRoleBlueprint :=
  blueprint.roles.filter fun r => !(r.runtimeKind = .symphony && !enableSymphony)

/-- Each role is named once. -/
structure WellFormed (blueprint : SiloBlueprint) : Prop where
  slugs : (blueprint.roles.map (·.slug)).Nodup
  symphony : blueprint.supportsSymphony = true → ∃ r ∈ blueprint.roles, r.runtimeKind = .symphony

theorem slugs_rolesFor (h : blueprint.WellFormed) (enableSymphony : Bool) :
    ((blueprint.rolesFor enableSymphony).map (·.slug)).Nodup :=
  h.slugs.sublist (List.filter_sublist.map _)

theorem mem_rolesFor {enableSymphony : Bool} {role : SiloRoleBlueprint} : role ∈ blueprint.rolesFor enableSymphony ↔
      role ∈ blueprint.roles ∧ (role.runtimeKind = .symphony → enableSymphony = true) := by
  unfold rolesFor
  rw [List.mem_filter]
  cases enableSymphony <;> simp

end SiloBlueprint

theorem wellFormed_default : defaultFourAgentBlueprint.WellFormed where
  slugs := by decide
  symphony _ := ⟨_, List.mem_cons_of_mem _ (List.mem_cons_of_mem _ (List.mem_cons_of_mem _
    (List.mem_cons_of_mem _ List.mem_cons_self))), rfl⟩

theorem mem_builtin {slug : String} (h : getBuiltinBlueprint slug = some blueprint) :
    blueprint = defaultFourAgentBlueprint :=
  List.mem_singleton.mp (List.mem_of_find?_eq_some h)

end SiloForge
