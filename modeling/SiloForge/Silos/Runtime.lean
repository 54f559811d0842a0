import SiloForge.Silos.Service

/-!
# Runtime operations of a silo

A plan renders a bundle for each gateway role of a silo. An operation sends the bundles to the gateways one after the
other, validated or applied, and stores what came of them when it is through with all.

* `runTarget`, `runTargets`, `runRuntime` : the operation, with the roles whose bundles were applied on a gateway;
* `Recorded` : each applied role is stored as applied, each other role as not;
* `ReplyFits` : the role's gateway is there, and answers what it has done or fails having done nothing;
* `recorded_iff` : an operation records what it did exactly where all replies fit.
-/

namespace SiloForge

open Lib

/-! ## Plans -/

inductive BundleRoot where
  | workspace | configDir
  deriving DecidableEq

structure RuntimeBundleFile where
  root : BundleRoot
  path : String
  content : String
  perm : String := "0644"
  deriving DecidableEq

structure RuntimeBundleSecretBinding where
  name : String
  envVar : String
  required : Bool := true
  deriving DecidableEq

structure RuntimeBundle where
  configPatch : Json
  files : List RuntimeBundleFile
  secretBindings : List RuntimeBundleSecretBinding
  deriving DecidableEq

structure SiloProvisionPlanTarget where
  roleSlug : String
  runtimeKind : RuntimeKind
  gatewayName : Option String := none
  workspaceRoot : Option String := none
  supportsPicoclawBundleApply : Bool := false
  bundle : Option RuntimeBundle := none
  warnings : List String := []
  deriving DecidableEq

structure SiloProvisionPlan where
  preview : SiloPreview
  targets : List SiloProvisionPlanTarget
  warnings : List String
  deriving DecidableEq

def lines (texts : List String) : String := String.intercalate "\n" texts ++ "\n"

def renderAgentsMd (preview : SiloPreview) (role : SiloRoleDesiredState) : String :=
  lines (["# AGENTS.md", "", "Silo: " ++ preview.name,
      "Blueprint: " ++ preview.blueprintSlug ++ "@" ++ preview.blueprintVersion,
      "Role: " ++ role.displayName ++ " (" ++ role.roleType.text ++ ")", "",
      "Read SOUL.md and TEAM.md before starting work."] ++
    match orNone role.channelName with
    | none => []
    | some channel => ["Primary channel: " ++ channel])

def renderSoulMd (preview : SiloPreview) (role : SiloRoleDesiredState) : String :=
  lines ["# SOUL.md", "",
    "You are " ++ role.displayName ++ ", the " ++ role.roleType.text ++ " role in silo " ++ preview.name ++ ".",
    "Work directly, keep evidence real, and escalate blockers early."]

def renderTeamMd (preview : SiloPreview) : String :=
  lines (["# TEAM.md", "", "Silo: " ++ preview.name,
      "Blueprint: " ++ preview.blueprintSlug ++ "@" ++ preview.blueprintVersion, "", "Roles:"] ++
    [String.intercalate "\n" (preview.roles.map fun role => "- " ++ role.displayName ++ ": " ++ role.roleType.text)])

/-- `rstrip('/')`. -/
def rstripSlash (text : String) : String := String.ofList (text.toList.reverse.dropWhile (· = '/')).reverse

def optionalText : Option String → Json
  | none => .null
  | some text => .str text

def buildGatewayTarget (preview : SiloPreview) (role : SiloRoleDesiredState) : SiloProvisionPlanTarget :=
  let workspaceRoot := (orNone role.workspaceRoot).getD "~/.openclaw"
  let defaults : Json := .obj
    [("workspace", .str (rstripSlash workspaceRoot ++ "/workspace")), ("model_name", optionalText role.defaultModel),
     ("model_fallbacks", .arr ((orNone role.fallbackModel).toList.map .str))]
  let discord : Json := .obj
    [("enabled", .bool true), ("token", .obj [("$secret", .str (role.slug ++ "_discord_bot_token"))])]
  { roleSlug := role.slug
    runtimeKind := role.runtimeKind
    gatewayName := role.gatewayName
    workspaceRoot := some workspaceRoot
    supportsPicoclawBundleApply := true
    bundle := some
      { configPatch := .obj
          [("agents", .obj [("defaults", defaults)]), ("channels", .obj [("discord", discord)])]
        files :=
          [{ root := .workspace, path := "AGENTS.md", content := renderAgentsMd preview role },
           { root := .workspace, path := "SOUL.md", content := renderSoulMd preview role },
           { root := .workspace, path := "TEAM.md", content := renderTeamMd preview }]
        secretBindings := (preview.sharedSecretBindings ++ role.secretBindings).map fun b =>
          { name := b.name, envVar := b.envVar, required := b.required } } }

def symphonyWarning : String := "Symphony runtime is not yet rendered into PicoClaw bundle apply payloads."

/-- The target of a role; Symphony roles have no bundle. -/
def planTarget (preview : SiloPreview) (role : SiloRoleDesiredState) : SiloProvisionPlanTarget :=
  match role.runtimeKind with
  | .gateway => buildGatewayTarget preview role
  | .symphony =>
    { roleSlug := role.slug
      runtimeKind := role.runtimeKind
      gatewayName := role.gatewayName
      workspaceRoot := role.workspaceRoot
      warnings := [symphonyWarning] }

def buildPlanFromPreview (preview : SiloPreview) : SiloProvisionPlan where
  preview
  targets := preview.roles.map (planTarget preview)
  warnings := preview.warnings ++ (preview.roles.filter fun r => r.runtimeKind = .symphony).map fun _ => symphonyWarning

def SiloRoleRecord.desired (row : SiloRoleRecord) : SiloRoleDesiredState where
  slug := row.slug
  displayName := row.displayName
  roleType := row.roleType
  runtimeKind := row.runtimeKind
  hostKind := row.hostKind
  defaultModel := row.defaultModel
  fallbackModel := row.fallbackModel
  channelName := row.channelName
  gatewayId := row.gatewayId.map Uuid.format
  gatewayName := row.gatewayName
  workspaceRoot := row.workspaceRoot
  secretBindings := row.secretBindings

def buildPlanForSilo (db : SiloDb) (silo : SiloRecord) : SiloProvisionPlan :=
  buildPlanFromPreview { silo.desiredState with roles := (db.rolesOf silo.id).map (·.desired) }

/-! ## Replies -/

/-- The answer of a gateway to a bundle; validated, `valid` says whether it may be applied. -/
structure RuntimeBundleResponse where
  done : Bool
  restartRequired : Bool := false
  warnings : List String := []
  writes : Json := .arr []
  resolvedSecrets : Json := .arr []
  deriving DecidableEq

/-- How a call ends: with an answer, an HTTP error, or an answer that is none. -/
inductive CallEnd where
  | response (r : RuntimeBundleResponse)
  | httpError (message : String)
  | malformed (failure : Failure)
  deriving DecidableEq

/-- What a gateway does with the bundle of a role: whether it applies it, and how the call ends. -/
structure ApplyReply where
  applied : Bool
  ends : CallEnd
  deriving DecidableEq

/-- What the gateways do with the bundle of each role. -/
structure RuntimeReplies where
  validate : String → CallEnd
  apply : String → ApplyReply

/-! ## Operations -/

inductive RuntimeMode where
  | validate | apply
  deriving DecidableEq

structure SiloRuntimeOperationRead where
  roleSlug : String
  runtimeKind : RuntimeKind
  gatewayName : Option String
  supportsPicoclawBundleApply : Bool
  validated : Option RuntimeBundleResponse := none
  applied : Option RuntimeBundleResponse := none
  warnings : List String
  deriving DecidableEq

structure SiloRuntimeOperation where
  id : Uuid
  siloId : Uuid
  mode : RuntimeMode
  warnings : List String
  createdAt : Time
  deriving DecidableEq

instance : Keyed SiloRuntimeOperation Uuid := ⟨SiloRuntimeOperation.id⟩

structure SiloRuntimeOperationResult where
  operationId : Uuid
  result : SiloRuntimeOperationRead
  createdAt : Time
  deriving DecidableEq

structure RuntimeDb where
  silos : SiloDb
  operations : Table SiloRuntimeOperation := ∅
  results : List SiloRuntimeOperationResult := []

/-- What came of a target: whether its bundle was applied, and its result with the warnings for the operation. -/
structure TargetRun where
  applied : Bool := false
  outcome : Except Failure (SiloRuntimeOperationRead × List String)

def targetGateway (db : SiloDb) (organizationId : Uuid) (plan : SiloProvisionPlan) (target : SiloProvisionPlanTarget) :
    Except Failure (Option SiloGateway) :=
  match (plan.preview.roles.find? fun r => r.slug = target.roleSlug).bind fun r => orNone r.gatewayId with
  | none => .ok none
  | some text => do
    let id ← orFail (Uuid.ofString? text) (.valueError "badly formed hexadecimal UUID string")
    let gateway ← orFail ((db.gateways.get? id).filter (·.organizationId = organizationId))
      (.valueError ("Gateway not found for role " ++ target.roleSlug ++ ": " ++ text))
    return some gateway

def SiloProvisionPlanTarget.result (target : SiloProvisionPlanTarget) (supports : Bool) (more : List String) :
    SiloRuntimeOperationRead where
  roleSlug := target.roleSlug
  runtimeKind := target.runtimeKind
  gatewayName := target.gatewayName
  supportsPicoclawBundleApply := supports
  warnings := target.warnings ++ more

def runTarget (replies : RuntimeReplies) (db : SiloDb) (organizationId : Uuid) (mode : RuntimeMode)
    (plan : SiloProvisionPlan) (target : SiloProvisionPlanTarget) : TargetRun :=
  if target.supportsPicoclawBundleApply = false ∨ target.bundle = none then
    { outcome := .ok (target.result false [], []) }
  else
    match targetGateway db organizationId plan target with
    | .error e => { outcome := .error e }
    | .ok none => { outcome := .ok (target.result false ["No gateway assignment is stored for this role."], []) }
    | .ok (some gateway) =>
      match mode with
      | .validate =>
        match replies.validate target.roleSlug with
        | .malformed e => { outcome := .error e }
        | .httpError message =>
          let warning := "Runtime validate failed for gateway " ++ gateway.name ++ ": " ++ message
          { outcome := .ok (target.result true [warning], [warning]) }
        | .response r => { outcome := .ok ({ target.result true r.warnings with validated := some r }, []) }
      | .apply =>
        let reply := replies.apply target.roleSlug
        match reply.ends with
        | .malformed e => { applied := reply.applied, outcome := .error e }
        | .httpError message =>
          let warning := "Runtime apply failed for gateway " ++ gateway.name ++ ": " ++ message
          { applied := reply.applied, outcome := .ok (target.result true [warning], [warning]) }
        | .response r =>
          { applied := reply.applied, outcome := .ok ({ target.result true r.warnings with applied := some r }, []) }

/-- What an operation did: the roles whose bundles were applied, and its results, or the error it stopped with. -/
structure TargetRuns where
  applied : List String := []
  outcome : Except Failure (List SiloRuntimeOperationRead × List String)

def runTargets (run : SiloProvisionPlanTarget → TargetRun) : List SiloProvisionPlanTarget → TargetRuns
  | [] => { outcome := .ok ([], []) }
  | target :: rest =>
    let this := run target
    let applied := if this.applied then [target.roleSlug] else []
    match this.outcome with
    | .error e => { applied, outcome := .error e }
    | .ok (result, warnings) =>
      let after := runTargets run rest
      { applied := applied ++ after.applied
        outcome := after.outcome.map fun o => (result :: o.1, warnings ++ o.2) }

structure RuntimeRun where
  applied : List String := []
  db : RuntimeDb
  failure : Option Failure := none

def persistOperation (db : RuntimeDb) (now : Time) (operationId siloId : Uuid) (mode : RuntimeMode)
    (results : List SiloRuntimeOperationRead) (warnings : List String) : Except Failure RuntimeDb := do
  let operations ← orFail (db.operations.insert? { id := operationId, siloId, mode, warnings, createdAt := now })
    .integrityError
  return { db with
    operations
    results := db.results ++ results.map fun result => { operationId, result, createdAt := now } }

/-- Run validate or apply for a persisted silo. -/
def runRuntime (replies : RuntimeReplies) (db : RuntimeDb) (now : Time) (operationId organizationId : Uuid)
    (slug : String) (mode : RuntimeMode) : RuntimeRun :=
  match db.silos.siloBySlug organizationId slug with
  | none => { db, failure := some (.valueError ("Silo not found: " ++ slug)) }
  | some silo =>
    let plan := buildPlanForSilo db.silos silo
    let runs := runTargets (runTarget replies db.silos organizationId mode plan) plan.targets
    match runs.outcome with
    | .error e => { applied := runs.applied, db, failure := some e }
    | .ok (results, warnings) =>
      match persistOperation db now operationId silo.id mode results (plan.warnings ++ warnings) with
      | .error e => { applied := runs.applied, db, failure := some e }
      | .ok db' => { applied := runs.applied, db := db' }

/-! ## Records -/

/-- A result says that the bundle was applied. -/
def SiloRuntimeOperationRead.saysApplied (r : SiloRuntimeOperationRead) : Prop := ∃ a, r.applied = some a ∧ a.done = true

/-- The operation is stored with a result for a role that says so, or that says it was not. -/
def StoredResult (db : RuntimeDb) (operationId : Uuid) (roleSlug : String) (applied : Prop) : Prop :=
  (∃ operation, db.operations.get? operationId = some operation) ∧
    ∃ row ∈ db.results, row.operationId = operationId ∧ row.result.roleSlug = roleSlug ∧
      (row.result.saysApplied ↔ applied)

/-- Every role is stored as what it is: applied on a gateway, or not. -/
def Recorded (run : RuntimeRun) (operationId : Uuid) (plan : SiloProvisionPlan) : Prop :=
  ∀ target ∈ plan.targets, StoredResult run.db operationId target.roleSlug (target.roleSlug ∈ run.applied)

/-- Where a bundle is sent, the gateway is there, and it answers what it has done or fails having done nothing. -/
def ReplyFits (replies : RuntimeReplies) (db : SiloDb) (organizationId : Uuid) (plan : SiloProvisionPlan)
    (target : SiloProvisionPlanTarget) : Prop :=
  target.supportsPicoclawBundleApply = true → target.bundle ≠ none →
    match targetGateway db organizationId plan target with
    | .error _ => False
    | .ok none => True
    | .ok (some _) =>
      match (replies.apply target.roleSlug).ends with
      | .malformed _ => False
      | .httpError _ => (replies.apply target.roleSlug).applied = false
      | .response r => r.done = (replies.apply target.roleSlug).applied

/-- A target's result is there and says what was done. -/
def TargetRun.Fits (run : TargetRun) (roleSlug : String) : Prop :=
  ∃ result warnings, run.outcome = .ok (result, warnings) ∧ result.roleSlug = roleSlug ∧
    (result.saysApplied ↔ run.applied = true)

theorem not_saysApplied_result (target : SiloProvisionPlanTarget) (supports : Bool) (more : List String) :
    ¬ (target.result supports more).saysApplied := by
  rintro ⟨a, ha, -⟩
  cases ha

/-- The result of a target says what was done exactly when the reply fits. -/
theorem runTarget_fits_iff (replies : RuntimeReplies) (db : SiloDb) (organizationId : Uuid) (plan : SiloProvisionPlan)
    (target : SiloProvisionPlanTarget) :
    (runTarget replies db organizationId .apply plan target).Fits target.roleSlug ↔
      ReplyFits replies db organizationId plan target := by
  unfold runTarget ReplyFits
  by_cases hsend : target.supportsPicoclawBundleApply = false ∨ target.bundle = none
  · rw [if_pos hsend]
    refine iff_of_true ⟨_, _, rfl, rfl, iff_of_false (not_saysApplied_result _ _ _) Bool.false_ne_true⟩ fun hs hb => ?_
    rcases hsend with h | h
    · rw [hs] at h
      cases h
    · exact absurd h hb
  · obtain ⟨hs, hb⟩ := not_or.mp hsend
    rw [if_neg hsend, forall_prop_of_true (by simpa using hs), forall_prop_of_true hb]
    cases hgateway : targetGateway db organizationId plan target with
    | error e => exact iff_of_false (fun ⟨_, _, h, _⟩ => by cases h) id
    | ok found =>
      cases found with
      | none => exact iff_of_true ⟨_, _, rfl, rfl, iff_of_false (not_saysApplied_result _ _ _) Bool.false_ne_true⟩ trivial
      | some gateway =>
        dsimp only
        cases (replies.apply target.roleSlug).ends with
        | malformed e => exact iff_of_false (fun ⟨_, _, h, _⟩ => by cases h) id
        | httpError message =>
          constructor
          · rintro ⟨_, _, hok, -, hanswers⟩
            obtain ⟨rfl, -⟩ := Prod.mk.inj (Except.ok.inj hok)
            exact Bool.eq_false_iff.mpr fun h => not_saysApplied_result _ _ _ (hanswers.mpr h)
          · intro h
            refine ⟨_, _, rfl, rfl, iff_of_false (not_saysApplied_result _ _ _) ?_⟩
            dsimp only
            rw [h]
            exact Bool.false_ne_true
        | response r =>
          have hanswers : ∀ result : SiloRuntimeOperationRead, result.applied = some r →
              (result.saysApplied ↔ r.done = true) := by
            intro result hresult
            constructor
            · rintro ⟨a, ha, hdone⟩
              obtain rfl := Option.some.inj (hresult.symm.trans ha)
              exact hdone
            · exact fun hdone => ⟨r, hresult, hdone⟩
          constructor
          · rintro ⟨_, _, hok, -, hfits⟩
            obtain ⟨rfl, -⟩ := Prod.mk.inj (Except.ok.inj hok)
            rw [hanswers _ rfl] at hfits
            exact Bool.eq_iff_iff.mpr hfits
          · intro h
            refine ⟨_, _, rfl, rfl, ?_⟩
            rw [hanswers _ rfl]
            exact Bool.eq_iff_iff.mp h

/-! ## Targets in a row -/

section Targets

variable {run : SiloProvisionPlanTarget → TargetRun} {target : SiloProvisionPlanTarget}

theorem runTargets_of_error {e : Failure} (h : (run target).outcome = .error e) (rest : List SiloProvisionPlanTarget) :
    runTargets run (target :: rest) =
      { applied := if (run target).applied then [target.roleSlug] else [], outcome := .error e } := by
  unfold runTargets
  dsimp only
  rw [h]

theorem runTargets_of_ok {result : SiloRuntimeOperationRead} {warnings : List String}
    (h : (run target).outcome = .ok (result, warnings)) (rest : List SiloProvisionPlanTarget) :
    runTargets run (target :: rest) =
      { applied := (if (run target).applied then [target.roleSlug] else []) ++ (runTargets run rest).applied
        outcome := (runTargets run rest).outcome.map fun o => (result :: o.1, warnings ++ o.2) } := by
  conv_lhs => unfold runTargets
  dsimp only
  rw [h]

variable {targets : List SiloProvisionPlanTarget}

theorem runTargets_eq_ok {results : List SiloRuntimeOperationRead} {warnings : List String}
    (h : (runTargets run targets).outcome = .ok (results, warnings)) :
    List.Forall₂ (fun target result => ∃ w, (run target).outcome = .ok (result, w)) targets results ∧
      (runTargets run targets).applied = (targets.filter fun t => (run t).applied).map (·.roleSlug) := by
  induction targets generalizing results warnings with
  | nil =>
    obtain ⟨rfl, -⟩ := Prod.mk.inj (Except.ok.inj h)
    exact ⟨.nil, rfl⟩
  | cons target rest ih =>
    cases hthis : (run target).outcome with
    | error e =>
      rw [runTargets_of_error hthis] at h
      cases h
    | ok o =>
      rw [runTargets_of_ok hthis] at h ⊢
      cases hafter : (runTargets run rest).outcome with
      | error e =>
        rw [hafter] at h
        cases h
      | ok o' =>
        rw [hafter] at h
        obtain ⟨rfl, -⟩ := Prod.mk.inj (Except.ok.inj h)
        obtain ⟨hall, happlied⟩ := ih hafter
        refine ⟨.cons ⟨o.2, hthis⟩ hall, ?_⟩
        dsimp only
        rw [happlied, List.filter_cons]
        cases (run target).applied <;> rfl

theorem exists_runTargets (h : ∀ t ∈ targets, ∃ o, (run t).outcome = .ok o) :
    ∃ o, (runTargets run targets).outcome = .ok o := by
  induction targets with
  | nil => exact ⟨_, rfl⟩
  | cons target rest ih =>
    obtain ⟨o, ho⟩ := h target List.mem_cons_self
    obtain ⟨o', ho'⟩ := ih fun t ht => h t (List.mem_cons_of_mem _ ht)
    refine ⟨(o.1 :: o'.1, o.2 ++ o'.2), ?_⟩
    rw [runTargets_of_ok ho]
    dsimp only
    rw [ho']
    rfl

end Targets

/-! ## Operations that account for what they did -/

theorem slugs_rolesOf (db : SiloDb) (siloId : Uuid) : ((db.rolesOf siloId).map (·.slug)).Nodup := by
  have hrows : (db.rolesOf siloId).Nodup := (List.Nodup.of_map key db.roles.nodup).filter _
  refine (List.nodup_map_iff_inj_on hrows).mpr fun a ha b hb hslug => ?_
  obtain ⟨ha, hasilo⟩ := List.mem_filter.mp ha
  obtain ⟨hb, hbsilo⟩ := List.mem_filter.mp hb
  have hsilo : a.siloId = b.siloId := (of_decide_eq_true hasilo).trans (of_decide_eq_true hbsilo).symm
  exact Table.eq_of_key_eq ha hb (Prod.ext hsilo hslug)

theorem roleSlug_planTarget (preview : SiloPreview) (role : SiloRoleDesiredState) :
    (planTarget preview role).roleSlug = role.slug := by
  unfold planTarget
  cases role.runtimeKind <;> rfl

theorem slugs_plan (db : SiloDb) (silo : SiloRecord) :
    ((buildPlanForSilo db silo).targets.map (·.roleSlug)).Nodup := by
  have hsame : (buildPlanForSilo db silo).targets.map (·.roleSlug) = (db.rolesOf silo.id).map (·.slug) := by
    unfold buildPlanForSilo buildPlanFromPreview
    dsimp only
    rw [List.map_map, List.map_map]
    exact List.map_congr_left fun row _ => roleSlug_planTarget _ row.desired
  rw [hsame]
  exact slugs_rolesOf db silo.id

section Related

variable {α β : Type} {R : α → β → Prop} {as : List α} {bs : List β}

theorem exists_of_mem_left (h : List.Forall₂ R as bs) {a : α} (ha : a ∈ as) : ∃ b ∈ bs, R a b := by
  induction h with
  | nil => cases ha
  | cons hab _ ih =>
    rcases List.mem_cons.mp ha with rfl | ha
    · exact ⟨_, List.mem_cons_self, hab⟩
    · obtain ⟨b, hb, hR⟩ := ih ha
      exact ⟨b, List.mem_cons_of_mem _ hb, hR⟩

theorem exists_of_mem_right (h : List.Forall₂ R as bs) {b : β} (hb : b ∈ bs) : ∃ a ∈ as, R a b := by
  induction h with
  | nil => cases hb
  | cons hab _ ih =>
    rcases List.mem_cons.mp hb with rfl | hb
    · exact ⟨_, List.mem_cons_self, hab⟩
    · obtain ⟨a, ha, hR⟩ := ih hb
      exact ⟨a, List.mem_cons_of_mem _ ha, hR⟩

end Related

variable {target : SiloProvisionPlanTarget}

theorem roleSlug_runTarget {replies : RuntimeReplies} {db : SiloDb} {organizationId : Uuid} {mode : RuntimeMode}
    {plan : SiloProvisionPlan} {o : SiloRuntimeOperationRead × List String}
    (h : (runTarget replies db organizationId mode plan target).outcome = .ok o) : o.1.roleSlug = target.roleSlug := by
  unfold runTarget at h
  dsimp only at h
  split at h
  · exact (Except.ok.inj h) ▸ rfl
  · split at h
    · cases h
    · exact (Except.ok.inj h) ▸ rfl
    · split at h
      · split at h
        · cases h
        · exact (Except.ok.inj h) ▸ rfl
        · exact (Except.ok.inj h) ▸ rfl
      · split at h
        · cases h
        · exact (Except.ok.inj h) ▸ rfl
        · exact (Except.ok.inj h) ▸ rfl

theorem storedResult_iff {run : SiloProvisionPlanTarget → TargetRun} {targets : List SiloProvisionPlanTarget}
    {results : List SiloRuntimeOperationRead} {warnings : List String} {db : RuntimeDb} {now : Time}
    {operation : SiloRuntimeOperation} {operations : Table SiloRuntimeOperation}
    (hslugs : (targets.map (·.roleSlug)).Nodup) (hrun : ∀ t o, (run t).outcome = .ok o → o.1.roleSlug = t.roleSlug)
    (hok : (runTargets run targets).outcome = .ok (results, warnings))
    (hinsert : db.operations.insert? operation = some operations)
    (hresults : ∀ row ∈ db.results, row.operationId ≠ operation.id) (htarget : target ∈ targets) : StoredResult
        { db with operations
                  results := db.results ++ results.map fun result =>
                    { operationId := operation.id, result, createdAt := now } }
        operation.id target.roleSlug (target.roleSlug ∈ (runTargets run targets).applied) ↔
      (run target).Fits target.roleSlug := by
  obtain ⟨hall, happlied⟩ := runTargets_eq_ok hok
  have hsame : ∀ t ∈ targets, t.roleSlug = target.roleSlug → t = target :=
    fun t ht he => List.inj_on_of_nodup_map hslugs ht htarget he
  have happlied : target.roleSlug ∈ (runTargets run targets).applied ↔ (run target).applied = true := by
    rw [happlied, List.mem_map]
    constructor
    · rintro ⟨t, ht, he⟩
      obtain ⟨ht, hdone⟩ := List.mem_filter.mp ht
      rwa [hsame t ht he] at hdone
    · exact fun hdone => ⟨target, List.mem_filter.mpr ⟨htarget, hdone⟩, rfl⟩
  unfold StoredResult
  rw [happlied]
  constructor
  · rintro ⟨-, row, hrow, hid, hslug, hanswers⟩
    rcases List.mem_append.mp hrow with hrow | hrow
    · exact absurd hid (hresults row hrow)
    · obtain ⟨result, hresult, rfl⟩ := List.mem_map.mp hrow
      obtain ⟨t, ht, w, hout⟩ := exists_of_mem_right hall hresult
      obtain rfl := hsame t ht ((hrun t _ hout).symm.trans hslug)
      exact ⟨result, w, hout, hslug, hanswers⟩
  · rintro ⟨result, w, hout, hslug, hanswers⟩
    refine ⟨⟨operation, ?_⟩, _, List.mem_append_right _ (List.mem_map_of_mem ?_), rfl, hslug, hanswers⟩
    · exact (Table.get?_insert? hinsert operation.id).trans (if_pos rfl)
    · obtain ⟨result', hresult', w', hout'⟩ := exists_of_mem_left hall htarget
      obtain ⟨rfl, -⟩ := Prod.mk.inj (Except.ok.inj (hout.symm.trans hout'))
      exact hresult'

/-- **An operation accounts for what it applied** exactly where every gateway's reply fits. -/
theorem recorded_iff (replies : RuntimeReplies) {db : RuntimeDb} (now : Time) {operationId organizationId : Uuid}
    {slug : String} {silo : SiloRecord} (hsilo : db.silos.siloBySlug organizationId slug = some silo)
    (hoperation : db.operations.get? operationId = none) (hresults : ∀ row ∈ db.results, row.operationId ≠ operationId) :
    Recorded (runRuntime replies db now operationId organizationId slug .apply) operationId
        (buildPlanForSilo db.silos silo) ↔
      ∀ target ∈ (buildPlanForSilo db.silos silo).targets,
        ReplyFits replies db.silos organizationId (buildPlanForSilo db.silos silo) target := by
  have hfits := runTarget_fits_iff replies db.silos organizationId (buildPlanForSilo db.silos silo)
  unfold runRuntime
  rw [hsilo]
  dsimp only
  cases houtcome : (runTargets (runTarget replies db.silos organizationId .apply (buildPlanForSilo db.silos silo))
      (buildPlanForSilo db.silos silo).targets).outcome with
  | error e =>
    -- stopped in the middle: nothing is stored, and one of the replies did not fit
    dsimp only
    refine iff_of_false (fun hrecorded => ?_) (fun hall => ?_)
    · cases htargets : (buildPlanForSilo db.silos silo).targets with
      | nil =>
        rw [htargets] at houtcome
        cases houtcome
      | cons t rest =>
        obtain ⟨⟨operation, hget⟩, -⟩ := hrecorded t (htargets ▸ List.mem_cons_self)
        rw [hoperation] at hget
        cases hget
    · obtain ⟨o, ho⟩ := exists_runTargets fun t ht => by
        obtain ⟨result, w, hout, -, -⟩ := (hfits t).mpr (hall t ht)
        exact ⟨_, hout⟩
      rw [houtcome] at ho
      cases ho
  | ok o =>
    obtain ⟨results, warnings⟩ := o
    obtain ⟨operations, hinsert⟩ := (Table.exists_insert? (t := db.operations) (r :=
      ({ id := operationId, siloId := silo.id, mode := .apply
         warnings := (buildPlanForSilo db.silos silo).warnings ++ warnings, createdAt := now } :
        SiloRuntimeOperation))).mpr hoperation
    have hpersist : persistOperation db now operationId silo.id .apply results
        ((buildPlanForSilo db.silos silo).warnings ++ warnings) = .ok
          { db with operations
                    results := db.results ++ results.map fun result => { operationId, result, createdAt := now } } :=
      bind_eq_ok.mpr ⟨operations, orFail_eq_ok.mpr hinsert, rfl⟩
    dsimp only
    rw [hpersist]
    refine forall_congr' fun target => forall_congr' fun htarget => ?_
    rw [← hfits target]
    exact storedResult_iff (slugs_plan db.silos silo) (fun t o ho => roleSlug_runTarget ho) houtcome hinsert hresults
      htarget

namespace Sample

def gatewayRow (slug : String) (gatewayId : Uuid) : SiloRoleRecord :=
  { siloId := 5, slug, displayName := slug, roleType := .engineer, runtimeKind := .gateway, hostKind := .generic
    gatewayId := some gatewayId, createdAt := 1, updatedAt := 1 }

def runtimeSilo : SiloRecord :=
  { id := 5, organizationId := 1, slug := "demo-silo", name := "Demo Silo", blueprintSlug := "default-four-agent"
    blueprintVersion := "0.1.0", enableSymphony := false, enableTelemetry := false
    desiredState :=
      { slug := "demo-silo", name := "Demo Silo", blueprintSlug := "default-four-agent", blueprintVersion := "0.1.0"
        enableSymphony := false, enableTelemetry := false, roles := [], sharedSecretBindings := [], warnings := [] }
    createdAt := 1, updatedAt := 1 }

def runtimeDb (foreign : Bool) : RuntimeDb where
  silos :=
    { gateways := ⟨[{ id := 9, organizationId := 1, name := "fox-gateway" },
                    { id := 8, organizationId := 2, name := "bunny-gateway" }], by decide⟩
      silos := ⟨[runtimeSilo], by decide⟩
      roles := if foreign then ⟨[gatewayRow "fox" 9, gatewayRow "bunny" 8], by decide⟩
        else ⟨[gatewayRow "fox" 9], by decide⟩ }

def appliesAll : RuntimeReplies where
  validate _ := .response { done := true }
  apply _ := { applied := true, ends := .response { done := true } }

end Sample

theorem recorded_runtimeDb :
    Recorded (runRuntime Sample.appliesAll (Sample.runtimeDb false) 10 7 1 "demo-silo" .apply) 7
        (buildPlanForSilo (Sample.runtimeDb false).silos Sample.runtimeSilo) ↔
      ∀ target ∈ (buildPlanForSilo (Sample.runtimeDb false).silos Sample.runtimeSilo).targets,
        ReplyFits Sample.appliesAll (Sample.runtimeDb false).silos 1
          (buildPlanForSilo (Sample.runtimeDb false).silos Sample.runtimeSilo) target :=
  recorded_iff Sample.appliesAll 10 (by decide) rfl (fun _ h => absurd h List.not_mem_nil)

/-- A bundle is applied, the next role's gateway is not of the organization, and nothing is stored. -/
theorem not_recorded : ¬ ∀ (replies : RuntimeReplies) (db : RuntimeDb) (now : Time) (operationId organizationId : Uuid)
    (slug : String) (silo : SiloRecord), db.silos.siloBySlug organizationId slug = some silo →
      db.operations.get? operationId = none → (∀ row ∈ db.results, row.operationId ≠ operationId) →
        Recorded (runRuntime replies db now operationId organizationId slug .apply) operationId
          (buildPlanForSilo db.silos silo) := by
  intro h
  have hrecorded := h Sample.appliesAll (Sample.runtimeDb true) 10 7 1 "demo-silo" Sample.runtimeSilo (by decide) rfl
    fun _ h => absurd h List.not_mem_nil
  have hrun : (runRuntime Sample.appliesAll (Sample.runtimeDb true) 10 7 1 "demo-silo" .apply).applied = ["fox"] ∧
      (runRuntime Sample.appliesAll (Sample.runtimeDb true) 10 7 1 "demo-silo" .apply).db.results = [] := by
    decide
  obtain ⟨-, row, hrow, -⟩ := hrecorded _ (List.mem_cons_self ..)
  rw [hrun.2] at hrow
  cases hrow

end SiloForge
