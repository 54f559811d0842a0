import SiloForge.Openclaw.Provisioning

/-!
# Updates of the files of an agent

An update without overwrite renders every file of an agent, and writes all but those the agent may have edited. What is
asked for goes by the files the gateway lists; a second update goes by what the first has left.

* `GatewayListing`, `listedFiles`, `isThere` : the files a gateway lists, and those of them that are there;
* `provision_run` : the calls of a run, before the files and on them;
* `asked_updateFiles` : what an update asks for;
* `updateFiles_keeps` : what it leaves alone, and what an update right after it asks for.
-/

namespace SiloForge

open Lib CallM

/-! ## Listings -/

abbrev GatewayListing := List (String × Json)

def listedFiles (gateway : Gateway) (agentId : String) : GatewayListing :=
  match (gateway (.filesList agentId)).answer with
  | .ok payload => fileIndex payload
  | .error _ => []

def isThere (listing : GatewayListing) (name : String) : Bool :=
  (Json.lookup listing name).any fun entry => entry.truthy && (entry.getTruthy? "missing").isNone

def Tells (listing : GatewayListing) (files : GatewayFiles) (agentId : String) : Prop :=
  ∀ name, isThere listing name = (files agentId name).isSome

def isRendered (includeBootstrap : Bool) (name : String) : Bool := ¬(name = "BOOTSTRAP.md" ∧ includeBootstrap = false)

def desiredFileNames (target : RunTarget) (agent : AgentRow) (includeBootstrap : Bool) : List String :=
  (fileNames target agent).filter (isRendered includeBootstrap)

variable {listing : GatewayListing}

theorem isSome_of_isThere {name : String} (h : isThere listing name = true) :
    (Json.lookup listing name).isSome = true := by
  unfold isThere at h
  cases hlookup : Json.lookup listing name with
  | none =>
    rw [hlookup] at h
    cases h
  | some entry => rfl

theorem shouldIncludeBootstrap_of_isThere (h : isThere listing "BOOTSTRAP.md" = true) (action : String)
    (forceBootstrap : Bool) : shouldIncludeBootstrap action forceBootstrap listing = true := by
  unfold isThere at h
  unfold shouldIncludeBootstrap
  split
  · rfl
  split
  · rename_i hnil
    rw [hnil] at h
    cases h
  cases hlookup : Json.lookup listing "BOOTSTRAP.md" with
  | none => rfl
  | some entry =>
    rw [hlookup, Option.any_some, Bool.and_eq_true] at h
    exact decide_eq_true (Option.isNone_iff_eq_none.mp h.2)

/-! ## Rendering -/

theorem isRendered_iff {includeBootstrap : Bool} {name : String} :
    isRendered includeBootstrap name = true ↔ ¬(name = "BOOTSTRAP.md" ∧ includeBootstrap = false) := decide_eq_true_iff

section Rendered
variable {templates : Templates} {agent : AgentRow} {authToken : String} {includeBootstrap : Bool} {names : List String}
  {rendered : List (String × String)}

theorem renderAgentFiles_eq (h : renderAgentFiles templates agent authToken includeBootstrap names = .ok rendered) :
    rendered.map Prod.fst = names.filter (isRendered includeBootstrap) ∧
      ∀ file ∈ rendered, renderFile templates agent authToken file.1 = .ok file.2 := by
  induction names generalizing rendered with
  | nil =>
    obtain rfl := Except.ok.inj h
    exact ⟨rfl, fun _ hfile => absurd hfile List.not_mem_nil⟩
  | cons first names ih =>
    unfold renderAgentFiles at h
    split at h
    · rename_i hskipped
      rw [List.filter_cons_of_neg (mt isRendered_iff.mp (not_not.mpr hskipped))]
      exact ih h
    · rename_i hkept
      obtain ⟨written, hwritten, h⟩ := bind_eq_ok.mp h
      obtain ⟨rest, hrest, h⟩ := bind_eq_ok.mp h
      obtain rfl := pure_eq_ok.mp h
      obtain ⟨hnames, hcontents⟩ := ih hrest
      rw [List.filter_cons_of_pos (isRendered_iff.mpr hkept), List.map_cons, hnames]
      refine ⟨rfl, fun file hfile => ?_⟩
      rcases List.mem_cons.mp hfile with rfl | hfile
      · exact hwritten
      · exact hcontents file hfile

theorem mem_rendered_iff (h : renderAgentFiles templates agent authToken includeBootstrap names = .ok rendered)
    {name content : String} : (name, content) ∈ rendered ↔
      name ∈ names.filter (isRendered includeBootstrap) ∧ renderFile templates agent authToken name = .ok content := by
  obtain ⟨hnames, hcontents⟩ := renderAgentFiles_eq h
  rw [← hnames]
  constructor
  · exact fun hmem => ⟨List.mem_map_of_mem hmem, hcontents _ hmem⟩
  · rintro ⟨hname, hcontent⟩
    obtain ⟨file, hfile, rfl⟩ := List.mem_map.mp hname
    obtain rfl := Except.ok.inj ((hcontents file hfile).symm.trans hcontent)
    exact hfile

end Rendered

/-! ## The loops -/

def ProvisionOptions.writes (options : ProvisionOptions) (target : RunTarget) (listing : GatewayListing)
    (file : String × String) : Bool := ¬(file.2 = "" ∨ options.preserves target listing file.1)

theorem ProvisionOptions.writes_iff {options : ProvisionOptions} {target : RunTarget} {file : String × String} :
    options.writes target listing file = true ↔
      ¬(file.2 = "" ∨ options.preserves target listing file.1 = true) := decide_eq_true_iff

section Loops
variable {templates : Templates} {target : RunTarget} {agentId : String} {gateway : Gateway}

/-- A call whose errors may be let pass: it is asked for, and the program goes on if it is answered or its error passes. -/
theorem plans_rescueGateway {α : Type} (k : GatewayCall) (a b : α) (passes : String → Prop) [DecidablePred passes] :
    Plans gateway (rescueGateway (call k >>= fun _ => pure a) fun message =>
        if passes message then pure b else raise (.gateway message)) [k] fun c =>
      (∃ answer, (gateway k).answer = .ok answer) ∧ c = a ∨ c = b := by
  refine (plans_call_rescue k a fun error => ?_).mono fun c hc => hc.imp_right ?_
  · cases error with
    | raised message => rfl
    | cut => rfl
    | gateway message =>
      dsimp only
      split <;> rfl
  · rintro ⟨error, -, hc⟩
    cases error with
    | raised message => cases hc
    | cut => cases hc
    | gateway message =>
      dsimp only at hc
      split at hc
      · exact (Except.ok.inj hc).symm
      · cases hc

theorem plans_writeFiles (options : ProvisionOptions) (listing : GatewayListing) (rendered : List (String × String)) :
    let writes := (rendered.filter (options.writes target listing)).map fun file =>
      GatewayCall.filesSet agentId file.1 file.2
    Plans gateway (writeFiles templates target agentId options listing rendered) writes fun refused =>
      refused = [] → ∀ k ∈ writes, ∃ answer, (gateway k).answer = .ok answer := by
  dsimp only
  induction rendered with
  | nil => exact plans_pure fun _ k hk => absurd hk List.not_mem_nil
  | cons file rest ih =>
    obtain ⟨name, content⟩ := file
    unfold writeFiles
    split
    · rename_i hskipped
      rw [List.filter_cons_of_neg (mt ProvisionOptions.writes_iff.mp (not_not.mpr hskipped))]
      exact ih
    rename_i hkept
    rw [List.filter_cons_of_pos (ProvisionOptions.writes_iff.mpr hkept), List.map_cons]
    refine Plans.bind (plans_rescueGateway _ [] [name] fun message =>
      hasMarker "unsupported file" (templates.keys.lower message) = true) fun refused hrefused => ?_
    rw [← List.append_nil (List.map _ _)]
    refine ih.bind fun others hothers => plans_pure fun hnone k hk => ?_
    obtain ⟨hfirst, hrest⟩ := List.append_eq_nil_iff.mp hnone
    rcases List.mem_cons.mp hk with rfl | hk
    · rcases hrefused with ⟨hanswered, -⟩ | rfl
      · exact hanswered
      · cases hfirst
    · rw [List.append_nil] at hk
      exact hothers hrest k hk

theorem plans_deleteFiles (names : List String) :
    Plans gateway (deleteFiles templates agentId names) (names.map (GatewayCall.filesDelete agentId)) fun _ => True := by
  induction names with
  | nil => exact plans_pure trivial
  | cons name names ih =>
    rw [List.map_cons]
    exact Plans.bind (plans_rescueGateway _ () () fun message =>
      ["unsupported", "unknown method", "not found", "no such file"].any
        (hasMarker · (templates.keys.lower message)) = true) fun _ _ => ih

def staleFiles (target : RunTarget) (agent : AgentRow) (listing : GatewayListing) (desired : List String) : List String :=
  (staleFileCandidates target agent).filter fun name => (Json.lookup listing name).isSome ∧ name ∉ desired

variable (templates target agentId gateway) in
/-- What a run asks for on the files of an agent: the writes, and after them the deletions; a lead has had all of its
writes answered. -/
theorem plans_setAgentFiles (agent : AgentRow) (options : ProvisionOptions) (listing : GatewayListing)
    (rendered : List (String × String)) :
    let writes := (rendered.filter (options.writes target listing)).map fun file =>
      GatewayCall.filesSet agentId file.1 file.2
    Plans gateway (setAgentFiles templates target agent agentId rendered listing options)
      (writes ++ (staleFiles target agent listing (rendered.map Prod.fst)).map (GatewayCall.filesDelete agentId)) fun _ =>
        agent.isBoardLead = true → ∀ k ∈ writes, ∃ answer, (gateway k).answer = .ok answer := by
  dsimp only
  unfold setAgentFiles
  refine (plans_writeFiles options listing rendered).bind fun refused hrefused => ?_
  split
  · exact plans_raise _ _ _
  · rename_i hgoes
    refine (plans_deleteFiles _).mono fun _ _ hlead => hrefused ?_
    by_contra hsome
    exact hgoes ⟨hlead, hsome⟩

end Loops

/-! ## A run -/

section Run
variable (templates : Templates) (target : RunTarget) (agent : AgentRow) (agentId authToken : String)

theorem byAnswers_rescueGateway {α : Type} {m : GatewayM α} {handle : String → GatewayM α} (h : ByAnswers m)
    (hhandle : ∀ message, ByAnswers (handle message)) : ByAnswers (rescueGateway m handle) := by
  refine h.rescue fun error => ?_
  cases error with
  | gateway message => exact hhandle message
  | raised message => exact byAnswers_raise _
  | cut => exact byAnswers_raise _

theorem byAnswers_call_pure {α : Type} (k : GatewayCall) (a : α) :
    ByAnswers (call k >>= fun _ => pure a : GatewayM α) := (byAnswers_call k).bind fun _ => byAnswers_pure a

theorem byAnswers_updateAgent (texts : KeyTexts) (registration : AgentRegistration) (justCreated : Bool)
    (retries attempt : Nat) : ByAnswers (updateAgent texts registration justCreated retries attempt) := by
  induction retries generalizing attempt with
  | zero => exact byAnswers_pure ()
  | succ retries ih =>
    unfold updateAgent
    exact byAnswers_rescueGateway (byAnswers_call_pure _ _) fun message => .ite (ih _) (byAnswers_raise _)

theorem byAnswers_upsertAgent (texts : KeyTexts) (registration : AgentRegistration) :
    ByAnswers (upsertAgent texts registration) := by
  unfold upsertAgent patchAgentHeartbeats
  refine ByAnswers.bind (byAnswers_rescueGateway (byAnswers_call_pure _ _) fun message => ?_) fun justCreated => ?_
  · exact .ite (byAnswers_pure _) (byAnswers_raise _)
  · refine (byAnswers_updateAgent texts registration justCreated 5 0).bind fun _ => ?_
    refine (byAnswers_call _).bind fun cfg => (byAnswers_ofExcept _).bind fun ⟨hash, list, doc⟩ => ?_
    exact .ite (byAnswers_pure _) (byAnswers_call_pure _ _)

theorem byAnswers_writeFiles (options : ProvisionOptions) (listing : GatewayListing) (rendered : List (String × String)) :
    ByAnswers (writeFiles templates target agentId options listing rendered) := by
  induction rendered with
  | nil => exact byAnswers_pure _
  | cons file rest ih =>
    unfold writeFiles
    refine .ite ih (ByAnswers.bind (byAnswers_rescueGateway (byAnswers_call_pure _ _) fun message => ?_) fun refused =>
      ih.bind fun others => byAnswers_pure _)
    exact .ite (byAnswers_pure _) (byAnswers_raise _)

theorem byAnswers_deleteFiles (names : List String) : ByAnswers (deleteFiles templates agentId names) := by
  induction names with
  | nil => exact byAnswers_pure _
  | cons name names ih =>
    unfold deleteFiles
    refine (byAnswers_rescueGateway (byAnswers_call_pure _ _) fun message => ?_).bind fun _ => ih
    exact .ite (byAnswers_pure _) (byAnswers_raise _)

theorem byAnswers_provision (options : ProvisionOptions) :
    ByAnswers (provision templates target agent agentId authToken options) := by
  unfold provision listAgentFiles setAgentFiles
  refine (byAnswers_upsertAgent _ _).bind fun _ => ((byAnswers_call _).bind fun payload => byAnswers_pure _).bind
    fun listing => (byAnswers_ofExcept _).bind fun rendered => ?_
  exact (byAnswers_writeFiles _ _ _ _ _ _).bind fun refused => .ite (byAnswers_raise _) (byAnswers_deleteFiles _ _ _)

/-- The calls of a run on the files of an agent are those of `setAgentFiles`, by what is listed and rendered; before them,
and in a run that does not come to them, no file is touched. -/
theorem provision_run (options : ProvisionOptions) (gateway : Gateway) :
    let listing := listedFiles gateway agentId
    let run := provision templates target agent agentId authToken options gateway
    ∃ before, (∀ k ∈ before, k.SparesFiles) ∧
      ((∃ error, run = (.error error, before)) ∨
        ∃ rendered, renderAgentFiles templates agent authToken
            (shouldIncludeBootstrap options.action options.forceBootstrap listing) (fileNames target agent) = .ok rendered ∧
          run.1 = (setAgentFiles templates target agent agentId rendered listing options gateway).1 ∧
          run.2 = before ++ (setAgentFiles templates target agent agentId rendered listing options gateway).2) := by
  dsimp only
  unfold provision
  have hupsert := does_upsertAgent templates.keys
    { agentId, name := agent.name, workspacePath := templates.keys.workspacePath agent target.gateway.workspaceRoot,
      heartbeat := heartbeatConfigOf agent } gateway
  rcases hrun : upsertAgent templates.keys
    { agentId, name := agent.name, workspacePath := templates.keys.workspacePath agent target.gateway.workspaceRoot,
      heartbeat := heartbeatConfigOf agent } gateway with ⟨error | _, made⟩
  · rw [hrun] at hupsert
    rw [bind_of_error hrun]
    exact ⟨made, hupsert, .inl ⟨error, rfl⟩⟩
  rw [hrun] at hupsert
  rw [bind_of_ok hrun]
  have hlist : Does GatewayCall.SparesFiles (call (.filesList agentId) : GatewayM Json) := does_call trivial
  have hcalled := hlist gateway
  have hcall : (call (.filesList agentId) : GatewayM Json) gateway =
      ((gateway (.filesList agentId)).answer, doneOf gateway [.filesList agentId]) :=
    Prod.ext rfl (doneOf_single gateway _).symm
  rw [hcall] at hcalled
  unfold listAgentFiles listedFiles
  cases hanswer : (gateway (.filesList agentId)).answer with
  | error error =>
    rw [hanswer] at hcall
    rw [bind_of_error (bind_of_error hcall)]
    refine ⟨made ++ _, fun k hk => ?_, .inl ⟨error, rfl⟩⟩
    exact (List.mem_append.mp hk).elim (hupsert k) (hcalled k)
  | ok payload =>
    rw [hanswer] at hcall
    have hlisted : (call (.filesList agentId) >>= fun payload => pure (fileIndex payload) :
        GatewayM GatewayListing) gateway = (.ok (fileIndex payload), doneOf gateway [.filesList agentId]) := by
      rw [bind_of_ok hcall]
      exact Prod.ext rfl (List.append_nil _)
    rw [bind_of_ok hlisted]
    refine ⟨made ++ doneOf gateway [.filesList agentId], fun k hk => ?_, ?_⟩
    · exact (List.mem_append.mp hk).elim (hupsert k) (hcalled k)
    dsimp only
    rcases hrendered : renderAgentFiles templates agent authToken
      (shouldIncludeBootstrap options.action options.forceBootstrap (fileIndex payload)) (fileNames target agent) with
      error | rendered
    · exact .inl ⟨error, Prod.ext rfl (congrArg (made ++ ·) (List.append_nil _))⟩
    · exact .inr ⟨rendered, rfl, rfl, (List.append_assoc _ _ _).symm⟩

end Run

/-! ## The files after calls -/

section Files
variable {agentId name : String} {calls : List GatewayCall}

def GatewayCall.sets (agentId name : String) : GatewayCall → Bool
  | .filesSet a n _ => a = agentId ∧ n = name
  | _ => false

def GatewayCall.deletes (agentId name : String) : GatewayCall → Bool
  | .filesDelete a n => a = agentId ∧ n = name
  | _ => false

theorem after_of_spares {k : GatewayCall} (hset : k.sets agentId name = false) (hdelete : k.deletes agentId name = false)
    (files : GatewayFiles) : files.after k agentId name = files agentId name := by
  cases k with
  | filesSet a n c => exact if_neg fun he => of_decide_eq_false hset ⟨he.1.symm, he.2.symm⟩
  | filesDelete a n => exact if_neg fun he => of_decide_eq_false hdelete ⟨he.1.symm, he.2.symm⟩
  | _ => rfl

theorem files_after_others (hset : ∀ k ∈ calls, k.sets agentId name = false)
    (hdelete : ∀ k ∈ calls, k.deletes agentId name = false) (files : GatewayFiles) :
    calls.foldl GatewayFiles.after files agentId name = files agentId name := by
  induction calls generalizing files with
  | nil => rfl
  | cons k calls ih =>
    rw [List.foldl_cons, ih (fun k' hk' => hset k' (List.mem_cons_of_mem k hk'))
      fun k' hk' => hdelete k' (List.mem_cons_of_mem k hk')]
    exact after_of_spares (hset k List.mem_cons_self) (hdelete k List.mem_cons_self) files

theorem isSome_after_sets (hdelete : ∀ k ∈ calls, k.deletes agentId name = false) (files : GatewayFiles) :
    (calls.foldl GatewayFiles.after files agentId name).isSome =
      if calls.any (GatewayCall.sets agentId name) then true else (files agentId name).isSome := by
  refine CallM.observe_foldl (fun files : GatewayFiles => (files agentId name).isSome) (fun k hk hwrites files => ?_)
    (fun k hk hwrites files => congrArg Option.isSome (after_of_spares hwrites (hdelete k hk) files)) files
  cases k with
  | filesSet a n c =>
    obtain ⟨rfl, rfl⟩ := of_decide_eq_true hwrites
    exact congrArg Option.isSome (if_pos ⟨rfl, rfl⟩)
  | _ => cases hwrites

theorem isSome_after_deletes (hset : ∀ k ∈ calls, k.sets agentId name = false) (files : GatewayFiles) :
    (calls.foldl GatewayFiles.after files agentId name).isSome =
      if calls.any (GatewayCall.deletes agentId name) then false else (files agentId name).isSome := by
  refine CallM.observe_foldl (fun files : GatewayFiles => (files agentId name).isSome) (fun k hk hdeletes files => ?_)
    (fun k hk hdeletes files => congrArg Option.isSome (after_of_spares (hset k hk) hdeletes files)) files
  cases k with
  | filesDelete a n =>
    obtain ⟨rfl, rfl⟩ := of_decide_eq_true hdeletes
    exact congrArg Option.isSome (if_pos ⟨rfl, rfl⟩)
  | _ => cases hdeletes

end Files

/-! ## What an update asks for -/

section Update
variable (templates : Templates) (target : RunTarget) (agent : AgentRow) (agentId authToken : String) (forceBootstrap : Bool)

def updateFiles : GatewayM Unit :=
  provision templates target agent agentId authToken { action := "update", forceBootstrap }

def desiredByUpdate (listing : GatewayListing) : List String :=
  desiredFileNames target agent (shouldIncludeBootstrap "update" forceBootstrap listing)

/-- A file is to be written: it is rendered, not empty, and not one the agent may have edited. -/
structure IsToWrite (listing : GatewayListing) (name content : String) : Prop where
  desired : name ∈ desiredByUpdate target agent forceBootstrap listing
  rendered : renderFile templates agent authToken name = .ok content
  nonempty : content ≠ ""
  notKept : ¬(name ∈ preserveFiles target ∧ isThere listing name = true)

structure IsToDelete (listing : GatewayListing) (name : String) : Prop where
  stale : name ∈ staleFileCandidates target agent
  listed : (Json.lookup listing name).isSome = true
  notDesired : name ∉ desiredByUpdate target agent forceBootstrap listing

variable {templates target agent agentId authToken forceBootstrap}

variable {listing : GatewayListing} {name : String} {rendered : List (String × String)}

theorem preserves_update_iff :
    ({ action := "update", forceBootstrap } : ProvisionOptions).preserves target listing name = true ↔
      name ∈ preserveFiles target ∧ isThere listing name = true := by
  unfold ProvisionOptions.preserves isThere
  rw [decide_eq_true_iff]
  exact ⟨fun ⟨_, _, hkept⟩ => hkept, fun hkept => ⟨rfl, rfl, hkept⟩⟩

theorem isToWrite_iff
    (h : renderAgentFiles templates agent authToken (shouldIncludeBootstrap "update" forceBootstrap listing)
      (fileNames target agent) = .ok rendered) {content : String} :
    (name, content) ∈ rendered.filter
        (({ action := "update", forceBootstrap } : ProvisionOptions).writes target listing) ↔
      IsToWrite templates target agent authToken forceBootstrap listing name content := by
  rw [List.mem_filter, mem_rendered_iff h, ProvisionOptions.writes_iff, not_or, preserves_update_iff]
  exact ⟨fun ⟨⟨hdesired, hrendered⟩, hne, hkept⟩ => ⟨hdesired, hrendered, hne, hkept⟩,
    fun ⟨hdesired, hrendered, hne, hkept⟩ => ⟨⟨hdesired, hrendered⟩, hne, hkept⟩⟩

theorem isToDelete_iff
    (h : renderAgentFiles templates agent authToken (shouldIncludeBootstrap "update" forceBootstrap listing)
      (fileNames target agent) = .ok rendered) :
    name ∈ staleFiles target agent listing (rendered.map Prod.fst) ↔
      IsToDelete target agent forceBootstrap listing name := by
  unfold staleFiles
  rw [List.mem_filter, decide_eq_true_iff, (renderAgentFiles_eq h).1]
  exact ⟨fun ⟨hstale, hlisted, hnot⟩ => ⟨hstale, hlisted, hnot⟩, fun ⟨hstale, hlisted, hnot⟩ => ⟨hstale, hlisted, hnot⟩⟩

variable (templates target agent agentId authToken forceBootstrap) in
theorem asked_updateFiles (gateway : Gateway) :
    let update := updateFiles templates target agent agentId authToken forceBootstrap
    let listing := listedFiles gateway agentId
    (∀ a name content, .filesSet a name content ∈ update.asked gateway →
      a = agentId ∧ IsToWrite templates target agent authToken forceBootstrap listing name content) ∧
    (∀ a name, .filesDelete a name ∈ update.asked gateway →
      a = agentId ∧ IsToDelete target agent forceBootstrap listing name) ∧
    ((update gateway).1 = .ok () →
      (∀ name content, IsToWrite templates target agent authToken forceBootstrap listing name content →
        .filesSet agentId name content ∈ update.asked gateway ∧
          (agent.isBoardLead = true → ∃ answer, (gateway (.filesSet agentId name content)).answer = .ok answer)) ∧
      ∀ name, IsToDelete target agent forceBootstrap listing name →
        .filesDelete agentId name ∈ update.asked gateway) := by
  dsimp only
  obtain ⟨before, hbefore, hrun⟩ := provision_run templates target agent agentId authToken
    { action := "update", forceBootstrap } (willing gateway)
  dsimp only at hrun
  have hresult := (byAnswers_provision templates target agent agentId authToken
    { action := "update", forceBootstrap }).result gateway
  unfold updateFiles asked
  rw [← hresult]
  rcases hrun with ⟨error, hrun⟩ | ⟨rendered, hrendered, hend, hcalls⟩
  · rw [hrun]
    refine ⟨fun a name content hk => ?_, fun a name hk => ?_, nofun⟩
    · exact absurd (hbefore _ hk) id
    · exact absurd (hbefore _ hk) id
  rw [hend, hcalls]
  have hplan := plans_setAgentFiles templates target agentId (willing gateway) agent
    { action := "update", forceBootstrap } (listedFiles (willing gateway) agentId) rendered
  refine ⟨fun a name content hk => ?_, fun a name hk => ?_, fun hok => ?_⟩
  · rcases List.mem_append.mp hk with hk | hk
    · exact absurd (hbefore _ hk) id
    rcases List.mem_append.mp (hplan.mem hk) with hk | hk
    · obtain ⟨⟨n, c⟩, hfile, he⟩ := List.mem_map.mp hk
      obtain ⟨rfl, rfl, rfl⟩ := GatewayCall.filesSet.inj he
      exact ⟨rfl, (isToWrite_iff hrendered).mp hfile⟩
    · obtain ⟨n, -, he⟩ := List.mem_map.mp hk
      cases he
  · rcases List.mem_append.mp hk with hk | hk
    · exact absurd (hbefore _ hk) id
    rcases List.mem_append.mp (hplan.mem hk) with hk | hk
    · obtain ⟨file, -, he⟩ := List.mem_map.mp hk
      cases he
    · obtain ⟨n, hname, he⟩ := List.mem_map.mp hk
      obtain ⟨rfl, rfl⟩ := GatewayCall.filesDelete.inj he
      exact ⟨rfl, (isToDelete_iff hrendered).mp hname⟩
  · obtain ⟨hall, hanswered⟩ := hplan.2 () hok
    rw [hall, doneOf_willing]
    refine ⟨fun name content hwrite => ?_, fun name hdelete => ?_⟩
    · have hfile := List.mem_map_of_mem (f := fun file => GatewayCall.filesSet agentId file.1 file.2)
        ((isToWrite_iff hrendered).mpr hwrite)
      exact ⟨List.mem_append_right _ (List.mem_append_left _ hfile), fun hlead => hanswered hlead _ hfile⟩
    · exact List.mem_append_right _ (List.mem_append_right _
        (List.mem_map_of_mem ((isToDelete_iff hrendered).mpr hdelete)))

theorem byAnswers_updateFiles : ByAnswers (updateFiles templates target agent agentId authToken forceBootstrap) :=
  byAnswers_provision templates target agent agentId authToken _

theorem mem_desiredByUpdate :
    name ∈ desiredByUpdate target agent forceBootstrap listing ↔ name ∈ fileNames target agent ∧
      ¬(name = "BOOTSTRAP.md" ∧ shouldIncludeBootstrap "update" forceBootstrap listing = false) := by
  unfold desiredByUpdate desiredFileNames
  rw [List.mem_filter, isRendered_iff]

theorem mem_desiredByUpdate_of_isThere (hname : name ∈ fileNames target agent) (hthere : isThere listing name = true) :
    name ∈ desiredByUpdate target agent forceBootstrap listing := by
  refine mem_desiredByUpdate.mpr ⟨hname, fun ⟨hbootstrap, hleft⟩ => ?_⟩
  subst hbootstrap
  rw [shouldIncludeBootstrap_of_isThere hthere] at hleft
  cases hleft

theorem desired_of_mem_preserveFiles (h : name ∈ preserveFiles target) (listing : GatewayListing) :
    name ∈ desiredByUpdate target agent forceBootstrap listing := by
  have hmem : ∀ name ∈ ["MEMORY.md", "USER.md"], name ∈ defaultGatewayFiles ∧ name ∈ leadGatewayFiles ∧
      name ≠ "BOOTSTRAP.md" := by decide
  have hsub : name ∈ ["MEMORY.md", "USER.md"] := by
    unfold preserveFiles at h
    split at h
    · exact List.mem_cons.mpr (.inl (List.mem_singleton.mp h))
    · exact h
  obtain ⟨hdefault, hlead, hne⟩ := hmem name hsub
  refine mem_desiredByUpdate.mpr ⟨?_, fun hbootstrap => hne hbootstrap.1⟩
  unfold fileNames
  split
  · exact hlead
  · exact hdefault

theorem isBoardLead_of_bootstrap (h : "BOOTSTRAP.md" ∈ fileNames target agent) : agent.isBoardLead = true := by
  unfold fileNames at h
  split at h
  · rename_i hlead
    exact (Bool.and_eq_true _ _ ▸ hlead).2
  · exact absurd h (by decide)

theorem managesLead_of_stale (h : name ∈ staleFileCandidates target agent) : target.managesLead agent = true := by
  unfold staleFileCandidates at h
  split at h
  · assumption
  · exact absurd h List.not_mem_nil

section Rerun
variable {gateway : Gateway} {name : String}

theorem not_deletes_of_desired (h : name ∈ desiredByUpdate target agent forceBootstrap (listedFiles gateway agentId)) :
    ∀ k ∈ (updateFiles templates target agent agentId authToken forceBootstrap gateway).2,
      k.deletes agentId name = false := by
  intro k hk
  obtain ⟨-, hdeletes, -⟩ := asked_updateFiles templates target agent agentId authToken forceBootstrap gateway
  cases k with
  | filesDelete a n =>
    refine decide_eq_false fun he => ?_
    obtain ⟨rfl, rfl⟩ := he
    exact (hdeletes _ _ (byAnswers_updateFiles.mem_iff.mp hk).1).2.notDesired h
  | _ => rfl

theorem not_sets_of_not_isToWrite (h : ∀ content,
      ¬ IsToWrite templates target agent authToken forceBootstrap (listedFiles gateway agentId) name content) :
    ∀ k ∈ (updateFiles templates target agent agentId authToken forceBootstrap gateway).2,
      k.sets agentId name = false := by
  intro k hk
  obtain ⟨hsets, -, -⟩ := asked_updateFiles templates target agent agentId authToken forceBootstrap gateway
  cases k with
  | filesSet a n c =>
    refine decide_eq_false fun he => ?_
    obtain ⟨rfl, rfl⟩ := he
    exact h c (hsets _ _ _ (byAnswers_updateFiles.mem_iff.mp hk).1).2
  | _ => rfl

theorem updateFiles_preserves (hname : name ∈ preserveFiles target)
    (hthere : isThere (listedFiles gateway agentId) name = true) (files : GatewayFiles) :
    (updateFiles templates target agent agentId authToken forceBootstrap gateway).2.foldl GatewayFiles.after files agentId
      name = files agentId name :=
  files_after_others (not_sets_of_not_isToWrite fun _ hwrite => hwrite.notKept ⟨hname, hthere⟩)
    (not_deletes_of_desired (desired_of_mem_preserveFiles hname _)) files

theorem isSome_after_updateFiles {content : String} (files : GatewayFiles)
    (hdesired : name ∈ desiredByUpdate target agent forceBootstrap (listedFiles gateway agentId))
    (hset : .filesSet agentId name content ∈
      (updateFiles templates target agent agentId authToken forceBootstrap gateway).2) :
    ((updateFiles templates target agent agentId authToken forceBootstrap gateway).2.foldl GatewayFiles.after files agentId
      name).isSome = true := by
  rw [isSome_after_sets (not_deletes_of_desired hdesired)]
  exact if_pos (List.any_eq_true.mpr ⟨_, hset, decide_eq_true ⟨rfl, rfl⟩⟩)

/-- An update writes no file but those of the templates: another one that is there was there, and is not deleted. -/
theorem isSome_of_isSome_after_updateFiles (hname : name ∉ fileNames target agent) {files : GatewayFiles}
    (hsome : ((updateFiles templates target agent agentId authToken forceBootstrap gateway).2.foldl GatewayFiles.after
      files agentId name).isSome = true) :
    (files agentId name).isSome = true ∧
      .filesDelete agentId name ∉ (updateFiles templates target agent agentId authToken forceBootstrap gateway).2 := by
  have hspared : ∀ k ∈ (updateFiles templates target agent agentId authToken forceBootstrap gateway).2,
      k.sets agentId name = false :=
    not_sets_of_not_isToWrite fun content h => hname (mem_desiredByUpdate.mp h.desired).1
  rw [isSome_after_deletes hspared files] at hsome
  split at hsome
  · cases hsome
  · rename_i hnone
    exact ⟨hsome, fun hdone => hnone (List.any_eq_true.mpr ⟨_, hdone, decide_eq_true ⟨rfl, rfl⟩⟩)⟩

end Rerun

/-- **An update keeps what agents wrote**, whatever files there are and the gateway answers: a file
that the agent may edit and that is there stays as it is, only stale files of a lead are deleted,
and every other rendered file that is not empty is written, in a run without an error. An update
right after it writes and deletes no more than what it left out. -/
theorem updateFiles_keeps (templates : Templates) (target : RunTarget) (agent : AgentRow) (agentId authToken : String)
    (forceBootstrap : Bool) (gateway : Gateway) :
    let update := updateFiles templates target agent agentId authToken forceBootstrap
    let listing := listedFiles gateway agentId
    (∀ files : GatewayFiles, ∀ name ∈ preserveFiles target, isThere listing name = true →
      (update gateway).2.foldl GatewayFiles.after files agentId name = files agentId name) ∧
    (∀ a name, .filesDelete a name ∈ update.asked gateway → a = agentId ∧ target.managesLead agent = true ∧
      IsToDelete target agent forceBootstrap listing name) ∧
    (∀ a name content, .filesSet a name content ∈ update.asked gateway →
      a = agentId ∧ IsToWrite templates target agent authToken forceBootstrap listing name content) ∧
    ((update gateway).1 = .ok () →
      (∀ name content, IsToWrite templates target agent authToken forceBootstrap listing name content →
        .filesSet agentId name content ∈ update.asked gateway) ∧
      ∀ (files : GatewayFiles) (again : Gateway), Tells listing files agentId →
        Tells (listedFiles again agentId) ((update gateway).2.foldl GatewayFiles.after files) agentId →
        (∀ k answer, (gateway k).answer = .ok answer → (gateway k).done = true) →
        ((update again).1 = .ok () → ∀ name content, name ∉ preserveFiles target →
          .filesSet agentId name content ∈ update.asked gateway → .filesSet agentId name content ∈ update.asked again) ∧
        (∀ name content, .filesSet agentId name content ∈ update.asked again →
          .filesSet agentId name content ∈ update.asked gateway ∧
              (name ∈ preserveFiles target → .filesSet agentId name content ∉ (update gateway).2) ∨
            name = "BOOTSTRAP.md" ∧ name ∉ desiredByUpdate target agent forceBootstrap listing) ∧
        ∀ name, .filesDelete agentId name ∈ update.asked again →
          (update gateway).2.foldl GatewayFiles.after files agentId name = none ∨
            .filesDelete agentId name ∈ update.asked gateway ∧ .filesDelete agentId name ∉ (update gateway).2) := by
  dsimp only
  obtain ⟨hsets, hdeletes, hall⟩ := asked_updateFiles templates target agent agentId authToken forceBootstrap gateway
  refine ⟨fun files name hname hthere => updateFiles_preserves hname hthere files,
    fun a name hk => ⟨(hdeletes a name hk).1, managesLead_of_stale (hdeletes a name hk).2.stale, (hdeletes a name hk).2⟩,
    hsets, fun hok => ⟨fun name content hwrite => ((hall hok).1 name content hwrite).1, ?_⟩⟩
  intro files again htells htellsAgain hserves
  obtain ⟨hsets', hdeletes', hall'⟩ := asked_updateFiles templates target agent agentId authToken forceBootstrap again
  refine ⟨fun hok' name content hnot hset => ?_, fun name content hset => ?_, fun name hdelete => ?_⟩
  · obtain ⟨-, hwrite⟩ := hsets _ _ _ hset
    refine ((hall' hok').1 name content ⟨?_, hwrite.rendered, hwrite.nonempty, fun hkept => hnot hkept.1⟩).1
    obtain ⟨hname, -⟩ := mem_desiredByUpdate.mp hwrite.desired
    by_cases hbootstrap : name = "BOOTSTRAP.md"
    · -- a lead has had the bootstrap written, so that it is there, and rendered again
      obtain ⟨-, hanswered⟩ := (hall hok).1 _ content hwrite
      obtain ⟨answer, hanswer⟩ := hanswered (isBoardLead_of_bootstrap (hbootstrap ▸ hname))
      have hdone := byAnswers_updateFiles.mem_iff.mpr ⟨hset, hserves _ answer hanswer⟩
      have hthere := (htellsAgain name).trans (isSome_after_updateFiles files hwrite.desired hdone)
      exact mem_desiredByUpdate_of_isThere hname hthere
    · exact mem_desiredByUpdate.mpr ⟨hname, fun h => hbootstrap h.1⟩
  · obtain ⟨-, hwrite⟩ := hsets' _ _ _ hset
    by_cases hdesired : name ∈ desiredByUpdate target agent forceBootstrap (listedFiles gateway agentId)
    · refine .inl ⟨((hall hok).1 name content ⟨hdesired, hwrite.rendered, hwrite.nonempty, fun hkept => ?_⟩).1, ?_⟩
      · refine hwrite.notKept ⟨hkept.1, ?_⟩
        rw [htellsAgain name, updateFiles_preserves hkept.1 hkept.2, ← htells name]
        exact hkept.2
      · intro hname hdone
        exact hwrite.notKept ⟨hname, (htellsAgain name).trans (isSome_after_updateFiles files hdesired hdone)⟩
    · refine .inr ⟨?_, hdesired⟩
      by_contra hbootstrap
      exact hdesired (mem_desiredByUpdate.mpr ⟨(mem_desiredByUpdate.mp hwrite.desired).1, fun h => hbootstrap h.1⟩)
  · obtain ⟨-, htoDelete⟩ := hdeletes' _ _ hdelete
    rw [or_iff_not_imp_left]
    intro hsome
    have hthere : isThere (listedFiles again agentId) name = true :=
      (htellsAgain name).trans (Option.isSome_iff_ne_none.mpr hsome)
    have hname : name ∉ fileNames target agent :=
      fun hname => htoDelete.notDesired (mem_desiredByUpdate_of_isThere hname hthere)
    obtain ⟨hbefore, hspared⟩ := isSome_of_isSome_after_updateFiles hname (Option.isSome_iff_ne_none.mpr hsome)
    refine ⟨(hall hok).2 name ⟨htoDelete.stale, ?_, fun h => hname (mem_desiredByUpdate.mp h).1⟩, hspared⟩
    exact isSome_of_isThere ((htells name).trans hbefore)

end Update

/-! ## Two updates of a worker -/

namespace Sample

def plainTemplates : Templates where
  keys := { lower := id, uuidHex := "0" }
  baseUrl := "http://localhost"
  baseUrl_oneLine := by decide
  toolsRest _ _ := ""
  render name _ _ := .ok (if name = "MEMORY.md" then "# Memory" else "")

def workerTarget : RunTarget where
  gateway := { id := default, url := "ws://gateway", workspaceRoot := "/root" }
  boardId := some default

def fileWorker : AgentRow where
  id := default
  boardId := some default
  gatewayId := default

def listingGateway (names : List String) : Gateway := fun k =>
  { done := true
    answer := .ok (match k with
      | .filesList _ => .obj [("files", .arr (names.map fun name => .obj [("name", .str name)]))]
      | _ => .obj []) }

def workerUpdate : GatewayM Unit := updateFiles plainTemplates workerTarget fileWorker "worker" "token" false

def workerFiles : GatewayFiles := fun a n => if a = "worker" ∧ n = "TOOLS.md" then some "" else none

end Sample

open Sample

theorem isThere_names (names : List String) (name : String) :
    isThere (names.map fun n => (n, .obj [("name", .str n)])) name = decide (name ∈ names) := by
  induction names with
  | nil => rfl
  | cons first names ih =>
    rw [List.map_cons]
    unfold isThere at ih ⊢
    rw [Json.lookup_cons]
    by_cases h : first = name
    · rw [if_pos h, decide_eq_true (List.mem_cons.mpr (.inl h.symm))]
      rfl
    · rw [if_neg h, ih]
      exact decide_eq_decide.mpr (List.mem_cons.trans (or_iff_right fun he => h he.symm)).symm

theorem tells_example : Tells (listedFiles (listingGateway ["TOOLS.md"]) "worker") workerFiles "worker" := by
  intro name
  refine (isThere_names ["TOOLS.md"] name).trans ?_
  unfold workerFiles
  by_cases h : name = "TOOLS.md"
  · rw [decide_eq_true (List.mem_singleton.mpr h), if_pos ⟨rfl, h⟩, Option.isSome_some]
  · rw [decide_eq_false (mt List.mem_singleton.mp h), if_neg fun he => h he.2, Option.isSome_none]

theorem tells_example_after : Tells (listedFiles (listingGateway ["MEMORY.md", "TOOLS.md"]) "worker")
    ((workerUpdate (listingGateway ["TOOLS.md"])).2.foldl GatewayFiles.after workerFiles) "worker" := by
  intro name
  refine (isThere_names ["MEMORY.md", "TOOLS.md"] name).trans ?_
  have hafter : (workerUpdate (listingGateway ["TOOLS.md"])).2.foldl GatewayFiles.after workerFiles =
      (workerFiles.set "worker" "MEMORY.md" (some "# Memory")).set "worker" "TOOLS.md"
        (some (plainTemplates.toolsMd fileWorker "token")) := rfl
  rw [hafter]
  unfold GatewayFiles.set workerFiles
  by_cases htools : name = "TOOLS.md"
  · rw [if_pos ⟨rfl, htools⟩, decide_eq_true (by rw [htools]; decide), Option.isSome_some]
  rw [if_neg fun he => htools he.2]
  by_cases hmemory : name = "MEMORY.md"
  · rw [if_pos ⟨rfl, hmemory⟩, decide_eq_true (by rw [hmemory]; decide), Option.isSome_some]
  rw [if_neg fun he => hmemory he.2, if_neg fun he => htools he.2, Option.isSome_none]
  refine decide_eq_false fun hmem => ?_
  rcases List.mem_cons.mp hmem with h | h
  · exact hmemory h
  · exact htools (List.mem_singleton.mp h)

/-- An update of a worker without a MEMORY.md, and another: TOOLS.md is written again, MEMORY.md is kept. -/
theorem updateFiles_keeps_example :
    let again := listingGateway ["MEMORY.md", "TOOLS.md"]
    let update := workerUpdate (listingGateway ["TOOLS.md"])
    (∀ files : GatewayFiles, (workerUpdate again).2.foldl GatewayFiles.after files "worker" "MEMORY.md" =
      files "worker" "MEMORY.md") ∧
    .filesSet "worker" "TOOLS.md" (plainTemplates.toolsMd fileWorker "token") ∈ workerUpdate.asked again ∧
    ∀ name, .filesDelete "worker" name ∈ workerUpdate.asked again →
      update.2.foldl GatewayFiles.after workerFiles "worker" name = none ∨
        .filesDelete "worker" name ∈ workerUpdate.asked (listingGateway ["TOOLS.md"]) ∧
          .filesDelete "worker" name ∉ update.2 := by
  have hkeeps := updateFiles_keeps plainTemplates workerTarget fileWorker "worker" "token" false
  obtain ⟨-, -, -, hdone⟩ := hkeeps (listingGateway ["TOOLS.md"])
  obtain ⟨hall, hrerun⟩ := hdone rfl
  obtain ⟨hagain, -, hdeletes⟩ := hrerun workerFiles (listingGateway ["MEMORY.md", "TOOLS.md"]) tells_example
    tells_example_after fun _ _ _ => rfl
  refine ⟨fun files => (hkeeps (listingGateway ["MEMORY.md", "TOOLS.md"])).1 files "MEMORY.md" (by decide) (by decide),
    hagain rfl _ _ (by decide) (hall _ _ ⟨by decide, rfl, ?_, fun hkept => absurd hkept.1 (by decide)⟩), hdeletes⟩
  exact Templates.toolsMd_ne_empty _ _ _

/-- A second update need not write what the first has written. -/
theorem updateFiles_again_writes_less : ∃ (gateway again : Gateway) (files : GatewayFiles) (content : String),
    Tells (listedFiles gateway "worker") files "worker" ∧
      Tells (listedFiles again "worker") ((workerUpdate gateway).2.foldl GatewayFiles.after files) "worker" ∧
      (workerUpdate gateway).1 = .ok () ∧ (workerUpdate again).1 = .ok () ∧
      .filesSet "worker" "MEMORY.md" content ∈ workerUpdate.asked gateway ∧
      .filesSet "worker" "MEMORY.md" content ∉ workerUpdate.asked again := by
  refine ⟨listingGateway ["TOOLS.md"], listingGateway ["MEMORY.md", "TOOLS.md"], workerFiles, "# Memory", tells_example,
    tells_example_after, rfl, rfl, ?_, fun hset => ?_⟩
  · refine (((asked_updateFiles _ _ _ _ _ _ (listingGateway ["TOOLS.md"])).2.2 rfl).1
      "MEMORY.md" "# Memory" ⟨?_, rfl, ?_, ?_⟩).1
    · decide
    · decide
    · exact fun hkept => absurd hkept.2 (by decide)
  · exact ((asked_updateFiles _ _ _ _ _ _ (listingGateway ["MEMORY.md", "TOOLS.md"])).1 _ _ _ hset).2.notKept
      ⟨by decide, by decide⟩

end SiloForge
