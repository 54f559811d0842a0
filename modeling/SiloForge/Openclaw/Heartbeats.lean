import SiloForge.Openclaw.Gateway

/-!
# The heartbeats of a gateway's configuration

The workspaces and heartbeats of agents are entries of a list in the configuration of their gateway. They are patched in
one call: objects are merged deeply, lists are replaced.

* `Json.merge`, `Json.follow` : a patch that is applied, and the value at the end of a path of keys;
* `follow_merge_of_agrees`, `follow_merge_leaf` : the values a patch spares, and those it sets;
* `updatedAgentList_requested`, `updatedAgentList_others`, `updatedAgentList_twice` : the list with the entries;
* `patchAgentHeartbeats_converges` : after a patch there is nothing left to patch, and nothing else has changed.
-/

namespace SiloForge

open Lib CallM

/-! ## Patches -/

variable {k : String}

namespace Json

def follow : List String → Json → Option Json
  | [], j => some j
  | k :: ks, j => (j.get? k).bind (follow ks)

mutual

def merge : Json → Json → Json
  | .obj base, .obj patch => .obj (mergeFields base patch ++ patch.filter fun f => lookup base f.1 = none)
  | _, patch => patch

def mergeFields : List (String × Json) → List (String × Json) → List (String × Json)
  | [], _ => []
  | (k, old) :: rest, patch =>
    (k, match lookup patch k with
      | some v => old.merge v
      | none => old) :: mergeFields rest patch

end

def IsLeaf (j : Json) : Prop := ∀ fields, j ≠ .obj fields

theorem follow_cons (k : String) (ks : List String) (j : Json) : follow (k :: ks) j = (j.get? k).bind (follow ks) := rfl

variable {v patch base : Json} {fields : List (String × Json)} {path : List String}

theorem follow_cons_eq_some {ks : List String} {j : Json} : follow (k :: ks) j = some v ↔
    ∃ fields sub, j = .obj fields ∧ lookup fields k = some sub ∧ follow ks sub = some v := by
  rw [follow_cons, Option.bind_eq_some_iff]
  constructor
  · rintro ⟨sub, hget, hfollow⟩
    cases j with
    | obj fields => exact ⟨fields, sub, rfl, hget, hfollow⟩
    | _ => cases hget
  · rintro ⟨fields, sub, rfl, hlookup, hfollow⟩
    exact ⟨sub, hlookup, hfollow⟩

theorem merge_leaf (h : patch.IsLeaf) (base : Json) : base.merge patch = patch := by
  cases base with
  | obj fields =>
    cases patch with
    | obj fields' => exact absurd rfl (h fields')
    | _ => rw [merge]; exact nofun
  | _ => rw [merge]; exact nofun

theorem merge_of_leaf (h : base.IsLeaf) (patch : Json) : base.merge patch = patch := by
  cases base with
  | obj fields => exact absurd rfl (h fields)
  | _ => rw [merge]; exact nofun

theorem lookup_mergeFields (base patch : List (String × Json)) (k : String) : lookup (mergeFields base patch) k =
    (lookup base k).map fun old => match lookup patch k with
      | some v => old.merge v
      | none => old := by
  induction base with
  | nil => rfl
  | cons f rest ih =>
    obtain ⟨key, old⟩ := f
    rw [mergeFields, lookup_cons, lookup_cons, ih]
    by_cases hk : key = k
    · subst hk
      rw [if_pos rfl, if_pos rfl]
      rfl
    · rw [if_neg hk, if_neg hk]

theorem lookup_filter {p : String × Json → Bool} (h : ∀ f, f.1 = k → p f = true) :
    lookup (fields.filter p) k = lookup fields k := by
  induction fields with
  | nil => rfl
  | cons f rest ih =>
    cases hp : p f with
    | true => rw [List.filter_cons_of_pos hp, lookup_cons, lookup_cons, ih]
    | false =>
      have hk : f.1 ≠ k := fun hk => Bool.false_ne_true (hp.symm.trans (h f hk))
      rw [List.filter_cons_of_neg (by rw [hp]; exact Bool.false_ne_true), ih, lookup_cons, if_neg hk]

theorem get?_merge (base patch : List (String × Json)) (k : String) : ((obj base).merge (.obj patch)).get? k =
    match lookup base k, lookup patch k with
    | some old, some v => some (old.merge v)
    | some old, none => some old
    | none, v => v := by
  rw [merge]
  show lookup (mergeFields base patch ++ _) k = _
  rw [lookup_append, lookup_mergeFields]
  cases hbase : lookup base k with
  | some old =>
    rw [Option.map_some, Option.some_or]
    cases lookup patch k <;> rfl
  | none =>
    rw [Option.map_none, Option.none_or, lookup_filter fun f hf => by rw [hf, hbase]; rfl]

theorem follow_merge_leaf (hv : v.IsLeaf) (h : follow path patch = some v) :
    follow path (base.merge patch) = some v := by
  induction path generalizing base patch with
  | nil =>
    obtain rfl := Option.some.inj h
    exact congrArg some (merge_leaf hv base)
  | cons k ks ih =>
    obtain ⟨fields, sub, rfl, hlookup, hfollow⟩ := follow_cons_eq_some.mp h
    by_cases hbase : base.IsLeaf
    · rw [merge_of_leaf hbase]
      exact h
    · obtain ⟨old, rfl⟩ : ∃ old, base = .obj old := by simpa [IsLeaf] using hbase
      rw [follow_cons, get?_merge, hlookup]
      cases lookup old k with
      | some old => exact ih hfollow
      | none => exact hfollow

theorem follow_merge_isSome (h : (follow path patch).isSome = true) :
    (follow path (base.merge patch)).isSome = true := by
  induction path generalizing base patch with
  | nil => rfl
  | cons k ks ih =>
    obtain ⟨v, hv⟩ := Option.isSome_iff_exists.mp h
    obtain ⟨fields, sub, rfl, hlookup, hfollow⟩ := follow_cons_eq_some.mp hv
    by_cases hbase : base.IsLeaf
    · rw [merge_of_leaf hbase]
      exact h
    · obtain ⟨old, rfl⟩ : ∃ old, base = .obj old := by simpa [IsLeaf] using hbase
      rw [follow_cons, get?_merge, hlookup]
      cases lookup old k with
      | some old => exact ih (by rw [hfollow]; rfl)
      | none =>
        show (follow ks sub).isSome = true
        rw [hfollow]
        rfl

/-- A patch has nothing on a path, or the same value at its end. -/
def Agrees (v : Json) : List String → Json → Prop
  | [], patch => patch = v
  | k :: ks, patch => ∃ fields, patch = .obj fields ∧ ∀ sub, lookup fields k = some sub → Agrees v ks sub

theorem agrees_self {j : Json} (h : follow path j = some v) : Agrees v path j := by
  induction path generalizing j with
  | nil => exact Option.some.inj h
  | cons k ks ih =>
    obtain ⟨fields, sub, rfl, hlookup, hfollow⟩ := follow_cons_eq_some.mp h
    refine ⟨fields, rfl, fun sub' hsub' => ?_⟩
    obtain rfl := Option.some.inj (hlookup.symm.trans hsub')
    exact ih hfollow

/-- What a patch spares stays. -/
theorem follow_merge_of_agrees (hv : v.IsLeaf) (hbase : follow path base = some v) (hpatch : Agrees v path patch) :
    follow path (base.merge patch) = some v := by
  induction path generalizing base patch with
  | nil =>
    obtain rfl := Option.some.inj hbase
    rw [merge_of_leaf hv]
    exact congrArg some hpatch
  | cons k ks ih =>
    obtain ⟨old, value, rfl, hold, hfollow⟩ := follow_cons_eq_some.mp hbase
    obtain ⟨fields, rfl, hsub⟩ := hpatch
    rw [follow_cons, get?_merge, hold]
    cases hlookup : lookup fields k with
    | some sub => exact ih hfollow (hsub sub hlookup)
    | none => exact hfollow

/-! ## Values that are the same -/

def norm (j : Json) : Json := j.wholeNumbers.sortKeys

theorem same_iff {a b : Json} : a.same b = true ↔ a.norm = b.norm := beq_iff _ _

theorem wholeItems_eq_map (items : List Json) : wholeItems items = items.map wholeNumbers := by
  induction items with
  | nil => rfl
  | cons j rest ih => rw [wholeItems, ih]; rfl

theorem sortItems_eq_map (items : List Json) : sortItems items = items.map sortKeys := by
  induction items with
  | nil => rfl
  | cons j rest ih => rw [sortItems, ih]; rfl

theorem norm_arr (items : List Json) : (arr items).norm = .arr (items.map norm) := by
  show arr (sortItems (wholeItems items)) = _
  rw [wholeItems_eq_map, sortItems_eq_map, List.map_map]
  rfl

theorem lookup_wholeFields (fields : List (String × Json)) (k : String) :
    lookup (wholeFields fields) k = (lookup fields k).map wholeNumbers := by
  induction fields with
  | nil => rfl
  | cons f rest ih =>
    obtain ⟨key, value⟩ := f
    rw [wholeFields, lookup_cons, lookup_cons, ih]
    split <;> rfl

theorem lookup_norm {as bs : List (String × Json)} (h : (obj as).norm = (obj bs).norm) (k : String) :
    (lookup as k).map norm = (lookup bs k).map norm := by
  have hfields : sortFields (wholeFields as) = sortFields (wholeFields bs) := obj.inj h
  have hlookup := congrArg (lookup · k) hfields
  simp only [lookup_sortFields, lookup_wholeFields, Option.map_map] at hlookup
  exact hlookup

theorem eq_str_of_norm {j : Json} {s : String} (h : j.norm = .str s) : j = .str s := by
  cases j with
  | str t => exact h
  | float bits =>
    exfalso
    unfold norm wholeNumbers at h
    split at h
    · cases hint : floatToInt? bits with
      | none =>
        rw [hint] at h
        cases h
      | some n =>
        rw [hint] at h
        cases h
    · cases h
  | _ => cases h

theorem setField_of_mem (hk : k ∈ fields.map Prod.fst) (hv : ∀ f ∈ fields, f.1 = k → f.2 = v) :
    setField fields k v = fields := by
  obtain ⟨f, hf, hkey⟩ := List.mem_map.mp hk
  unfold setField
  rw [if_pos (List.any_eq_true.mpr ⟨f, hf, decide_eq_true hkey⟩)]
  conv_rhs => rw [← List.map_id fields]
  refine List.map_congr_left fun g hg => ?_
  by_cases hg' : g.1 = k
  · rw [if_pos hg']
    exact Prod.ext hg'.symm (hv g hg hg').symm
  · exact if_neg hg'

end Json

/-! ## The list of agents -/

def agentIdOf (raw : Json) : Option String := (raw.get? "id").bind Json.str?

def entryFor (entries : List HeartbeatEntry) (raw : Json) : Option HeartbeatEntry :=
  (agentIdOf raw).bind fun id => entries.find? fun entry => entry.agentId = id

def withHeartbeat (fields : List (String × Json)) (entry : HeartbeatEntry) : List (String × Json) :=
  Json.setField (Json.setField fields "workspace" (.str entry.workspacePath)) "heartbeat" entry.heartbeat

def updatedEntry (entries : List HeartbeatEntry) (raw : Json) : Json :=
  match raw, entryFor entries raw with
  | .obj fields, some entry => .obj (withHeartbeat fields entry)
  | raw, _ => raw

def newEntry (entry : HeartbeatEntry) : Json :=
  .obj [("id", .str entry.agentId), ("workspace", .str entry.workspacePath), ("heartbeat", entry.heartbeat)]

def newEntries (rawList : List Json) (entries : List HeartbeatEntry) : List HeartbeatEntry :=
  entries.filter fun entry => entry.agentId ∉ (rawList.filterMap (entryFor entries)).map HeartbeatEntry.agentId

theorem updatedAgentList_eq (rawList : List Json) (entries : List HeartbeatEntry) : updatedAgentList rawList entries =
    rawList.map (updatedEntry entries) ++ (newEntries rawList entries).map newEntry := rfl

section AgentList
variable {entries : List HeartbeatEntry} {entry : HeartbeatEntry} {raw : Json} {rawList : List Json}

theorem nodup_heartbeatEntryMap (entries : List HeartbeatEntry) :
    ((heartbeatEntryMap entries).map HeartbeatEntry.agentId).Nodup := by
  suffices h : ∀ seen : List HeartbeatEntry, (seen.map HeartbeatEntry.agentId).Nodup →
      ((entries.foldl (fun seen entry =>
        if seen.any (fun e => e.agentId = entry.agentId) then
          seen.map fun e => if e.agentId = entry.agentId then entry else e
        else seen ++ [entry]) seen).map HeartbeatEntry.agentId).Nodup from h [] List.nodup_nil
  induction entries with
  | nil => exact fun seen hseen => hseen
  | cons entry entries ih =>
    intro seen hseen
    rw [List.foldl_cons]
    refine ih _ ?_
    split
    · have hids : (seen.map fun e => if e.agentId = entry.agentId then entry else e).map HeartbeatEntry.agentId =
          seen.map HeartbeatEntry.agentId := by
        rw [List.map_map]
        refine List.map_congr_left fun e _ => ?_
        show (if e.agentId = entry.agentId then entry else e).agentId = e.agentId
        split
        · rename_i hid
          exact hid.symm
        · rfl
      rw [hids]
      exact hseen
    · rename_i hany
      rw [List.map_append, List.nodup_append]
      refine ⟨hseen, List.nodup_singleton _, fun id hid id' hid' heq => ?_⟩
      obtain ⟨e, he, rfl⟩ := List.mem_map.mp hid
      rw [List.map_singleton, List.mem_singleton] at hid'
      exact hany (List.any_eq_true.mpr ⟨e, he, decide_eq_true (heq.trans hid')⟩)

theorem entryFor_eq_some (h : entryFor entries raw = some entry) : entry ∈ entries ∧ agentIdOf raw = some entry.agentId := by
  obtain ⟨id, hid, hfind⟩ := Option.bind_eq_some_iff.mp h
  have hfound := List.find?_some hfind
  have hsame : entry.agentId = id := of_decide_eq_true hfound
  exact ⟨List.mem_of_find?_eq_some hfind, by rw [hid, hsame]⟩

theorem entryFor_of_mem (hnodup : (entries.map HeartbeatEntry.agentId).Nodup) (hentry : entry ∈ entries)
    (hid : agentIdOf raw = some entry.agentId) : entryFor entries raw = some entry := by
  unfold entryFor
  rw [hid, Option.bind_some]
  cases hfind : entries.find? fun e => e.agentId = entry.agentId with
  | none => exact absurd (decide_eq_true rfl) (List.find?_eq_none.mp hfind entry hentry)
  | some e =>
    have hsame : e.agentId = entry.agentId := by
      have hfound := List.find?_some hfind
      exact of_decide_eq_true hfound
    rw [List.inj_on_of_nodup_map hnodup (List.mem_of_find?_eq_some hfind) hentry hsame]

theorem exists_fields (h : entryFor entries raw = some entry) : ∃ fields, raw = .obj fields := by
  obtain ⟨-, hid⟩ := entryFor_eq_some h
  cases raw with
  | obj fields => exact ⟨fields, rfl⟩
  | _ => cases hid

theorem agentIdOf_withHeartbeat (fields : List (String × Json)) (entry : HeartbeatEntry) :
    agentIdOf (.obj (withHeartbeat fields entry)) = agentIdOf (.obj fields) := by
  show (Json.lookup (withHeartbeat fields entry) "id").bind Json.str? = (Json.lookup fields "id").bind Json.str?
  unfold withHeartbeat
  rw [Json.lookup_setField, if_neg (by decide), Json.lookup_setField, if_neg (by decide)]

theorem updatedEntry_of_some {fields : List (String × Json)} (h : entryFor entries (.obj fields) = some entry) :
    updatedEntry entries (.obj fields) = .obj (withHeartbeat fields entry) := by
  unfold updatedEntry
  rw [h]

theorem updatedEntry_of_none (h : entryFor entries raw = none) : updatedEntry entries raw = raw := by
  unfold updatedEntry
  rw [h]
  split
  · rename_i hnone
    cases hnone
  · rfl

theorem agentIdOf_updatedEntry (entries : List HeartbeatEntry) (raw : Json) :
    agentIdOf (updatedEntry entries raw) = agentIdOf raw := by
  cases hentry : entryFor entries raw with
  | none => rw [updatedEntry_of_none hentry]
  | some entry =>
    obtain ⟨fields, rfl⟩ := exists_fields hentry
    rw [updatedEntry_of_some hentry, agentIdOf_withHeartbeat]

theorem entryFor_updatedEntry (entries : List HeartbeatEntry) (raw : Json) :
    entryFor entries (updatedEntry entries raw) = entryFor entries raw := by
  unfold entryFor
  rw [agentIdOf_updatedEntry]

theorem agentIdOf_newEntry (entry : HeartbeatEntry) : agentIdOf (newEntry entry) = some entry.agentId := rfl

/-- An entry of the list has the workspace and the heartbeat that are asked for, by some equality of heartbeats. -/
def HasHeartbeat (sameHeartbeat : Json → Json → Prop) (entry : HeartbeatEntry) (raw : Json) : Prop :=
  raw.get? "workspace" = some (.str entry.workspacePath) ∧
    ∃ heartbeat, raw.get? "heartbeat" = some heartbeat ∧ sameHeartbeat heartbeat entry.heartbeat

def Requested (sameHeartbeat : Json → Json → Prop) (entries : List HeartbeatEntry) (list : List Json) : Prop :=
  ∀ entry ∈ entries, (∃ raw ∈ list, agentIdOf raw = some entry.agentId) ∧
    ∀ raw ∈ list, agentIdOf raw = some entry.agentId → HasHeartbeat sameHeartbeat entry raw

theorem hasHeartbeat_withHeartbeat (fields : List (String × Json)) (entry : HeartbeatEntry) :
    HasHeartbeat Eq entry (.obj (withHeartbeat fields entry)) := by
  have hworkspace : Json.lookup (withHeartbeat fields entry) "workspace" = some (.str entry.workspacePath) := by
    unfold withHeartbeat
    rw [Json.lookup_setField, if_neg (by decide), Json.lookup_setField, if_pos rfl]
  have hheartbeat : Json.lookup (withHeartbeat fields entry) "heartbeat" = some entry.heartbeat := by
    unfold withHeartbeat
    rw [Json.lookup_setField, if_pos rfl]
  exact ⟨hworkspace, entry.heartbeat, hheartbeat, rfl⟩

theorem mem_newEntries : entry ∈ newEntries rawList entries ↔
    entry ∈ entries ∧ ∀ raw ∈ rawList, ∀ e, entryFor entries raw = some e → e.agentId ≠ entry.agentId := by
  unfold newEntries
  rw [List.mem_filter, decide_eq_true_eq]
  refine and_congr_right fun _ => ?_
  simp only [List.mem_map, List.mem_filterMap, not_exists, not_and]
  exact ⟨fun h raw hraw e he => h e ⟨raw, hraw, he⟩, fun h e ⟨raw, hraw, he⟩ => h raw hraw e he⟩

theorem updatedAgentList_requested (hnodup : (entries.map HeartbeatEntry.agentId).Nodup) :
    Requested Eq entries (updatedAgentList rawList entries) := by
  intro entry hentry
  rw [updatedAgentList_eq]
  constructor
  · by_cases hnew : entry ∈ newEntries rawList entries
    · exact ⟨newEntry entry, List.mem_append_right _ (List.mem_map.mpr ⟨entry, hnew, rfl⟩), rfl⟩
    · have hpresent : ∃ raw ∈ rawList, ∃ e, entryFor entries raw = some e ∧ e.agentId = entry.agentId := by
        by_contra hnone
        exact hnew (mem_newEntries.mpr ⟨hentry, fun raw hraw e he hid => hnone ⟨raw, hraw, e, he, hid⟩⟩)
      obtain ⟨raw, hraw, e, he, hid⟩ := hpresent
      refine ⟨updatedEntry entries raw, List.mem_append_left _ (List.mem_map.mpr ⟨raw, hraw, rfl⟩), ?_⟩
      rw [agentIdOf_updatedEntry, (entryFor_eq_some he).2, hid]
  · intro raw hraw hid
    obtain hraw | hraw := List.mem_append.mp hraw
    · obtain ⟨raw', -, rfl⟩ := List.mem_map.mp hraw
      rw [agentIdOf_updatedEntry] at hid
      have hfor := entryFor_of_mem hnodup hentry hid
      obtain ⟨fields, rfl⟩ := exists_fields hfor
      rw [updatedEntry_of_some hfor]
      exact hasHeartbeat_withHeartbeat fields entry
    · obtain ⟨e, he, rfl⟩ := List.mem_map.mp hraw
      have hsame : e.agentId = entry.agentId := Option.some.inj hid
      obtain rfl := List.inj_on_of_nodup_map hnodup (mem_newEntries.mp he).1 hentry hsame
      exact ⟨rfl, e.heartbeat, rfl, rfl⟩

theorem updatedAgentList_others (hnodup : (entries.map HeartbeatEntry.agentId).Nodup) :
    (updatedAgentList rawList entries).filter (fun raw => (entryFor entries raw).isNone) =
      rawList.filter fun raw => (entryFor entries raw).isNone := by
  have hnew : ((newEntries rawList entries).map newEntry).filter (fun raw => (entryFor entries raw).isNone) = [] := by
    refine List.filter_eq_nil_iff.mpr fun raw hraw => ?_
    obtain ⟨e, he, rfl⟩ := List.mem_map.mp hraw
    rw [entryFor_of_mem hnodup (mem_newEntries.mp he).1 (agentIdOf_newEntry e)]
    exact Bool.false_ne_true
  have hold : ∀ list : List Json, (list.map (updatedEntry entries)).filter (fun raw => (entryFor entries raw).isNone) =
      list.filter fun raw => (entryFor entries raw).isNone := by
    intro list
    induction list with
    | nil => rfl
    | cons raw list ih =>
      rw [List.map_cons, List.filter_cons, List.filter_cons, ih, entryFor_updatedEntry]
      cases hentry : entryFor entries raw with
      | none => rw [updatedEntry_of_none hentry]
      | some entry => rfl
  rw [updatedAgentList_eq, List.filter_append, hnew, List.append_nil, hold]

theorem withHeartbeat_twice (fields : List (String × Json)) (entry : HeartbeatEntry) :
    withHeartbeat (withHeartbeat fields entry) entry = withHeartbeat fields entry := by
  have hworkspace : Json.setField (withHeartbeat fields entry) "workspace" (.str entry.workspacePath) =
      withHeartbeat fields entry := by
    refine Json.setField_of_mem (Json.keys_setField.mpr (.inr (Json.keys_setField.mpr (.inl rfl)))) fun f hf hk => ?_
    obtain rfl | ⟨hf, -⟩ := Json.mem_setField hf
    · exact absurd hk (show "heartbeat" ≠ "workspace" by decide)
    · obtain rfl | ⟨-, hne⟩ := Json.mem_setField hf
      · rfl
      · exact absurd hk hne
  have hheartbeat : Json.setField (withHeartbeat fields entry) "heartbeat" entry.heartbeat = withHeartbeat fields entry := by
    refine Json.setField_of_mem (Json.keys_setField.mpr (.inl rfl)) fun f hf hk => ?_
    obtain rfl | ⟨-, hne⟩ := Json.mem_setField hf
    · rfl
    · exact absurd hk hne
  show Json.setField (Json.setField (withHeartbeat fields entry) "workspace" _) "heartbeat" _ = _
  rw [hworkspace, hheartbeat]

theorem updatedEntry_twice (entries : List HeartbeatEntry) (raw : Json) :
    updatedEntry entries (updatedEntry entries raw) = updatedEntry entries raw := by
  cases hentry : entryFor entries raw with
  | none => rw [updatedEntry_of_none hentry, updatedEntry_of_none hentry]
  | some entry =>
    have hagain := (entryFor_updatedEntry entries raw).trans hentry
    obtain ⟨fields, rfl⟩ := exists_fields hentry
    rw [updatedEntry_of_some hentry] at hagain ⊢
    rw [updatedEntry_of_some hagain, withHeartbeat_twice]

theorem updatedAgentList_twice (hnodup : (entries.map HeartbeatEntry.agentId).Nodup) :
    updatedAgentList (updatedAgentList rawList entries) entries = updatedAgentList rawList entries := by
  have hnone : newEntries (updatedAgentList rawList entries) entries = [] := by
    refine List.eq_nil_iff_forall_not_mem.mpr fun entry hentry => ?_
    obtain ⟨hmem, hnot⟩ := mem_newEntries.mp hentry
    have hrequested : Requested Eq entries (updatedAgentList rawList entries) := updatedAgentList_requested hnodup
    obtain ⟨⟨raw, hraw, hid⟩, -⟩ := hrequested entry hmem
    exact hnot raw hraw entry (entryFor_of_mem hnodup hmem hid) rfl
  have hsame : (updatedAgentList rawList entries).map (updatedEntry entries) = updatedAgentList rawList entries := by
    conv_rhs => rw [← List.map_id (updatedAgentList rawList entries)]
    refine List.map_congr_left fun raw hraw => ?_
    rw [updatedAgentList_eq] at hraw
    obtain hraw | hraw := List.mem_append.mp hraw
    · obtain ⟨raw', -, rfl⟩ := List.mem_map.mp hraw
      exact updatedEntry_twice entries raw'
    · obtain ⟨e, he, rfl⟩ := List.mem_map.mp hraw
      have hfor := entryFor_of_mem hnodup (mem_newEntries.mp he).1 (agentIdOf_newEntry e)
      show updatedEntry entries (newEntry e) = newEntry e
      unfold newEntry at hfor ⊢
      rw [updatedEntry_of_some hfor]
      rfl
  rw [updatedAgentList_eq (updatedAgentList rawList entries), hnone, hsame]
  exact List.append_nil _

theorem requested_of_same (hnodup : (entries.map HeartbeatEntry.agentId).Nodup)
    (h : Json.same (.arr (updatedAgentList rawList entries)) (.arr rawList) = true) :
    Requested (fun a b => a.same b = true) entries rawList := by
  have hnorm : (updatedAgentList rawList entries).map Json.norm = rawList.map Json.norm := by
    have hsame := Json.same_iff.mp h
    rw [Json.norm_arr, Json.norm_arr] at hsame
    exact Json.arr.inj hsame
  have hlength := congrArg List.length hnorm
  rw [updatedAgentList_eq] at hnorm hlength
  simp only [List.length_map, List.length_append] at hlength
  have hnone : newEntries rawList entries = [] := List.eq_nil_of_length_eq_zero (by omega)
  rw [hnone, List.map_nil, List.append_nil, List.map_map] at hnorm
  intro entry hentry
  constructor
  · by_contra hnot
    have hnew : entry ∈ newEntries rawList entries := by
      refine mem_newEntries.mpr ⟨hentry, fun raw hraw e he hid => hnot ⟨raw, hraw, ?_⟩⟩
      rw [(entryFor_eq_some he).2, hid]
    rw [hnone] at hnew
    cases hnew
  · intro raw hraw hid
    have hfor := entryFor_of_mem hnodup hentry hid
    obtain ⟨fields, rfl⟩ := exists_fields hfor
    have hfields : (Json.obj (withHeartbeat fields entry)).norm = (Json.obj fields).norm := by
      rw [← updatedEntry_of_some hfor]
      exact List.map_inj_left.mp hnorm _ hraw
    obtain ⟨hworkspace, heartbeat, hheartbeat, rfl⟩ := hasHeartbeat_withHeartbeat fields entry
    constructor
    · have hlookup := Json.lookup_norm hfields "workspace"
      rw [show Json.lookup (withHeartbeat fields entry) "workspace" = _ from hworkspace] at hlookup
      obtain ⟨value, hvalue, hnormValue⟩ := Option.map_eq_some_iff.mp hlookup.symm
      rw [show (Json.obj fields).get? "workspace" = some value from hvalue, Json.eq_str_of_norm hnormValue]
    · have hlookup := Json.lookup_norm hfields "heartbeat"
      rw [show Json.lookup (withHeartbeat fields entry) "heartbeat" = _ from hheartbeat] at hlookup
      obtain ⟨value, hvalue, hnormValue⟩ := Option.map_eq_some_iff.mp hlookup.symm
      exact ⟨value, hvalue, Json.same_iff.mpr hnormValue⟩

end AgentList

/-! ## The configuration -/

def agentsList (doc : Json) : Except RunError (List Json) :=
  match (doc.getTruthy? "agents").getD (.obj []) with
  | .obj agents =>
    match ((Json.obj agents).getTruthy? "list").getD (.arr []) with
    | .arr list => .ok list
    | _ => .error (.gateway "config agents.list is not a list")
  | _ => .error .cut

/-- What `config.get` answers is read as a configuration with a list of agents. -/
def ReadsAs (cfg doc : Json) (list : List Json) : Prop := ∃ hash, configAgentList cfg = .ok (hash, list, doc)

variable {doc : Json} {list : List Json}

theorem ReadsAs.document {cfg : Json} (h : ReadsAs cfg doc list) :
    (∃ fields, doc = .obj fields) ∧ agentsList doc = .ok list := by
  obtain ⟨hash, h⟩ := h
  unfold configAgentList at h
  split at h
  · split at h
    · rename_i fields hdoc
      unfold agentsList
      split at h
      · rename_i agents hagents
        split at h
        · rename_i items hitems
          obtain ⟨-, h⟩ := Prod.mk.inj (Except.ok.inj h)
          obtain ⟨rfl, rfl⟩ := Prod.mk.inj h
          exact ⟨⟨fields, rfl⟩, by rw [hagents]; dsimp only; rw [hitems]⟩
        · cases h
      · cases h
    · cases h
  · cases h

theorem readsAs_config {fields : List (String × Json)} (h : agentsList (.obj fields) = .ok list) :
    ReadsAs (.obj [("config", .obj fields)]) (.obj fields) list := by
  have hconfig : (((Json.obj [("config", .obj fields)]).getTruthy? "config").or
      ((Json.obj [("config", .obj fields)]).getTruthy? "parsed")).getD (.obj []) = .obj fields := by
    cases fields with
    | nil => rfl
    | cons f rest => rfl
  refine ⟨(Json.obj [("config", .obj fields)]).getTruthy? "hash", ?_⟩
  unfold agentsList at h
  unfold configAgentList
  rw [hconfig]
  dsimp only
  cases hagents : ((Json.obj fields).getTruthy? "agents").getD (.obj []) with
  | obj agents =>
    rw [hagents] at h
    dsimp only at h ⊢
    cases hitems : ((Json.obj agents).getTruthy? "list").getD (.arr []) with
    | arr items =>
      rw [hitems] at h
      obtain rfl := Except.ok.inj h
      rfl
    | _ =>
      rw [hitems] at h
      cases h
  | _ =>
    rw [hagents] at h
    cases h

theorem agentsList_of_follow (h : Json.follow ["agents", "list"] doc = some (.arr list)) :
    agentsList doc = .ok list := by
  obtain ⟨fields, agents, rfl, hagents, h⟩ := Json.follow_cons_eq_some.mp h
  obtain ⟨agentFields, value, rfl, hlist, h⟩ := Json.follow_cons_eq_some.mp h
  obtain rfl := Option.some.inj h
  have htruthy : (Json.obj agentFields).truthy = true := by
    cases agentFields with
    | nil => cases hlist
    | cons f rest => rfl
  have hsection : (Json.obj fields).getTruthy? "agents" = some (.obj agentFields) := by
    show (Json.lookup fields "agents").filter Json.truthy = _
    rw [hagents, Option.filter_some, if_pos htruthy]
  have hitems : ((Json.obj agentFields).getTruthy? "list").getD (.arr []) = .arr list := by
    show ((Json.lookup agentFields "list").filter Json.truthy).getD (.arr []) = _
    rw [hlist]
    cases list with
    | nil => rfl
    | cons item items => rfl
  unfold agentsList
  rw [hsection, Option.getD_some]
  dsimp only
  rw [hitems]

/-! ## What is patched -/

def patchFields (newList : List Json) (channels tools : Option Json) : List (String × Json) :=
  [("agents", Json.obj [("list", .arr newList)])] ++ (channels.map fun j => ("channels", j)).toList ++
    (tools.map fun j => ("tools", j)).toList

def heartbeatPatch (entries : List HeartbeatEntry) (rawList : List Json) (doc : Json) : Option Json :=
  if Json.same (.arr (updatedAgentList rawList entries)) (.arr rawList) ∧ channelHeartbeatVisibilityPatch doc = none ∧
      toolsExecHostPatch doc = none then none
  else
    some (.obj
      (patchFields (updatedAgentList rawList entries) (channelHeartbeatVisibilityPatch doc) (toolsExecHostPatch doc)))

theorem lookup_patchFields (newList : List Json) (channels tools : Option Json) (k : String) :
    Json.lookup (patchFields newList channels tools) k =
      if k = "agents" then some (.obj [("list", .arr newList)])
      else if k = "channels" then channels
      else if k = "tools" then tools
      else none := by
  have hoption : ∀ (key : String) (value : Option Json),
      Json.lookup (value.map fun j => (key, j)).toList k = if k = key then value else none := by
    intro key value
    cases value with
    | none => exact (ite_self none).symm
    | some value =>
      show Json.lookup [(key, value)] k = _
      rw [Json.lookup_cons, Json.lookup_nil]
      by_cases hk : key = k
      · rw [if_pos hk, if_pos hk.symm]
      · rw [if_neg hk, if_neg fun h => hk h.symm]
  unfold patchFields
  rw [Json.lookup_append, Json.lookup_append, Json.lookup_cons, Json.lookup_nil, hoption, hoption]
  by_cases hagents : k = "agents"
  · rw [if_pos hagents.symm, if_pos hagents, Option.some_or, Option.some_or]
  · rw [if_neg fun h => hagents h.symm, if_neg hagents, Option.none_or]
    by_cases hchannels : k = "channels"
    · rw [if_pos hchannels, if_pos hchannels, if_neg (by rw [hchannels]; decide), Option.or_none]
    · rw [if_neg hchannels, if_neg hchannels, Option.none_or]

theorem channelPatch_eq_none (h : ∀ f ∈ defaultChannelHeartbeatVisibility,
    (Json.follow ["channels", "defaults", "heartbeat", f.1] doc).isSome = true) :
    channelHeartbeatVisibilityPatch doc = none := by
  obtain ⟨value, hvalue⟩ := Option.isSome_iff_exists.mp (h ("showOk", .bool false) (by decide))
  obtain ⟨fields, channels, rfl, hchannels, hvalue⟩ := Json.follow_cons_eq_some.mp hvalue
  obtain ⟨channelFields, defaults, rfl, hdefaults, hvalue⟩ := Json.follow_cons_eq_some.mp hvalue
  obtain ⟨defaultFields, heartbeat, rfl, hheartbeat, hvalue⟩ := Json.follow_cons_eq_some.mp hvalue
  obtain ⟨heartbeatFields, -, rfl, -, -⟩ := Json.follow_cons_eq_some.mp hvalue
  have hall : ∀ f ∈ defaultChannelHeartbeatVisibility, Json.lookup heartbeatFields f.1 ≠ none := by
    intro f hf hnone
    have hf := h f hf
    rw [Json.follow_cons, show (Json.obj fields).get? "channels" = _ from hchannels, Option.bind_some, Json.follow_cons,
      show (Json.obj channelFields).get? "defaults" = _ from hdefaults, Option.bind_some, Json.follow_cons,
      show (Json.obj defaultFields).get? "heartbeat" = _ from hheartbeat, Option.bind_some, Json.follow_cons,
      show (Json.obj heartbeatFields).get? f.1 = _ from hnone] at hf
    cases hf
  unfold channelHeartbeatVisibilityPatch
  rw [show (Json.obj fields).get? "channels" = _ from hchannels, Option.bind_some,
    show (Json.obj channelFields).get? "defaults" = _ from hdefaults, Option.bind_some,
    show (Json.obj defaultFields).get? "heartbeat" = _ from hheartbeat]
  dsimp only
  refine if_pos (List.filter_eq_nil_iff.mpr fun f hf => ?_)
  simpa using hall f hf

theorem channelPatch_eq_some {patch : Json} (h : channelHeartbeatVisibilityPatch doc = some patch) :
    ∃ heartbeat, patch = .obj [("defaults", .obj [("heartbeat", .obj heartbeat)])] ∧
      (∀ f ∈ defaultChannelHeartbeatVisibility, (Json.lookup heartbeat f.1).isSome = true) ∧
      ∀ old k v, Json.follow ["channels", "defaults", "heartbeat"] doc = some (.obj old) → Json.lookup old k = some v →
        Json.lookup heartbeat k = some v := by
  have hpath : ((doc.get? "channels").bind fun channels => channels.get? "defaults").bind
      (fun defaults => defaults.get? "heartbeat") = Json.follow ["channels", "defaults", "heartbeat"] doc := by
    rw [Json.follow_cons]
    cases doc.get? "channels" with
    | none => rfl
    | some channels =>
      rw [Option.bind_some, Option.bind_some, Json.follow_cons]
      cases channels.get? "defaults" with
      | none => rfl
      | some defaults =>
        rw [Option.bind_some, Option.bind_some, Json.follow_cons]
        cases defaults.get? "heartbeat" <;> rfl
  unfold channelHeartbeatVisibilityPatch at h
  rw [hpath] at h
  dsimp only at h
  split at h
  · rename_i old hold
    split at h
    · cases h
    · refine ⟨_, (Option.some.inj h).symm, fun f hf => ?_, fun old' k v hold' hv => ?_⟩
      · rw [Json.lookup_append]
        cases hlookup : Json.lookup old f.1 with
        | some value => rfl
        | none =>
          rw [Option.none_or, Json.isSome_lookup]
          exact List.mem_map.mpr ⟨f, List.mem_filter.mpr ⟨hf, decide_eq_true hlookup⟩, rfl⟩
      · obtain rfl := Json.obj.inj (Option.some.inj (hold.symm.trans hold'))
        rw [Json.lookup_append, hv, Option.some_or]
  · rename_i hnone
    refine ⟨_, (Option.some.inj h).symm, fun f hf => Json.isSome_lookup.mpr (List.mem_map.mpr ⟨f, hf, rfl⟩),
      fun old k v hold _ => absurd hold (hnone old)⟩

theorem toolsPatch_eq_none : toolsExecHostPatch doc = none ↔
    ∃ host, Json.follow ["tools", "exec", "host"] doc = some host ∧ host.truthy = true := by
  unfold toolsExecHostPatch
  rw [Json.follow_cons]
  cases doc.get? "tools" with
  | none =>
    refine iff_of_false nofun ?_
    rintro ⟨host, h, -⟩
    cases h
  | some tools =>
    rw [Option.bind_some, Option.bind_some, Json.follow_cons]
    cases tools.get? "exec" with
    | none =>
      refine iff_of_false nofun ?_
      rintro ⟨host, h, -⟩
      cases h
    | some exec =>
      rw [Option.bind_some]
      cases exec with
      | obj fields =>
        show (if (Json.lookup fields "host").filter Json.truthy = none then some _ else none) = none ↔
          ∃ host, (Json.lookup fields "host").bind (Json.follow []) = some host ∧ _
        cases Json.lookup fields "host" with
        | none =>
          refine iff_of_false nofun ?_
          rintro ⟨host, h, -⟩
          cases h
        | some host =>
          rw [Option.filter_some, Option.bind_some]
          cases htruthy : host.truthy with
          | true => exact iff_of_true rfl ⟨host, rfl, htruthy⟩
          | false =>
            refine iff_of_false nofun ?_
            rintro ⟨host', h, htrue⟩
            obtain rfl := Option.some.inj h
            rw [htruthy] at htrue
            cases htrue
      | _ =>
        refine iff_of_false nofun ?_
        rintro ⟨host, h, -⟩
        cases h

theorem toolsPatch_eq_some {patch : Json} (h : toolsExecHostPatch doc = some patch) :
    patch = .obj [("exec", .obj [("host", .str "gateway")])] := by
  unfold toolsExecHostPatch at h
  split at h
  · split at h
    · exact (Option.some.inj h).symm
    · cases h
  · exact (Option.some.inj h).symm

/-! ## Convergence -/

/-- Two paths, one of which goes on from the other. -/
def Comparable (path target : List String) : Prop := path <+: target ∨ target <+: path

/-- The paths a patch may write to: the list of agents, the visibility of heartbeats and the host of commands. -/
def Written (path : List String) : Prop :=
  Comparable path ["agents", "list"] ∨ path <+: ["channels", "defaults", "heartbeat"] ∨
    Comparable path ["tools", "exec", "host"]

def docAfter (doc : Json) (calls : List GatewayCall) : Json :=
  calls.foldl (fun doc call =>
    match call with
    | .configPatch patch _ => doc.merge patch
    | _ => doc) doc

def NoPatch (calls : List GatewayCall) : Prop := ∀ patch hash, GatewayCall.configPatch patch hash ∉ calls

/-- After the calls the configuration is as it is asked for, is not patched again, and is otherwise as it was. -/
structure Converges (sameHeartbeat : Json → Json → Prop) (entries : List HeartbeatEntry) (doc : Json) (list : List Json)
    (calls : List GatewayCall) : Prop where
  readable : ∃ cfg list', ReadsAs cfg (docAfter doc calls) list'
  requested : ∀ cfg list', ReadsAs cfg (docAfter doc calls) list' → Requested sameHeartbeat (heartbeatEntryMap entries) list'
  others : ∀ cfg list', ReadsAs cfg (docAfter doc calls) list' →
    list'.filter (fun raw => (entryFor (heartbeatEntryMap entries) raw).isNone) =
      list.filter fun raw => (entryFor (heartbeatEntryMap entries) raw).isNone
  settings : ∀ path v, v.IsLeaf → Json.follow path doc = some v → ¬ Written path →
    Json.follow path (docAfter doc calls) = some v
  execHost : ∀ host, Json.follow ["tools", "exec", "host"] doc = some host → host.truthy = true →
    Json.follow ["tools", "exec", "host"] (docAfter doc calls) = some host
  again : ∀ (oracle : Gateway) cfg list', (oracle .configGet).answer = .ok cfg →
    ReadsAs cfg (docAfter doc calls) list' → NoPatch (patchAgentHeartbeats entries oracle).2

section Converges
variable {entries : List HeartbeatEntry} {oracle : Gateway} {cfg doc : Json} {list : List Json}

theorem calls_call_pure (k : GatewayCall) (oracle : Gateway) :
    ((call k >>= fun _ => pure () : GatewayM Unit) oracle).2 = if (oracle k).done then [k] else [] := by
  show (andThen (call k) (fun _ => pure ()) oracle).2 = _
  unfold andThen call
  cases (oracle k).answer with
  | error e => rfl
  | ok answer => exact List.append_nil _

theorem patchAgentHeartbeats_calls {hash : Option Json} (hanswer : (oracle .configGet).answer = .ok cfg)
    (hread : configAgentList cfg = .ok (hash, list, doc)) : (patchAgentHeartbeats entries oracle).2 =
      (if (oracle .configGet).done then [.configGet] else []) ++
        match heartbeatPatch (heartbeatEntryMap entries) list doc with
        | none => []
        | some patch => if (oracle (.configPatch patch hash)).done then [.configPatch patch hash] else [] := by
  have hget : (call GatewayCall.configGet : GatewayM Json) oracle =
      (.ok cfg, if (oracle .configGet).done then [.configGet] else []) := by
    unfold call
    rw [hanswer]
  have hlist : (CallM.ofExcept (configAgentList cfg) : GatewayM (Option Json × List Json × Json)) oracle =
      (.ok (hash, list, doc), []) := by
    unfold CallM.ofExcept
    rw [hread]
  unfold patchAgentHeartbeats
  rw [bind_of_ok hget, bind_of_ok hlist]
  unfold heartbeatPatch patchFields
  dsimp only
  rw [List.nil_append]
  refine (List.append_right_inj _).mpr ?_
  split
  · rfl
  · exact calls_call_pure _ _

theorem noPatch_of_none (hanswer : (oracle .configGet).answer = .ok cfg) (hread : ReadsAs cfg doc list)
    (h : heartbeatPatch (heartbeatEntryMap entries) list doc = none) : NoPatch (patchAgentHeartbeats entries oracle).2 := by
  obtain ⟨hash, hread⟩ := hread
  rw [patchAgentHeartbeats_calls hanswer hread, h, List.append_nil]
  intro patch hash hmem
  split at hmem
  · exact absurd (List.mem_singleton.mp hmem) nofun
  · cases hmem

theorem agrees_single {key : String} {value v : Json} {ks : List String} (h : key = k → Json.Agrees v ks value) :
    Json.Agrees v (k :: ks) (.obj [(key, value)]) := by
  refine ⟨_, rfl, fun sub hsub => ?_⟩
  rw [Json.lookup_cons, Json.lookup_nil] at hsub
  split at hsub
  · rename_i hk
    obtain rfl := Option.some.inj hsub
    exact h hk
  · cases hsub

theorem agrees_patchFields {newList : List Json} {path : List String} {v : Json}
    (hfollow : Json.follow path doc = some v) (hwritten : ¬ Written path) (hne : path ≠ []) :
    Json.Agrees v path (.obj (patchFields newList (channelHeartbeatVisibilityPatch doc) (toolsExecHostPatch doc))) := by
  obtain ⟨k, ks, rfl⟩ := List.exists_cons_of_ne_nil hne
  refine ⟨_, rfl, fun sub hsub => ?_⟩
  rw [lookup_patchFields] at hsub
  split at hsub
  · -- the list of agents
    rename_i hk
    subst hk
    obtain rfl := Option.some.inj hsub
    cases ks with
    | nil => exact absurd (.inl (.inl ⟨["list"], rfl⟩)) hwritten
    | cons k' ks =>
      refine agrees_single fun hk' => ?_
      subst hk'
      exact absurd (.inl (.inr ⟨ks, rfl⟩)) hwritten
  · split at hsub
    · -- the visibility of heartbeats
      rename_i hk
      subst hk
      obtain ⟨heartbeat, rfl, -, hold⟩ := channelPatch_eq_some hsub
      cases ks with
      | nil => exact absurd (.inr (.inl ⟨["defaults", "heartbeat"], rfl⟩)) hwritten
      | cons k' ks =>
        refine agrees_single fun hk' => ?_
        subst hk'
        cases ks with
        | nil => exact absurd (.inr (.inl ⟨["heartbeat"], rfl⟩)) hwritten
        | cons k'' ks =>
          refine agrees_single fun hk'' => ?_
          subst hk''
          cases ks with
          | nil => exact absurd (.inr (.inl ⟨[], rfl⟩)) hwritten
          | cons key ks =>
            -- a setting that is there is patched with what it is
            refine ⟨_, rfl, fun setting hsetting => ?_⟩
            obtain ⟨fields, channels, rfl, hchannels, hfollow⟩ := Json.follow_cons_eq_some.mp hfollow
            obtain ⟨channelFields, defaults, rfl, hdefaults, hfollow⟩ := Json.follow_cons_eq_some.mp hfollow
            obtain ⟨defaultFields, settings, rfl, hsettings, hfollow⟩ := Json.follow_cons_eq_some.mp hfollow
            obtain ⟨settingFields, value, rfl, hvalue, hfollow⟩ := Json.follow_cons_eq_some.mp hfollow
            have hheartbeat : Json.follow ["channels", "defaults", "heartbeat"] (.obj fields) =
                some (.obj settingFields) :=
              Json.follow_cons_eq_some.mpr ⟨_, _, rfl, hchannels, Json.follow_cons_eq_some.mpr ⟨_, _, rfl, hdefaults,
                Json.follow_cons_eq_some.mpr ⟨_, _, rfl, hsettings, rfl⟩⟩⟩
            obtain rfl := Option.some.inj ((hold settingFields key value hheartbeat hvalue).symm.trans hsetting)
            exact Json.agrees_self hfollow
    · split at hsub
      · -- the host of commands
        rename_i hk
        subst hk
        obtain rfl := toolsPatch_eq_some hsub
        cases ks with
        | nil => exact absurd (.inr (.inr (.inl ⟨["exec", "host"], rfl⟩))) hwritten
        | cons k' ks =>
          refine agrees_single fun hk' => ?_
          subst hk'
          cases ks with
          | nil => exact absurd (.inr (.inr (.inl ⟨["host"], rfl⟩))) hwritten
          | cons k'' ks =>
            refine agrees_single fun hk'' => ?_
            subst hk''
            exact absurd (.inr (.inr (.inr ⟨ks, rfl⟩))) hwritten
      · cases hsub

variable {calls : List GatewayCall}

theorem converges_unpatched (hread : ReadsAs cfg doc list)
    (hpatch : heartbeatPatch (heartbeatEntryMap entries) list doc = none) (hcalls : docAfter doc calls = doc) :
    Converges (fun a b => a.same b = true) entries doc list calls := by
  have hlist : ∀ {cfg list'}, ReadsAs cfg doc list' → list' = list := fun h =>
    Except.ok.inj (h.document.2.symm.trans hread.document.2)
  have hsame : Json.same (.arr (updatedAgentList list (heartbeatEntryMap entries))) (.arr list) = true := by
    unfold heartbeatPatch at hpatch
    split at hpatch
    · rename_i hsame
      exact hsame.1
    · cases hpatch
  refine ⟨⟨cfg, list, by rw [hcalls]; exact hread⟩, fun cfg' list' h => ?_, fun cfg' list' h => ?_,
    fun path v _ hfollow _ => by rw [hcalls]; exact hfollow, fun host hhost _ => by rw [hcalls]; exact hhost,
    fun oracle' cfg' list' hanswer h => ?_⟩ <;> rw [hcalls] at h <;> obtain rfl := hlist h
  · exact requested_of_same (nodup_heartbeatEntryMap entries) hsame
  · rfl
  · exact noPatch_of_none hanswer h hpatch

def patchedDoc (fields : List (String × Json)) (newList : List Json) : Json :=
  (Json.obj fields).merge (.obj (patchFields newList (channelHeartbeatVisibilityPatch (.obj fields))
    (toolsExecHostPatch (.obj fields))))

section Patched
variable {fields : List (String × Json)} {newList : List Json}

theorem get?_patchedDoc (h : Json.lookup (patchFields newList (channelHeartbeatVisibilityPatch (.obj fields))
    (toolsExecHostPatch (.obj fields))) k = none) :
    (patchedDoc fields newList).get? k = (Json.obj fields).get? k := by
  unfold patchedDoc
  rw [Json.get?_merge, h]
  show _ = Json.lookup fields k
  cases Json.lookup fields k <;> rfl

theorem agentsList_patchedDoc : agentsList (patchedDoc fields newList) = .ok newList := by
  refine agentsList_of_follow ?_
  refine Json.follow_merge_leaf nofun (Json.follow_cons_eq_some.mpr ⟨_, .obj [("list", .arr newList)], rfl, ?_, rfl⟩)
  exact (lookup_patchFields _ _ _ _).trans (if_pos rfl)

theorem channelPatch_patchedDoc : channelHeartbeatVisibilityPatch (patchedDoc fields newList) = none := by
  cases hchannel : channelHeartbeatVisibilityPatch (.obj fields) with
  | none =>
    have hsame : (patchedDoc fields newList).get? "channels" = (Json.obj fields).get? "channels" := by
      refine get?_patchedDoc ?_
      rw [lookup_patchFields, if_neg (by decide), if_pos rfl, hchannel]
    unfold channelHeartbeatVisibilityPatch at hchannel ⊢
    rw [hsame]
    exact hchannel
  | some channel =>
    obtain ⟨heartbeat, rfl, hdefaults, -⟩ := channelPatch_eq_some hchannel
    refine channelPatch_eq_none fun f hf => ?_
    obtain ⟨value, hvalue⟩ := Option.isSome_iff_exists.mp (hdefaults f hf)
    refine Json.follow_merge_isSome (Option.isSome_iff_exists.mpr ⟨value, ?_⟩)
    refine Json.follow_cons_eq_some.mpr ⟨_, .obj [("defaults", .obj [("heartbeat", .obj heartbeat)])], rfl, ?_, ?_⟩
    · exact (lookup_patchFields _ _ _ _).trans ((if_neg (by decide)).trans ((if_pos rfl).trans hchannel))
    · exact Json.follow_cons_eq_some.mpr ⟨_, _, rfl, rfl, Json.follow_cons_eq_some.mpr ⟨_, _, rfl, rfl,
        Json.follow_cons_eq_some.mpr ⟨_, _, rfl, hvalue, rfl⟩⟩⟩

theorem execHost_patchedDoc {host : Json} (hfollow : Json.follow ["tools", "exec", "host"] (.obj fields) = some host)
    (htruthy : host.truthy = true) : Json.follow ["tools", "exec", "host"] (patchedDoc fields newList) = some host := by
  have hsame : (patchedDoc fields newList).get? "tools" = (Json.obj fields).get? "tools" := by
    refine get?_patchedDoc ?_
    rw [lookup_patchFields, if_neg (by decide), if_neg (by decide), if_pos rfl]
    exact toolsPatch_eq_none.mpr ⟨host, hfollow, htruthy⟩
  rw [Json.follow_cons, hsame]
  exact hfollow

theorem toolsPatch_patchedDoc : toolsExecHostPatch (patchedDoc fields newList) = none := by
  cases htool : toolsExecHostPatch (.obj fields) with
  | none =>
    obtain ⟨host, hfollow, htruthy⟩ := toolsPatch_eq_none.mp htool
    exact toolsPatch_eq_none.mpr ⟨host, execHost_patchedDoc hfollow htruthy, htruthy⟩
  | some tool =>
    obtain rfl := toolsPatch_eq_some htool
    refine toolsPatch_eq_none.mpr ⟨.str "gateway", ?_, by decide⟩
    refine Json.follow_merge_leaf nofun (Json.follow_cons_eq_some.mpr ⟨_, .obj [("exec", .obj [("host", .str "gateway")])],
      rfl, ?_, rfl⟩)
    exact (lookup_patchFields _ _ _ _).trans
      ((if_neg (by decide)).trans ((if_neg (by decide)).trans ((if_pos rfl).trans htool)))

end Patched

/-- A patch that is applied makes the configuration as it is asked for. -/
theorem converges_patched (hread : ReadsAs cfg doc list) {patch : Json}
    (hpatch : heartbeatPatch (heartbeatEntryMap entries) list doc = some patch)
    (hcalls : docAfter doc calls = doc.merge patch) : Converges Eq entries doc list calls := by
  obtain ⟨⟨fields, rfl⟩, -⟩ := hread.document
  have hnodup := nodup_heartbeatEntryMap entries
  obtain rfl : Json.obj (patchFields (updatedAgentList list (heartbeatEntryMap entries))
      (channelHeartbeatVisibilityPatch (.obj fields)) (toolsExecHostPatch (.obj fields))) = patch := by
    unfold heartbeatPatch at hpatch
    split at hpatch
    · cases hpatch
    · exact Option.some.inj hpatch
  generalize hnew : updatedAgentList list (heartbeatEntryMap entries) = newList at hpatch hcalls
  change docAfter _ calls = patchedDoc fields newList at hcalls
  have hunpatched : heartbeatPatch (heartbeatEntryMap entries) newList (patchedDoc fields newList) = none := by
    unfold heartbeatPatch
    refine if_pos ⟨Json.same_iff.mpr ?_, channelPatch_patchedDoc, toolsPatch_patchedDoc⟩
    rw [← hnew, updatedAgentList_twice hnodup]
  obtain ⟨fields', hobject⟩ : ∃ fields', patchedDoc fields newList = .obj fields' := ⟨_, by rw [patchedDoc, Json.merge]⟩
  have hlist : agentsList (.obj fields') = .ok newList := hobject ▸ agentsList_patchedDoc
  have hsame : ∀ {cfg list'}, ReadsAs cfg (patchedDoc fields newList) list' → list' = newList := fun h =>
    Except.ok.inj (h.document.2.symm.trans agentsList_patchedDoc)
  refine ⟨⟨_, newList, by rw [hcalls, hobject]; exact readsAs_config hlist⟩, fun cfg' list' h => ?_,
    fun cfg' list' h => ?_, fun path v hv hfollow hwritten => ?_,
    fun host hfollow htruthy => by rw [hcalls]; exact execHost_patchedDoc hfollow htruthy,
    fun oracle' cfg' list' hanswer h => ?_⟩
  · rw [hcalls] at h
    rw [hsame h, ← hnew]
    exact updatedAgentList_requested hnodup
  · rw [hcalls] at h
    rw [hsame h, ← hnew]
    exact updatedAgentList_others hnodup
  · have hne : path ≠ [] := by
      rintro rfl
      exact hv fields (Option.some.inj hfollow).symm
    rw [hcalls]
    exact Json.follow_merge_of_agrees hv hfollow (agrees_patchFields hfollow hwritten hne)
  · rw [hcalls] at h
    rw [hsame h] at h
    exact noPatch_of_none hanswer h hunpatched

theorem Converges.mono {sameHeartbeat sameHeartbeat' : Json → Json → Prop}
    (h : Converges sameHeartbeat entries doc list calls) (hmono : ∀ a b, sameHeartbeat a b → sameHeartbeat' a b) :
    Converges sameHeartbeat' entries doc list calls := by
  refine ⟨h.readable, fun cfg' list' hreads entry hentry => ?_, h.others, h.settings, h.execHost, h.again⟩
  obtain ⟨hexists, hall⟩ := h.requested cfg' list' hreads entry hentry
  refine ⟨hexists, fun raw hraw hid => ?_⟩
  obtain ⟨hworkspace, heartbeat, hheartbeat, hsame⟩ := hall raw hraw hid
  exact ⟨hworkspace, heartbeat, hheartbeat, hmono _ _ hsame⟩

theorem docAfter_append {rest : List GatewayCall} (h : NoPatch calls) :
    docAfter doc (calls ++ rest) = docAfter doc rest := by
  induction calls with
  | nil => rfl
  | cons c calls ih =>
    have hrest := ih fun patch hash hmem => h patch hash (List.mem_cons_of_mem c hmem)
    cases c with
    | configPatch patch hash => exact absurd List.mem_cons_self (h patch hash)
    | _ => exact hrest

/-- **Patching converges**: the agents have what is asked for, nothing else has changed, and no patch is sent again. -/
theorem patchAgentHeartbeats_converges (hanswer : (oracle .configGet).answer = .ok cfg) (hread : ReadsAs cfg doc list)
    (hdone : ∀ patch hash, (oracle (.configPatch patch hash)).done = true) :
    Converges (fun a b => a.same b = true) entries doc list (patchAgentHeartbeats entries oracle).2 := by
  obtain ⟨hash, hconfig⟩ := hread
  have hget : NoPatch (if (oracle .configGet).done = true then [GatewayCall.configGet] else []) := by
    intro patch hash hmem
    split at hmem
    · exact absurd (List.mem_singleton.mp hmem) nofun
    · cases hmem
  have hcalls : (patchAgentHeartbeats entries oracle).2 = _ := patchAgentHeartbeats_calls hanswer hconfig
  cases hpatch : heartbeatPatch (heartbeatEntryMap entries) list doc with
  | none =>
    refine converges_unpatched ⟨hash, hconfig⟩ hpatch ?_
    rw [hcalls, hpatch, docAfter_append hget]
    rfl
  | some patch =>
    refine (converges_patched ⟨hash, hconfig⟩ hpatch ?_).mono fun a b hab => Json.same_iff.mpr (by rw [hab])
    rw [hcalls, hpatch, docAfter_append hget]
    dsimp only
    rw [hdone patch hash]
    rfl

end Converges

namespace Sample

def heartbeatOf (value : Json) : HeartbeatEntry := ⟨"a", "/w", .obj [("includeReasoning", value)]⟩

def numberDoc : List (String × Json) :=
  [("agents", .obj [("list", .arr [newEntry (heartbeatOf (.int 1))])]),
    ("channels", .obj [("defaults", .obj [("heartbeat", .obj defaultChannelHeartbeatVisibility)])]),
    ("tools", .obj [("exec", .obj [("host", .str "gateway")])])]

def configGateway (doc : List (String × Json)) : Gateway
  | .configGet => ⟨true, .ok (.obj [("config", .obj doc)])⟩
  | _ => ⟨true, .ok .null⟩

theorem readsAs_numberDoc : ReadsAs (.obj [("config", .obj numberDoc)]) (.obj numberDoc) [newEntry (heartbeatOf (.int 1))] :=
  readsAs_config rfl

end Sample

open Sample in
theorem patchAgentHeartbeats_converges_numberDoc :
    Converges (fun a b => a.same b = true) [heartbeatOf (.bool true)] (.obj numberDoc) [newEntry (heartbeatOf (.int 1))]
      (patchAgentHeartbeats [heartbeatOf (.bool true)] (configGateway numberDoc)).2 :=
  patchAgentHeartbeats_converges rfl readsAs_numberDoc fun _ _ => rfl

open Sample in
/-- A heartbeat that is equal in Python is not patched, though it is another value in JSON. -/
theorem not_converges_eq : ¬ ∀ (entries : List HeartbeatEntry) (oracle : Gateway) (cfg doc : Json) (list : List Json),
    (oracle .configGet).answer = .ok cfg → ReadsAs cfg doc list →
      (∀ patch hash, (oracle (.configPatch patch hash)).done = true) →
        Converges Eq entries doc list (patchAgentHeartbeats entries oracle).2 := by
  intro h
  have hconverges := h [heartbeatOf (.bool true)] (configGateway numberDoc) _ _ _ rfl readsAs_numberDoc fun _ _ => rfl
  have hnone : heartbeatPatch (heartbeatEntryMap [heartbeatOf (.bool true)]) [newEntry (heartbeatOf (.int 1))]
      (.obj numberDoc) = none := by decide
  obtain ⟨hash, hconfig⟩ := readsAs_numberDoc
  have hcalls : (patchAgentHeartbeats [heartbeatOf (.bool true)] (configGateway numberDoc)).2 = _ :=
    patchAgentHeartbeats_calls rfl hconfig
  rw [hnone] at hcalls
  have hdoc : docAfter (.obj numberDoc) (patchAgentHeartbeats [heartbeatOf (.bool true)] (configGateway numberDoc)).2 =
      .obj numberDoc := by
    rw [hcalls]
    rfl
  have hrequested := hconverges.requested _ _ (hdoc ▸ readsAs_numberDoc) (heartbeatOf (.bool true))
    (List.mem_singleton_self _)
  obtain ⟨-, heartbeat, hheartbeat, heq⟩ := hrequested.2 _ List.mem_cons_self rfl
  obtain rfl := Option.some.inj (hheartbeat.symm.trans (show _ = some (Json.obj [("includeReasoning", .int 1)]) from rfl))
  exact absurd heq (by decide)

end SiloForge
