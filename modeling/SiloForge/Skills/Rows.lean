import SiloForge.Agents.Rows
import SiloForge.Skills.Urls

/-!
# The catalogue of skills

* `MarketplaceSkill` : a skill, once in an organization for each URL;
* `SkillPackRow` : the repository of a pack;
* `SkillsDb` : the tables of the marketplace.
-/

namespace SiloForge.Skills

open Lib

structure MarketplaceSkill where
  id : Uuid
  organizationId : Uuid
  name : String
  description : Option String := none
  category : Option String := none
  risk : Option String := none
  source : Option String := none
  sourceUrl : Url
  metadata : Json := .obj []
  createdAt : Time := 0
  updatedAt : Time := 0
  deriving DecidableEq

instance : Keyed MarketplaceSkill (Uuid × Url) := ⟨fun skill => (skill.organizationId, skill.sourceUrl)⟩

structure SkillPackRow where
  id : Uuid
  organizationId : Uuid
  name : String
  description : Option String := none
  sourceUrl : Url
  branch : String := "main"
  metadata : Json := .obj []
  createdAt : Time := 0
  updatedAt : Time := 0
  deriving DecidableEq

instance : Keyed SkillPackRow Uuid := ⟨SkillPackRow.id⟩

structure GatewayInstalledSkill where
  gatewayId : Uuid
  skillId : Uuid
  createdAt : Time := 0
  deriving DecidableEq

instance : Keyed GatewayInstalledSkill (Uuid × Uuid) := ⟨fun record => (record.gatewayId, record.skillId)⟩

structure SkillsDb where
  gateways : Table OrgGateway := ∅
  skills : Table MarketplaceSkill := ∅
  packs : Table SkillPackRow := ∅
  installed : Table GatewayInstalledSkill := ∅

def SkillsDb.skillsOf (db : SkillsDb) (organizationId : Uuid) : List MarketplaceSkill :=
  db.skills.rows.filter fun skill => skill.organizationId = organizationId

def requireGatewayForOrg (db : SkillsDb) (organizationId gatewayId : Uuid) : Except Failure OrgGateway :=
  orFail ((db.gateways.get? gatewayId).filter fun gateway => gateway.organizationId = organizationId)
    (.text 404 "Gateway not found")

def requireSkillPackForOrg (db : SkillsDb) (organizationId packId : Uuid) : Except Failure SkillPackRow :=
  orFail ((db.packs.get? packId).filter fun pack => pack.organizationId = organizationId)
    (.text 404 "Skill pack not found")

end SiloForge.Skills
