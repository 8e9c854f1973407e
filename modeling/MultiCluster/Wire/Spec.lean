import MultiCluster.Json.Tagged
import MultiCluster.App
import MultiCluster.Wire.App

namespace MultiCluster

open Json

def Spec.fields :
    Fields [String, String, String, Option String, Option TemplateVersionId, List Target,
      List Answer, List Member, List String, UInt32, Option UpgradeStrategy, Dict String,
      Dict String, Bool, Option RevisionId] :=
  .cons (.required "name" Codec.text) <|
  .cons (.required "catalog_name" Codec.text) <|
  .cons (.required "template_name" Codec.text) <|
  .cons (.optional "template_version" Codec.text) <|
  .cons (.optional "template_version_id" TemplateVersionId.codec) <|
  .cons (.required "targets" Target.codec.list) <|
  .cons (.withDefault "answers" Answer.codec.list []) <|
  .cons (.withDefault "members" Member.codec.list []) <|
  .cons (.required "roles" Codec.text.list) <|
  .cons (.withDefault "revision_history_limit" Codec.word 10) <|
  .cons (.optional "upgrade_strategy" UpgradeStrategy.codec) <|
  .cons (.withDefault "labels" Codec.text.dict .empty) <|
  .cons (.withDefault "annotations" Codec.text.dict .empty) <|
  .cons (.withDefault "wait" Codec.bool true) <|
  .cons (.optional "revision_id" RevisionId.codec) .nil

def Spec.toRow (s : Spec) :
    Row [String, String, String, Option String, Option TemplateVersionId, List Target,
      List Answer, List Member, List String, UInt32, Option UpgradeStrategy, Dict String,
      Dict String, Bool, Option RevisionId] :=
  (s.name, s.catalog, s.template, s.version, s.templateVersion, s.targets, s.answers, s.members,
    s.roles, s.revisionHistoryLimit, s.upgradeStrategy, s.labels, s.annotations, s.wait,
    s.revision, ())

def Spec.ofRow :
    Row [String, String, String, Option String, Option TemplateVersionId, List Target,
      List Answer, List Member, List String, UInt32, Option UpgradeStrategy, Dict String,
      Dict String, Bool, Option RevisionId] → Spec :=
  fun (name, catalog, template, version, templateVersion, targets, answers, members, roles,
      revisionHistoryLimit, upgradeStrategy, labels, annotations, wait, revision, ()) =>
    { name, catalog, template, version, templateVersion, targets, answers, members, roles,
      revisionHistoryLimit, upgradeStrategy, labels, annotations, wait, revision }

def Spec.codec : Codec Spec := .record "struct MultiClusterAppSpec" fields toRow ofRow

def AppRecord.codec : Codec AppRecord where
  encode r := .object (("id", AppId.codec.encode r.id) :: Spec.fields.encode r.spec.toRow)
  decode route d :=
    match d with
    | .object members =>
      match takeOutRequired "id" (AppId.codec.decode route) members with
      | .ok (id, others) =>
        (Spec.fields.decodeObject .kept others).map fun row => ⟨id, Spec.ofRow row⟩
      | .error e => .error e
    | d => .error (d.unlike "struct AppRecord")

end MultiCluster
