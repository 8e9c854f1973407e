import MultiCluster.App
import MultiCluster.Json.Record
import MultiCluster.Target

namespace MultiCluster

open Json

def AppId.codec : Codec AppId := Codec.text.wrapped .mk text

def InstanceId.codec : Codec InstanceId := Codec.text.wrapped .mk text

def TemplateId.codec : Codec TemplateId := Codec.text.wrapped .mk text

def TemplateVersionId.codec : Codec TemplateVersionId := Codec.text.wrapped .mk text

def RevisionId.codec : Codec RevisionId := Codec.text.wrapped .mk text

def ProjectId.codec : Codec ProjectId := Codec.text.wrapped .mk text

def ChildAppId.codec : Codec ChildAppId := Codec.text.wrapped .mk text

def Target.fields : Fields [ProjectId, Option InstanceId, Option String] :=
  .cons (.required "projectId" ProjectId.codec) <|
  .cons (.optional "appId" InstanceId.codec) <|
  .cons (.hidden "state" Codec.text) .nil

def Target.codec : Codec Target :=
  .record "struct Target" fields (fun t => (t.project, t.instanceId, t.state, ()))
    fun (project, instanceId, state, ()) => ⟨project, instanceId, state⟩

def Answer.fields : Fields [Option String, Option ProjectId, Dict String] :=
  .cons (.optional "clusterId" Codec.text) <|
  .cons (.optional "projectId" ProjectId.codec) <|
  .cons (.withDefault "values" Codec.text.dict .empty) .nil

def Answer.codec : Codec Answer :=
  .record "struct Answer" fields (fun a => (a.cluster, a.project, a.values, ()))
    fun (cluster, project, values, ()) => ⟨cluster, project, values⟩

open Json

def Member.fields : Fields [Option String, Option String, Option String] :=
  .cons (.optional "accessType" Codec.text) <|
  .cons (.optional "groupPrincipalId" Codec.text) <|
  .cons (.optional "userPrincipalId" Codec.text) .nil

def Member.codec : Codec Member :=
  .record "struct Member" fields (fun m => (m.accessType, m.groupPrincipal, m.userPrincipal, ()))
    fun (accessType, groupPrincipal, userPrincipal, ()) =>
      ⟨accessType, groupPrincipal, userPrincipal⟩

def RollingUpdate.fields : Fields [UInt32, UInt32] :=
  .cons (.withDefault "batchSize" Codec.word 0) <|
  .cons (.withDefault "interval" Codec.word 0) .nil

def RollingUpdate.codec : Codec RollingUpdate :=
  .record "struct RollingUpdate" fields (fun r => (r.batchSize, r.interval, ()))
    fun (batchSize, interval, ()) => ⟨batchSize, interval⟩

def UpgradeStrategy.fields : Fields [Option RollingUpdate] :=
  .cons (.optional "rollingUpdate" RollingUpdate.codec) .nil

def UpgradeStrategy.codec : Codec UpgradeStrategy :=
  .record "struct UpgradeStrategy" fields (fun s => (s.rollingUpdate, ()))
    fun (rollingUpdate, ()) => ⟨rollingUpdate⟩

def AppStatus.fields : Fields [Option RevisionId] :=
  .cons (.optional "revisionId" RevisionId.codec) .nil

def AppStatus.codec : Codec AppStatus :=
  .record "struct MultiClusterAppStatus" fields (fun s => (s.revision, ()))
    fun (revision, ()) => ⟨revision⟩

def App.fields :
    Fields [Option AppId, String, Option String, List Target, List Answer, TemplateVersionId,
      List Member, List String, UInt32, Option UpgradeStrategy, Dict String, Dict String,
      Option AppStatus] :=
  .cons (.optional "id" AppId.codec) <|
  .cons (.required "name" Codec.text) <|
  .cons (.optional "state" Codec.text) <|
  .cons (.withDefault "targets" Target.codec.list []) <|
  .cons (.withDefault "answers" Answer.codec.list []) <|
  .cons (.required "templateVersionId" TemplateVersionId.codec) <|
  .cons (.withDefault "members" Member.codec.list []) <|
  .cons (.withDefault "roles" Codec.text.list []) <|
  .cons (.withDefault "revisionHistoryLimit" Codec.word 0) <|
  .cons (.optional "upgradeStrategy" UpgradeStrategy.codec) <|
  .cons (.withDefault "labels" Codec.text.dict .empty) <|
  .cons (.withDefault "annotations" Codec.text.dict .empty) <|
  .cons (.optional "status" AppStatus.codec) .nil

def App.codec : Codec App :=
  .record "struct MultiClusterApp" fields
    (fun a => (a.id, a.name, a.state, a.targets, a.answers, a.templateVersion, a.members, a.roles,
      a.revisionHistoryLimit, a.upgradeStrategy, a.labels, a.annotations, a.status, ()))
    fun (id, name, state, targets, answers, templateVersion, members, roles, revisionHistoryLimit,
        upgradeStrategy, labels, annotations, status, ()) =>
      { id, name, state, targets, answers, templateVersion, members, roles, revisionHistoryLimit,
        upgradeStrategy, labels, annotations, status }

def Template.fields : Fields [TemplateId, Dict String] :=
  .cons (.required "id" TemplateId.codec) <|
  .cons (.withDefault "versionLinks" Codec.text.dict .empty) .nil

def Template.codec : Codec Template :=
  .record "struct Template" fields (fun t => (t.id, t.versionLinks, ()))
    fun (id, versionLinks, ()) => ⟨id, versionLinks⟩

def TemplateVersion.fields : Fields [TemplateVersionId, String] :=
  .cons (.required "id" TemplateVersionId.codec) <|
  .cons (.withDefault "externalId" Codec.text "") .nil

def TemplateVersion.codec : Codec TemplateVersion :=
  .record "struct TemplateVersion" fields (fun v => (v.id, v.externalId, ()))
    fun (id, externalId, ()) => ⟨id, externalId⟩

def ChildApp.fields : Fields [ChildAppId, String] :=
  .cons (.required "id" ChildAppId.codec) <|
  .cons (.withDefault "state" Codec.text "") .nil

def ChildApp.codec : Codec ChildApp :=
  .record "struct ProjectApp" fields (fun a => (a.id, a.state, ()))
    fun (id, state, ()) => ⟨id, state⟩

def TargetsInput.fields : Fields [List ProjectId, List Answer] :=
  .cons (.required "projects" ProjectId.codec.list) <|
  .cons (.withDefault "answers" Answer.codec.list []) .nil

def TargetsInput.codec : Codec TargetsInput :=
  .record "struct TargetsInput" fields (fun i => (i.projects, i.answers, ()))
    fun (projects, answers, ()) => ⟨projects, answers⟩

def AppUpdate.fields :
    Fields [List Answer, List Member, UInt32, List String, TemplateVersionId,
      Option UpgradeStrategy, Dict String, Dict String] :=
  .cons (.required "answers" Answer.codec.list) <|
  .cons (.required "members" Member.codec.list) <|
  .cons (.required "revisionHistoryLimit" Codec.word) <|
  .cons (.required "roles" Codec.text.list) <|
  .cons (.required "templateVersionId" TemplateVersionId.codec) <|
  .cons (.optional "upgradeStrategy" UpgradeStrategy.codec) <|
  .cons (.required "annotations" Codec.text.dict) <|
  .cons (.required "labels" Codec.text.dict) .nil

def AppUpdate.codec : Codec AppUpdate :=
  .record "struct AppUpdate" fields
    (fun u => (u.answers, u.members, u.revisionHistoryLimit, u.roles, u.templateVersion,
      u.upgradeStrategy, u.annotations, u.labels, ()))
    fun (answers, members, revisionHistoryLimit, roles, templateVersion, upgradeStrategy,
        annotations, labels, ()) =>
      { answers, members, revisionHistoryLimit, roles, templateVersion, upgradeStrategy,
        annotations, labels }

end MultiCluster
