import MultiCluster.Proofs.Json.Tags
import MultiCluster.Wire.Effect
import MultiCluster.Wire.Spec

namespace MultiCluster

open Json

def App.withoutStates (a : App) : App := { a with targets := a.targets.map Target.withoutState }

def Spec.withoutStates (s : Spec) : Spec := { s with targets := s.targets.map Target.withoutState }

def AppRecord.withoutStates (r : AppRecord) : AppRecord := { r with spec := r.spec.withoutStates }

def Effect.withoutStates : Effect → Effect
  | createApp app => createApp app.withoutStates
  | e => e

def Response.withoutStates : Response → Response
  | app a => app a.withoutStates
  | r => r

variable {room : Nat}

theorem AppId.faithful : AppId.codec.Faithful id room := Codec.faithful_text.wrapped fun _ => rfl

theorem InstanceId.faithful : InstanceId.codec.Faithful id room :=
  Codec.faithful_text.wrapped fun _ => rfl

theorem TemplateId.faithful : TemplateId.codec.Faithful id room :=
  Codec.faithful_text.wrapped fun _ => rfl

theorem TemplateVersionId.faithful : TemplateVersionId.codec.Faithful id room :=
  Codec.faithful_text.wrapped fun _ => rfl

theorem RevisionId.faithful : RevisionId.codec.Faithful id room :=
  Codec.faithful_text.wrapped fun _ => rfl

theorem ProjectId.faithful : ProjectId.codec.Faithful id room :=
  Codec.faithful_text.wrapped fun _ => rfl

theorem ChildAppId.faithful : ChildAppId.codec.Faithful id room :=
  Codec.faithful_text.wrapped fun _ => rfl

theorem Target.faithful : Target.codec.Faithful withoutState (room + 1) := by
  have hfields : fields.Faithful room _ :=
    .cons (Field.faithful_required "projectId" ProjectId.faithful) (by decide) <|
    .cons (Field.faithful_optional "appId" InstanceId.faithful) (by decide) <|
    .cons (Field.faithful_hidden "state") (by decide) .nil
  exact Codec.faithful_record "struct Target" hfields (fun _ => rfl) fun _ => rfl

theorem Answer.faithful : Answer.codec.Faithful id (room + 2) := by
  have hfields : fields.Faithful (room + 1) _ :=
    .cons (Field.faithful_optional "clusterId" Codec.faithful_text) (by decide) <|
    .cons (Field.faithful_optional "projectId" ProjectId.faithful) (by decide) <|
    .cons (Field.faithful_withDefault "values" Codec.faithful_text.dict .empty) (by decide) .nil
  exact Codec.faithful_record "struct Answer" hfields (fun _ => rfl) fun _ => rfl

theorem Member.faithful : Member.codec.Faithful id (room + 1) := by
  have hfields : fields.Faithful room _ :=
    .cons (Field.faithful_optional "accessType" Codec.faithful_text) (by decide) <|
    .cons (Field.faithful_optional "groupPrincipalId" Codec.faithful_text) (by decide) <|
    .cons (Field.faithful_optional "userPrincipalId" Codec.faithful_text) (by decide) .nil
  exact Codec.faithful_record "struct Member" hfields (fun _ => rfl) fun _ => rfl

theorem RollingUpdate.faithful : RollingUpdate.codec.Faithful id (room + 1) := by
  have hfields : fields.Faithful room _ :=
    .cons (Field.faithful_withDefault "batchSize" Codec.faithful_word 0) (by decide) <|
    .cons (Field.faithful_withDefault "interval" Codec.faithful_word 0) (by decide) .nil
  exact Codec.faithful_record "struct RollingUpdate" hfields (fun _ => rfl) fun _ => rfl

theorem UpgradeStrategy.faithful : UpgradeStrategy.codec.Faithful id (room + 2) := by
  have hfields : fields.Faithful (room + 1) _ :=
    .cons (Field.faithful_optional "rollingUpdate" RollingUpdate.faithful) (by decide) .nil
  exact Codec.faithful_record "struct UpgradeStrategy" hfields (fun _ => rfl) fun _ => rfl

theorem AppStatus.faithful : AppStatus.codec.Faithful id (room + 1) := by
  have hfields : fields.Faithful room _ :=
    .cons (Field.faithful_optional "revisionId" RevisionId.faithful) (by decide) .nil
  exact Codec.faithful_record "struct MultiClusterAppStatus" hfields (fun _ => rfl) fun _ => rfl

theorem App.faithful : App.codec.Faithful withoutStates (room + 4) := by
  have hfields : fields.Faithful (room + 3) _ :=
    .cons (Field.faithful_optional "id" AppId.faithful) (by decide) <|
    .cons (Field.faithful_required "name" Codec.faithful_text) (by decide) <|
    .cons (Field.faithful_optional "state" Codec.faithful_text) (by decide) <|
    .cons (Field.faithful_withDefault "targets" Target.faithful.list []) (by decide) <|
    .cons (Field.faithful_withDefault "answers" Answer.faithful.listOfPlain []) (by decide) <|
    .cons (Field.faithful_required "templateVersionId" TemplateVersionId.faithful) (by decide) <|
    .cons (Field.faithful_withDefault "members" Member.faithful.listOfPlain []) (by decide) <|
    .cons (Field.faithful_withDefault "roles" Codec.faithful_text.listOfPlain []) (by decide) <|
    .cons (Field.faithful_withDefault "revisionHistoryLimit" Codec.faithful_word 0) (by decide) <|
    .cons (Field.faithful_optional "upgradeStrategy" UpgradeStrategy.faithful) (by decide) <|
    .cons (Field.faithful_withDefault "labels" Codec.faithful_text.dict .empty) (by decide) <|
    .cons (Field.faithful_withDefault "annotations" Codec.faithful_text.dict .empty) (by decide) <|
    .cons (Field.faithful_optional "status" AppStatus.faithful) (by decide) .nil
  exact Codec.faithful_record "struct MultiClusterApp" hfields (fun _ => rfl) fun _ => rfl

theorem Template.faithful : Template.codec.Faithful (fun t => t) (room + 2) := by
  have hfields : fields.Faithful (room + 1) _ :=
    .cons (Field.faithful_required "id" TemplateId.faithful) (by decide) <|
    .cons (Field.faithful_withDefault "versionLinks" Codec.faithful_text.dict .empty) (by decide) .nil
  exact Codec.faithful_record "struct Template" hfields (fun _ => rfl) fun _ => rfl

theorem TemplateVersion.faithful : TemplateVersion.codec.Faithful (fun v => v) (room + 1) := by
  have hfields : fields.Faithful room _ :=
    .cons (Field.faithful_required "id" TemplateVersionId.faithful) (by decide) <|
    .cons (Field.faithful_withDefault "externalId" Codec.faithful_text "") (by decide) .nil
  exact Codec.faithful_record "struct TemplateVersion" hfields (fun _ => rfl) fun _ => rfl

theorem ChildApp.faithful : ChildApp.codec.Faithful (fun a => a) (room + 1) := by
  have hfields : fields.Faithful room _ :=
    .cons (Field.faithful_required "id" ChildAppId.faithful) (by decide) <|
    .cons (Field.faithful_withDefault "state" Codec.faithful_text "") (by decide) .nil
  exact Codec.faithful_record "struct ProjectApp" hfields (fun _ => rfl) fun _ => rfl

theorem TargetsInput.faithful : TargetsInput.codec.Faithful id (room + 4) := by
  have hfields : fields.Faithful (room + 3) _ :=
    .cons (Field.faithful_required "projects" ProjectId.faithful.listOfPlain) (by decide) <|
    .cons (Field.faithful_withDefault "answers" Answer.faithful.listOfPlain []) (by decide) .nil
  exact Codec.faithful_record "struct TargetsInput" hfields (fun _ => rfl) fun _ => rfl

theorem AppUpdate.faithful : AppUpdate.codec.Faithful id (room + 4) := by
  have hfields : fields.Faithful (room + 3) _ :=
    .cons (Field.faithful_required "answers" Answer.faithful.listOfPlain) (by decide) <|
    .cons (Field.faithful_required "members" Member.faithful.listOfPlain) (by decide) <|
    .cons (Field.faithful_required "revisionHistoryLimit" Codec.faithful_word) (by decide) <|
    .cons (Field.faithful_required "roles" Codec.faithful_text.listOfPlain) (by decide) <|
    .cons (Field.faithful_required "templateVersionId" TemplateVersionId.faithful) (by decide) <|
    .cons (Field.faithful_optional "upgradeStrategy" UpgradeStrategy.faithful) (by decide) <|
    .cons (Field.faithful_required "annotations" Codec.faithful_text.dict) (by decide) <|
    .cons (Field.faithful_required "labels" Codec.faithful_text.dict) (by decide) .nil
  exact Codec.faithful_record "struct AppUpdate" hfields (fun _ => rfl) fun _ => rfl

theorem Spec.faithful_fields :
    Spec.fields.Faithful (room + 3) fun row => (Spec.ofRow row).withoutStates.toRow := by
  have hfields : Spec.fields.Faithful (room + 3) _ :=
    .cons (Field.faithful_required "name" Codec.faithful_text) (by decide) <|
    .cons (Field.faithful_required "catalog_name" Codec.faithful_text) (by decide) <|
    .cons (Field.faithful_required "template_name" Codec.faithful_text) (by decide) <|
    .cons (Field.faithful_optional "template_version" Codec.faithful_text) (by decide) <|
    .cons (Field.faithful_optional "template_version_id" TemplateVersionId.faithful) (by decide) <|
    .cons (Field.faithful_required "targets" Target.faithful.list) (by decide) <|
    .cons (Field.faithful_withDefault "answers" Answer.faithful.listOfPlain []) (by decide) <|
    .cons (Field.faithful_withDefault "members" Member.faithful.listOfPlain []) (by decide) <|
    .cons (Field.faithful_required "roles" Codec.faithful_text.listOfPlain) (by decide) <|
    .cons (Field.faithful_withDefault "revision_history_limit" Codec.faithful_word 10) (by decide) <|
    .cons (Field.faithful_optional "upgrade_strategy" UpgradeStrategy.faithful) (by decide) <|
    .cons (Field.faithful_withDefault "labels" Codec.faithful_text.dict .empty) (by decide) <|
    .cons (Field.faithful_withDefault "annotations" Codec.faithful_text.dict .empty) (by decide) <|
    .cons (Field.faithful_withDefault "wait" Codec.faithful_bool true) (by decide) <|
    .cons (Field.faithful_optional "revision_id" RevisionId.faithful) (by decide) .nil
  exact hfields

theorem Spec.faithful : Spec.codec.Faithful withoutStates (room + 4) :=
  Codec.faithful_record "struct MultiClusterAppSpec" Spec.faithful_fields (fun _ => rfl) fun _ => rfl

theorem AppRecord.faithful : AppRecord.codec.Faithful withoutStates (room + 4) where
  within r := by
    simp only [codec, Value.Within, Value.MembersWithin, Value.membersWithin_iff]
    exact ⟨AppId.faithful.within r.id, Spec.faithful_fields.within r.spec.toRow⟩
  notNull _ := by simp [codec]
  decode_encode route r := by
    have hfields : Spec.fields.Faithful innerRoom _ := Spec.faithful_fields
    have hfresh : "id" ∉ Spec.fields.names := by decide
    have hid : AppId.codec.decode route (AppId.codec.encode r.id).doc = .ok r.id := rfl
    have htaken := hfields.takeOutRequired hfresh hid r.spec.toRow
    simp only [codec, Value.doc, htaken, hfields.decodeObject]
    rfl
  encode_kept r := by
    have hspec : Spec.fields.encode r.spec.withoutStates.toRow = Spec.fields.encode r.spec.toRow :=
      (@Spec.faithful_fields 0).encode_kept r.spec.toRow
    simp only [codec, withoutStates, hspec]

namespace Effect

theorem faithful_appFields : appFields.Faithful room id :=
  .cons (Field.faithful_required "id" AppId.faithful) (by decide) .nil

theorem faithful_createFields :
    createFields.Faithful (room + 4) fun row => (row.1.withoutStates, row.2) :=
  .cons (Field.faithful_required "app" App.faithful) (by decide) .nil

theorem faithful_updateFields : updateFields.Faithful (room + 4) id :=
  .cons (Field.faithful_required "id" AppId.faithful) (by decide) <|
  .cons (Field.faithful_required "update" AppUpdate.faithful) (by decide) .nil

theorem faithful_rollbackFields : rollbackFields.Faithful room id :=
  .cons (Field.faithful_required "id" AppId.faithful) (by decide) <|
  .cons (Field.faithful_required "revision_id" RevisionId.faithful) (by decide) .nil

theorem faithful_projectsFields : projectsFields.Faithful (room + 4) id :=
  .cons (Field.faithful_required "id" AppId.faithful) (by decide) <|
  .cons (Field.faithful_required "input" TargetsInput.faithful) (by decide) .nil

theorem faithful_templateFields : templateFields.Faithful room id :=
  .cons (Field.faithful_required "id" TemplateId.faithful) (by decide) .nil

theorem faithful_templateVersionFields : templateVersionFields.Faithful room id :=
  .cons (Field.faithful_required "id" TemplateVersionId.faithful) (by decide) .nil

theorem faithful_childAppFields : childAppFields.Faithful room id :=
  .cons (Field.faithful_required "project_id" ProjectId.faithful) (by decide) <|
  .cons (Field.faithful_required "id" ChildAppId.faithful) (by decide) .nil

theorem within_parts (e : Effect) : ∀ m ∈ e.parts.2, m.2.Within (room + 4) := by
  cases e with
  | getApp id => exact faithful_appFields.within (id, ())
  | createApp app => exact faithful_createFields.within (app, ())
  | updateApp id update => exact faithful_updateFields.within (id, update, ())
  | deleteApp id => exact faithful_appFields.within (id, ())
  | rollback id revision => exact faithful_rollbackFields.within (id, revision, ())
  | addProjects id input => exact faithful_projectsFields.within (id, input, ())
  | removeProjects id input => exact faithful_projectsFields.within (id, input, ())
  | getTemplate id => exact faithful_templateFields.within (id, ())
  | getTemplateVersion id => exact faithful_templateVersionFields.within (id, ())
  | getChildApp project id => exact faithful_childAppFields.within (project, id, ())

theorem decode_parts (e : Effect) :
    shape.decode (Value.object ((shape.tagKey, .str e.parts.1) :: e.parts.2)).doc =
      .ok e.withoutStates := by
  cases e with
  | getApp id => exact shape.decode_tagged (v := variants[0]) rfl faithful_appFields (by decide) (id, ())
  | createApp app =>
    exact shape.decode_tagged (v := variants[1]) rfl faithful_createFields (by decide) (app, ())
  | updateApp id update =>
    exact shape.decode_tagged (v := variants[2]) rfl faithful_updateFields (by decide) (id, update, ())
  | deleteApp id => exact shape.decode_tagged (v := variants[3]) rfl faithful_appFields (by decide) (id, ())
  | rollback id revision =>
    exact shape.decode_tagged (v := variants[4]) rfl faithful_rollbackFields (by decide) (id, revision, ())
  | addProjects id input =>
    exact shape.decode_tagged (v := variants[5]) rfl faithful_projectsFields (by decide) (id, input, ())
  | removeProjects id input =>
    exact shape.decode_tagged (v := variants[6]) rfl faithful_projectsFields (by decide) (id, input, ())
  | getTemplate id =>
    exact shape.decode_tagged (v := variants[7]) rfl faithful_templateFields (by decide) (id, ())
  | getTemplateVersion id =>
    exact shape.decode_tagged (v := variants[8]) rfl faithful_templateVersionFields (by decide) (id, ())
  | getChildApp project id =>
    exact shape.decode_tagged (v := variants[9]) rfl faithful_childAppFields (by decide) (project, id, ())

theorem faithful : codec.Faithful withoutStates (room + 5) where
  within e := by
    simp only [codec, Value.Within, Value.MembersWithin, Value.membersWithin_iff, true_and]
    exact e.within_parts
  notNull _ := by simp [codec]
  decode_encode _ e := e.decode_parts
  encode_kept e := by
    cases e with
    | createApp app =>
      have hparts : (createApp app).withoutStates.parts = (createApp app).parts :=
        congrArg (Prod.mk "create_app") ((@faithful_createFields 0).encode_kept (app, ()))
      simp only [codec, hparts]
    | _ => rfl

end Effect

namespace Response

theorem faithful : codec.Faithful withoutStates (room + 5) where
  within r := by
    cases r with
    | app a => exact ⟨trivial, App.faithful.within a, trivial⟩
    | deleted => exact ⟨trivial, trivial⟩
    | actionAccepted => exact ⟨trivial, trivial⟩
    | template t => exact ⟨trivial, Template.faithful.within t, trivial⟩
    | templateVersion v => exact ⟨trivial, TemplateVersion.faithful.within v, trivial⟩
    | childApp a => exact ⟨trivial, ChildApp.faithful.within a, trivial⟩
  notNull _ := by simp [codec]
  decode_encode _ r := by
    cases r with
    | app a => exact shape.decode_carried (k := kinds[0]) (by decide) rfl rfl (@App.faithful 0) a
    | deleted => exact shape.decode_alone (k := kinds[1]) rfl rfl
    | actionAccepted => exact shape.decode_alone (k := kinds[2]) rfl rfl
    | template t =>
      exact shape.decode_carried (k := kinds[3]) (by decide) rfl rfl (@Template.faithful 0) t
    | templateVersion v =>
      exact shape.decode_carried (k := kinds[4]) (by decide) rfl rfl (@TemplateVersion.faithful 0) v
    | childApp a =>
      exact shape.decode_carried (k := kinds[5]) (by decide) rfl rfl (@ChildApp.faithful 0) a
  encode_kept r := by
    cases r with
    | app a =>
      have happ : App.codec.encode a.withoutStates = App.codec.encode a :=
        (@App.faithful 0).encode_kept a
      simp only [withoutStates, codec, parts, happ]
    | _ => rfl

end Response

theorem codecs_round_trip :
    App.codec.RoundTrips App.withoutStates ∧
    Target.codec.RoundTrips Target.withoutState ∧
    Answer.codec.RoundTrips id ∧
    Member.codec.RoundTrips id ∧
    UpgradeStrategy.codec.RoundTrips id ∧
    Spec.codec.RoundTrips Spec.withoutStates ∧
    AppRecord.codec.RoundTrips AppRecord.withoutStates ∧
    Template.codec.RoundTrips id ∧
    TemplateVersion.codec.RoundTrips id ∧
    ChildApp.codec.RoundTrips id ∧
    TargetsInput.codec.RoundTrips id ∧
    AppUpdate.codec.RoundTrips id ∧
    Effect.codec.RoundTrips Effect.withoutStates ∧
    Response.codec.RoundTrips Response.withoutStates :=
  ⟨(@App.faithful 0).roundTrips, (@Target.faithful 0).roundTrips,
    (@Answer.faithful 0).roundTrips, (@Member.faithful 0).roundTrips,
    (@UpgradeStrategy.faithful 0).roundTrips, (@Spec.faithful 0).roundTrips,
    (@AppRecord.faithful 0).roundTrips, (@Template.faithful 0).roundTrips,
    (@TemplateVersion.faithful 0).roundTrips, (@ChildApp.faithful 0).roundTrips,
    (@TargetsInput.faithful 0).roundTrips, (@AppUpdate.faithful 0).roundTrips,
    (@Effect.faithful 0).roundTrips, (@Response.faithful 0).roundTrips⟩

end MultiCluster
