import MultiCluster.Api.Effect
import MultiCluster.Json.Tagged
import MultiCluster.Wire.App

namespace MultiCluster

open Json

namespace Effect

def appFields : Fields [AppId] := .cons (.required "id" AppId.codec) .nil

def createFields : Fields [App] := .cons (.required "app" App.codec) .nil

def updateFields : Fields [AppId, AppUpdate] :=
  .cons (.required "id" AppId.codec) <| .cons (.required "update" AppUpdate.codec) .nil

def rollbackFields : Fields [AppId, RevisionId] :=
  .cons (.required "id" AppId.codec) <| .cons (.required "revision_id" RevisionId.codec) .nil

def projectsFields : Fields [AppId, TargetsInput] :=
  .cons (.required "id" AppId.codec) <| .cons (.required "input" TargetsInput.codec) .nil

def templateFields : Fields [TemplateId] := .cons (.required "id" TemplateId.codec) .nil

def templateVersionFields : Fields [TemplateVersionId] :=
  .cons (.required "id" TemplateVersionId.codec) .nil

def childAppFields : Fields [ProjectId, ChildAppId] :=
  .cons (.required "project_id" ProjectId.codec) <|
  .cons (.required "id" ChildAppId.codec) .nil

def variants : List (Variant Effect) :=
  [⟨"get_app", "struct variant ManagementEffect::GetApp", _, appFields,
      fun (id, ()) => getApp id⟩,
    ⟨"create_app", "struct variant ManagementEffect::CreateApp", _, createFields,
      fun (app, ()) => createApp app⟩,
    ⟨"update_app", "struct variant ManagementEffect::UpdateApp", _, updateFields,
      fun (id, update, ()) => updateApp id update⟩,
    ⟨"delete_app", "struct variant ManagementEffect::DeleteApp", _, appFields,
      fun (id, ()) => deleteApp id⟩,
    ⟨"rollback", "struct variant ManagementEffect::Rollback", _, rollbackFields,
      fun (id, revision, ()) => rollback id revision⟩,
    ⟨"add_projects", "struct variant ManagementEffect::AddProjects", _, projectsFields,
      fun (id, input, ()) => addProjects id input⟩,
    ⟨"remove_projects", "struct variant ManagementEffect::RemoveProjects", _, projectsFields,
      fun (id, input, ()) => removeProjects id input⟩,
    ⟨"get_template", "struct variant ManagementEffect::GetTemplate", _, templateFields,
      fun (id, ()) => getTemplate id⟩,
    ⟨"get_template_version", "struct variant ManagementEffect::GetTemplateVersion", _,
      templateVersionFields, fun (id, ()) => getTemplateVersion id⟩,
    ⟨"get_project_app", "struct variant ManagementEffect::GetProjectApp", _, childAppFields,
      fun (project, id, ()) => getChildApp project id⟩]

def parts : Effect → String × List (String × Value)
  | getApp id => ("get_app", appFields.encode (id, ()))
  | createApp app => ("create_app", createFields.encode (app, ()))
  | updateApp id update => ("update_app", updateFields.encode (id, update, ()))
  | deleteApp id => ("delete_app", appFields.encode (id, ()))
  | rollback id revision => ("rollback", rollbackFields.encode (id, revision, ()))
  | addProjects id input => ("add_projects", projectsFields.encode (id, input, ()))
  | removeProjects id input => ("remove_projects", projectsFields.encode (id, input, ()))
  | getTemplate id => ("get_template", templateFields.encode (id, ()))
  | getTemplateVersion id => ("get_template_version", templateVersionFields.encode (id, ()))
  | getChildApp project id => ("get_project_app", childAppFields.encode (project, id, ()))

def shape : Beside Effect := ⟨"internally tagged enum ManagementEffect", "type", variants⟩

def codec : Codec Effect where
  encode e := .object ((shape.tagKey, .str e.parts.1) :: e.parts.2)
  decode _ := shape.decode

end Effect

namespace Response

def kinds : List (Kind Response) :=
  [⟨"app", .of App.codec app⟩,
    ⟨"deleted", .nothing "unit variant ManagementResponse::Deleted" deleted⟩,
    ⟨"action_accepted", .nothing "unit variant ManagementResponse::ActionAccepted" actionAccepted⟩,
    ⟨"template", .of Template.codec template⟩,
    ⟨"template_version", .of TemplateVersion.codec templateVersion⟩,
    ⟨"project_app", .of ChildApp.codec childApp⟩]

def parts : Response → String × Option Value
  | app a => ("app", some (App.codec.encode a))
  | deleted => ("deleted", none)
  | actionAccepted => ("action_accepted", none)
  | template t => ("template", some (Template.codec.encode t))
  | templateVersion v => ("template_version", some (TemplateVersion.codec.encode v))
  | childApp a => ("project_app", some (ChildApp.codec.encode a))

def shape : Adjacent Response :=
  ⟨"adjacently tagged enum ManagementResponse", "type", "data", kinds⟩

def codec : Codec Response where
  encode r :=
    let (tag, content) := r.parts
    .object ((shape.tagKey, .str tag) ::
      (content.map fun v => (shape.contentKey, v)).toList)
  decode _ := shape.decode

end Response

end MultiCluster
