import MultiCluster.Api.Effect
import MultiCluster.Template.CatalogRef

namespace MultiCluster

structure Store where
  apps : Dict App
  templates : Dict Template
  templateVersions : Dict TemplateVersion
  childApps : Dict ChildApp
  queuedStates : Dict (List String)
  createStates : List String
  failures : Dict (List ApiError)
  lastNumber : UInt32
  keepsChildren : Bool
  keepsApps : Bool
  deriving DecidableEq, Repr

namespace Store

def empty : Store where
  apps := .empty
  templates := .empty
  templateVersions := .empty
  childApps := .empty
  queuedStates := .empty
  createStates := []
  failures := .empty
  lastNumber := 0
  keepsChildren := false
  keepsApps := false

def sampleApp : App where
  id := none
  name := "wordpress"
  state := some State.active
  targets := [(Target.declared ⟨"c-1:p-1"⟩).withInstance ⟨"mcapp-wordpress-1"⟩]
  answers := []
  templateVersion := Naming.templateVersionId "library" "wordpress" "7.3.8"
  members := []
  roles := ["project-member"]
  revisionHistoryLimit := 10
  upgradeStrategy := none
  labels := .empty
  annotations := .empty
  status := some ⟨some ⟨"apprevision-1"⟩⟩

def notFound (collection id : String) : ApiError :=
  .notFound (collection ++ " \"" ++ id ++ "\" not found")

def appNotFound (id : AppId) : ApiError := notFound "multiclusterapps" id.text

def nextId (s : Store) : AppId := ⟨"mcapp-" ++ toString (s.lastNumber + 1).toNat⟩

def instanceName (name : String) (id : AppId) (position : Nat) : InstanceId :=
  ⟨"mcapp-" ++ name ++ "-" ++ id.text ++ "-" ++ toString position⟩

def firstRevision (id : AppId) : RevisionId := ⟨"apprevision-" ++ id.text ++ "-1"⟩

def app? (s : Store) (id : AppId) : Option App := s.apps.find? id.text

def childApp? (s : Store) (id : ChildAppId) : Option ChildApp := s.childApps.find? id.text

def putApp (s : Store) (id : AppId) (app : App) : Store :=
  { s with apps := s.apps.insert id.text app }

def insertApp (s : Store) (app : App) : AppId × Store :=
  match app.id with
  | some id => (id, s.putApp id app)
  | none =>
    let id := s.nextId
    (id, { s with lastNumber := s.lastNumber + 1 }.putApp id { app with id := some id })

def insertChildApp (s : Store) (app : ChildApp) : Store :=
  { s with childApps := s.childApps.insert app.id.text app }

def externalId (catalog template version : String) : String :=
  "catalog://?catalog=" ++ Text.replaceChar ':' '/' catalog ++ "&template=" ++ template ++
    "&version=" ++ version

def publish (s : Store) (catalog template : String) (versions : List String) : Store :=
  let id := Naming.templateId catalog template
  let link (version : String) :=
    "https://rancher.example/v3/templateversions/" ++ id.text ++ "-" ++ version
  let published := versions.map fun version =>
    let versionId := Naming.templateVersionId catalog template version
    (⟨versionId, externalId catalog template version⟩ : TemplateVersion)
  { s with
    templates := s.templates.insert id.text
      ⟨id, .ofList (versions.map fun version => (version, link version))⟩
    templateVersions := published.foldl (fun d v => d.insert v.id.text v) s.templateVersions }

def queueStates (s : Store) (id : AppId) (states : List String) : Store :=
  { s with queuedStates := s.queuedStates.insert id.text states }

def queueFailure (s : Store) (operation : String) (error : ApiError) : Store :=
  { s with
    failures := s.failures.insert operation (((s.failures.find? operation).getD []) ++ [error]) }

def deployed (name : String) (id : AppId) : Nat → List Target → List Target
  | _, [] => []
  | position, t :: rest =>
    { t with instanceId := some (t.instanceId.getD (instanceName name id position)) } ::
      deployed name id (position + 1) rest

def childIds (targets : List Target) : List ChildAppId :=
  targets.filterMap fun t => t.instanceId.map (ChildAppId.of t.project)

def install (children : Dict ChildApp) (ids : List ChildAppId) : Dict ChildApp :=
  ids.foldl (fun d id =>
    match d.find? id.text with
    | some _ => d
    | none => d.insert id.text ⟨id, State.active⟩) children

def uninstall (children : Dict ChildApp) (ids : List ChildAppId) : Dict ChildApp :=
  ids.foldl (fun d id => d.erase id.text) children

def deploy (s : Store) (id : AppId) (app : App) : Store :=
  let targets := deployed app.name id 0 app.targets
  { s with
    apps := s.apps.insert id.text { app with targets := targets }
    childApps := install s.childApps (childIds targets) }

def updated (app : App) (u : AppUpdate) : App :=
  { app with
    answers := u.answers
    members := u.members
    revisionHistoryLimit := u.revisionHistoryLimit
    roles := u.roles
    templateVersion := u.templateVersion
    upgradeStrategy := u.upgradeStrategy
    annotations := u.annotations
    labels := u.labels }

def addTargets (targets : List Target) (projects : List ProjectId) : List Target :=
  projects.foldl (fun ts project =>
    if ts.any fun t => t.project = project then ts else ts ++ [.declared project]) targets

def mergeAnswers (answers added : List Answer) : List Answer :=
  added.foldl (fun as a =>
    (as.filter fun b => b.project.isNone || b.project ≠ a.project) ++ [a]) answers

def getApp (s : Store) (id : AppId) : Answered × Store :=
  let queued := (s.queuedStates.find? id.text).getD []
  let s := match queued with
    | [] => s
    | _ :: rest => s.queueStates id rest
  match s.app? id with
  | none => (.error (appNotFound id), s)
  | some app =>
    match queued with
    | [] => (.ok (.app app), s)
    | state :: _ => (.ok (.app { app with state := some state }), s)

def createApp (s : Store) (app : App) : Answered × Store :=
  let id := s.nextId
  let s := { s with lastNumber := s.lastNumber + 1 }
  let s := s.deploy id
    { app with id := some id, state := some State.active, status := some ⟨some (firstRevision id)⟩ }
  let s := s.queueStates id s.createStates
  match s.app? id with
  | some created => (.ok (.app created), s)
  | none => (.error (appNotFound id), s)

def deleteApp (s : Store) (id : AppId) (app : App) : Store :=
  let s :=
    if s.keepsApps then s.putApp id { app with state := some State.removing }
    else { s with apps := s.apps.erase id.text }
  if s.keepsChildren then s
  else { s with childApps := uninstall s.childApps (childIds app.targets) }

def onApp (s : Store) (id : AppId) (f : App → Response × Store) : Answered × Store :=
  match s.app? id with
  | none => (.error (appNotFound id), s)
  | some app => let (response, s) := f app; (.ok response, s)

def found {α : Type} (respond : α → Response) (collection id : String) : Option α → Answered
  | some a => .ok (respond a)
  | none => .error (notFound collection id)

def apply (s : Store) : Effect → Answered × Store
  | .getApp id => s.getApp id
  | .createApp app => s.createApp app
  | .updateApp id update => s.onApp id fun app =>
    let app := updated app update
    (.app app, s.putApp id app)
  | .deleteApp id => s.onApp id fun app => (.deleted, s.deleteApp id app)
  | .rollback id revision => s.onApp id fun app =>
    (.actionAccepted, s.putApp id { app with status := some ⟨some revision⟩ })
  | .addProjects id input => s.onApp id fun app =>
    (.actionAccepted, s.deploy id { app with
      targets := addTargets app.targets input.projects
      answers := mergeAnswers app.answers input.answers })
  | .removeProjects id input => s.onApp id fun app =>
    let leaves (t : Target) := input.projects.contains t.project
    let s := s.putApp id { app with
      targets := app.targets.filter fun t => !leaves t
      answers := app.answers.filter fun a => !input.answers.contains a }
    (.actionAccepted,
      { s with childApps := uninstall s.childApps (childIds (app.targets.filter leaves)) })
  | .getTemplate id =>
    (found .template "templates" id.text (s.templates.find? id.text), s)
  | .getTemplateVersion id =>
    (found .templateVersion "templateversions" id.text (s.templateVersions.find? id.text), s)
  | .getChildApp _ id => (found .childApp "apps" id.text (s.childApp? id), s)

def respond (effect : Effect) (s : Store) : Answered × Store :=
  match s.failures.find? effect.operation with
  | some (error :: rest) =>
    (.error error, { s with failures := s.failures.insert effect.operation rest })
  | _ => s.apply effect

def api : Api Store where
  respond effect s := let (answer, s) := s.respond effect; ⟨answer, 0, s⟩

theorem app?_putApp (s : Store) (id other : AppId) (app : App) :
    (s.putApp id app).app? other = if id = other then some app else s.app? other := by
  obtain ⟨id⟩ := id
  obtain ⟨other⟩ := other
  simp [app?, putApp, Dict.find?_insert]

theorem map_project_deployed (name : String) (id : AppId) (position : Nat)
    (targets : List Target) :
    (deployed name id position targets).map Target.project = targets.map Target.project := by
  induction targets generalizing position with
  | nil => rfl
  | cons t rest ih => simp [deployed, ih]

end Store

end MultiCluster
