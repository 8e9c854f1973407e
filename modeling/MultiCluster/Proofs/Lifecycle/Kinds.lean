import MultiCluster.Api.Script
import MultiCluster.Proofs.Delete.Children
import MultiCluster.Proofs.Http.Requests
import MultiCluster.Proofs.Lifecycle.Creation
import MultiCluster.Proofs.Lifecycle.Reading
import MultiCluster.Proofs.Plan.Kinds

namespace MultiCluster

section Setting

variable {σ : Type} (c : Http.Client) (n : Http.Network σ) (cancelAt : Option Nat) (limit : Nat)

def Http.Client.setting : Setting σ := ⟨c.api n, cancelAt, limit⟩

theorem Http.Client.api_setting : (c.setting n cancelAt limit).api = c.api n := rfl

theorem Http.Client.suited_setting : (c.setting n cancelAt limit).Suited := by
  intro effect state hother
  rw [api_setting]
  exact suits_respond hother state

end Setting

namespace Lifecycle

open Plan

variable {α σ : Type} {settings : Settings} {id : AppId} {operation : String}

section Accepted

variable {response : Response} {version : TemplateVersionId}

theorem expects_toApp {f : App → Plan α} (h : (Effect.getApp id).accepts (.ok response) = true)
    (hf : ∀ app, (f app).Expects) : ((checked (response.toApp operation)).bind f).Expects := by
  cases response with
  | app app => exact hf app
  | _ => exact absurd h Bool.false_ne_true

theorem expects_toTemplateVersion {f : TemplateVersion → Plan α}
    (h : (Effect.getTemplateVersion version).accepts (.ok response) = true)
    (hf : ∀ found, (f found).Expects) :
    ((checked (response.toTemplateVersion operation)).bind f).Expects := by
  cases response with
  | templateVersion found => exact hf found
  | _ => exact absurd h Bool.false_ne_true

end Accepted

theorem expects_getApp (id : AppId) : (getApp id).Expects :=
  expects_perform (by simp) fun response h => by
    cases response with
    | app app => exact expects_done_ok app
    | _ => exact absurd h Bool.false_ne_true

theorem expects_act {effect : Effect} (hother : ∀ app, effect ≠ .createApp app)
    (h : ∀ r, effect.accepts (.ok r) = (r matches .actionAccepted)) : (act effect).Expects :=
  expects_perform hother fun response haccepted => by
    cases response with
    | actionAccepted => exact expects_done_ok ()
    | _ => exact absurd ((h _).symm.trans haccepted) Bool.false_ne_true

theorem expects_versionOrLatest (version : Option String) (catalog template : String) :
    (versionOrLatest version catalog template).Expects := by
  cases version with
  | some version => exact expects_done_ok version
  | none =>
    rw [versionOrLatest, resolveLatest_eq]
    refine ⟨by simp, fun answer hsuits => ?_⟩
    cases answer with
    | error e =>
      refine expects_fail ?_
      split
      · rfl
      · exact hsuits
    | ok response =>
      cases response with
      | template found =>
        show (ofExcept (found.latest.mapError .resolution)).Expects
        cases found.latest with
        | ok version => exact expects_done_ok version
        | error fault => exact expects_fail rfl
      | _ => exact absurd hsuits Bool.false_ne_true

theorem expects_converge (states : StateSpec) (timeout : Duration) (operation : String) :
    (converge settings id states timeout operation).Expects := by
  intro result hresult
  cases result with
  | ok state => exact expects_done_ok ()
  | error e => exact expects_fail (hresult e rfl)

theorem expects_readFound (declared : Option Spec) (app : App) : (readFound id declared app).Expects := by
  refine expects_perform (by simp) fun response h => expects_toTemplateVersion h fun version => ?_
  refine Expects.bind ?_ fun catalog => expects_done_ok _
  cases CatalogRef.read version.externalId with
  | ok catalog => exact expects_done_ok catalog
  | error fault => exact expects_fail rfl

theorem expects_readBack (declared : Spec) : (readBack id declared).Expects := by
  rw [readBack_eq]
  refine ⟨by simp, fun answer hsuits => ?_⟩
  cases answer with
  | ok response => exact expects_toApp hsuits (expects_readFound (some declared))
  | error e =>
    refine expects_fail ?_
    split
    · rfl
    · exact hsuits

theorem expects_conclude (timeout : Duration) (operation : String) (spec : Spec) :
    (conclude settings id timeout operation spec).Expects :=
  (expects_converge .active timeout operation).when.bind fun _ => expects_readBack spec

theorem expects_validate (targets : List Target) (answers : List Answer) :
    (validate targets answers).Expects := by
  rw [validate]
  cases TargetSet.validate ⟨targets, answers⟩ with
  | ok _ => exact expects_done_ok ()
  | error fault => exact expects_fail rfl

theorem expects_read (id : AppId) (declared : Option Spec) : (read id declared).Expects := by
  rw [read_eq]
  refine ⟨by simp, fun answer hsuits => ?_⟩
  cases answer with
  | ok response =>
    refine expects_toApp hsuits fun app => ?_
    exact (expects_readFound declared app).bind fun record => expects_done_ok (some record)
  | error e =>
    show (ite _ _ _ : Plan (Option AppRecord)).Expects
    split
    · exact expects_done_ok none
    · exact expects_fail hsuits

theorem expects_updateFields (prior : AppRecord) (desired : Spec) : (updateFields prior desired).Expects :=
  (expects_versionOrLatest _ _ _).bind fun _ => expects_perform (by simp) fun response h => by
    cases response with
    | app app => exact expects_done_ok ()
    | _ => exact absurd h Bool.false_ne_true

theorem expects_applyMode (prior : AppRecord) (desired : Spec) (remote : App) (mode : UpdateMode) :
    (applyMode prior desired remote mode).Expects := by
  cases mode with
  | rollback revision => exact expects_act (by simp) fun r => by cases r <;> rfl
  | mutateTargets answersChanged =>
    rw [applyMode, mutateTargets_eq]
    refine (Expects.when (expects_act (by simp) fun r => by cases r <;> rfl)).bind fun _ => ?_
    refine (Expects.when (expects_act (by simp) fun r => by cases r <;> rfl)).bind fun _ => ?_
    exact (expects_updateFields prior desired).when
  | updateFields => exact expects_updateFields prior desired

theorem expects_update (prior : AppRecord) (desired : Spec) : (update settings prior desired).Expects := by
  rw [update_eq]
  refine (expects_validate _ _).bind fun _ => (expects_getApp prior.id).bind fun remote => ?_
  refine (expects_applyMode prior desired remote _).bind fun _ => ?_
  exact expects_conclude settings.timeouts.update "update" desired

theorem expects_awaitChildren (targets : List Target) : (awaitChildren settings targets).Expects := by
  induction targets with
  | nil => exact expects_done_ok (0, 0)
  | cons target rest ih =>
    rw [awaitChildren]
    cases target.instanceId with
    | none => exact ih
    | some instanceId =>
      intro result _
      refine ih.bind fun counts => ?_
      cases result with
      | ok state => exact expects_done_ok _
      | error e => exact expects_done_ok _

theorem expects_delete (id : AppId) : (delete settings id).Expects := by
  rw [delete_eq]
  refine ⟨by simp, fun answer hsuits => ?_⟩
  cases answer with
  | error e =>
    show (ite _ _ _ : Plan DeleteOutcome).Expects
    split
    · exact expects_done_ok _
    · exact expects_fail hsuits
  | ok response =>
    refine expects_toApp hsuits fun app => expects_perform (by simp) fun response haccepted => ?_
    obtain ⟨_, hanswer, hdeleted⟩ := acknowledgedDeletion_of_accepts "delete multi-cluster app" haccepted
    obtain rfl := Except.ok.inj hanswer
    rw [hdeleted]
    refine (expects_converge .removed settings.timeouts.delete "delete").bind fun _ => ?_
    exact (expects_awaitChildren app.targets).bind fun counts => expects_done_ok _

def submitted (settings : Settings) (spec : Spec) : Answered → Plan AppRecord
  | .ok response => (checked (response.toApp "create multi-cluster app")).bind fun created =>
    match created.id with
    | none => fail (.api .nameless)
    | some id => conclude settings id settings.timeouts.create "create" spec
  | .error e => done (.error (.api e))

theorem submit_eq (settings : Settings) (spec : Spec) (version : String) :
    submit settings spec version = call (.createApp (payload spec version)) (submitted settings spec) :=
  (perform_bind _ _).trans (congrArg _ (funext fun answer => by cases answer <;> rfl))

section Submit

variable {s : Setting σ} {spec : Spec} {w : World σ} {version : String}

theorem submit_of_error (settings : Settings) {e : ApiError}
    (h : (s.api.respond (.createApp (payload spec version)) w.remote).answer = .error e) :
    ((submit settings spec version).run s w).result = some (.error (.api e)) ∧
      (submit settings spec version).WaitsExpected s w := by
  rw [submit_eq]
  constructor
  · simp only [Plan.run, h, submitted]
  · refine WaitsExpected.call ?_
    simp only [h, submitted]
    exact fun _ _ _ _ hmem => absurd hmem List.not_mem_nil

theorem submit_of_named (hs : s.Suited) {created : App} (hid : created.id = some id)
    (h : (s.api.respond (.createApp (payload spec version)) w.remote).answer = .ok (.app created)) :
    (submit settings spec version).EndsExpected s w ∧
      (submit settings spec version).WaitsExpected s w := by
  have hconcluded : submitted settings spec (.ok (.app created)) =
      conclude settings id settings.timeouts.create "create" spec := by
    show (match created.id with | none => _ | some id => _) = _
    rw [hid]
  have hrest : (submitted settings spec
      (s.api.respond (.createApp (payload spec version)) w.remote).answer).Expects := by
    rw [h, hconcluded]
    exact expects_conclude settings.timeouts.create "create" spec
  obtain ⟨hends, hwaits⟩ := hrest.run hs ⟨_, _⟩
  rw [submit_eq]
  exact ⟨hends, WaitsExpected.call hwaits⟩

end Submit

section Client

variable (c : Http.Client) (n : Http.Network σ) (cancelAt : Option Nat) (limit : Nat)

def CreatesNameless (spec : Spec) (w : World σ) : Prop :=
  let resolved :=
    (versionOrLatest spec.version spec.catalog spec.template).run (c.setting n cancelAt limit) w
  TargetSet.validate ⟨spec.targets, spec.answers⟩ = .ok () ∧ ∃ version,
    resolved.result = some (.ok version) ∧ c.Nameless n (payload spec version) resolved.world.remote

variable {c n} {spec : Spec} {w : World σ}

theorem submit_of_nameless (settings : Settings) {version : String}
    (h : c.Nameless n (payload spec version) w.remote) :
    ((submit settings spec version).run (c.setting n cancelAt limit) w).result =
        some (.error (.api .nameless)) ∧
      (submit settings spec version).WaitsExpected (c.setting n cancelAt limit) w := by
  refine submit_of_error settings ?_
  rw [Http.Client.api_setting]
  exact Http.Client.respond_of_nameless h

theorem submit_of_not_nameless (settings : Settings) {version : String}
    (h : ¬ c.Nameless n (payload spec version) w.remote) :
    (submit settings spec version).EndsExpected (c.setting n cancelAt limit) w ∧
      (submit settings spec version).WaitsExpected (c.setting n cancelAt limit) w := by
  have hanswered := Http.Client.respond_of_not_nameless h
  rw [← c.api_setting n cancelAt limit] at hanswered
  rcases hanswered with ⟨created, id, hanswer, hid⟩ | ⟨e, hanswer, he⟩
  · exact submit_of_named (c.suited_setting n cancelAt limit) hid hanswer
  · obtain ⟨hresult, hwaits⟩ := submit_of_error settings hanswer
    refine ⟨fun result hended => ?_, hwaits⟩
    rw [hresult] at hended
    obtain rfl := Option.some.inj hended
    exact fun failure hfailure => Except.error.inj hfailure ▸ he

variable {cancelAt limit}

theorem create_of_nameless (h : CreatesNameless c n cancelAt limit spec w) :
    ((create settings spec).run (c.setting n cancelAt limit) w).result =
      some (.error (.api .nameless)) := by
  obtain ⟨hvalid, version, hresolved, hnameless⟩ := h
  rw [create_eq, validate_of_ok hvalid, done_ok_bind, result_bind_of_ok hresolved]
  exact (submit_of_nameless cancelAt limit settings hnameless).1

theorem create_of_not_nameless (h : ¬ CreatesNameless c n cancelAt limit spec w) :
    (create settings spec).EndsExpected (c.setting n cancelAt limit) w := by
  have hs := c.suited_setting n cancelAt limit
  rw [create_eq]
  cases hvalid : TargetSet.validate ⟨spec.targets, spec.answers⟩ with
  | error fault =>
    have hrefused : (fail (.invalidSpec fault) : Plan AppRecord).Expects := expects_fail rfl
    rw [validate, hvalid]
    exact (hrefused.run hs w).1
  | ok _ =>
    rw [validate_of_ok hvalid, done_ok_bind]
    refine ((expects_versionOrLatest _ _ _).run hs w).1.bind fun version hresolved => ?_
    exact (submit_of_not_nameless _ _ _ fun hnameless =>
      h ⟨hvalid, version, hresolved, hnameless⟩).1

theorem waitsExpected_create : (create settings spec).WaitsExpected (c.setting n cancelAt limit) w := by
  have hs := c.suited_setting n cancelAt limit
  rw [create_eq]
  refine ((expects_validate _ _).run hs w).2.bind fun _ _ => ?_
  refine ((expects_versionOrLatest _ _ _).run hs _).2.bind fun version _ => ?_
  by_cases hnameless : c.Nameless n (payload spec version) (((versionOrLatest spec.version spec.catalog
      spec.template).run (c.setting n cancelAt limit) w).world.remote)
  · exact (submit_of_nameless _ _ _ hnameless).2
  · exact (submit_of_not_nameless _ _ _ hnameless).2

end Client

theorem operations_meet_their_kinds (c : Http.Client) (n : Http.Network σ) (cancelAt : Option Nat)
    (limit : Nat) (settings : Settings) (w : World σ) :
    let s := c.setting n cancelAt limit
    (∀ id declared, (read id declared).EndsExpected s w ∧ (read id declared).WaitsExpected s w) ∧
    (∀ prior desired, (update settings prior desired).EndsExpected s w ∧
      (update settings prior desired).WaitsExpected s w) ∧
    (∀ id, (delete settings id).EndsExpected s w ∧ (delete settings id).WaitsExpected s w) ∧
    ∀ spec, (create settings spec).WaitsExpected s w ∧
      (∀ e, ((create settings spec).run s w).result = some (.error e) → e.isUnexpected = true →
        e = .api .nameless ∧ CreatesNameless c n cancelAt limit spec w) ∧
      (CreatesNameless c n cancelAt limit spec w →
        ((create settings spec).run s w).result = some (.error (.api .nameless))) := by
  have hs := c.suited_setting n cancelAt limit
  refine ⟨fun id declared => (expects_read id declared).run hs w,
    fun prior desired => (expects_update prior desired).run hs w,
    fun id => (expects_delete id).run hs w, fun spec => ⟨waitsExpected_create, ?_, create_of_nameless⟩⟩
  intro e hfailed hunexpected
  by_cases hnameless : CreatesNameless c n cancelAt limit spec w
  · have hsame := hfailed.symm.trans (create_of_nameless hnameless)
    exact ⟨Except.error.inj (Option.some.inj hsame), hnameless⟩
  · have hexpected := create_of_not_nameless hnameless _ hfailed e rfl
    exact absurd (hunexpected.symm.trans hexpected) (by simp)

namespace Sample

def scripted : Http.Network (Script (Except Http.TransportFault Http.ServerReply)) where
  exchange _ := Script.take (.error .closed)

-- The server takes the app as created, but says no name; it adds a note that is no text.
def unnamed : Http.ServerReply where
  status := 201
  body := "\x7b\"name\":\"wordpress\",\"templateVersionId\":\"wordpress-7.3.8\",\"note\":\"".toUTF8.toList ++
    [0xC3, 0xFF] ++ "\"\x7d".toUTF8.toList

end Sample

open Sample in
theorem operations_meet_their_kinds_of_unnamed :
    let c := Http.Client.of Http.Sample.server
    let w := ⟨⟨[⟨.ok unnamed, 0⟩], false⟩, 0⟩
    ((create .standard known.spec).run (c.setting scripted none 1) w).result =
        some (.error (.api .nameless)) ∧
      CreatesNameless c scripted none 1 known.spec w := by
  intro c w
  have hresult : ((create .standard known.spec).run (c.setting scripted none 1) w).result =
      some (.error (.api .nameless)) := by decide +kernel
  obtain ⟨-, -, -, hcreate⟩ := operations_meet_their_kinds c scripted none 1 .standard w
  exact ⟨hresult, ((hcreate known.spec).2.1 _ hresult rfl).2⟩

end Lifecycle

end MultiCluster
