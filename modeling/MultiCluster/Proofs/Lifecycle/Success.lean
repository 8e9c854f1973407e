import MultiCluster.Proofs.Delete.Children
import MultiCluster.Proofs.Lifecycle.Creation

namespace MultiCluster

namespace Lifecycle

open Plan

variable {σ : Type} {s : Setting σ} {settings : Settings} {id : AppId} {timeout : Duration}
  {operation : String} {spec : Spec} {record : AppRecord} {w : World σ} {reached : String}

def Activated (settings : Settings) (id : AppId) (timeout : Duration) (turn : Turn σ) : Prop :=
  turn.request = activation settings id timeout ∧ ∃ looks last, turn.calls = looks ++ [last] ∧
    last.Sees id State.active ∧ turn.InTime looks last

def Removed (settings : Settings) (id : AppId) (turn : Turn σ) : Prop :=
  turn.request = removal settings (.app id) ∧ ∃ looks last, turn.calls = looks ++ [last] ∧
    (∀ look ∈ looks, look.Sees id State.removing) ∧
      (last.Misses id ∨ last.Sees id State.removed) ∧ turn.InTime looks last

def Recorded (record : AppRecord) (spec : Spec) (look version : Call) : Prop :=
  ∃ (app : App) (found : TemplateVersion) (catalog : CatalogRef),
    look.effect = .getApp record.id ∧ look.answer = some (.ok (.app app)) ∧
      version.effect = .getTemplateVersion app.templateVersion ∧
      version.answer = some (.ok (.templateVersion found)) ∧
      CatalogRef.read found.externalId = .ok catalog ∧
      record = app.record record.id catalog (some spec)

def EndsActive (settings : Settings) (timeout : Duration) (spec : Spec) (course : List (Episode σ))
    (record : AppRecord) : Prop :=
  ∃ before turn look version, course = before ++ [turn.episode, .call look, .call version] ∧
    writes (before.flatMap Episode.calls) = writes (course.flatMap Episode.calls) ∧
    Activated settings record.id timeout turn ∧ Recorded record spec look version

theorem activated_of_ok
    (h : (s.turn (activation settings id timeout) w).run.result = some (.ok reached)) :
    Activated settings id timeout (s.turn (activation settings id timeout) w) := by
  obtain ⟨looks, last, hcalls, -, hreached, htime⟩ := Setting.looks_of_turn_ok h
  exact ⟨rfl, looks, last, hcalls, WaitRequest.sees_of_reaches_active hreached, htime⟩

theorem removed_of_ok
    (h : (s.turn (removal settings (.app id)) w).run.result = some (.ok reached)) :
    Removed settings id (s.turn (removal settings (.app id)) w) := by
  obtain ⟨looks, last, hcalls, hpassed, hreached, htime⟩ := Setting.looks_of_turn_ok h
  refine ⟨rfl, looks, last, hcalls, fun look hlook => ?_, ?_, htime⟩
  · exact WaitRequest.sees_of_passes_removed (hpassed look hlook)
  · exact WaitRequest.gone_of_reaches_removed hreached

theorem ReadsBack.recorded {course : List (Episode σ)}
    (h : ReadsBack id spec course (some (.ok record))) : record.id = id ∧
      ∃ look version, course = [.call look, .call version] ∧ Recorded record spec look version := by
  cases h with
  | read hlook hfound hversion hnamed hcatalog =>
    exact ⟨rfl, _, _, rfl, _, _, _, hlook, hfound, hversion, hnamed, hcatalog, rfl⟩

theorem Concludes.endsActive {rest : List (Episode σ)}
    (h : Concludes s settings id timeout operation spec rest (some (.ok record)))
    (hwait : spec.wait = true) (before : List (Episode σ)) :
    record.id = id ∧ EndsActive settings timeout spec (before ++ rest) record := by
  cases h with
  | readBack hsettling hreading =>
    obtain ⟨rfl, look, version, rfl, hrecorded⟩ := hreading.recorded
    refine ⟨rfl, ?_⟩
    cases hsettling with
    | skipped hskipped => exact absurd (hwait.symm.trans hskipped) (by simp)
    | @settled w _ _ hresult =>
      refine ⟨before, _, look, version, rfl, ?_, activated_of_ok hresult, hrecorded⟩
      obtain ⟨_, _, _, hlook, _, hversion, _⟩ := hrecorded
      have hlast : writes [look, version] = [] := by
        rw [writes_cons_of_isRead _ (by rw [hlook]; rfl), writes_cons_of_isRead _ (by rw [hversion]; rfl),
          writes_nil]
      have hturn : writes (s.turn (activation settings record.id timeout) w).calls = [] :=
        writes_waitCalls _ _
      have hrest : ([(s.turn (activation settings record.id timeout) w).episode] ++
          [Episode.call look, Episode.call version]).flatMap Episode.calls =
            (s.turn (activation settings record.id timeout) w).calls ++ [look, version] := rfl
      rw [List.flatMap_append, writes_append, hrest, writes_append, hturn, hlast, List.append_nil,
        List.append_nil]

theorem create_endsActive (hwait : spec.wait = true)
    (hok : ((create settings spec).run s w).result = some (.ok record)) :
    let course := (create settings spec).course s w
    (∃ creation payload created, .call creation ∈ course ∧ creation.effect = .createApp payload ∧
        creation.answer = some (.ok (.app created)) ∧ created.id = some record.id) ∧
      EndsActive settings settings.timeouts.create spec course record := by
  intro course
  have h : Creates s settings spec course (some (.ok record)) := by
    rw [← hok]
    exact yields_create w
  generalize course = course at h ⊢
  cases h with
  | @submitted resolving rest _ creation _ _ _ hcreation hrest =>
    cases hrest with
    | @concluded app _ _ _ hcreated hid hrest =>
      obtain ⟨rfl, hends⟩ := hrest.endsActive hwait (resolving ++ [.call creation])
      rw [List.append_assoc, List.singleton_append] at hends
      exact ⟨⟨creation, _, app, by simp, hcreation, hcreated, hid⟩, hends⟩

theorem yields_bind_conclude (p : Plan Unit) :
    (p.bind fun _ => conclude settings id timeout operation spec).Yields s fun course result =>
      ∀ record, result = some (.ok record) → ∃ before rest, course = before ++ rest ∧
        Concludes s settings id timeout operation spec rest (some (.ok record)) := by
  have hbefore : p.Yields s fun _ _ => True := fun _ => trivial
  refine hbefore.bind ?_ ?_ ?_
  · intro course _ record hnone
    exact absurd hnone (by simp)
  · intro course e _ record herror
    exact absurd herror (by simp)
  · intro course _ _
    refine yields_conclude.mono fun rest result hrest record hok => ?_
    exact ⟨course, rest, rfl, hok ▸ hrest⟩

theorem update_endsActive {prior : AppRecord} {desired : Spec} (hwait : desired.wait = true)
    (hok : ((update settings prior desired).run s w).result = some (.ok record)) :
    record.id = prior.id ∧ EndsActive settings settings.timeouts.update desired
      ((update settings prior desired).course s w) record := by
  rw [update_eq_conclude] at hok ⊢
  obtain ⟨before, rest, hcourse, hrest⟩ := yields_bind_conclude (applyChanges prior desired) w record hok
  rw [hcourse]
  exact hrest.endsActive hwait before

theorem yields_removed : (delete settings id).Yields s fun course result =>
    ∀ confirmed unconfirmed, result = some (.ok (.removed confirmed unconfirmed)) →
      ∃ found deletion w reached rest, course = .call found :: .call deletion ::
          (s.turn (removal settings (.app id)) w).episode :: rest ∧
        deletion.effect = .deleteApp id ∧
        (s.turn (removal settings (.app id)) w).run.result = some (.ok reached) := by
  rw [delete_eq]
  refine yields_call fun startedAt answer => ?_
  cases answer with
  | error e =>
    intro w confirmed unconfirmed hok
    cases habsent : e.isAbsent <;> simp [habsent, run] at hok
  | ok response =>
    cases response with
    | app app =>
      have hchecked : checked ((Response.app app).toApp "get multi-cluster app") = done (.ok app) := rfl
      simp only [hchecked, done_ok_bind, perform_bind]
      refine yields_call fun deletedAt answer => ?_
      cases answer with
      | error e => exact fun w _ _ hok => absurd hok (by simp [run])
      | ok response =>
        cases hdeleted : response.acknowledgedDeletion "delete multi-cluster app" with
        | error e =>
          have hchecked : checked (.error e : Except ApiError Unit) = done (.error (.api e)) := rfl
          simp only [hdeleted, hchecked]
          exact fun w _ _ hok => absurd hok (by simp [run])
        | ok _ =>
          have hchecked : checked (.ok () : Except ApiError Unit) = done (.ok ()) := rfl
          simp only [hdeleted, hchecked, done_ok_bind, converge_bind]
          refine yields_await (fun w _ _ _ hok => absurd hok (by simp)) fun w result hresult => ?_
          cases result with
          | error e => exact fun w _ _ hok => absurd hok (by simp [run])
          | ok reached => exact fun later _ _ _ => ⟨_, _, w, reached, _, rfl, rfl, hresult⟩
    | _ =>
      intro w _ _ hok
      cases hok

theorem success_was_seen (s : Setting σ) (settings : Settings) (w : World σ) :
    (∀ spec record, spec.wait = true → ((create settings spec).run s w).result = some (.ok record) →
      (∃ creation payload created, .call creation ∈ (create settings spec).course s w ∧
        creation.effect = .createApp payload ∧ creation.answer = some (.ok (.app created)) ∧
          created.id = some record.id) ∧
      EndsActive settings settings.timeouts.create spec ((create settings spec).course s w) record) ∧
    (∀ prior desired record, desired.wait = true →
      ((update settings prior desired).run s w).result = some (.ok record) →
        record.id = prior.id ∧ EndsActive settings settings.timeouts.update desired
          ((update settings prior desired).course s w) record) ∧
    ∀ id confirmed unconfirmed,
      ((delete settings id).run s w).result = some (.ok (.removed confirmed unconfirmed)) →
        ∃ found deletion turn rest, (delete settings id).course s w =
            .call found :: .call deletion :: turn.episode :: rest ∧
          deletion.effect = .deleteApp id ∧ Removed settings id turn := by
  refine ⟨fun spec record hwait hok => create_endsActive hwait hok,
    fun prior desired record hwait hok => update_endsActive hwait hok, ?_⟩
  intro id confirmed unconfirmed hok
  obtain ⟨found, deletion, begin, reached, rest, hcourse, hdeletion, hresult⟩ :=
    yields_removed w confirmed unconfirmed hok
  exact ⟨found, deletion, _, rest, hcourse, hdeletion, removed_of_ok hresult⟩

namespace Sample

def wantedApp : App :=
  { wanted.newApp (Naming.templateVersionId "library" "wordpress" "7.4.0") with
    id := some ⟨"mcapp-1"⟩
    state := some State.active
    targets := [(Target.declared ⟨"c-1:p-1"⟩).withInstance ⟨"mcapp-wordpress-mcapp-1-0"⟩]
    status := some ⟨some ⟨"apprevision-mcapp-1-1"⟩⟩ }

def wantedRecord : AppRecord :=
  wantedApp.record ⟨"mcapp-1"⟩ ⟨"library", "wordpress", "7.4.0"⟩ (some wanted)

end Sample

open Sample in
theorem success_was_seen_after_miss :
    let s : Setting Store := ⟨Store.api, none, 2⟩
    let w : World Store := ⟨lagging, 0⟩
    wanted.wait = true ∧ ((create .standard wanted).run s w).result = some (.ok wantedRecord) ∧
      EndsActive Settings.standard Timeouts.standard.create wanted
        ((create .standard wanted).course s w) wantedRecord := by
  intro s w
  have hok : ((create .standard wanted).run s w).result = some (.ok wantedRecord) := by decide +kernel
  obtain ⟨hcreate, -, -⟩ := success_was_seen s .standard w
  exact ⟨rfl, hok, (hcreate wanted wantedRecord rfl hok).2⟩

end Lifecycle

end MultiCluster
