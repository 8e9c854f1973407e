import MultiCluster.Proofs.Lifecycle.Creation
import MultiCluster.Proofs.Lifecycle.Reading
import MultiCluster.Proofs.Store.Deployment
import MultiCluster.Proofs.Target.Order
import MultiCluster.Proofs.Update.Answers

namespace MultiCluster

namespace Lifecycle

open Plan

variable {s : Store} {catalog template version : String} {versions : List String} {spec : Spec}

def Selects (s : Store) (spec : Spec) (versions : List String) (version : String) : Prop :=
  spec.version = some version ∨ spec.version = none ∧ ∃ found : Template,
    s.templates.find? (Naming.templateId spec.catalog spec.template).text = some found ∧
      (∀ key, key ∈ found.versionLinks.keys ↔ key ∈ versions) ∧ found.latest = .ok version

theorem run_versionOrLatest (spec : Spec) (hunfailing : s.Unfailing) (hsome : versions ≠ [])
    (hreadable : ∀ v ∈ versions, Version.read v ≠ none)
    (hpinned : ∀ v, spec.version = some v → v ∈ versions) (limit now : Nat) :
    let published := s.publish spec.catalog spec.template versions
    let run := (versionOrLatest spec.version spec.catalog spec.template).run (Store.setting none limit)
      ⟨published, now⟩
    ∃ version ∈ versions, Selects published spec versions version ∧
      run.result = some (.ok version) ∧ run.world = ⟨published, now⟩ := by
  intro published run
  cases hversion : spec.version with
  | some version =>
    refine ⟨version, hpinned version hversion, .inl hversion, ?_⟩
    simp only [run, hversion]
    exact ⟨rfl, rfl⟩
  | none =>
    obtain ⟨found, hfound, hkeys⟩ :=
      Store.template_publish s spec.catalog spec.template versions
    have hnonempty : found.versionLinks.keys ≠ [] := by
      obtain ⟨v, hv⟩ := List.exists_mem_of_ne_nil versions hsome
      exact List.ne_nil_of_mem ((hkeys v).mpr hv)
    obtain ⟨version, hlatest⟩ := Template.latest_of_readable hnonempty fun key hkey =>
      hreadable key ((hkeys key).mp hkey)
    have hmem : version ∈ versions := (hkeys version).mp (Template.latest_ok hlatest).1
    refine ⟨version, hmem, .inr ⟨hversion, found, hfound, hkeys, hlatest⟩, ?_⟩
    have hreply : published.respond (.getTemplate (Naming.templateId spec.catalog spec.template)) =
        (.ok (.template found), published) := by
      have hpublished : published.Unfailing := hunfailing
      rw [hpublished.respond_eq, Store.apply, hfound]
      rfl
    have hrun : run = ⟨some (.ok version), [⟨now, .getTemplate (Naming.templateId spec.catalog
        spec.template), some (.ok (.template found))⟩], ⟨published, now⟩⟩ := by
      simp only [run, hversion, versionOrLatest, resolveLatest_eq, Store.run_call, hreply]
      have hchecked : checked ((Response.template found).toTemplate "get template") =
          done (.ok found) := rfl
      rw [hchecked, done_ok_bind, hlatest]
      rfl
    rw [hrun]
    exact ⟨rfl, rfl⟩

theorem result_submit (hunfailing : s.Unfailing) (hstates : s.createStates = [])
    (hwell : CatalogRef.Wellformed ⟨spec.catalog, spec.template, version⟩)
    (hpublishes : s.Publishes spec.catalog spec.template version) (settings : Settings) (limit now : Nat) :
    ((submit settings spec version).run (Store.setting none (limit + 1)) ⟨s, now⟩).result =
      some (.ok ((s.created (payload spec version)).record s.nextId
        ⟨spec.catalog, spec.template, version⟩ (some spec))) := by
  have hcreate : s.respond (.createApp (payload spec version)) =
      (.ok (.app (s.created (payload spec version))), s.afterCreation (payload spec version)) := by
    rw [hunfailing.respond_eq, Store.apply, Store.createApp_eq]
  have hserves : (s.afterCreation (payload spec version)).Serves s.nextId
      (s.created (payload spec version)) ⟨spec.catalog, spec.template, version⟩ :=
    ⟨hunfailing, Store.app?_afterCreation s _, hpublishes, rfl⟩
  have hquiet : ((s.afterCreation (payload spec version)).queuedStates.find? s.nextId.text).getD [] = [] := by
    rw [Store.queuedStates_afterCreation, hstates]
    rfl
  have hchecked : checked ((Response.app (s.created (payload spec version))).toApp
      "create multi-cluster app") = done (.ok (s.created (payload spec version))) := rfl
  rw [submit, Store.run_perform _ (congrArg Prod.fst hcreate), hcreate, hchecked, done_ok_bind]
  exact result_conclude hwell hserves rfl hquiet settings settings.timeouts.create "create" spec limit now

theorem targets_of_created (s : Store) (version : String)
    (hvalid : TargetSet.validate ⟨spec.targets, spec.answers⟩ = .ok ()) (ref : CatalogRef) :
    ((s.created (payload spec version)).record s.nextId ref (some spec)).spec.targets =
      Store.deployed spec.name s.nextId 0 spec.targets :=
  Target.orderLike_of_same_projects (TargetSet.nodup_of_validate hvalid) (Store.map_project_deployed _ _ _ _)

theorem create_returns_declared (settings : Settings) (s : Store) (spec : Spec) (versions : List String)
    (limit now : Nat) (hunfailing : s.Unfailing) (hstates : s.createStates = []) (hsome : versions ≠ [])
    (hwell : ∀ v ∈ versions, CatalogRef.Wellformed ⟨spec.catalog, spec.template, v⟩)
    (hreadable : ∀ v ∈ versions, Version.read v ≠ none)
    (hpinned : ∀ v, spec.version = some v → v ∈ versions)
    (hvalid : TargetSet.validate ⟨spec.targets, spec.answers⟩ = .ok ()) :
    let published := s.publish spec.catalog spec.template versions
    let run := (create settings spec).run (Store.setting none (limit + 1)) ⟨published, now⟩
    ∃ record, run.result = some (.ok record) ∧ record.id = s.nextId ∧
      record.spec.name = spec.name ∧ record.spec.catalog = spec.catalog ∧
      record.spec.template = spec.template ∧ record.spec.answers = spec.answers ∧
      record.spec.members = spec.members ∧ record.spec.roles = spec.roles ∧
      record.spec.revisionHistoryLimit = spec.revisionHistoryLimit ∧
      record.spec.upgradeStrategy = spec.upgradeStrategy ∧ record.spec.labels = spec.labels ∧
      record.spec.annotations = spec.annotations ∧ record.spec.wait = spec.wait ∧
      record.spec.targets.map Target.project = spec.targets.map Target.project ∧
      List.Forall₂ Target.Keeps spec.targets record.spec.targets ∧
      (∀ t ∈ record.spec.targets, t.instanceId ≠ none) ∧
      ∃ version, record.spec.version = some version ∧ Selects published spec versions version := by
  intro published run
  obtain ⟨version, hmem, hselects, hresolved, hworld⟩ := run_versionOrLatest spec hunfailing hsome
    hreadable hpinned (limit + 1) now
  have hsubmitted := result_submit (s := published) hunfailing hstates (hwell version hmem)
    (Store.publishes_publish s hmem) settings limit now
  have hok : run.result = some (.ok ((published.created (payload spec version)).record published.nextId
      ⟨spec.catalog, spec.template, version⟩ (some spec))) := by
    show (Plan.run _ (create settings spec) _).result = _
    rw [create_eq, validate_of_ok hvalid, done_ok_bind, run_bind_of_ok hresolved, hworld]
    exact hsubmitted
  have htargets := targets_of_created published version hvalid ⟨spec.catalog, spec.template, version⟩
  refine ⟨_, hok, rfl, rfl, rfl, rfl, rfl, rfl, rfl, rfl, rfl, rfl, rfl, rfl, ?_, ?_, ?_,
    version, rfl, hselects⟩
  · rw [htargets, Store.map_project_deployed]
  · rw [htargets]
    exact Store.forall₂_keeps_deployed _ _ _ _
  · intro t ht
    rw [htargets] at ht
    exact Store.instanceId_of_mem_deployed ht

namespace Sample

def shop : Spec :=
  { Spec.basic "shop" "p-1:charts" "shop"
      [.declared ⟨"c-1:p-2"⟩, (Target.declared ⟨"c-1:p-1"⟩).withInstance ⟨"mcapp-shop"⟩] with
    answers := [answer]
    labels := .ofList [("tier", "front")] }

def shopVersions : List String := ["1.9.0", "1.10.0"]

def shopApp : App :=
  { shop.newApp (Naming.templateVersionId "p-1:charts" "shop" "1.10.0") with
    id := some ⟨"mcapp-1"⟩
    state := some State.active
    targets := [(Target.declared ⟨"c-1:p-2"⟩).withInstance ⟨"mcapp-shop-mcapp-1-0"⟩,
      (Target.declared ⟨"c-1:p-1"⟩).withInstance ⟨"mcapp-shop"⟩]
    status := some ⟨some ⟨"apprevision-mcapp-1-1"⟩⟩ }

def shopRecord : AppRecord :=
  shopApp.record ⟨"mcapp-1"⟩ ⟨"p-1:charts", "shop", "1.10.0"⟩ (some shop)

end Sample

open Sample in
theorem create_returns_declared_from_scoped_catalog :
    let published := Store.empty.publish shop.catalog shop.template shopVersions
    let run := (create .standard shop).run (Store.setting none 1) ⟨published, 0⟩
    run.result = some (.ok shopRecord) ∧ shopRecord.spec.catalog = "p-1:charts" ∧
      shopRecord.spec.version = some "1.10.0" ∧ shopRecord.spec.labels = shop.labels ∧
      List.Forall₂ Target.Keeps shop.targets shopRecord.spec.targets := by
  intro published run
  have hok : run.result = some (.ok shopRecord) := by decide +kernel
  obtain ⟨record, hrecord, -, -, hcatalog, -, -, -, -, -, -, hlabels, -, -, -, hkept, -⟩ :=
    create_returns_declared .standard Store.empty shop shopVersions 0 0 (fun _ => rfl) rfl
      (by decide) (by decide +kernel) (by decide +kernel)
      (fun v hv => absurd hv (by simp [shop, Spec.basic])) (by decide +kernel)
  obtain rfl : record = shopRecord := by simpa using hrecord.symm.trans hok
  exact ⟨hok, hcatalog, rfl, hlabels, hkept⟩

end Lifecycle

end MultiCluster
