import MultiCluster.Proofs.Lifecycle.Declared

namespace MultiCluster

namespace Naming

theorem length_catalogPart_of_scoped {catalog : String} (h : isScoped catalog = true) :
    (catalogPart catalog).toList.length = catalog.toList.length := by
  rw [catalogPart, if_pos h, Text.toList_replaceChar, List.length_map]

theorem templateVersionId_eq_iff {catalog template version : String} :
    (templateVersionId catalog template version).text =
      (templateId catalog template).text ++ "-" ++ version ↔ isScoped catalog = false := by
  constructor
  · intro h
    cases hscoped : isScoped catalog with
    | false => rfl
    | true =>
      have hlength := congrArg (fun text : String => text.toList.length) h
      have hprefix : globalNamespace.toList.length = 19 := by decide +kernel
      simp only [templateVersionId, templateId, String.toList_append, List.length_append, hprefix,
        length_catalogPart_of_scoped hscoped] at hlength
      omega
  · exact templateVersionId_of_global template version

end Naming

namespace Lifecycle

open Plan

variable {σ : Type}

theorem Resolves.looked_up {spec : Spec} {version : String} {look : Call} {course : List (Episode σ)}
    (h : Resolves spec course (some (.ok version))) (hlook : look ∈ course.flatMap Episode.calls) :
    ∃ template : Template, look.answer = some (.ok (.template template)) ∧
      template.latest = .ok version := by
  cases h with
  | pinned _ => exact absurd hlook List.not_mem_nil
  | latest _ _ hfound hlatest =>
    obtain rfl := List.mem_singleton.mp hlook
    exact ⟨_, hfound, hlatest⟩

theorem Creates.looked_up {s : Setting σ} {settings : Settings} {spec : Spec}
    {course : List (Episode σ)} {result : Option (Except LifecycleError AppRecord)}
    {look creation : Call} {id : TemplateId} {app : App}
    (h : Creates s settings spec course result)
    (hlook : look ∈ course.flatMap Episode.calls) (hid : look.effect = .getTemplate id)
    (hcreation : creation ∈ course.flatMap Episode.calls)
    (happ : creation.effect = .createApp app) :
    id = Naming.templateId spec.catalog spec.template ∧
      ∃ (template : Template) (version : String), look.answer = some (.ok (.template template)) ∧
        template.latest = .ok version ∧ app = payload spec version := by
  obtain ⟨resolving, rest, version, rfl, hresolving, rfl, hrest⟩ := h.creation_of_mem hcreation happ
  rcases mem_calls_submitted hlook with hfirst | rfl | hlater
  · have heffect := hresolving.effect_of_mem hfirst
    obtain ⟨template, hfound, hlatest⟩ := hresolving.looked_up hfirst
    exact ⟨Effect.getTemplate.inj (hid.symm.trans heffect), template, version, hfound, hlatest, rfl⟩
  · exact Effect.noConfusion (hid.symm.trans happ)
  · obtain ⟨_, _, _, _, hread⟩ := hrest.id_of_mem hlater
    rw [hid] at hread
    rcases hread with hread | ⟨_, hread⟩
    · exact Effect.noConfusion hread
    · exact Effect.noConfusion hread

theorem create_submits_version_looked_up (s : Setting σ) (settings : Settings) (spec : Spec)
    (w : World σ) :
    let run := (create settings spec).run s w
    ∀ look ∈ run.calls, ∀ id, look.effect = .getTemplate id →
      ∀ creation ∈ run.calls, ∀ app, creation.effect = .createApp app →
        ∃ template version, look.answer = some (.ok (.template template)) ∧
          template.latest = .ok version ∧
          id = Naming.templateId spec.catalog spec.template ∧
          app.templateVersion = Naming.templateVersionId spec.catalog spec.template version ∧
          (app.templateVersion.text = id.text ++ "-" ++ version ↔
            Naming.isScoped spec.catalog = false) := by
  intro run look hlook id hid creation hcreation app happ
  have hcalls : run.calls = _ := calls_run s (create settings spec) w
  rw [hcalls] at hlook hcreation
  have h : Creates s settings spec _ run.result := yields_create w
  obtain ⟨rfl, template, version, hfound, hlatest, rfl⟩ := h.looked_up hlook hid hcreation happ
  exact ⟨template, version, hfound, hlatest, rfl, rfl, Naming.templateVersionId_eq_iff⟩

namespace Sample

def published (spec : Spec) : Store :=
  Store.empty.publish spec.catalog spec.template shopVersions

end Sample

open Sample in
theorem create_submits_version_looked_up_in_library :
    let run := (create .standard wanted).run (Store.setting none 1) ⟨published wanted, 0⟩
    let id : TemplateId := ⟨"cattle-global-data:library-wordpress"⟩
    ∃ look ∈ run.calls, look.effect = .getTemplate id ∧
      ∃ creation ∈ run.calls, creation.effect = .createApp (payload wanted "1.10.0") ∧
        ∃ template version, look.answer = some (.ok (.template template)) ∧
          template.latest = .ok version ∧
          (payload wanted "1.10.0").templateVersion.text = id.text ++ "-" ++ version := by
  intro run id
  have hlook : ∃ look ∈ run.calls, look.effect = .getTemplate id := by decide +kernel
  have hcreation : ∃ creation ∈ run.calls, creation.effect = .createApp (payload wanted "1.10.0") := by
    decide +kernel
  obtain ⟨look, hlook, hid⟩ := hlook
  obtain ⟨creation, hcreation, happ⟩ := hcreation
  obtain ⟨template, version, hfound, hlatest, -, -, hsame⟩ := create_submits_version_looked_up
    (Store.setting none 1) .standard wanted ⟨published wanted, 0⟩ look hlook id hid creation hcreation _ happ
  exact ⟨look, hlook, hid, creation, hcreation, happ, template, version, hfound, hlatest,
    hsame.mpr rfl⟩

open Sample in
theorem scoped_template_looked_up_globally :
    let run := (create .standard shop).run (Store.setting none 1) ⟨published shop, 0⟩
    let id : TemplateId := ⟨"cattle-global-data:p-1:charts-shop"⟩
    shop.version = none ∧ Naming.isScoped shop.catalog = true ∧
      run.calls.map Call.effect = [.getTemplate id, .createApp (payload shop "1.10.0"),
        .getApp ⟨"mcapp-1"⟩, .getApp ⟨"mcapp-1"⟩, .getTemplateVersion ⟨"p-1-charts-shop-1.10.0"⟩] ∧
      (payload shop "1.10.0").templateVersion.text = "p-1-charts-shop-1.10.0" ∧
      (payload shop "1.10.0").templateVersion.text ≠ id.text ++ "-" ++ "1.10.0" := by
  decide +kernel

end Lifecycle

end MultiCluster
