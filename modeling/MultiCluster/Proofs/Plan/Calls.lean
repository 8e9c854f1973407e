import MultiCluster.Proofs.Plan.Steps

namespace MultiCluster

namespace Plan

variable {σ α β : Type} {allowed : Effect → Prop} {p : Plan α}

def Within (allowed : Effect → Prop) : Plan α → Prop
  | done _ => True
  | call effect next => allowed effect ∧ ∀ answer, (next answer).Within allowed
  | await request next => allowed request.subject.effect ∧ ∀ result, (next result).Within allowed
  | settle _ next => next.Within allowed

theorem within_done (result : Except LifecycleError α) : (done result).Within allowed := trivial

theorem Within.bind {f : α → Plan β} (hp : p.Within allowed) (hf : ∀ a, (f a).Within allowed) :
    (p.bind f).Within allowed := by
  induction p with
  | done result =>
    cases result with
    | ok a => exact hf a
    | error e => trivial
  | call effect next ih => exact ⟨hp.1, fun answer => ih answer (hp.2 answer)⟩
  | await request next ih => exact ⟨hp.1, fun result => ih result (hp.2 result)⟩
  | settle pause next ih => exact ih hp

theorem within_when {condition : Bool} {p : Plan Unit} (hp : p.Within allowed) :
    (Plan.when condition p).Within allowed := by
  cases condition with
  | true => exact hp
  | false => trivial

theorem within_perform {effect : Effect} {f : Response → Plan α} (heffect : allowed effect)
    (hf : ∀ response, (f response).Within allowed) : ((perform effect).bind f).Within allowed := by
  rw [perform_bind]
  refine ⟨heffect, fun answer => ?_⟩
  cases answer with
  | ok response => exact hf response
  | error e => trivial

theorem Within.mem_calls (hp : p.Within allowed) (s : Setting σ) (w : World σ) :
    ∀ c ∈ (p.run s w).calls, allowed c.effect := by
  induction p generalizing w with
  | done result =>
    intro c hc
    exact absurd hc List.not_mem_nil
  | call effect next ih =>
    intro c hc
    rcases List.mem_cons.mp hc with rfl | hlater
    · exact hp.1
    · exact ih _ (hp.2 _) _ c hlater
  | await request next ih =>
    have hlooks (c : Call) (hc : c ∈ Setting.waitCalls request (s.wait request w)) : allowed c.effect := by
      rw [Setting.effect_of_mem_waitCalls hc]
      exact hp.1
    intro c hc
    simp only [run] at hc
    cases hresult : (s.wait request w).result with
    | none =>
      rw [hresult] at hc
      exact hlooks c hc
    | some result =>
      rw [hresult] at hc
      rcases List.mem_append.mp hc with hlook | hlater
      · exact hlooks c hlook
      · exact ih _ (hp.2 _) _ c hlater
  | settle pause next ih => exact ih hp _

end Plan

namespace Lifecycle

open Plan

variable {allowed : Effect → Prop} {settings : Settings} {id : AppId}

theorem within_act {effect : Effect} (h : allowed effect) : (act effect).Within allowed :=
  within_perform h fun _ => within_done _

theorem within_getApp (h : allowed (.getApp id)) : (getApp id).Within allowed :=
  within_perform h fun _ => within_done _

theorem within_versionOrLatest {version : Option String} {catalog template : String}
    (h : version = none → allowed (.getTemplate (Naming.templateId catalog template))) :
    (versionOrLatest version catalog template).Within allowed := by
  cases version with
  | some version => trivial
  | none =>
    rw [versionOrLatest, resolveLatest_eq]
    refine ⟨h rfl, fun answer => ?_⟩
    cases answer with
    | ok response => exact (within_done _).bind fun found => within_done _
    | error e => trivial

theorem within_readBack {declared : Spec} (hlook : allowed (.getApp id))
    (hversion : ∀ version, allowed (.getTemplateVersion version)) :
    (readBack id declared).Within allowed := by
  rw [readBack_eq]
  refine ⟨hlook, fun answer => ?_⟩
  cases answer with
  | ok response =>
    refine (within_done _).bind fun app => ?_
    refine within_perform (hversion _) fun response => ?_
    exact (within_done _).bind fun version => (within_done _).bind fun catalog => within_done _
  | error e => trivial

theorem within_conclude {timeout : Duration} {operation : String} {spec : Spec}
    (hlook : allowed (.getApp id)) (hversion : ∀ version, allowed (.getTemplateVersion version)) :
    (conclude settings id timeout operation spec).Within allowed := by
  have hconverge : (converge settings id .active timeout operation).Within allowed := by
    refine ⟨hlook, fun result => ?_⟩
    cases result <;> trivial
  exact (within_when hconverge).bind fun _ => within_readBack hlook hversion

end Lifecycle

end MultiCluster
