import MultiCluster.Proofs.Store.Replay

namespace MultiCluster

namespace Store

section Run

variable {α : Type} {cancelAt : Option Nat} {limit : Nat}

theorem run_preserves (kept : Store → Prop) (p : Plan α) (w : World Store)
    (hread : ∀ effect s, effect.isRead = true → kept s → kept (s.respond effect).2)
    (hwrite : ∀ effect ∈ writes (p.run (setting cancelAt limit) w).calls, ∀ s, kept s →
      kept (s.respond effect).2)
    (hw : kept w.remote) : kept (p.run (setting cancelAt limit) w).world.remote := by
  induction p generalizing w with
  | done result => exact hw
  | call effect next ih =>
    rw [run_call] at hwrite ⊢
    have hnext : kept (w.remote.respond effect).2 := by
      cases hkind : effect.isRead with
      | true => exact hread effect w.remote hkind hw
      | false =>
        refine hwrite effect ?_ w.remote hw
        rw [writes_cons_of_write _ hkind]
        exact List.mem_cons_self
    refine ih _ ⟨(w.remote.respond effect).2, w.now⟩ ?_ hnext
    intro other hother
    exact hwrite other (mem_writes_cons _ hother)
  | await request next ih =>
    have hwait : kept ((setting cancelAt limit).wait request w).state :=
      Source.rounds_preserves kept
        (fun s hs => hread request.subject.effect s request.subject.effect_isRead hs) _ _ _ _ _ hw
    simp only [Plan.run] at hwrite ⊢
    cases hresult : ((setting cancelAt limit).wait request w).result with
    | none => exact hwait
    | some result =>
      simp only [hresult, writes_append, writes_waitCalls, List.nil_append] at hwrite
      exact ih result _ hwrite hwait
  | settle pause next ih => exact ih { w with now := _ } hwrite hw

end Run

section Others

variable {id other : AppId}

theorem app?_onApp_of_ne (s : Store) (hne : id ≠ other) {f : App → Response × Store}
    (hf : ∀ app, ∃ changed, (f app).2.apps = s.apps.insert id.text changed) :
    (s.onApp id f).2.app? other = s.app? other := by
  have htext : id.text ≠ other.text := by
    intro heq
    obtain ⟨first⟩ := id
    obtain ⟨second⟩ := other
    exact hne (congrArg AppId.mk heq)
  unfold onApp
  cases hstored : s.app? id with
  | none => rfl
  | some app =>
    obtain ⟨changed, happs⟩ := hf app
    show (f app).2.apps.find? other.text = s.app? other
    rw [happs, Dict.find?_insert, if_neg htext]
    rfl

theorem app?_apply_of_ne (s : Store) {effect : Effect} {change : Change}
    (h : effect.change? = some (id, change)) (hne : id ≠ other) :
    (s.apply effect).2.app? other = s.app? other := by
  cases effect with
  | updateApp target update =>
    obtain ⟨rfl, -⟩ := Prod.ext_iff.mp (Option.some.inj h)
    exact app?_onApp_of_ne s hne fun app => ⟨_, rfl⟩
  | rollback target revision =>
    obtain ⟨rfl, -⟩ := Prod.ext_iff.mp (Option.some.inj h)
    exact app?_onApp_of_ne s hne fun app => ⟨_, rfl⟩
  | addProjects target input =>
    obtain ⟨rfl, -⟩ := Prod.ext_iff.mp (Option.some.inj h)
    exact app?_onApp_of_ne s hne fun app => ⟨_, rfl⟩
  | removeProjects target input =>
    obtain ⟨rfl, -⟩ := Prod.ext_iff.mp (Option.some.inj h)
    exact app?_onApp_of_ne s hne fun app => ⟨_, rfl⟩
  | _ => exact absurd h (by simp [Effect.change?])

theorem app?_respond_of_ne (s : Store) {effect : Effect} {change : Change}
    (h : effect.change? = some (id, change)) (hne : id ≠ other) :
    (s.respond effect).2.app? other = s.app? other := by
  rcases respond_cases s effect with ⟨e, left, heq⟩ | heq
  · rw [heq]
    rfl
  · rw [heq]
    exact app?_apply_of_ne s h hne

theorem app?_run_of_ne {α : Type} {cancelAt : Option Nat} {limit : Nat} {p : Plan α}
    {w : World Store}
    (h : ∀ effect ∈ writes (p.run (setting cancelAt limit) w).calls,
      ∃ change, effect.change? = some (id, change))
    (hne : id ≠ other) :
    (p.run (setting cancelAt limit) w).world.remote.app? other = w.remote.app? other := by
  refine run_preserves (fun s => s.app? other = w.remote.app? other) p w ?_ ?_ rfl
  · intro effect s hread hs
    exact (congrArg (Dict.find? · other.text) (apps_respond_of_isRead s hread)).trans hs
  · intro effect heffect s hs
    obtain ⟨change, hchange⟩ := h effect heffect
    exact (app?_respond_of_ne s hchange hne).trans hs

end Others

end Store

end MultiCluster
