import MultiCluster.Proofs.Store.Deployment

namespace MultiCluster

theorem ChildAppId.ext_text {a b : ChildAppId} (h : a.text = b.text) : a = b := by
  cases a
  cases b
  exact congrArg mk h

namespace Store

theorem mem_childIds {targets : List Target} {child : ChildAppId} : child ∈ childIds targets ↔
    ∃ t ∈ targets, ∃ i, t.instanceId = some i ∧ ChildAppId.of t.project i = child := by
  simp only [childIds, List.mem_filterMap, Option.map_eq_some_iff]

theorem find?_install {children : Dict ChildApp} {ids : List ChildAppId} {key : String}
    {found : ChildApp} (h : (install children ids).find? key = some found) :
    children.find? key = some found ∨ ∃ id ∈ ids, id.text = key ∧ found.id = id := by
  induction ids generalizing children with
  | nil => exact .inl h
  | cons id rest ih =>
    rcases ih h with hstep | ⟨other, hother, hrest⟩
    · cases hpresent : children.find? id.text with
      | some present =>
        simp only [hpresent] at hstep
        exact .inl hstep
      | none =>
        simp only [hpresent, Dict.find?_insert] at hstep
        split at hstep
        · rename_i hkey
          obtain rfl := Option.some.inj hstep
          exact .inr ⟨id, List.mem_cons_self, hkey, rfl⟩
        · exact .inl hstep
    · exact .inr ⟨other, List.mem_cons_of_mem id hother, hrest⟩

theorem find?_uninstall {children : Dict ChildApp} {ids : List ChildAppId} {id : ChildAppId}
    {found : ChildApp} (h : (uninstall children ids).find? id.text = some found) :
    children.find? id.text = some found ∧ id ∉ ids := by
  induction ids generalizing children with
  | nil => exact ⟨h, List.not_mem_nil⟩
  | cons first rest ih =>
    obtain ⟨hstep, hrest⟩ := ih h
    rw [Dict.find?_erase] at hstep
    split at hstep
    · exact absurd hstep (by simp)
    · rename_i hkey
      refine ⟨hstep, fun hmem => ?_⟩
      rcases List.mem_cons.mp hmem with rfl | hlater
      · exact hkey rfl
      · exact hrest hlater

theorem mem_addTargets_of_mem {targets : List Target} {projects : List ProjectId} {t : Target}
    (h : t ∈ targets) : t ∈ addTargets targets projects := by
  induction projects generalizing targets with
  | nil => exact h
  | cons p rest ih =>
    refine ih ?_
    show t ∈ if targets.any fun t => t.project = p then targets else targets ++ [.declared p]
    split
    · exact h
    · exact List.mem_append_left _ h

theorem mem_childIds_deployed {name : String} {id : AppId} {position : Nat} {targets : List Target}
    {child : ChildAppId} (h : child ∈ childIds targets) :
    child ∈ childIds (deployed name id position targets) := by
  obtain ⟨t, ht, i, hi, rfl⟩ := mem_childIds.mp h
  clear h
  induction targets generalizing position with
  | nil => exact absurd ht List.not_mem_nil
  | cons first rest ih =>
    rcases List.mem_cons.mp ht with rfl | hlater
    · refine mem_childIds.mpr ⟨_, List.mem_cons_self, i, ?_, rfl⟩
      rw [hi]
      rfl
    · have hrest : ChildAppId.of t.project i ∈ childIds (deployed name id (position + 1) rest) := ih hlater
      obtain ⟨u, hu, hchild⟩ := mem_childIds.mp hrest
      exact mem_childIds.mpr ⟨u, List.mem_cons_of_mem _ hu, hchild⟩

def Numbered (s : Store) (id : AppId) : Prop :=
  ∃ k ≤ s.lastNumber.toNat, id.text = "mcapp-" ++ toString k

theorem number_of_text_eq {m n : Nat} (h : "mcapp-" ++ toString m = "mcapp-" ++ toString n) : m = n := by
  have hdigits : Nat.toDigits 10 m = Nat.toDigits 10 n := by
    have hlists := congrArg String.toList h
    simpa [toString, Nat.repr] using hlists
  have hread := Text.readDigits_toDigits m
  rw [hdigits, Text.readDigits_toDigits] at hread
  exact (Option.some.inj hread).symm

def overflows (s : Store) (effect : Effect) : Bool := (s.respond effect).2.lastNumber < s.lastNumber

theorem toNat_add_one {n : UInt32} (h : n ≤ n + 1) : (n + 1).toNat = n.toNat + 1 := by
  have hbound := n.toNat_lt
  rw [UInt32.le_iff_toNat_le, UInt32.toNat_add, UInt32.toNat_one] at h
  rw [UInt32.toNat_add, UInt32.toNat_one]
  omega

theorem lastNumber_deleteApp (s : Store) (id : AppId) (app : App) :
    (s.deleteApp id app).lastNumber = s.lastNumber := by
  simp only [Store.deleteApp]
  split <;> split <;> rfl

theorem not_numbered_nextId {s : Store} (h : s.lastNumber ≤ s.lastNumber + 1) : ¬ s.Numbered s.nextId := by
  rintro ⟨k, hk, htext⟩
  have hnumber : (s.lastNumber + 1).toNat = k := number_of_text_eq htext
  rw [toNat_add_one h] at hnumber
  omega

theorem Numbered.mono {s s' : Store} {id : AppId} (h : s.Numbered id)
    (hle : s.lastNumber ≤ s'.lastNumber) : s'.Numbered id :=
  h.imp fun _ hk => ⟨Nat.le_trans hk.1 (UInt32.le_iff_toNat_le.mp hle), hk.2⟩

structure Tidy (s : Store) : Prop where
  dropsApps : s.keepsApps = false
  dropsChildren : s.keepsChildren = false
  numbered : ∀ id app, s.app? id = some app → s.Numbered id
  placed : ∀ id app, s.app? id = some app → ∀ t ∈ app.targets, t.instanceId ≠ none
  owned : ∀ child found, s.childApp? child = some found →
    found.id = child ∧ ∃ id app, s.app? id = some app ∧ child ∈ childIds app.targets

namespace Tidy

variable {s s' : Store}

theorem not_stored_nextId (h : s.Tidy) (hnumber : s.lastNumber ≤ s.lastNumber + 1) :
    s.app? s.nextId = none := by
  cases hstored : s.app? s.nextId with
  | none => rfl
  | some app => exact absurd (h.numbered _ app hstored) (not_numbered_nextId hnumber)

theorem of_same (h : s.Tidy) (happs : s'.apps = s.apps) (hchildren : s'.childApps = s.childApps)
    (hnumber : s'.lastNumber = s.lastNumber) (hkeepsApps : s'.keepsApps = s.keepsApps)
    (hkeepsChildren : s'.keepsChildren = s.keepsChildren) : s'.Tidy where
  dropsApps := hkeepsApps.trans h.dropsApps
  dropsChildren := hkeepsChildren.trans h.dropsChildren
  numbered id app hstored := by
    rw [app?, happs] at hstored
    exact (h.numbered id app hstored).mono (UInt32.le_of_eq hnumber.symm)
  placed id app hstored := by
    rw [app?, happs] at hstored
    exact h.placed id app hstored
  owned child found hpresent := by
    rw [childApp?, hchildren] at hpresent
    obtain ⟨hid, id, app, hstored, hmem⟩ := h.owned child found hpresent
    exact ⟨hid, id, app, by rw [app?, happs]; exact hstored, hmem⟩

theorem of_change (h : s.Tidy) {id : AppId} {changed : Option App}
    (happ : ∀ other, s'.app? other = if id = other then changed else s.app? other)
    (hnumber : s.lastNumber ≤ s'.lastNumber) (hkeepsApps : s'.keepsApps = s.keepsApps)
    (hkeepsChildren : s'.keepsChildren = s.keepsChildren) (hid : s'.Numbered id)
    (hplaced : ∀ app ∈ changed, ∀ t ∈ app.targets, t.instanceId ≠ none)
    (howned : ∀ child found, s'.childApp? child = some found →
      (found.id = child ∧ ∃ app ∈ changed, child ∈ childIds app.targets) ∨
      (s.childApp? child = some found ∧ ∀ old ∈ s.app? id, child ∉ childIds old.targets)) :
    s'.Tidy where
  dropsApps := hkeepsApps.trans h.dropsApps
  dropsChildren := hkeepsChildren.trans h.dropsChildren
  numbered other stored hstored := by
    rw [happ] at hstored
    split at hstored
    · rename_i hsame
      exact hsame ▸ hid
    · exact (h.numbered other stored hstored).mono hnumber
  placed other stored hstored := by
    rw [happ] at hstored
    split at hstored
    · exact hplaced stored hstored
    · exact h.placed other stored hstored
  owned child found hpresent := by
    rcases howned child found hpresent with ⟨hfound, app, hchanged, hmem⟩ | ⟨hbefore, hnot⟩
    · exact ⟨hfound, id, app, by rw [happ, if_pos rfl]; exact hchanged, hmem⟩
    · obtain ⟨hfound, other, stored, hstored, hmem⟩ := h.owned child found hbefore
      have hne : id ≠ other := by
        rintro rfl
        exact hnot stored hstored hmem
      exact ⟨hfound, other, stored, by rw [happ, if_neg hne]; exact hstored, hmem⟩

variable {id : AppId} {app : App}

theorem owned_or (h : s.Tidy) (hstored : s.app? id = some app) {child : ChildAppId} {found : ChildApp}
    (hpresent : s.childApp? child = some found) :
    (found.id = child ∧ child ∈ childIds app.targets) ∨
      ∀ old ∈ s.app? id, child ∉ childIds old.targets := by
  by_cases hmem : child ∈ childIds app.targets
  · exact .inl ⟨(h.owned child found hpresent).1, hmem⟩
  · rw [hstored]
    exact .inr (by rintro _ ⟨⟩; exact hmem)

theorem putApp_of_same_targets (h : s.Tidy) (hstored : s.app? id = some app) {changed : App}
    (htargets : changed.targets = app.targets) : (s.putApp id changed).Tidy := by
  refine h.of_change (app?_putApp s id · changed) (UInt32.le_refl _) rfl rfl (h.numbered id app hstored) ?_ ?_
  · rintro _ ⟨⟩
    rw [htargets]
    exact h.placed id app hstored
  · intro child found hpresent
    rcases h.owned_or hstored hpresent with ⟨hfound, hmem⟩ | hnot
    · exact .inl ⟨hfound, changed, rfl, htargets ▸ hmem⟩
    · exact .inr ⟨hpresent, hnot⟩

theorem createApp (h : s.Tidy) (hnumber : s.lastNumber ≤ s.lastNumber + 1) (payload : App) :
    (s.createApp payload).2.Tidy := by
  rw [createApp_eq]
  refine h.of_change (app?_putApp s s.nextId · (s.created payload)) hnumber rfl rfl
    ⟨(s.lastNumber + 1).toNat, Nat.le_refl _, rfl⟩ ?_ ?_
  · rintro _ ⟨⟩ t ht
    exact instanceId_of_mem_deployed ht
  · intro child found hpresent
    rcases find?_install hpresent with hbefore | ⟨other, hother, htext, hfound⟩
    · rw [h.not_stored_nextId hnumber]
      exact .inr ⟨hbefore, fun old hold => absurd hold (by simp)⟩
    · obtain rfl : other = child := ChildAppId.ext_text htext
      exact .inl ⟨hfound, _, rfl, hother⟩

theorem addProjects (h : s.Tidy) (hstored : s.app? id = some app) (input : TargetsInput) :
    (s.deploy id { app with
      targets := addTargets app.targets input.projects
      answers := mergeAnswers app.answers input.answers }).Tidy := by
  refine h.of_change (app?_putApp s id · _) (UInt32.le_refl _) rfl rfl (h.numbered id app hstored) ?_ ?_
  · rintro _ ⟨⟩ t ht
    exact instanceId_of_mem_deployed ht
  · intro child found hpresent
    rcases find?_install hpresent with hbefore | ⟨other, hother, htext, hfound⟩
    · rcases h.owned_or hstored hbefore with ⟨hfound, hmem⟩ | hnot
      · obtain ⟨t, ht, hchild⟩ := mem_childIds.mp hmem
        have hstays : child ∈ childIds (addTargets app.targets input.projects) :=
          mem_childIds.mpr ⟨t, mem_addTargets_of_mem ht, hchild⟩
        exact .inl ⟨hfound, _, rfl, mem_childIds_deployed hstays⟩
      · exact .inr ⟨hbefore, hnot⟩
    · obtain rfl : other = child := ChildAppId.ext_text htext
      exact .inl ⟨hfound, _, rfl, hother⟩

-- The child apps of the targets that leave go, so those that stay belong to the others.
theorem removeProjects (h : s.Tidy) (hstored : s.app? id = some app) (leaves : Target → Bool)
    (answers : List Answer) :
    let left := s.putApp id { app with
      targets := app.targets.filter fun t => !leaves t
      answers := answers }
    Tidy { left with childApps := uninstall left.childApps (childIds (app.targets.filter leaves)) } := by
  intro left
  refine h.of_change (app?_putApp s id · _) (UInt32.le_refl _) rfl rfl (h.numbered id app hstored) ?_ ?_
  · rintro _ ⟨⟩ t ht
    exact h.placed id app hstored t (List.mem_filter.mp ht).1
  · intro child found hpresent
    obtain ⟨hbefore, hgone⟩ := find?_uninstall hpresent
    rcases h.owned_or hstored hbefore with ⟨hfound, hmem⟩ | hnot
    · obtain ⟨t, ht, hchild⟩ := mem_childIds.mp hmem
      have hstays : leaves t = false := by
        refine Bool.eq_false_iff.mpr fun hleaves => hgone ?_
        exact mem_childIds.mpr ⟨t, List.mem_filter.mpr ⟨ht, hleaves⟩, hchild⟩
      have hkept : t ∈ app.targets.filter fun t => !leaves t :=
        List.mem_filter.mpr ⟨ht, by rw [hstays]; rfl⟩
      exact .inl ⟨hfound, _, rfl, mem_childIds.mpr ⟨t, hkept, hchild⟩⟩
    · exact .inr ⟨hbefore, hnot⟩

theorem app?_deleteApp (h : s.Tidy) (id other : AppId) (app : App) :
    (s.deleteApp id app).app? other = if id = other then none else s.app? other := by
  obtain ⟨id⟩ := id
  obtain ⟨other⟩ := other
  simp [Store.deleteApp, h.dropsApps, h.dropsChildren, app?, Dict.find?_erase]

theorem deleteApp (h : s.Tidy) (hstored : s.app? id = some app) : (s.deleteApp id app).Tidy := by
  have heq : s.deleteApp id app = { s with
      apps := s.apps.erase id.text
      childApps := uninstall s.childApps (childIds app.targets) } := by
    simp only [Store.deleteApp, h.dropsApps, h.dropsChildren, Bool.false_eq_true, ↓reduceIte]
  have hnumber := UInt32.le_of_eq (lastNumber_deleteApp s id app).symm
  refine h.of_change (h.app?_deleteApp id · app) hnumber (by rw [heq]) (by rw [heq])
    ((h.numbered id app hstored).mono hnumber) (by simp) ?_
  intro child found hpresent
  rw [heq] at hpresent
  obtain ⟨hbefore, hgone⟩ := find?_uninstall hpresent
  rcases h.owned_or hstored hbefore with ⟨-, hmem⟩ | hnot
  · exact absurd hmem hgone
  · exact .inr ⟨hbefore, hnot⟩

end Tidy

theorem onApp_cases (s : Store) (id : AppId) (f : App → Response × Store) :
    s.onApp id f = (.error (appNotFound id), s) ∨
      ∃ app, s.app? id = some app ∧ s.onApp id f = (.ok (f app).1, (f app).2) := by
  unfold onApp
  cases s.app? id with
  | none => exact .inl rfl
  | some app => exact .inr ⟨app, rfl, rfl⟩

theorem getApp_queue (s : Store) (id : AppId) :
    ∃ queued, (s.getApp id).2 = { s with queuedStates := queued } := by
  unfold getApp
  cases (s.queuedStates.find? id.text).getD [] with
  | nil =>
    simp only
    split <;> exact ⟨s.queuedStates, rfl⟩
  | cons state rest =>
    simp only
    split <;> exact ⟨s.queuedStates.insert id.text rest, rfl⟩

namespace Tidy

variable {s : Store}

theorem onApp (h : s.Tidy) (id : AppId) {f : App → Response × Store}
    (hf : ∀ app, s.app? id = some app → (f app).2.Tidy) : (s.onApp id f).2.Tidy := by
  rcases onApp_cases s id f with heq | ⟨app, hstored, heq⟩
  · rw [heq]
    exact h
  · rw [heq]
    exact hf app hstored

theorem apply (h : s.Tidy) {effect : Effect} (hnumber : s.lastNumber ≤ (s.apply effect).2.lastNumber) :
    (s.apply effect).2.Tidy := by
  cases effect with
  | getApp id =>
    obtain ⟨queued, hqueue⟩ := getApp_queue s id
    rw [Store.apply, hqueue]
    exact h.of_same rfl rfl rfl rfl rfl
  | createApp app =>
    rw [Store.apply, createApp_eq] at hnumber
    exact h.createApp hnumber app
  | updateApp id update => exact h.onApp id fun app hstored => h.putApp_of_same_targets hstored rfl
  | deleteApp id => exact h.onApp id fun app hstored => h.deleteApp hstored
  | rollback id revision => exact h.onApp id fun app hstored => h.putApp_of_same_targets hstored rfl
  | addProjects id input => exact h.onApp id fun app hstored => h.addProjects hstored input
  | removeProjects id input => exact h.onApp id fun app hstored => h.removeProjects hstored _ _
  | _ => exact h

theorem respond (h : s.Tidy) {effect : Effect} (hnumber : s.overflows effect = false) :
    (s.respond effect).2.Tidy := by
  rw [overflows, decide_eq_false_iff_not, UInt32.not_lt] at hnumber
  rcases respond_cases s effect with ⟨e, left, heq⟩ | heq
  · rw [heq]
    exact h.of_same rfl rfl rfl rfl rfl
  · rw [heq] at hnumber ⊢
    exact h.apply hnumber

end Tidy

end Store

end MultiCluster
