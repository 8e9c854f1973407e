import MultiCluster.Template.Latest

namespace MultiCluster.Template

theorem readable_of_newest_ok {best result : Option (Version × String)} {keys : List String}
    (h : newest best keys = .ok result) : ∀ key ∈ keys, Version.read key ≠ none := by
  induction keys generalizing best with
  | nil => simp
  | cons raw rest ih =>
    simp only [newest] at h
    cases hread : Version.read raw with
    | none =>
      rw [hread] at h
      exact absurd h (by simp)
    | some version =>
      have hrest : ∀ key ∈ rest, Version.read key ≠ none := by
        rw [hread] at h
        cases best with
        | none => exact ih h
        | some top => exact ih h
      intro key hkey
      rcases List.mem_cons.mp hkey with rfl | hlater
      · rw [hread]
        exact Option.some_ne_none version
      · exact hrest key hlater

theorem mem_of_newest_ok {best : Option (Version × String)} {keys : List String} {top : Version}
    {raw : String} (h : newest best keys = .ok (some (top, raw))) :
    raw ∈ keys ∨ best = some (top, raw) := by
  induction keys generalizing best with
  | nil => exact .inr (by simpa [newest] using h)
  | cons first rest ih =>
    simp only [newest] at h
    cases hread : Version.read first with
    | none =>
      rw [hread] at h
      exact absurd h (by simp)
    | some version =>
      rw [hread] at h
      cases best with
      | none =>
        rcases ih h with hlater | hfirst
        · exact .inl (List.mem_cons_of_mem _ hlater)
        · obtain ⟨-, rfl⟩ := Prod.mk.inj (Option.some.inj hfirst)
          exact .inl List.mem_cons_self
      | some before =>
        rcases ih h with hlater | hfirst
        · exact .inl (List.mem_cons_of_mem _ hlater)
        · split at hfirst
          · obtain ⟨-, rfl⟩ := Prod.mk.inj (Option.some.inj hfirst)
            exact .inl List.mem_cons_self
          · exact .inr hfirst

theorem latest_ok {t : Template} {raw : String} (h : t.latest = .ok raw) :
    raw ∈ t.versionLinks.keys ∧ ∀ key ∈ t.versionLinks.keys, Version.read key ≠ none := by
  unfold latest at h
  split at h
  · exact absurd h (by simp)
  · exact absurd h (by simp)
  · rename_i top spelling hnewest
    obtain rfl : spelling = raw := by simpa using h
    have hmem := (mem_of_newest_ok hnewest).resolve_right (by simp)
    exact ⟨hmem, readable_of_newest_ok hnewest⟩

theorem newest_of_readable {keys : List String} (best : Option (Version × String))
    (h : ∀ key ∈ keys, Version.read key ≠ none) : ∃ result, newest best keys = .ok result := by
  induction keys generalizing best with
  | nil => exact ⟨best, rfl⟩
  | cons raw rest ih =>
    obtain ⟨version, hread⟩ := Option.ne_none_iff_exists'.mp (h raw List.mem_cons_self)
    have hrest (next : Option (Version × String)) : ∃ result, newest next rest = .ok result :=
      ih next fun key hkey => h key (List.mem_cons_of_mem raw hkey)
    simp only [newest, hread]
    cases best with
    | none => exact hrest _
    | some top => exact hrest _

theorem latest_of_readable {t : Template} (hsome : t.versionLinks.keys ≠ [])
    (h : ∀ key ∈ t.versionLinks.keys, Version.read key ≠ none) : ∃ version, t.latest = .ok version := by
  obtain ⟨result, hnewest⟩ := newest_of_readable none h
  cases result with
  | none =>
    have hnone : t.latest = .error (.noVersions t.id) := by rw [latest, hnewest]
    exact absurd (latest_eq_noVersions_iff.mp hnone) hsome
  | some top =>
    refine ⟨top.2, ?_⟩
    rw [latest, hnewest]

end MultiCluster.Template
