import MultiCluster.Proofs.Template.Latest
import MultiCluster.Proofs.Template.Precedence
import MultiCluster.Proofs.Text.Octets

namespace MultiCluster.Template

structure FirstUnreadable (keys : List String) (raw : String) : Prop where
  listed : raw ∈ keys
  unreadable : Version.read raw = none
  first : ∀ key ∈ keys, Version.read key = none → Text.octets raw ≤ Text.octets key

structure FirstNewest (keys : List String) (raw : String) (top : Version) : Prop where
  listed : raw ∈ keys
  read : Version.read raw = some top
  greatest : ∀ key ∈ keys, ∃ version, Version.read key = some version ∧ (version.compare top).isLE
  first : ∀ key ∈ keys, ∀ version, Version.read key = some version → version.compare top = .eq →
    Text.octets raw ≤ Text.octets key

def OctetsIncrease (keys : List String) : Prop :=
  keys.Pairwise fun a b => Text.octets a < Text.octets b

theorem octetsIncrease_keys {α : Type} (d : Dict α) : OctetsIncrease d.keys :=
  List.pairwise_map.mpr (d.increasing.imp Text.octets_lt)

theorem firstUnreadable_of_newest {keys : List String} {raw : String} (hkeys : OctetsIncrease keys)
    {best : Option (Version × String)} (h : newest best keys = .error raw) : FirstUnreadable keys raw := by
  induction keys generalizing best with
  | nil => exact absurd h (by simp [newest])
  | cons key rest ih =>
    obtain ⟨hkey, hrest⟩ := List.pairwise_cons.mp hkeys
    simp only [newest] at h
    cases hread : Version.read key with
    | none =>
      obtain rfl : key = raw := by simpa [hread] using h
      refine ⟨List.mem_cons_self, hread, fun other hother _ => ?_⟩
      rcases List.mem_cons.mp hother with rfl | hlater
      · exact List.le_refl _
      · exact List.le_of_lt (hkey other hlater)
    | some version =>
      have hfirst : FirstUnreadable rest raw := by
        rw [hread] at h
        cases best with
        | none => exact ih hrest h
        | some top => exact ih hrest h
      refine ⟨List.mem_cons_of_mem key hfirst.listed, hfirst.unreadable, fun other hother hnone => ?_⟩
      rcases List.mem_cons.mp hother with rfl | hlater
      · exact absurd (hread.symm.trans hnone) (by simp)
      · exact hfirst.first other hlater hnone

namespace FirstNewest

variable {keys : List String} {raw key spelling : String} {top version best : Version}

theorem singleton (hread : Version.read raw = some top) : FirstNewest [raw] raw top where
  listed := List.mem_singleton_self raw
  read := hread
  greatest key hkey := by
    obtain rfl := List.mem_singleton.mp hkey
    exact ⟨top, hread, Std.ReflCmp.isLE_rfl⟩
  first key hkey _ _ _ := by
    obtain rfl := List.mem_singleton.mp hkey
    exact List.le_refl _

theorem cons_of_lt (h : FirstNewest keys raw top) (hread : Version.read key = some version)
    (hlt : version.compare top = .lt) : FirstNewest (key :: keys) raw top where
  listed := List.mem_cons_of_mem key h.listed
  read := h.read
  greatest other hother := by
    rcases List.mem_cons.mp hother with rfl | hlater
    · exact ⟨version, hread, by rw [hlt]; rfl⟩
    · exact h.greatest other hlater
  first other hother v hv heq := by
    rcases List.mem_cons.mp hother with rfl | hlater
    · obtain rfl : version = v := Option.some.inj (hread.symm.trans hv)
      exact absurd (hlt.symm.trans heq) (by simp)
    · exact h.first other hlater v hv heq

theorem insert_of_isLE (h : FirstNewest (spelling :: keys) raw top)
    (hbest : Version.read spelling = some best) (hread : Version.read key = some version)
    (hle : (version.compare best).isLE) (hlater : Text.octets spelling < Text.octets key) :
    FirstNewest (spelling :: key :: keys) raw top := by
  obtain ⟨found, hfound, htop⟩ := h.greatest spelling List.mem_cons_self
  obtain rfl : best = found := Option.some.inj (hbest.symm.trans hfound)
  have hcases {other : String} (hother : other ∈ spelling :: key :: keys) :
      other = key ∨ other ∈ spelling :: keys := by
    simpa [or_left_comm] using hother
  exact {
    listed := by
      rcases List.mem_cons.mp h.listed with rfl | hrest
      · exact List.mem_cons_self
      · exact List.mem_cons_of_mem _ (List.mem_cons_of_mem _ hrest)
    read := h.read
    greatest := fun other hother => by
      rcases hcases hother with rfl | hbefore
      · exact ⟨version, hread, Std.TransCmp.isLE_trans hle htop⟩
      · exact h.greatest other hbefore
    first := fun other hother v hv heq => by
      rcases hcases hother with rfl | hbefore
      · obtain rfl : version = v := Option.some.inj (hread.symm.trans hv)
        have hback : (top.compare best).isLE := Std.TransCmp.congr_left heq ▸ hle
        have hsame : best.compare top = .eq := Std.OrientedCmp.isLE_antisymm htop hback
        exact List.le_of_lt
          (List.lt_of_le_of_lt (h.first spelling List.mem_cons_self best hbest hsame) hlater)
      · exact h.first other hbefore v hv heq }

end FirstNewest

theorem firstNewest_of_newest {keys : List String} {spelling raw : String} {best top : Version}
    (hkeys : OctetsIncrease (spelling :: keys)) (hbest : Version.read spelling = some best)
    (h : newest (some (best, spelling)) keys = .ok (some (top, raw))) :
    FirstNewest (spelling :: keys) raw top := by
  induction keys generalizing spelling best with
  | nil =>
    obtain ⟨rfl, rfl⟩ : best = top ∧ spelling = raw := by simpa [newest] using h
    exact .singleton hbest
  | cons key rest ih =>
    obtain ⟨hspelling, hrest⟩ := List.pairwise_cons.mp hkeys
    obtain ⟨version, hread⟩ := Option.ne_none_iff_exists'.mp (readable_of_newest_ok h key List.mem_cons_self)
    simp only [newest, hread] at h
    by_cases hgt : version.compare best = .gt
    · rw [if_pos hgt] at h
      have hfirst := ih hrest hread h
      obtain ⟨found, hfound, htop⟩ := hfirst.greatest key List.mem_cons_self
      obtain rfl : version = found := Option.some.inj (hread.symm.trans hfound)
      exact hfirst.cons_of_lt hbest
        (Std.TransCmp.lt_of_lt_of_isLE (Std.OrientedCmp.lt_of_gt hgt) htop)
    · rw [if_neg hgt] at h
      have hothers : OctetsIncrease (spelling :: rest) :=
        List.pairwise_cons.mpr ⟨fun other hother => hspelling other (List.mem_cons_of_mem key hother),
          (List.pairwise_cons.mp hrest).2⟩
      exact (ih hothers hbest h).insert_of_isLE hbest hread (Ordering.isLE_iff_ne_gt.mpr hgt)
        (hspelling key List.mem_cons_self)

theorem firstNewest_of_latest {t : Template} {raw : String} (h : t.latest = .ok raw) :
    ∃ top, FirstNewest t.versionLinks.keys raw top := by
  have hkeys := octetsIncrease_keys t.versionLinks
  unfold latest at h
  cases hn : newest none t.versionLinks.keys with
  | error key => exact absurd h (by simp [hn])
  | ok found =>
    obtain ⟨⟨top, spelling⟩, rfl⟩ : ∃ best, found = some best := by
      cases found with
      | none => exact absurd h (by simp [hn])
      | some best => exact ⟨best, rfl⟩
    obtain rfl : spelling = raw := by simpa [hn] using h
    refine ⟨top, ?_⟩
    cases hlisted : t.versionLinks.keys with
    | nil => exact absurd hn (by simp [hlisted, newest])
    | cons key rest =>
      rw [hlisted] at hkeys hn
      obtain ⟨version, hread⟩ :=
        Option.ne_none_iff_exists'.mp (readable_of_newest_ok hn key List.mem_cons_self)
      simp only [newest, hread] at hn
      exact firstNewest_of_newest hkeys hread hn

theorem latest_tells_first_newest (t : Template) :
    (t.latest = .error (.noVersions t.id) ↔ t.versionLinks.keys = []) ∧
    ((∃ key ∈ t.versionLinks.keys, Version.read key = none) ↔
      ∃ raw, FirstUnreadable t.versionLinks.keys raw ∧ t.latest = .error (.invalidVersion t.id raw)) ∧
    ((t.versionLinks.keys ≠ [] ∧ ∀ key ∈ t.versionLinks.keys, Version.read key ≠ none) ↔
      ∃ raw top, FirstNewest t.versionLinks.keys raw top ∧ t.latest = .ok raw) := by
  refine ⟨latest_eq_noVersions_iff, ⟨?_, ?_⟩, ⟨?_, ?_⟩⟩
  · rintro ⟨key, hkey, hnone⟩
    cases hn : newest none t.versionLinks.keys with
    | error raw => exact ⟨raw, firstUnreadable_of_newest (octetsIncrease_keys _) hn, by rw [latest, hn]⟩
    | ok found => exact absurd hnone (readable_of_newest_ok hn key hkey)
  · rintro ⟨raw, hfirst, -⟩
    exact ⟨raw, hfirst.listed, hfirst.unreadable⟩
  · rintro ⟨hsome, hreadable⟩
    obtain ⟨raw, hlatest⟩ := latest_of_readable hsome hreadable
    obtain ⟨top, hfirst⟩ := firstNewest_of_latest hlatest
    exact ⟨raw, top, hfirst, hlatest⟩
  · rintro ⟨raw, top, hfirst, hlatest⟩
    exact ⟨List.ne_nil_of_mem hfirst.listed, (latest_ok hlatest).2⟩

example : (newest none ["1.8", "1.9-rc.2", "1.9.0", "v1.9"]).map (Option.map Prod.snd) =
    .ok (some "1.9.0") := by
  decide +kernel

end MultiCluster.Template
