import MultiCluster.App
import MultiCluster.Template.CatalogRef
import MultiCluster.Template.Version

namespace MultiCluster.Template

def newest (best : Option (Version × String)) :
    List String → Except String (Option (Version × String))
  | [] => .ok best
  | raw :: rest =>
    match Version.read raw with
    | none => .error raw
    | some version =>
      match best with
      | none => newest (some (version, raw)) rest
      | some (top, spelling) =>
        newest (some (if version.compare top = .gt then (version, raw) else (top, spelling))) rest

def latest (t : Template) : Except ResolutionError String :=
  match newest none t.versionLinks.keys with
  | .error raw => .error (.invalidVersion t.id raw)
  | .ok none => .error (.noVersions t.id)
  | .ok (some (_, raw)) => .ok raw

theorem newest_some_ne_none {best : Version × String} {keys : List String} :
    newest (some best) keys ≠ .ok none := by
  induction keys generalizing best with
  | nil => simp [newest]
  | cons raw rest ih =>
    simp only [newest]
    cases Version.read raw with
    | none => simp
    | some version => exact ih

theorem latest_eq_noVersions_iff {t : Template} :
    t.latest = .error (.noVersions t.id) ↔ t.versionLinks.keys = [] := by
  unfold latest
  cases hk : t.versionLinks.keys with
  | nil => simp [newest]
  | cons raw rest =>
    simp only [newest]
    cases Version.read raw with
    | none => simp
    | some version =>
      simp only [reduceCtorEq, iff_false]
      cases hn : newest (some (version, raw)) rest with
      | error e => simp
      | ok found =>
        cases found with
        | none => exact absurd hn newest_some_ne_none
        | some pair => simp

end MultiCluster.Template
