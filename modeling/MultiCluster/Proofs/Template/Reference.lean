import MultiCluster.Api.Store
import MultiCluster.Template.CatalogRef

namespace MultiCluster

theorem Text.isPrefixOf?_append (first rest : List Char) : first.isPrefixOf? (first ++ rest) = some rest := by
  induction first with
  | nil => rfl
  | cons c others ih =>
    show (if c == c then others.isPrefixOf? (others ++ rest) else none) = some rest
    rw [BEq.rfl, if_pos rfl, ih]

theorem Text.isPrefixOf?_eq_some_iff {first s rest : List Char} :
    first.isPrefixOf? s = some rest ↔ s = first ++ rest := by
  refine ⟨fun h => ?_, fun h => h ▸ Text.isPrefixOf?_append first rest⟩
  induction first generalizing s with
  | nil => exact Option.some.inj h
  | cons c others ih =>
    cases s with
    | nil => exact absurd h (by nofun)
    | cons d chars =>
      change (if c == d then others.isPrefixOf? chars else none) = some rest at h
      split at h
      · rename_i hsame
        rw [eq_of_beq hsame, ih h, List.cons_append]
      · exact absurd h (by nofun)

namespace CatalogRef

variable {key value rest : List Char}

theorem cut_pair (value : List Char) (hkey : '=' ∉ key) :
    Text.cut '=' (key ++ '=' :: value) = some (key, value) :=
  Text.cut_eq_some_iff.mpr ⟨rfl, hkey⟩

theorem queryPairs_pair (hkey : '=' ∉ key) (hclear : '&' ∉ key) (hvalue : '&' ∉ value) :
    queryPairs (key ++ '=' :: value) = some [(key, value)] := by
  have hone : '&' ∉ key ++ '=' :: value := by simp [hclear, hvalue]
  have hsome : (key ++ '=' :: value).isEmpty = false := by simp
  simp [queryPairs, Text.pieces_of_notMem hone, hsome, cut_pair value hkey]

theorem queryPairs_cons {pairs : List (List Char × List Char)} (hkey : '=' ∉ key) (hclear : '&' ∉ key)
    (hvalue : '&' ∉ value) (hrest : queryPairs rest = some pairs) :
    queryPairs (key ++ '=' :: value ++ '&' :: rest) = some ((key, value) :: pairs) := by
  have hone : '&' ∉ key ++ '=' :: value := by simp [hclear, hvalue]
  have hsome : (key ++ '=' :: value).isEmpty = false := by simp
  rw [queryPairs] at hrest ⊢
  rw [Text.pieces_append_cons rest hone, List.filter_cons, hsome]
  simp only [Bool.not_false, ↓reduceIte, List.mapM_cons, cut_pair value hkey, hrest]
  rfl

def query (catalog template version : String) : List Char :=
  "catalog".toList ++ '=' :: (Text.replaceChar ':' '/' catalog).toList ++ '&' ::
    ("template".toList ++ '=' :: template.toList ++ '&' ::
      ("version".toList ++ '=' :: version.toList))

theorem toList_joined {start first second : String} {opening key key' key'' : List Char} (x y z : String)
    (hstart : start.toList = opening ++ key ++ ['=']) (hfirst : first.toList = '&' :: key' ++ ['='])
    (hsecond : second.toList = '&' :: key'' ++ ['=']) :
    (start ++ x ++ first ++ y ++ second ++ z).toList =
      opening ++ (key ++ '=' :: x.toList ++ '&' ::
        (key' ++ '=' :: y.toList ++ '&' :: (key'' ++ '=' :: z.toList))) := by
  simp only [String.toList_append, hstart, hfirst, hsecond, List.append_assoc, List.cons_append,
    List.nil_append]

-- Only with the three keys as variables does the law unify fast; evaluating the texts does not.
theorem toList_externalId (catalog template version : String) :
    (Store.externalId catalog template version).toList =
      scheme.toList ++ query catalog template version :=
  toList_joined _ template version (by decide +kernel) (by decide +kernel) (by decide +kernel)

theorem required_of_lastValue {key : String} {fault : CatalogRefFault}
    {pairs : List (List Char × List Char)} {value : String} (hvalue : value ≠ "")
    (h : lastValue key pairs = some value.toList) : required key fault pairs = .ok value := by
  unfold required
  split
  · rename_i hnone
    exact absurd (h.symm.trans hnone) (by simp)
  · rename_i hempty
    have hnil := Option.some.inj (h.symm.trans hempty)
    exact absurd (String.toList_eq_nil_iff.mp hnil) hvalue
  · rename_i found _ hfound
    rw [← Option.some.inj (h.symm.trans hfound), String.ofList_toList]

def Fits (name : String) : Prop := name ≠ "" ∧ '&' ∉ name.toList

instance (name : String) : Decidable (Fits name) := inferInstanceAs (Decidable (_ ∧ _))

structure Wellformed (ref : CatalogRef) : Prop where
  catalog : Fits ref.catalog
  unslashed : '/' ∉ ref.catalog.toList
  template : Fits ref.template
  version : Fits ref.version

instance (ref : CatalogRef) : Decidable ref.Wellformed :=
  decidable_of_iff (Fits ref.catalog ∧ '/' ∉ ref.catalog.toList ∧ Fits ref.template ∧ Fits ref.version)
    ⟨fun ⟨catalog, unslashed, template, version⟩ => ⟨catalog, unslashed, template, version⟩,
      fun ⟨catalog, unslashed, template, version⟩ => ⟨catalog, unslashed, template, version⟩⟩

theorem read_externalId {ref : CatalogRef} (h : ref.Wellformed) :
    read (Store.externalId ref.catalog ref.template ref.version) = .ok ref := by
  have hpath : '&' ∉ (Text.replaceChar ':' '/' ref.catalog).toList :=
    Text.notMem_replaceChar h.catalog.2 (by decide)
  have hpairs : queryPairs (query ref.catalog ref.template ref.version) =
      some [("catalog".toList, (Text.replaceChar ':' '/' ref.catalog).toList),
        ("template".toList, ref.template.toList), ("version".toList, ref.version.toList)] := by
    refine queryPairs_cons (by decide) (by decide) hpath ?_
    refine queryPairs_cons (by decide) (by decide) h.template.2 ?_
    exact queryPairs_pair (by decide) (by decide) h.version.2
  have hread : readQuery (query ref.catalog ref.template ref.version) = .ok ref := by
    rw [readQuery, hpairs]
    simp only
    rw [required_of_lastValue (Text.replaceChar_ne_empty h.catalog.1) rfl,
      required_of_lastValue h.template.1 rfl, required_of_lastValue h.version.1 rfl]
    simp only [bind, Except.bind, Text.replaceChar_replaceChar h.unslashed]
    rfl
  rw [read, toList_externalId, Text.isPrefixOf?_append]
  simp only [hread]
  rfl

end CatalogRef

end MultiCluster
