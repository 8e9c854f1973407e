import MultiCluster.Target
import MultiCluster.Text.Quoted

namespace MultiCluster.Naming

def globalNamespace : String := "cattle-global-data:"

def templateId (catalog template : String) : TemplateId :=
  ⟨globalNamespace ++ catalog ++ "-" ++ template⟩

def isScoped (catalog : String) : Bool := catalog.toList.contains ':'

def catalogPart (catalog : String) : String :=
  if isScoped catalog then Text.replaceChar ':' '-' catalog else globalNamespace ++ catalog

def templateVersionId (catalog template version : String) : TemplateVersionId :=
  ⟨catalogPart catalog ++ "-" ++ template ++ "-" ++ version⟩

theorem templateVersionId_of_global {catalog : String} (template version : String)
    (h : isScoped catalog = false) :
    (templateVersionId catalog template version).text =
      (templateId catalog template).text ++ "-" ++ version := by
  simp [templateVersionId, templateId, catalogPart, h]

end MultiCluster.Naming

namespace MultiCluster

inductive CatalogRefFault where
  | missingScheme
  | pairWithoutEquals
  | missingCatalog
  | missingTemplate
  | missingVersion
  deriving DecidableEq, Repr

def CatalogRefFault.message : CatalogRefFault → String
  | .missingScheme => "missing catalog:// scheme"
  | .pairWithoutEquals => "query pair without '='"
  | .missingCatalog => "missing catalog"
  | .missingTemplate => "missing template"
  | .missingVersion => "missing version"

inductive ResolutionError where
  | templateNotFound (template : TemplateId)
  | noVersions (template : TemplateId)
  | invalidVersion (template : TemplateId) (version : String)
  | invalidExternalId (externalId : String) (fault : CatalogRefFault)
  deriving DecidableEq, Repr

def ResolutionError.message : ResolutionError → String
  | .templateNotFound template => "template " ++ template.text ++ " not found"
  | .noVersions template => "template " ++ template.text ++ " has no versions"
  | .invalidVersion template version =>
    "template " ++ template.text ++ " has unparseable version " ++ Text.quote version
  | .invalidExternalId externalId fault =>
    "malformed catalog reference " ++ Text.quote externalId ++ ": " ++ fault.message

structure CatalogRef where
  catalog : String
  template : String
  version : String
  deriving DecidableEq, Repr

namespace CatalogRef

def scheme : String := "catalog://?"

def queryPairs (query : List Char) : Option (List (List Char × List Char)) :=
  ((Text.pieces '&' query).filter fun piece => !piece.isEmpty).mapM (Text.cut '=')

def lastValue (key : String) (pairs : List (List Char × List Char)) : Option (List Char) :=
  (pairs.reverse.find? fun pair => pair.1 = key.toList).map Prod.snd

def required (key : String) (fault : CatalogRefFault) (pairs : List (List Char × List Char)) :
    Except CatalogRefFault String :=
  match lastValue key pairs with
  | none => .error fault
  | some [] => .error fault
  | some value => .ok (String.ofList value)

-- Other keys do not count; the slash after a catalog's scope is read as a colon.
def readQuery (query : List Char) : Except CatalogRefFault CatalogRef :=
  match queryPairs query with
  | none => .error .pairWithoutEquals
  | some pairs => do
    let catalog ← required "catalog" .missingCatalog pairs
    let template ← required "template" .missingTemplate pairs
    let version ← required "version" .missingVersion pairs
    pure ⟨Text.replaceChar '/' ':' catalog, template, version⟩

def read (externalId : String) : Except ResolutionError CatalogRef :=
  match scheme.toList.isPrefixOf? externalId.toList with
  | none => .error (.invalidExternalId externalId .missingScheme)
  | some query => (readQuery query).mapError (.invalidExternalId externalId)

end CatalogRef

end MultiCluster
