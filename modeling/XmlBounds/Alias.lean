import XmlBounds.Setting

/-!
# The spellings of a key

Callers may name a setting or a feature by any of several spellings. The table folds them onto
canonical keys, so nothing past the look-up compares property names.
-/

namespace XmlBounds

/-- What a property name stands for. -/
inductive Key where
  | setting (s : Setting)
  | feature (f : Feature)
  deriving DecidableEq, Repr

namespace Key

/-- The name that the key prints as. -/
def canonicalName : Key → String
  | setting s => s.propertyName
  | feature f => f.uri

def spellings : List (String × Key) := [
  ("http://apache.org/xml/properties/entity-expansion-limit", setting (.limit .entityExpansions)),
  ("http://www.oracle.com/xml/jaxp/properties/entityExpansionLimit",
    setting (.limit .entityExpansions)),
  ("jdk.xml.entityExpansionLimit", setting (.limit .entityExpansions)),
  ("http://apache.org/xml/properties/elementAttributeLimit", setting (.limit .elementAttributes)),
  ("http://www.oracle.com/xml/jaxp/properties/elementAttributeLimit",
    setting (.limit .elementAttributes)),
  ("jdk.xml.elementAttributeLimit", setting (.limit .elementAttributes)),
  ("http://java.sun.com/xml/jaxp/properties/maxElementDepth", setting (.limit .elementDepth)),
  ("http://www.oracle.com/xml/jaxp/properties/maxElementDepth", setting (.limit .elementDepth)),
  ("jdk.xml.maxElementDepth", setting (.limit .elementDepth)),
  ("http://apache.org/xml/properties/maxOccurLimit", setting (.limit .maxOccurs)),
  ("http://www.oracle.com/xml/jaxp/properties/maxOccurLimit", setting (.limit .maxOccurs)),
  ("jdk.xml.maxOccur", setting (.limit .maxOccurs)),
  ("http://apache.org/xml/properties/maxGeneralEntitySizeLimit",
    setting (.limit .generalEntitySize)),
  ("http://www.oracle.com/xml/jaxp/properties/maxGeneralEntitySizeLimit",
    setting (.limit .generalEntitySize)),
  ("jdk.xml.maxGeneralEntitySizeLimit", setting (.limit .generalEntitySize)),
  ("http://apache.org/xml/properties/maxParameterEntitySizeLimit",
    setting (.limit .parameterEntitySize)),
  ("http://www.oracle.com/xml/jaxp/properties/maxParameterEntitySizeLimit",
    setting (.limit .parameterEntitySize)),
  ("jdk.xml.maxParameterEntitySizeLimit", setting (.limit .parameterEntitySize)),
  ("http://apache.org/xml/properties/totalEntitySizeLimit", setting (.limit .totalEntitySize)),
  ("http://www.oracle.com/xml/jaxp/properties/totalEntitySizeLimit",
    setting (.limit .totalEntitySize)),
  ("jdk.xml.totalEntitySizeLimit", setting (.limit .totalEntitySize)),
  ("http://javax.xml.XMLConstants/property/accessExternalDTD", setting (.access .externalDtd)),
  ("javax.xml.accessExternalDTD", setting (.access .externalDtd)),
  ("http://javax.xml.XMLConstants/property/accessExternalSchema",
    setting (.access .externalSchema)),
  ("javax.xml.accessExternalSchema", setting (.access .externalSchema)),
  ("http://javax.xml.XMLConstants/feature/secure-processing", feature .secureProcessing),
  ("http://apache.org/xml/features/secure-processing", feature .secureProcessing),
  ("http://apache.org/xml/features/disallow-doctype-decl", feature .disallowDoctype),
  ("jdk.xml.disallowDoctype", feature .disallowDoctype),
  ("http://apache.org/xml/features/nonvalidating/load-external-dtd", feature .loadExternalDtd),
  ("jdk.xml.loadExternalDtd", feature .loadExternalDtd),
  ("http://xml.org/sax/features/external-general-entities", feature .externalGeneralEntities),
  ("jdk.xml.externalGeneralEntities", feature .externalGeneralEntities),
  ("http://xml.org/sax/features/external-parameter-entities", feature .externalParameterEntities),
  ("jdk.xml.externalParameterEntities", feature .externalParameterEntities)]

/-- The key that a spelling stands for. -/
def find? (name : String) : Option Key := spellings.lookup name

/-- The setting that a spelling stands for. -/
def setting? (name : String) : Option Setting :=
  match find? name with
  | some (setting s) => some s
  | _ => none

/-- The feature that a spelling stands for. -/
def feature? (name : String) : Option Feature :=
  match find? name with
  | some (feature f) => some f
  | _ => none

/-- Every spelling of a key, in the order of their characters. -/
def spellingsOf (key : Key) : List String :=
  ((spellings.filter (·.2 = key)).map (·.1)).mergeSort (fun a b => decide (a ≤ b))

end Key

end XmlBounds
