import XmlBounds.Ledger
import XmlBounds.Policy

/-!
# The gate before external resources

Before an external resource is fetched, the protocol of its system identifier is looked up in the
list of the policy that governs resources of its kind.
-/

namespace XmlBounds

namespace ResourceKind

def accessList : ResourceKind → AccessList
  | dtd | entity => .externalDtd
  | schema => .externalSchema

def refusal : ResourceKind → MessageKey
  | dtd => .accessExternalDtd
  | entity => .accessExternalEntity
  | schema => .accessExternalSchema

end ResourceKind

/-- Lets a system identifier pass, or fails. -/
def checkAccess (policy : Policy) (reporter : Reporter) (kind : ResourceKind)
    (systemId : Option String) : Accounted Unit := do
  match refusedProtocol systemId (policy.access kind.accessList) accessAll with
  | .error fault =>
      Accounted.note (.refused kind systemId)
      throw (.ofProtocol fault)
  | .ok none => Accounted.note (.permitted kind systemId)
  | .ok (some protocol) =>
      Accounted.note (.refused kind systemId)
      Accounted.raise reporter
        (.fatal kind.refusal [.text (systemId.getD ""), .text protocol])

end XmlBounds
