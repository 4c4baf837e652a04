import XmlBounds.Access
import XmlBounds.Diagnostic
import XmlBounds.Dtd.Fault
import XmlBounds.Markup.Fault
import XmlBounds.PropertyValue

/-!
# Faults

Everything that an operation of the library can fail with, by cause, and the words for it.
-/

namespace XmlBounds

/-- The kinds of failure to read or open a resource. -/
inductive IoKind where
  | notFound
  | isADirectory
  | notADirectory
  | invalidFilename
  | invalidInput
  | invalidData
  | unsupported
  | brokenPipe
  | interrupted
  | other
  deriving DecidableEq, Repr

/-- The words for a failure that has none of its own. -/
def IoKind.message : IoKind → String
  | notFound => "No such file or directory (os error 2)"
  | isADirectory => "Is a directory (os error 21)"
  | notADirectory => "Not a directory (os error 20)"
  | invalidFilename => "File name too long (os error 36)"
  | invalidInput => "file name contained an unexpected NUL byte"
  | invalidData => "stream did not contain valid UTF-8"
  | unsupported => "unsupported"
  | brokenPipe => "broken pipe"
  | interrupted => "operation interrupted"
  | other => "other error"

/-- A failure to read or open a resource, with words of its own if it has any. -/
structure IoFault where
  kind : IoKind
  text : Option String
  deriving DecidableEq, Repr

/-- Why a system identifier names nothing that can be fetched. -/
inductive UriFault where
  | noInnerScheme (systemId : String)
  | notLocalFile (systemId : String)
  /-- The named entity, or an unnamed external resource, has no identifier at all. -/
  | noSystemId (entity : Option String)
  deriving DecidableEq, Repr

def UriFault.message : UriFault → String
  | noInnerScheme systemId => s!"jar URL without an inner scheme: {systemId}"
  | notLocalFile systemId => s!"not a local file: {systemId}"
  | noSystemId entity =>
      (entity.getD "external resource") ++ " has no system identifier"

/-- What an operation fails with. -/
inductive Fault where
  /-- A violation, as it was reported. -/
  | fatal (diagnostic : Diagnostic)
  | invalidUri (why : UriFault)
  | url (why : Url.Fault)
  | io (why : IoFault)
  | markup (why : Markup.Fault)
  | dtd (why : Dtd.Fault)
  | value (why : ValueFault)
  | unknownProperty (name : String)
  /-- The bytes of an external entity are not text. -/
  | notText (why : Text.Utf8Fault)
  /-- No resolver has anything for the identifier. -/
  | unresolved (systemId : Option String)
  /-- A fault that a caller's resolver or reporter states in its own words. -/
  | other (text : String)
  deriving DecidableEq, Repr

namespace Fault

def message : Fault → String
  | fatal diagnostic => diagnostic.display
  | invalidUri why => s!"invalid URI: {why.message}"
  | url why => s!"URL error: {why.message}"
  | io why => s!"I/O error: {why.text.getD why.kind.message}"
  | markup why => s!"XML error: {why.message}"
  | dtd why => s!"DTD error: {why.message}"
  | value why => s!"configuration error: {why.message}"
  | unknownProperty name => s!"unknown property: {name}"
  | notText why => s!"external entity is not UTF-8: {why.message}"
  | unresolved systemId => s!"cannot resolve {Text.quotedOption systemId}"
  | other text => text

/-- Whoever reads to an end and meets the fault takes the reading up again. -/
def isInterruption : Fault → Bool
  | io why => why.kind = .interrupted
  | _ => false

/-- A system identifier without a protocol, as the fault of an operation that needs one. -/
def ofProtocol : ProtocolFault → Fault
  | .notUrl why => url why
  | .noInnerScheme systemId => invalidUri (.noInnerScheme systemId)

end Fault

end XmlBounds
