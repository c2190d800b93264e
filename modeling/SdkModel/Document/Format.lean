import SdkModel.Failure
import SdkModel.Text.Split
import SdkModel.Value.Display

/-!
# Document format

A document states the version of its format. Only versions that begin with `3.` are read.
-/

namespace SdkModel.Document

/-- The format version of a document. -/
def formatVersion (document : Entries) : Except DocumentError String :=
  if document.has "swagger" then .error (.oldFormat (document.get "swagger").display)
  else if !document.has "openapi" then .error .noVersion
  else
    let version := (document.get "openapi").display
    if Text.hasStart "3." version then .ok version else .error (.unsupportedVersion version)

end SdkModel.Document
