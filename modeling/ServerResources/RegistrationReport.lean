import ServerResources.Schema.Decoder

/-!
# Registration reports

What a client is told after an application was deployed or removed.
-/

namespace ServerResources

/-- An application and the names that were published or withdrawn for it. -/
structure RegistrationReport where
  application : String
  sessions : List String
  deriving DecidableEq, Repr

namespace RegistrationReport

/-- Reads a report. -/
def decode (origin : Origin) : Decoder RegistrationReport :=
  Decoder.object origin "RegistrationResponse" fun fields =>
    RegistrationReport.mk
      <$> Decoder.required fields "app_name" Decoder.string
      <*> Decoder.required fields "mail_sessions" (Decoder.list Decoder.string)

/-- Writes a report. -/
def dump (report : RegistrationReport) : Json :=
  .object
    [ ("app_name", .string report.application),
      ("mail_sessions", .ofStrings report.sessions) ]

end RegistrationReport

end ServerResources
