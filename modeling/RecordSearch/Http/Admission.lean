import RecordSearch.Service.Failure
import RecordSearch.Text.Blank

/-!
What a request must satisfy before it reaches the services.
-/

namespace RecordSearch.Admission

open RecordSearch.Text

def query (limit : Nat) (q : String) : Except Failure Unit :=
  if q.length ≤ limit then .ok ()
  else
    .error (.invalidRequest
      ("Query string is " ++ toString q.length ++ " characters; the limit is " ++ toString limit))

def identityLength : Nat := 32

def isIdentity (id : String) : Bool :=
  id.length = identityLength && id.toList.all fun c => isAsciiLetter c || isAsciiDigit c

def identity (id : String) : Except Failure Unit :=
  if isIdentity id then .ok ()
  else
    .error (.invalidRequest
      ("Identity must be " ++ toString identityLength ++ " alphanumeric characters"))

def version (supported : String) (requested : Option String) : Except Failure Unit :=
  if requested = some supported then .ok ()
  else .error (.unsupportedVersion (requested.getD "") supported)

/-- An envelope has a media type, which is returned without blanks around it, and at most `limit`
bytes. -/
def envelope (limit : Nat) (mediaType : Option String) (size : Nat) : Except Failure String :=
  let mediaType := trim (mediaType.getD "")
  if mediaType.isEmpty then .error (.invalidRequest "Content-Type must not be blank")
  else if limit < size then .error (.payloadTooLarge size limit)
  else .ok mediaType

end RecordSearch.Admission
