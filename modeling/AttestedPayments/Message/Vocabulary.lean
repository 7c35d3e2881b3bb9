import AttestedPayments.Text.Quoted

/-!
# Words of the protocol

* `PkiScheme` — how a statement is backed; `Attestation` — what an owner states; both are written
  by name.
* `StatusCode` — what a receiver says about a message; `MessageType` — which body an envelope
  holds; both are written by number.
* `Currency` — what an output is paid in.
* `Unknown` — a name or number that is none of them.

Principal results: each reading function is the inverse of its writing function, in both
directions.
-/

namespace AttestedPayments

/-- A name or number that has no meaning. -/
inductive Unknown where
  | pkiScheme (name : String)
  | attestation (name : String)
  | statusCode (code : UInt32)
  | messageType (code : UInt32)
  deriving DecidableEq, Repr

/-- The wording of what is unknown. -/
def Unknown.message : Unknown → String
  | pkiScheme name => "unknown pki type " ++ Quoted.text name
  | attestation name => "unknown attestation " ++ Quoted.text name
  | statusCode code => "unknown status code " ++ toString code.toNat
  | messageType code => "unknown message type " ++ toString code.toNat

/-- How a statement or a sender is backed. -/
inductive PkiScheme where
  /-- Asserted, without certificate and signature. -/
  | none
  /-- A certificate, and a signature with its RSA key over a SHA-256 digest. -/
  | x509Sha256
  deriving DecidableEq, Repr

namespace PkiScheme

def text : PkiScheme → String
  | none => "none"
  | x509Sha256 => "x509+sha256"

/-- Whether statements of this scheme have a certificate and a signature. -/
def isSigned : PkiScheme → Bool
  | none => false
  | x509Sha256 => true

def all : List PkiScheme := [.none, .x509Sha256]

/-- The scheme with a name, if there is one. -/
def ofText? (name : String) : Option PkiScheme := all.find? fun scheme => scheme.text == name

def ofText (name : String) : Except Unknown PkiScheme :=
  match ofText? name with
  | some scheme => .ok scheme
  | .none => .error (.pkiScheme name)

theorem ofText?_text (scheme : PkiScheme) : ofText? scheme.text = some scheme := by
  cases scheme <;> decide

theorem text_of_ofText? {name : String} {scheme : PkiScheme} (h : ofText? name = some scheme) :
    scheme.text = name := by
  simpa using List.find?_some h

end PkiScheme

/-- What an owner states about itself. -/
inductive Attestation where
  | addressDepartment
  | addressSubDepartment
  | addressStreetName
  | addressBuildingNumber
  | addressBuildingName
  | addressFloor
  | addressPostbox
  | addressRoom
  | addressPostcode
  | addressTownName
  | addressTownLocationName
  | addressDistrictName
  | addressCountrySubDivision
  | addressAddressLine
  | addressCountry
  | naturalPersonPrimaryName
  | naturalPersonSecondaryName
  | naturalPersonPhoneticNameIdentifier
  | naturalPersonFirstName
  | naturalPersonLastName
  | legalPersonPrimaryName
  | legalPersonSecondaryName
  | legalPersonNameIdentifierType
  | legalPersonPhoneticNameIdentifier
  | dateOfBirth
  | placeOfBirth
  | countryOfResidence
  | countryOfIssue
  | countryOfRegistration
  | nationalIdentifier
  | nationalIdentifierType
  | accountNumber
  | customerIdentification
  | registrationAuthority
  | beneficiaryPersonFirstName
  | beneficiaryPersonLastName
  deriving DecidableEq, Repr

namespace Attestation

/-- Every kind of statement, in the order of the standard. -/
def all : List Attestation :=
  [.addressDepartment, .addressSubDepartment, .addressStreetName, .addressBuildingNumber,
   .addressBuildingName, .addressFloor, .addressPostbox, .addressRoom, .addressPostcode,
   .addressTownName, .addressTownLocationName, .addressDistrictName,
   .addressCountrySubDivision, .addressAddressLine, .addressCountry, .naturalPersonPrimaryName,
   .naturalPersonSecondaryName, .naturalPersonPhoneticNameIdentifier, .naturalPersonFirstName,
   .naturalPersonLastName, .legalPersonPrimaryName, .legalPersonSecondaryName,
   .legalPersonNameIdentifierType, .legalPersonPhoneticNameIdentifier, .dateOfBirth,
   .placeOfBirth, .countryOfResidence, .countryOfIssue, .countryOfRegistration,
   .nationalIdentifier, .nationalIdentifierType, .accountNumber, .customerIdentification,
   .registrationAuthority, .beneficiaryPersonFirstName, .beneficiaryPersonLastName]

def text : Attestation → String
  | addressDepartment => "ADDRESS_DEPARTMENT"
  | addressSubDepartment => "ADDRESS_SUB_DEPARTMENT"
  | addressStreetName => "ADDRESS_STREET_NAME"
  | addressBuildingNumber => "ADDRESS_BUILDING_NUMBER"
  | addressBuildingName => "ADDRESS_BUILDING_NAME"
  | addressFloor => "ADDRESS_FLOOR"
  | addressPostbox => "ADDRESS_POSTBOX"
  | addressRoom => "ADDRESS_ROOM"
  | addressPostcode => "ADDRESS_POSTCODE"
  | addressTownName => "ADDRESS_TOWN_NAME"
  | addressTownLocationName => "ADDRESS_TOWN_LOCATION_NAME"
  | addressDistrictName => "ADDRESS_DISTRICT_NAME"
  | addressCountrySubDivision => "ADDRESS_COUNTRY_SUB_DIVISION"
  | addressAddressLine => "ADDRESS_ADDRESS_LINE"
  | addressCountry => "ADDRESS_COUNTRY"
  | naturalPersonPrimaryName => "NATURAL_PERSON_PRIMARY_NAME"
  | naturalPersonSecondaryName => "NATURAL_PERSON_SECONDARY_NAME"
  | naturalPersonPhoneticNameIdentifier => "NATURAL_PERSON_PHONETIC_NAME_IDENTIFIER"
  | naturalPersonFirstName => "NATURAL_PERSON_FIRST_NAME"
  | naturalPersonLastName => "NATURAL_PERSON_LAST_NAME"
  | legalPersonPrimaryName => "LEGAL_PERSON_PRIMARY_NAME"
  | legalPersonSecondaryName => "LEGAL_PERSON_SECONDARY_NAME"
  | legalPersonNameIdentifierType => "LEGAL_PERSON_NAME_IDENTIFIER_TYPE"
  | legalPersonPhoneticNameIdentifier => "LEGAL_PERSON_PHONETIC_NAME_IDENTIFIER"
  | dateOfBirth => "DATE_OF_BIRTH"
  | placeOfBirth => "PLACE_OF_BIRTH"
  | countryOfResidence => "COUNTRY_OF_RESIDENCE"
  | countryOfIssue => "COUNTRY_OF_ISSUE"
  | countryOfRegistration => "COUNTRY_OF_REGISTRATION"
  | nationalIdentifier => "NATIONAL_IDENTIFIER"
  | nationalIdentifierType => "NATIONAL_IDENTIFIER_TYPE"
  | accountNumber => "ACCOUNT_NUMBER"
  | customerIdentification => "CUSTOMER_IDENTIFICATION"
  | registrationAuthority => "REGISTRATION_AUTHORITY"
  | beneficiaryPersonFirstName => "BENEFICIARY_PERSON_FIRST_NAME"
  | beneficiaryPersonLastName => "BENEFICIARY_PERSON_LAST_NAME"

/-- The kind of statement with a name, if there is one. -/
def ofText? (name : String) : Option Attestation := all.find? fun a => a.text == name

def ofText (name : String) : Except Unknown Attestation :=
  match ofText? name with
  | some a => .ok a
  | none => .error (.attestation name)

theorem ofText?_text (a : Attestation) : ofText? a.text = some a := by cases a <;> decide

theorem text_of_ofText? {name : String} {a : Attestation} (h : ofText? name = some a) :
    a.text = name := by
  simpa using List.find?_some h

/-- One word of a name with a capital letter in front. -/
def capitalize (word : List Char) : List Char :=
  match word with
  | [] => []
  | c :: rest => c :: rest.map Char.toLower

/-- The name with a capital letter at the start of each word and no signs between words. -/
def joined (a : Attestation) : String :=
  String.join ((a.text.splitOn "_").map fun word => String.ofList (capitalize word.toList))

end Attestation

/-- What a receiver says about a message. -/
inductive StatusCode where
  | ok
  | cancel
  | generalUnknownError
  | versionTooHigh
  | authenticationFailed
  | encryptedMessageRequired
  | amountTooHigh
  | amountTooLow
  | amountInvalid
  | paymentRequirementsNotMet
  | certificateRequired
  | certificateExpired
  | certificateInvalidForTransaction
  | certificateRevoked
  | certificateNotWellRooted
  deriving DecidableEq, Repr

namespace StatusCode

def all : List StatusCode :=
  [.ok, .cancel, .generalUnknownError, .versionTooHigh, .authenticationFailed,
   .encryptedMessageRequired, .amountTooHigh, .amountTooLow, .amountInvalid,
   .paymentRequirementsNotMet, .certificateRequired, .certificateExpired,
   .certificateInvalidForTransaction, .certificateRevoked, .certificateNotWellRooted]

/-- The number of a status: below ten for decisions, then by hundreds for general faults, amounts
and certificates. -/
def code : StatusCode → UInt32
  | ok => 1
  | cancel => 2
  | generalUnknownError => 100
  | versionTooHigh => 101
  | authenticationFailed => 102
  | encryptedMessageRequired => 103
  | amountTooHigh => 200
  | amountTooLow => 201
  | amountInvalid => 202
  | paymentRequirementsNotMet => 203
  | certificateRequired => 300
  | certificateExpired => 301
  | certificateInvalidForTransaction => 302
  | certificateRevoked => 303
  | certificateNotWellRooted => 304

def name : StatusCode → String
  | ok => "Ok"
  | cancel => "Cancel"
  | generalUnknownError => "GeneralUnknownError"
  | versionTooHigh => "VersionTooHigh"
  | authenticationFailed => "AuthenticationFailed"
  | encryptedMessageRequired => "EncryptedMessageRequired"
  | amountTooHigh => "AmountTooHigh"
  | amountTooLow => "AmountTooLow"
  | amountInvalid => "AmountInvalid"
  | paymentRequirementsNotMet => "PaymentRequirementsNotMet"
  | certificateRequired => "CertificateRequired"
  | certificateExpired => "CertificateExpired"
  | certificateInvalidForTransaction => "CertificateInvalidForTransaction"
  | certificateRevoked => "CertificateRevoked"
  | certificateNotWellRooted => "CertificateNotWellRooted"

def text (s : StatusCode) : String := s.name ++ "(" ++ toString s.code.toNat ++ ")"

/-- The status with a number, if there is one. -/
def ofCode? (code : UInt32) : Option StatusCode := all.find? fun s => s.code == code

def ofCode (code : UInt32) : Except Unknown StatusCode :=
  match ofCode? code with
  | some s => .ok s
  | none => .error (.statusCode code)

theorem ofCode?_code (s : StatusCode) : ofCode? s.code = some s := by cases s <;> decide

theorem code_of_ofCode? {n : UInt32} {s : StatusCode} (h : ofCode? n = some s) : s.code = n := by
  simpa using List.find?_some h

end StatusCode

/-- Which body an envelope holds; `unknown` where it is not opened. -/
inductive MessageType where
  | unknown
  | invoiceRequest
  | paymentRequest
  | payment
  | paymentAck
  deriving DecidableEq, Repr

namespace MessageType

def all : List MessageType := [.unknown, .invoiceRequest, .paymentRequest, .payment, .paymentAck]

def code : MessageType → UInt32
  | unknown => 0
  | invoiceRequest => 1
  | paymentRequest => 2
  | payment => 3
  | paymentAck => 4

def text : MessageType → String
  | unknown => "Unknown"
  | invoiceRequest => "InvoiceRequest"
  | paymentRequest => "PaymentRequest"
  | payment => "Payment"
  | paymentAck => "PaymentAck"

/-- The message type with a number, if there is one. -/
def ofCode? (code : UInt32) : Option MessageType := all.find? fun t => t.code == code

def ofCode (code : UInt32) : Except Unknown MessageType :=
  match ofCode? code with
  | some t => .ok t
  | none => .error (.messageType code)

theorem ofCode?_code (t : MessageType) : ofCode? t.code = some t := by cases t <;> decide

theorem code_of_ofCode? {n : UInt32} {t : MessageType} (h : ofCode? n = some t) : t.code = n := by
  simpa using List.find?_some h

end MessageType

/-- What an output is paid in. -/
inductive Currency where
  | bitcoin
  | ethereum
  | litecoin
  | bitcoinCash
  deriving DecidableEq, Repr

namespace Currency

/-- Every currency, in the order of their numbers. -/
def all : List Currency := [.bitcoin, .ethereum, .litecoin, .bitcoinCash]

/-- The number of a currency. -/
def index : Currency → UInt32
  | bitcoin => 0
  | ethereum => 1
  | litecoin => 2
  | bitcoinCash => 3

def text : Currency → String
  | bitcoin => "BITCOIN"
  | ethereum => "ETHEREUM"
  | litecoin => "LITECOIN"
  | bitcoinCash => "BITCOIN_CASH"

/-- The currency with a number. -/
def ofIndex? (n : UInt32) : Option Currency := all.find? fun c => c.index == n

theorem index_of_ofIndex? {n : UInt32} {c : Currency} (h : ofIndex? n = some c) : c.index = n := by
  simpa using List.find?_some h

theorem ofIndex?_index (c : Currency) : ofIndex? c.index = some c := by cases c <;> decide

end Currency

end AttestedPayments
