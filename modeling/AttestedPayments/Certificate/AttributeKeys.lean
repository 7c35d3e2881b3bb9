import AttestedPayments.Der.Oid

/-!
# Keys of name attributes

* `attributeKeys` — the short names of the attributes of directory names, with the numbers of
  their object identifiers.
* `attributeKey?` — the short name that belongs to an identifier.
-/

namespace AttestedPayments.Certificate

/-- Identifiers of attributes, by their numbers, and the keys that stand for them. -/
def attributeKeys : List (List Nat × String) :=
  [([0, 9, 2342, 19200300, 100, 1, 1], "UID"),
   ([0, 9, 2342, 19200300, 100, 1, 2], "TEXTENCODEDORADDRESS"),
   ([0, 9, 2342, 19200300, 100, 1, 3], "MAIL"),
   ([0, 9, 2342, 19200300, 100, 1, 4], "INFO"),
   ([0, 9, 2342, 19200300, 100, 1, 5], "DRINK"),
   ([0, 9, 2342, 19200300, 100, 1, 6], "ROOMNUMBER"),
   ([0, 9, 2342, 19200300, 100, 1, 7], "PHOTO"),
   ([0, 9, 2342, 19200300, 100, 1, 8], "USERCLASS"),
   ([0, 9, 2342, 19200300, 100, 1, 9], "HOST"),
   ([0, 9, 2342, 19200300, 100, 1, 10], "MANAGER"),
   ([0, 9, 2342, 19200300, 100, 1, 11], "DOCUMENTIDENTIFIER"),
   ([0, 9, 2342, 19200300, 100, 1, 12], "DOCUMENTTITLE"),
   ([0, 9, 2342, 19200300, 100, 1, 13], "DOCUMENTVERSION"),
   ([0, 9, 2342, 19200300, 100, 1, 14], "DOCUMENTAUTHOR"),
   ([0, 9, 2342, 19200300, 100, 1, 15], "DOCUMENTLOCATION"),
   ([0, 9, 2342, 19200300, 100, 1, 20], "HOMEPHONE"),
   ([0, 9, 2342, 19200300, 100, 1, 21], "SECRETARY"),
   ([0, 9, 2342, 19200300, 100, 1, 22], "OTHERMAILBOX"),
   ([0, 9, 2342, 19200300, 100, 1, 23], "LASTMODIFIEDTIME"),
   ([0, 9, 2342, 19200300, 100, 1, 24], "LASTMODIFIEDBY"),
   ([0, 9, 2342, 19200300, 100, 1, 25], "DC"),
   ([0, 9, 2342, 19200300, 100, 1, 26], "ARECORD"),
   ([0, 9, 2342, 19200300, 100, 1, 27], "MDRECORD"),
   ([0, 9, 2342, 19200300, 100, 1, 28], "MXRECORD"),
   ([0, 9, 2342, 19200300, 100, 1, 29], "NSRECORD"),
   ([0, 9, 2342, 19200300, 100, 1, 30], "SOARECORD"),
   ([0, 9, 2342, 19200300, 100, 1, 31], "CNAMERECORD"),
   ([0, 9, 2342, 19200300, 100, 1, 37], "ASSOCIATEDDOMAIN"),
   ([0, 9, 2342, 19200300, 100, 1, 38], "ASSOCIATEDNAME"),
   ([0, 9, 2342, 19200300, 100, 1, 39], "HOMEPOSTALADDRESS"),
   ([0, 9, 2342, 19200300, 100, 1, 40], "PERSONALTITLE"),
   ([0, 9, 2342, 19200300, 100, 1, 41], "MOBILE"),
   ([0, 9, 2342, 19200300, 100, 1, 42], "PAGER"),
   ([0, 9, 2342, 19200300, 100, 1, 43], "CO"),
   ([0, 9, 2342, 19200300, 100, 1, 44], "UNIQUEIDENTIFIER"),
   ([0, 9, 2342, 19200300, 100, 1, 45], "ORGANIZATIONALSTATUS"),
   ([0, 9, 2342, 19200300, 100, 1, 46], "JANETMAILBOX"),
   ([0, 9, 2342, 19200300, 100, 1, 47], "MAILPREFERENCEOPTION"),
   ([0, 9, 2342, 19200300, 100, 1, 48], "BUILDINGNAME"),
   ([0, 9, 2342, 19200300, 100, 1, 49], "DSAQUALITY"),
   ([0, 9, 2342, 19200300, 100, 1, 50], "SINGLELEVELQUALITY"),
   ([0, 9, 2342, 19200300, 100, 1, 51], "SUBTREEMINIMUMQUALITY"),
   ([0, 9, 2342, 19200300, 100, 1, 52], "SUBTREEMAXIMUMQUALITY"),
   ([0, 9, 2342, 19200300, 100, 1, 53], "PERSONALSIGNATURE"),
   ([0, 9, 2342, 19200300, 100, 1, 54], "DITREDIRECT"),
   ([0, 9, 2342, 19200300, 100, 1, 55], "AUDIO"),
   ([0, 9, 2342, 19200300, 100, 1, 56], "DOCUMENTPUBLISHER"),
   ([0, 9, 2342, 19200300, 100, 1, 60], "JPEGPHOTO"),
   ([1, 2, 840, 113549, 1, 9, 1], "EMAIL"),
   ([1, 2, 840, 113549, 1, 9, 3], "ID-CONTENTTYPE"),
   ([1, 2, 840, 113549, 1, 9, 4], "ID-MESSAGEDIGEST"),
   ([1, 2, 840, 113549, 1, 9, 5], "ID-SIGNINGTIME"),
   ([1, 2, 840, 113549, 1, 9, 6], "ID-COUNTERSIGNATURE"),
   ([1, 2, 840, 113549, 1, 9, 14], "ID-EXTENSIONREQ"),
   ([1, 2, 840, 113549, 1, 9, 15], "SMIMECAPABILITIES"),
   ([1, 2, 840, 113549, 1, 9, 16], "ID-SMIME"),
   ([2, 5, 4, 0], "OBJECTCLASS"),
   ([2, 5, 4, 1], "ALIASEDOBJECTNAME"),
   ([2, 5, 4, 2], "KNOWLEDGEINFORMATION"),
   ([2, 5, 4, 3], "CN"),
   ([2, 5, 4, 4], "SN"),
   ([2, 5, 4, 5], "SERIALNUMBER"),
   ([2, 5, 4, 6], "C"),
   ([2, 5, 4, 7], "L"),
   ([2, 5, 4, 8], "ST"),
   ([2, 5, 4, 9], "STREET"),
   ([2, 5, 4, 10], "O"),
   ([2, 5, 4, 11], "OU"),
   ([2, 5, 4, 12], "TITLE"),
   ([2, 5, 4, 13], "DESCRIPTION"),
   ([2, 5, 4, 14], "SEARCHGUIDE"),
   ([2, 5, 4, 15], "BUSINESSCATEGORY"),
   ([2, 5, 4, 16], "POSTALADDRESS"),
   ([2, 5, 4, 17], "POSTALCODE"),
   ([2, 5, 4, 18], "POSTOFFICEBOX"),
   ([2, 5, 4, 20], "TELEPHONENUMBER"),
   ([2, 5, 4, 21], "TELEXNUMBER"),
   ([2, 5, 4, 24], "X121ADDRESS"),
   ([2, 5, 4, 26], "REGISTEREDADDRESS"),
   ([2, 5, 4, 27], "DESTINATIONINDICATOR"),
   ([2, 5, 4, 29], "PRESENTATIONADDRESS"),
   ([2, 5, 4, 31], "MEMBER"),
   ([2, 5, 4, 32], "OWNER"),
   ([2, 5, 4, 33], "ROLEOCCUPANT"),
   ([2, 5, 4, 34], "SEEALSO"),
   ([2, 5, 4, 35], "USERPASSWORD"),
   ([2, 5, 4, 36], "USERCERTIFICATE"),
   ([2, 5, 4, 37], "CACERTIFICATE"),
   ([2, 5, 4, 40], "CROSSCERTIFICATEPAIR"),
   ([2, 5, 4, 41], "NAME"),
   ([2, 5, 4, 42], "GIVENNAME"),
   ([2, 5, 4, 43], "INITIALS"),
   ([2, 5, 4, 44], "GENERATIONQUALIFIER"),
   ([2, 5, 4, 45], "X500UNIQUEIDENTIFIER"),
   ([2, 5, 4, 46], "DNQUALIFIER"),
   ([2, 5, 4, 47], "ENHANCEDSEARCHGUIDE"),
   ([2, 5, 4, 48], "PROTOCOLINFORMATION"),
   ([2, 5, 4, 49], "DISTINGUISHEDNAME"),
   ([2, 5, 4, 50], "UNIQUEMEMBER"),
   ([2, 5, 4, 51], "HOUSEIDENTIFIER"),
   ([2, 5, 4, 52], "SUPPORTEDALGORITHMS"),
   ([2, 5, 4, 53], "DELTAREVOCATIONLIST"),
   ([2, 5, 4, 54], "DMDNAME"),
   ([2, 5, 4, 65], "PSEUDONYM"),
   ([2, 5, 4, 72], "ID-AT-ROLE")]

/-- The key that stands for an identifier. -/
def attributeKey? (oid : Der.Oid) : Option String :=
  (attributeKeys.find? fun entry => Der.Oid.ofArcs entry.1 == oid).map Prod.snd

end AttestedPayments.Certificate
