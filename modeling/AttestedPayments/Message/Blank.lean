import AttestedPayments.Message.Parties

/-!
# Blank bodies

The values that fields have where nobody gives others: no text, no members, numbers zero, the
standard network and the standard version of payment details.
-/

namespace AttestedPayments

/-- The version of new payment details. -/
def paymentDetailsVersion : UInt32 := 1

/-- A sender that is not backed by anything. -/
def SenderIdentity.blank : SenderIdentity := ⟨.none, "", "", ""⟩

def InvoiceRequest.blank : InvoiceRequest := ⟨0, "", "", [], [], [], [], "", "", .blank⟩

/-- Payment details in which only the network is said. -/
def PaymentDetails.blank : PaymentDetails := ⟨defaultNetwork, [], 0, 0, "", "", []⟩

def PaymentRequest.blank : PaymentRequest := ⟨paymentDetailsVersion, .blank, [], [], .blank⟩

/-- A payment without transactions. -/
def Payment.blank : Payment := ⟨[], [], [], "", [], []⟩

/-- An acknowledgement of the blank payment. -/
def PaymentAck.blank : PaymentAck := ⟨.blank, ""⟩

end AttestedPayments
