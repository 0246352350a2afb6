import Outreach.Text.Quoted
import Outreach.Url.Basic
import Outreach.Value.Basic

/-!
# The messaging vendor

Messages are posted to the vendor one by one over a connection that is opened when it is first
needed. A vendor that is switched off is never asked. How the vendor answers is given as a script,
of which the last answer repeats; any status outside the two hundreds is an error. A malformed
address, or a message that has no encoding, is an error before the vendor is asked; an address
without a scheme is one after the vendor has answered.
-/

namespace Outreach.Delivery

/-- How the vendor answers one request. -/
inductive VendorAnswer where
  | status (code : Int)
  | raised (kind text : String)
  deriving DecidableEq, Repr

/-- A message on its way. -/
structure Posting where
  logId : String
  customerId : String
  message : String
  deriving DecidableEq, Repr

/-- A text of the message has no encoding. -/
def Posting.isUnencodable (posting : Posting) : Bool :=
  [posting.logId, posting.customerId, posting.message].any Text.hasLoneSurrogate

/-- Why a message did not get through. -/
inductive VendorError where
  | badStatus (code : Int)
  | raised (kind text : String)
  | badAddress (fault : Url.Fault)
  | unencodable
  /-- The address that was asked has no scheme. -/
  | noScheme (address : String)
  deriving DecidableEq, Repr

/-- What is said of an address without a scheme. -/
def noSchemeMessage (address : String) : String := "unknown url type: " ++ Text.quote address

/-- The vendor as the program reaches it. -/
structure Vendor where
  url : String
  enabled : Bool
  script : List VendorAnswer
  /-- Requests in order. -/
  postings : List Posting
  connected : Bool
  /-- How many connections were opened. -/
  connections : Nat

namespace Vendor

/-- A vendor that was not asked yet. -/
def fresh (url : String) (enabled : Bool) (script : List VendorAnswer) : Vendor :=
  ⟨url, enabled, script, [], false, 0⟩

/-- The answer to the next request. -/
def nextAnswer (v : Vendor) : VendorAnswer :=
  (v.script[min v.postings.length (v.script.length - 1)]?).getD (.status 200)

/-- The vendor with an open connection. -/
def connect (v : Vendor) : Vendor :=
  { v with
    connected := true
    connections := if v.connected then v.connections else v.connections + 1 }

/-- The vendor after one more request. -/
def post (posting : Posting) (v : Vendor) : Vendor :=
  { v.connect with postings := v.postings ++ [posting] }

/-- The address of the vendor. A relative one has nothing to be put on, so it
becomes a bare path. -/
def address (v : Vendor) : Except Url.Fault Url :=
  Url.readOn ⟨[], [], [], none, [], none, none⟩ v.url

/-- What an answer from an address means. -/
def judge (address : Url) : VendorAnswer → Except VendorError Unit
  | .status code =>
    if address.scheme.isEmpty then .error (.noScheme address.text)
    else if 200 ≤ code ∧ code ≤ 299 then .ok () else .error (.badStatus code)
  | .raised kind text => .error (.raised kind text)

/-- Sends a message over the connection. -/
def send (posting : Posting) (v : Vendor) : Except VendorError Unit × Vendor :=
  if !v.enabled then (.ok (), v)
  else match v.address with
    | .error fault => (.error (.badAddress fault), v.connect)
    | .ok address =>
      if posting.isUnencodable then (.error .unencodable, v.connect)
      else (judge address v.nextAnswer, v.post posting)

/-- Closes the connection. -/
def close (v : Vendor) : Vendor := { v with connected := false }

end Vendor

end Outreach.Delivery
