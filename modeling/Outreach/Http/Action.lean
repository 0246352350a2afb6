/-!
# Actions

An action is what a request asks for. Each path allows some methods, and each method stands
for an action. A path ends in a word, which a line feed may follow, or in an identifier, to
which the line feed belongs.
-/

namespace Outreach.Http

/-- What a request asks for. -/
inductive Action where
  | banner
  | health
  | listCustomers
  | createCustomer
  | customer (id : String)
  | customerSegments (id : String)
  | listOrders
  | createOrder
  | customerOrders (customerId : String)
  | order (id : String)
  | changeOrderStatus (id : String)
  | listSegments
  | createSegment
  | previewSegment
  | segment (id : String)
  | changeSegment (id : String)
  | deleteSegment (id : String)
  | listCampaigns
  | createCampaign
  | suggestMessages
  | campaign (id : String)
  | changeCampaign (id : String)
  | deleteCampaign (id : String)
  | campaignLogs (campaignId : String)
  | recordReceipt
  deriving DecidableEq, Repr

namespace Action

/-- The actions at a path that ends in a word; the empty path is the root. -/
def atWord : List String → List (String × Action)
  | [] => [("GET", .banner)]
  | ["health"] => [("GET", .health)]
  | ["customers"] => [("POST", .createCustomer), ("GET", .listCustomers)]
  | ["customers", id, "segments"] => [("GET", .customerSegments id)]
  | ["orders"] => [("POST", .createOrder), ("GET", .listOrders)]
  | ["orders", id, "status"] => [("PATCH", .changeOrderStatus id)]
  | ["segments"] => [("POST", .createSegment), ("GET", .listSegments)]
  | ["segments", "preview"] => [("POST", .previewSegment)]
  | ["campaigns"] => [("GET", .listCampaigns), ("POST", .createCampaign)]
  | ["campaigns", "generate-message-suggestions"] => [("POST", .suggestMessages)]
  | ["communication-logs", "delivery-receipt"] => [("POST", .recordReceipt)]
  | _ => []

/-- The actions at a path that ends in an identifier. -/
def atIdentifier : List String → List (String × Action)
  | ["customers", id] => [("GET", .customer id)]
  | ["orders", "customer", id] => [("GET", .customerOrders id)]
  | ["orders", id] => [("GET", .order id)]
  | ["segments", id] =>
    [("GET", .segment id), ("PUT", .changeSegment id), ("DELETE", .deleteSegment id)]
  | ["campaigns", id] =>
    [("GET", .campaign id), ("PUT", .changeCampaign id), ("DELETE", .deleteCampaign id)]
  | ["communication-logs", "campaign", id] => [("GET", .campaignLogs id)]
  | _ => []

/-- A step without the line feed that may end it. -/
def withoutLineFeed (step : String) : String :=
  match step.toList.reverse with
  | '\n' :: rest => String.ofList rest.reverse
  | _ => step

/-- The steps of a path that ends in a word; a line feed may follow the word, or the root. -/
def wordSteps (steps : List String) : List String :=
  let cut := steps.dropLast ++ (steps.getLast?.map withoutLineFeed).toList
  if cut = [""] then [] else cut

/-- The actions at a path, by method; a path without actions does not exist. An
identifier is never empty. -/
def atPath (steps : List String) : List (String × Action) :=
  if steps.dropLast.contains "" then []
  else atWord (wordSteps steps) ++ (if steps.getLast? = some "" then [] else atIdentifier steps)

/-- The action of a method among several. -/
def byMethod? (method : String) (actions : List (String × Action)) : Option Action :=
  (actions.find? fun entry => entry.1 = method).map Prod.snd

end Action

end Outreach.Http
