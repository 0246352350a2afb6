import Outreach.Campaigns
import Outreach.Customers
import Outreach.Http.Action
import Outreach.Http.Response
import Outreach.Http.Target
import Outreach.Orders
import Outreach.Text.Case
import Outreach.Text.Encoding

/-!
# The application

A request names a method and a target and may carry a body. The body is read before anything else is
looked at. A request that ends with a setback changes no table.
-/

namespace Outreach.Http

/-- What a request carries. -/
inductive Body where
  | none
  | text (s : String)
  | value (v : Value)

/-- What a request carries has an encoding. -/
def Body.hasEncoding : Body → Bool
  | .none => true
  | .text s => !Text.hasLoneSurrogate s
  | .value v => everyPart Http.hasEncoding v

/-- A request. -/
structure Request where
  method : String
  target : Target
  body : Body

/-- Makes a request, if its target is well-formed and its body can be sent. -/
def Request.make? (method target : String) (body : Body) : Except Url.Fault Request := do
  let target ← Target.read target
  if body.hasEncoding then return ⟨method, target, body⟩ else throw .unencodable

/-- The method in upper case letters: it may be named in any case. -/
def Request.verb (request : Request) : String := Text.capitalized request.method

/-- Where the body stands in reports of problems. -/
def bodyPlace : Form.Place := ⟨["body"], true⟩

/-- Where the query stands in reports of problems. -/
def queryPlace : Form.Place := ⟨["query"], false⟩

/-- The text of a body without a byte order mark. -/
def unmarked : List Char → List Char
  | '\ufeff' :: rest => rest
  | cs => cs

/-- The answer to a body that cannot be taken in. -/
def unparsed : Response := .detail 400 "There was an error parsing the body"

/-- The answer to a body that is no JSON. -/
def unreadable (text : List Char) (failure : Json.Failure) : Response :=
  match failure.kind with
  | .digitLimit _ | .nesting _ => unparsed
  | _ =>
    let position := Decimal.writeInt (failure.position text : Nat)
    .unprocessable [⟨.jsonInvalid, bodyPlace.path ++ [position], .null⟩]

/-- Reads the body: a value, none, or the answer that refuses it. -/
def readBody : Body → Except Response (Option Value)
  | .none | .text "" | .value .null => .ok Option.none
  | .value v => .ok (some v)
  | .text s =>
    match Text.resent? s with
    | Option.none => .error unparsed
    | some resent =>
      let text := unmarked resent
      match Json.readNested Json.nestingLimit text with
      | .ok v => .ok (some v)
      | .error failure => .error (unreadable text failure)

/-- Checks a body that was read. -/
def checkBody {α : Type} (check : Form.Check α) (body : Option Value) : Except Response α :=
  let checked := match body with
    | some v => check bodyPlace v
    | Option.none => Form.refuse .missing bodyPlace .null
  match checked with
  | .valid value => .ok value
  | .invalid problems => .error (.unprocessable problems)

/-- Does a task and answers with what it gives. Where the answer cannot be given,
no table changes. -/
def answer {α : Type} (task : Task α) (respond : α → Response) (o : Office) : Response × Office :=
  match task.inOneGo o with
  | (.ok value, after) =>
    let response := respond value
    (response,
      if response.status = Response.internal.status then { after with tables := o.tables }
        else after)
  | (.error setback, after) => (.ofSetback setback, after)

/-- Reads and checks the body, and answers with what the task gives. -/
def answerBody {α β : Type} (check : Form.Check α) (body : Body) (task : α → Task β)
    (respond : β → Response) (o : Office) : Response × Office :=
  match readBody body >>= checkBody check with
  | .ok value => answer (task value) respond o
  | .error refusal => (refusal, o)

/-- A number in the query. -/
def queryNumber (target : Target) (name : String) (usual : Int) (check : Form.Check Int) :
    Form.Checked Int :=
  match target.parameter? name with
  | some text => check (queryPlace.step name) (.text text)
  | Option.none => .valid usual

/-- Which part of a list is asked for. -/
structure Page where
  limit : Int
  offset : Int

/-- Reads which part of a list is asked for. -/
def readPage (target : Target) : Form.Checked Page :=
  Page.mk <$> queryNumber target "limit" 100 (Form.wholeBetween 1 1000)
    <*> queryNumber target "offset" 0 (Form.wholeFrom 0)

/-- Answers with a page of a list. -/
def answerPage (view : Form.View) (target : Target) (list : Nat → Nat → Task (List Fields))
    (o : Office) : Response × Office :=
  match readPage target with
  | .invalid problems => (.unprocessable problems, o)
  | .valid page =>
    let task : Task (List Value) := do
      if page.offset > 9223372036854775807 then Task.fail .offsetTooLarge
      Task.presentAll view (← list page.limit.toNat page.offset.toNat)
    answer task (fun shown => .showing 200 (.list shown)) o

/-- The answer to a write that was queued. -/
def queued (status : Nat) (message id : String) : Response :=
  .showing status (.map [("message", .text message), ("id", .text id)])

/-- Shows one object. -/
def shown (status : Nat) : Value → Response := .showing status

/-- Shows a list. -/
def shownList (values : List Value) : Response := .showing 200 (.list values)

/-- What the program says about itself. -/
def banner : Value :=
  .map [("message", .text "Marketing CRM API"), ("version", .text "1.0.0"), ("docs", .text "/docs")]

/-- The state of all processors. -/
def health (o : Office) : Value :=
  .map [("status", .text "healthy"),
    ("processors", .list (Collection.all.map fun c => .map (o.processor c).statistics))]

/-- Asks for message suggestions. -/
def suggest (advisers : List Suggestion.Provider) : Task Value := do
  match (Suggestion.ask (← get).suggestionLimit advisers).outcome with
  | .ok variants => return Suggestion.answerValue variants
  | .error (.failed why) => Task.refuse why
  | .error (.variant fault) => Task.fail (.suggestion fault)

/-- Answers with message suggestions. Without anybody to ask, the body is read but not checked. -/
def answerSuggestions (body : Body) (o : Office) : Response × Office :=
  match readBody body, o.advisers with
  | .error refusal, _ => (refusal, o)
  | .ok _, Option.none => (.ofSetback .noAdvisers, o)
  | .ok _, some advisers =>
    answerBody Form.SuggestionRequest.check body (fun _ => suggest advisers) (shown 200) o

/-- Does what is asked for. -/
def act (target : Target) (body : Body) (o : Office) : Action → Response × Office
  | .banner => (.showing 200 banner, o)
  | .health => (.showing 200 (health o), o)
  | .listCustomers => answerPage .customer target Customers.list o
  | .createCustomer =>
    answerBody Form.NewCustomer.check body
      (fun c => Customers.create c >>= Task.present .customer) (shown 201) o
  | .customer id => answer (Customers.get id >>= Task.present .customer) (shown 200) o
  | .customerSegments id =>
    answer (Customers.segmentsOf id (target.parameter? "creator")) shownList o
  | .listOrders => answerPage .order target Orders.list o
  | .createOrder =>
    answerBody Form.NewOrder.check body
      (fun r => Orders.create r >>= Task.present .order) (shown 201) o
  | .customerOrders id =>
    answer (Orders.ofCustomer id >>= Task.presentAll .order) shownList o
  | .order id => answer (Orders.get id >>= Task.present .orderDetail) (shown 200) o
  | .changeOrderStatus id =>
    answerBody Form.StatusChange.check body (Orders.changeStatus id)
      (queued 202 "Order status update enqueued for batch processing") o
  | .listSegments =>
    answer (Segments.list (target.parameter? "creator") >>= Task.presentAll .segment) shownList o
  | .createSegment =>
    answerBody Form.NewSegment.check body
      (fun s => Segments.create s >>= Task.present .segment) (shown 201) o
  | .previewSegment =>
    answerBody Form.Preview.check body
      (fun p => Segments.preview p >>= Task.present .preview) (shown 200) o
  | .segment id => answer (Segments.look id) (shown 200) o
  | .changeSegment id =>
    answerBody Form.SegmentChange.check body (Segments.change id)
      (queued 202 "Segment update enqueued for batch processing") o
  | .deleteSegment id => answer (Segments.delete id) (fun _ => .empty 204) o
  | .listCampaigns => answer (Campaigns.list (target.parameter? "creator")) shownList o
  | .createCampaign =>
    answerBody Form.NewCampaign.check body
      (fun c => Campaigns.create c >>= Campaigns.Created.shown) (shown 201) o
  | .suggestMessages => answerSuggestions body o
  | .campaign id => answer (Campaigns.look id (target.parameter? "creator")) (shown 200) o
  | .changeCampaign id =>
    answerBody Form.NewCampaign.check body (Campaigns.change id)
      (queued 202 "Campaign update enqueued for batch processing") o
  | .deleteCampaign id =>
    answer (Campaigns.delete id (target.parameter? "creator")) (fun _ => .empty 204) o
  | .campaignLogs id =>
    answer (Delivery.logsOf id >>= Task.presentAll .log) shownList o
  | .recordReceipt =>
    answerBody Form.Receipt.check body Delivery.recordReceipt
      (queued 200 "Delivery receipt updated") o

/-- The answer where there is nothing: the way to the same path without its last
slash, if that exists. -/
def notHere (target : Target) : Response :=
  match target.stepsWithoutSlash? with
  | some steps =>
    if (Action.atPath steps).isEmpty then .detail 404 "Not Found" else .empty 307
  | Option.none => .detail 404 "Not Found"

/-- Finds what a request asks for and does it. -/
def route (request : Request) (o : Office) : Response × Office :=
  match (request.target.steps?.map Action.atPath).getD [] with
  | [] => (notHere request.target, o)
  | actions => match Action.byMethod? request.verb actions with
    | some action => act request.target request.body o action
    | Option.none => (.detail 405 "Method Not Allowed", o)

/-- Answers a request. A request for the head of an answer gets no content. -/
def handle (request : Request) (o : Office) : Response × Office :=
  let (response, after) := route request o
  if request.verb = "HEAD" then (.empty response.status, after) else (response, after)

end Outreach.Http
