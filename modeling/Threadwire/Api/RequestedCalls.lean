import Threadwire.Api.RequestAcceptance
import Threadwire.Api.ThreadwireHttpServer

/-!
# What a body asks for

The three requests that have a body, as one format: a call of the controller, the object that says
it, and the route that it goes to. `callOf_eq_ok` says which bodies a route takes for which call,
and `callOf_text` that a call which the server would make survives the way from the client's
`JSON.stringify` over bytes and chunks.
-/

namespace Threadwire

open Json.Value (Same)

/-- A call of the controller that a request leads to. -/
inductive RequestedCall where
  | executeTurn (request : ControllerTurnRequest)
  | json (call : JsonCall)
deriving DecidableEq

/-- What the value of a body says on a route. -/
def Route.parse (options : ServerOptions) : Route → Json.Value → Except ApiError RequestedCall
  | .json operation, value => (operation.parse options.unicode value).map .json
  | .turns, value => (parseTurnRequest options.maxPromptBytes value).map .executeTurn
  | _, _ => .error requestInvalid

/-- What a body says on a route. -/
def Route.callOf (options : ServerOptions) (text : Except ApiError Text) (route : Route) :
    Except ApiError RequestedCall :=
  text.bind (parseBody (route.parse options))

namespace RequestedCall

/-- The route of a call. -/
def route : RequestedCall → Route
  | .executeTurn _ => .turns
  | .json (.createProject _) => .json .createProject
  | .json .recoverRuntime => .json .recoverRuntime

/-- The body that says a call, as the client writes it. -/
def toJson : RequestedCall → Json.Value
  | .executeTurn request => request.toJson
  | .json (.createProject name) => .object [(Text.of "name", .string name)]
  | .json .recoverRuntime => .object []

/-- What the server asks of a call. -/
def Valid (options : ServerOptions) : RequestedCall → Prop
  | .executeTurn request => request.Valid options.maxPromptBytes
  | .json (.createProject name) => createProjectName options.unicode name = .ok name
  | .json .recoverRuntime => True

end RequestedCall

variable {options : ServerOptions} {route : Route} {call : RequestedCall}
  {chunks : List (List UInt8)}

/-- The readers of projects and recoveries take the objects that say their calls. -/
theorem parse_json_eq_ok {operation : JsonOperation} {value : Json.Value} {call : JsonCall} :
    operation.parse options.unicode value = .ok call ↔
      Route.json operation = (RequestedCall.json call).route ∧
        Same value (RequestedCall.json call).toJson ∧ (RequestedCall.json call).Valid options := by
  cases operation with
  | createProject =>
    rw [JsonOperation.parse, map_eq_ok]
    constructor
    · rintro ⟨name, hname, rfl⟩
      exact ⟨rfl, parseProjectRequest_eq_ok.mp hname⟩
    · rintro ⟨hroute, hcall⟩
      cases call with
      | createProject name => exact ⟨name, parseProjectRequest_eq_ok.mpr hcall, rfl⟩
      | recoverRuntime => cases hroute
  | recoverRuntime =>
    rw [JsonOperation.parse, map_eq_ok]
    constructor
    · rintro ⟨⟨⟩, hvalue, rfl⟩
      exact ⟨rfl, parseRuntimeRecoveryRequest_eq_ok.mp hvalue, trivial⟩
    · rintro ⟨hroute, hsame, -⟩
      cases call with
      | createProject name => cases hroute
      | recoverRuntime => exact ⟨(), parseRuntimeRecoveryRequest_eq_ok.mpr hsame, rfl⟩

/-- Calls have the routes of the handlers. -/
theorem route_ne (hjson : ∀ operation, route ≠ .json operation) (hturns : route ≠ .turns) :
    call.route ≠ route := by
  rintro rfl
  cases call with
  | executeTurn request => exact hturns rfl
  | json call => cases call <;> exact hjson _ rfl

/-- A route takes the objects that say its calls, and no others. -/
theorem parse_eq_ok {value : Json.Value} :
    route.parse options value = .ok call ↔
      route = call.route ∧ Same value call.toJson ∧ call.Valid options := by
  have hrefused : route.parse options value = .error requestInvalid → route ≠ call.route →
      (route.parse options value = .ok call ↔
        route = call.route ∧ Same value call.toJson ∧ call.Valid options) := by
    intro hparse hroute
    rw [hparse]
    constructor
    · intro h
      cases h
    · rintro ⟨h, -⟩
      exact absurd h hroute
  -- only the routes of the three handlers read a body
  cases route with
  | json operation =>
    rw [Route.parse, map_eq_ok]
    constructor
    · rintro ⟨call, hcall, rfl⟩
      exact parse_json_eq_ok.mp hcall
    · rintro ⟨hroute, hcall⟩
      cases call with
      | executeTurn request => cases hroute
      | json call => exact ⟨call, parse_json_eq_ok.mpr ⟨hroute, hcall⟩, rfl⟩
  | turns =>
    rw [Route.parse, map_eq_ok]
    constructor
    · rintro ⟨request, hrequest, rfl⟩
      exact ⟨rfl, parseTurnRequest_eq_ok.mp hrequest⟩
    · rintro ⟨hroute, hcall⟩
      cases call with
      | executeTurn request => exact ⟨request, parseTurnRequest_eq_ok.mpr hcall, rfl⟩
      | json call => cases call <;> cases hroute
  | health => exact hrefused rfl (route_ne (by simp) (by simp)).symm
  | threads => exact hrefused rfl (route_ne (by simp) (by simp)).symm
  | refused statusCode => exact hrefused rfl (route_ne (by simp) (by simp)).symm

/-- A body is read where it has a text, the text is one of JSON, and its value is read. -/
theorem bind_parseBody_eq_ok {α : Type} {text : Except ApiError Text}
    {parse : Json.Value → Except ApiError α} {a : α} :
    text.bind (parseBody parse) = .ok a ↔
      ∃ units value, text = .ok units ∧ Json.parse units = some value ∧ parse value = .ok a := by
  constructor
  · intro h
    cases text with
    | error e => cases h
    | ok units =>
      change parseBody parse units = .ok a at h
      unfold parseBody at h
      cases hvalue : Json.parse units with
      | none => rw [hvalue] at h; cases h
      | some value =>
        rw [hvalue] at h
        exact ⟨units, value, rfl, hvalue, h⟩
  · rintro ⟨units, value, rfl, hvalue, hparse⟩
    show parseBody parse units = .ok a
    rw [parseBody, hvalue]
    exact hparse

section Handlers

variable {text : Except ApiError Text}

/-- What the handler of a project or a recovery reads. -/
theorem callOf_json {operation : JsonOperation} {call : JsonCall}
    (h : text.bind (parseBody (operation.parse options.unicode)) = .ok call) :
    (Route.json operation).callOf options text = .ok (.json call) := by
  obtain ⟨units, value, htext, hvalue, hparse⟩ := bind_parseBody_eq_ok.mp h
  exact bind_parseBody_eq_ok.mpr ⟨units, value, htext, hvalue, map_eq_ok.mpr ⟨call, hparse, rfl⟩⟩

/-- What the handler of a turn reads. -/
theorem callOf_turns {request : ControllerTurnRequest}
    (h : text.bind (parseBody (parseTurnRequest options.maxPromptBytes)) = .ok request) :
    Route.turns.callOf options text = .ok (.executeTurn request) := by
  obtain ⟨units, value, htext, hvalue, hparse⟩ := bind_parseBody_eq_ok.mp h
  exact bind_parseBody_eq_ok.mpr ⟨units, value, htext, hvalue, map_eq_ok.mpr ⟨request, hparse, rfl⟩⟩

/-- A body is a call on the call's own route only. -/
theorem route_of_callOf (h : route.callOf options text = .ok call) : route = call.route := by
  obtain ⟨units, value, -, -, hparse⟩ := bind_parseBody_eq_ok.mp h
  exact (parse_eq_ok.mp hparse).1

end Handlers

/-- A body is taken for a call exactly when it is sent on the call's route, it is within the limit,
it is the text of the object that says the call, up to white space, spelling and the order and
repetition of members, and the call is one the server makes. The cut into chunks makes no
difference. -/
theorem callOf_eq_ok :
    route.callOf options (readBody options.maxBodyBytes chunks) = .ok call ↔
      route = call.route ∧ chunks.flatten.length ≤ options.maxBodyBytes ∧
        ∃ value, Json.parse (Utf8.toText chunks.flatten) = some value ∧
          Same value call.toJson ∧ call.Valid options := by
  rw [(readBody_law options.maxBodyBytes chunks).1]
  by_cases hlimit : options.maxBodyBytes < chunks.flatten.length
  · rw [if_pos hlimit]
    constructor
    · intro h
      cases h
    · rintro ⟨-, hlength, -⟩
      exact absurd hlimit (Nat.not_lt.mpr hlength)
  · rw [if_neg hlimit]
    constructor
    · intro h
      obtain ⟨units, value, htext, hvalue, hparse⟩ := bind_parseBody_eq_ok.mp h
      obtain rfl := Except.ok.inj htext
      obtain ⟨hroute, hsame, hvalid⟩ := parse_eq_ok.mp hparse
      exact ⟨hroute, Nat.not_lt.mp hlimit, value, hvalue, hsame, hvalid⟩
    · rintro ⟨hroute, -, value, hvalue, hsame, hvalid⟩
      exact bind_parseBody_eq_ok.mpr
        ⟨_, value, rfl, hvalue, parse_eq_ok.mpr ⟨hroute, hsame, hvalid⟩⟩

/-- The body of a turn spells its object out. -/
theorem spelled_toJson (request : ControllerTurnRequest) : request.toJson.Spelled := by
  have htarget : request.target.toJson.Spelled := by
    cases request.target <;> refine .object fun m hm => ?_
    · rw [List.mem_pair] at hm
      rcases hm with rfl | rfl <;> exact .string _
    · rw [List.mem_singleton.mp hm]
      exact .string _
    · rw [List.mem_pair] at hm
      rcases hm with rfl | rfl <;> exact .string _
  refine .object fun m hm => ?_
  rw [List.mem_pair] at hm
  rcases hm with rfl | rfl
  · exact htarget
  · exact .string _

/-- So does the body of every call. -/
theorem spelled_call : call.toJson.Spelled := by
  cases call with
  | executeTurn request => exact spelled_toJson request
  | json call =>
    cases call with
    | createProject name =>
      refine .object fun m hm => ?_
      rw [List.mem_singleton.mp hm]
      exact .string name
    | recoverRuntime => exact .object fun m hm => absurd hm List.not_mem_nil

/-- A call that the server would make, sent as `JSON.stringify` writes it and cut into any chunks,
is what the server reads on the call's route, unless the text is longer than the limit; then it is
refused as that. -/
theorem callOf_text (hvalid : call.Valid options)
    (hchunks : chunks.flatten = Text.toUtf8 call.toJson.text) :
    call.route.callOf options (readBody options.maxBodyBytes chunks) =
      if options.maxBodyBytes < call.toJson.text.byteLength then
        .error (.request .API_REQUEST_TOO_LARGE 413)
      else .ok call := by
  rw [(readBody_law options.maxBodyBytes chunks).1, hchunks, Text.length_toUtf8]
  split_ifs with hlimit
  · rfl
  · exact bind_parseBody_eq_ok.mpr ⟨_, call.toJson, rfl, Json.parse_toText_toUtf8 spelled_call,
      parse_eq_ok.mpr ⟨rfl, Same.refl _, hvalid⟩⟩

/-- A turn in a fresh conversation. The last character of its prompt takes two bytes. -/
def freshTurn : RequestedCall := .executeTurn ⟨.fresh, [0x61, 0xE9]⟩

/-- Its body, cut between those bytes. -/
def freshTurnBody : List (List UInt8) :=
  [(Text.toUtf8 freshTurn.toJson.text).take 39, [], (Text.toUtf8 freshTurn.toJson.text).drop 39]

/-- A server whose limit is one byte less than that body. -/
def tightServer : ServerOptions :=
  { ServerOptions.plain 1 Nat.one_pos with maxBodyBytes := 41, maxBodyBytes_pos := by decide }

/-- The cut does not matter: the turn is read, and it is refused where the limit is too low. -/
theorem callOf_text_fresh :
    freshTurn.route.callOf (.plain 1 Nat.one_pos)
        (readBody (ServerOptions.plain 1 Nat.one_pos).maxBodyBytes freshTurnBody) =
      .ok freshTurn ∧
    freshTurn.route.callOf tightServer (readBody tightServer.maxBodyBytes freshTurnBody) =
      .error (.request .API_REQUEST_TOO_LARGE 413) := by
  have hbody : freshTurnBody.flatten = Text.toUtf8 freshTurn.toJson.text := by
    rw [freshTurnBody, List.flatten_cons, List.flatten_cons, List.nil_append, List.flatten_singleton,
      List.take_append_drop]
  constructor
  · have hvalid : freshTurn.Valid (.plain 1 Nat.one_pos) := ⟨by decide, by decide, trivial⟩
    rw [callOf_text hvalid hbody, if_neg (by decide +kernel)]
  · have hvalid : freshTurn.Valid tightServer := ⟨by decide, by decide, trivial⟩
    rw [callOf_text hvalid hbody, if_pos (by decide +kernel)]

end Threadwire
