import Threadwire.Api.ThreadwireHttpServer

/-!
# The budget of requests in flight

The three handlers share one counter, which each of them raises when it admits a request and lowers
in its `finally`. `server_admission` says what comes of it over every run, in whatever order the
requests move on: the counter is the number of handlers at work, it never passes the limit, and a
request is refused as one too many exactly when it is for a handler and the handlers at work are as
many as the limit. Any other request finds the server as if it were idle.
-/

namespace Threadwire

namespace JsonHandler

variable {options : ServerOptions} {s s' : JsonHandler}

/-- A settled handler stays settled. -/
theorem step_settled {input : JsonInput} (hphase : s.phase = .settled)
    (hstep : s.step options input = some s') : s'.phase = .settled := by
  cases input with
  | bodyRead body => rw [step, if_neg (by rw [hphase]; decide)] at hstep; cases hstep
  | created projectHandle =>
    rw [step, if_neg (by rw [hphase]; rintro ⟨h, -⟩; cases h)] at hstep
    cases hstep
  | recovered health =>
    rw [step, if_neg (by rw [hphase]; rintro ⟨h, -⟩; cases h)] at hstep
    cases hstep
  | rejected error => rw [step, if_neg (by rw [hphase]; decide)] at hstep; cases hstep
  | requestAborted =>
    obtain rfl := Option.some.inj hstep
    rw [onRequestAborted, if_pos hphase]
    exact hphase
  | responseClose =>
    obtain rfl := Option.some.inj hstep
    rw [onResponseClose, if_pos (.inl hphase)]
    exact hphase
  | transport response =>
    obtain rfl := Option.some.inj hstep
    exact hphase

end JsonHandler

namespace HttpExchange

variable {options : ServerOptions} {exchange exchange' : HttpExchange} {change : ℕ → ℕ}

/-! ## Arrivals -/

/-- The request is one for a handler: it passes the boundary and its route leads there. -/
def wantsSlot (options : ServerOptions) (request : IncomingRequest) : Bool :=
  match validateBoundary request, options.parseUrl (request.url.getD (Text.of "/")) with
  | .ok (), some (pathname, []) =>
    match routeOf request.method pathname with
    | .json _ | .turns => true
    | _ => false
  | _, _ => false

theorem isInflight_json (request : IncomingRequest) (reader : BodyReader) (handler : JsonHandler) :
    isInflight { request, reader, handling := .json handler } = (handler.phase != .settled) := rfl

theorem isInflight_turn (request : IncomingRequest) (reader : BodyReader) (turn : HttpTurn)
    (released : Bool) :
    isInflight { request, reader, handling := .turn turn released } = !released := rfl

theorem handleJson_eq {operation : JsonOperation} {inflightTurns : ℕ} {request : IncomingRequest} :
    (handleJson options operation inflightTurns request).2 =
      inflightTurns + (handleJson options operation inflightTurns request).1.isInflight.toNat := by
  unfold handleJson
  split_ifs with hfull
  · rfl
  · simp only [isInflight_json]
    split_ifs with hsettled
    · rw [hsettled]
      rfl
    · rw [bne_iff_ne.mpr hsettled]
      rfl

theorem handleTurn_eq {inflightTurns : ℕ} {request : IncomingRequest} :
    (handleTurn options inflightTurns request).2 =
      inflightTurns + (handleTurn options inflightTurns request).1.isInflight.toNat := by
  unfold handleTurn
  split_ifs <;> rfl

/-- An arriving request raises the counter exactly if a handler stays at it. -/
theorem handleRequest_snd (inflightTurns : ℕ) (arrival : Arrival) :
    (handleRequest options inflightTurns arrival).2 =
      inflightTurns + (handleRequest options inflightTurns arrival).1.isInflight.toNat := by
  unfold handleRequest
  split
  · rfl
  · split
    · rfl
    · split_ifs
      · rfl
      · cases routeOf arrival.request.method _ with
        | json operation => exact handleJson_eq
        | turns => exact handleTurn_eq
        | health => rfl
        | threads => rfl
        | refused statusCode => rfl

/-- Where there is room, a request finds the server as if it were idle; where there is none, it is
refused if it is for a handler. -/
theorem handleRequest_fst (inflightTurns : ℕ) (arrival : Arrival) :
    (handleRequest options inflightTurns arrival).1 =
      if options.maxInflightTurns ≤ inflightTurns ∧ wantsSlot options arrival.request = true then
        busy arrival.request
      else (handleRequest options 0 arrival).1 := by
  have hroom : ¬options.maxInflightTurns ≤ 0 := Nat.not_le.mpr options.maxInflightTurns_pos
  unfold handleRequest wantsSlot
  cases hboundary : validateBoundary arrival.request with
  | error error => simp [refuse]
  | ok =>
    cases hurl : options.parseUrl (arrival.request.url.getD (Text.of "/")) with
    | none => simp [refuse]
    | some parts =>
      obtain ⟨pathname, search⟩ := parts
      cases search with
      | cons c search => simp [refuse]
      | nil =>
        cases hroute : routeOf arrival.request.method pathname with
        | json operation =>
          by_cases hfull : options.maxInflightTurns ≤ inflightTurns
          · simp [hroute, serve, handleJson, hfull]
          · simp [hroute, serve, handleJson, hfull, hroom]
        | turns =>
          by_cases hfull : options.maxInflightTurns ≤ inflightTurns
          · simp [hroute, serve, handleTurn, hfull]
          · simp [hroute, serve, handleTurn, hfull, hroom]
        | health => simp [hroute, serve]
        | threads => simp [hroute, serve]
        | refused statusCode => simp [hroute, serve]

/-- Only a request that is for a handler takes a place. -/
theorem isInflight_handleRequest {inflightTurns : ℕ} {arrival : Arrival}
    (hwants : wantsSlot options arrival.request = false) :
    (handleRequest options inflightTurns arrival).1.isInflight = false := by
  unfold handleRequest
  unfold wantsSlot at hwants
  cases hboundary : validateBoundary arrival.request with
  | error error => rfl
  | ok =>
    cases hurl : options.parseUrl (arrival.request.url.getD (Text.of "/")) with
    | none => rfl
    | some parts =>
      obtain ⟨pathname, search⟩ := parts
      cases search with
      | cons c search => rfl
      | nil =>
        cases hroute : routeOf arrival.request.method pathname with
        | json operation => simp [hboundary, hurl, hroute] at hwants
        | turns => simp [hboundary, hurl, hroute] at hwants
        | health => simp [hroute, serve, isInflight]
        | threads => simp [hroute, serve, isInflight]
        | refused statusCode => simp [hroute, serve, isInflight]

/-- An arriving request does not raise the counter past the limit. -/
theorem handleRequest_snd_le {inflightTurns : ℕ} (hle : inflightTurns ≤ options.maxInflightTurns)
    (arrival : Arrival) :
    (handleRequest options inflightTurns arrival).2 ≤ options.maxInflightTurns := by
  rw [handleRequest_snd]
  rcases Nat.lt_or_ge inflightTurns options.maxInflightTurns with hroom | hfull
  · have hslot := (handleRequest options inflightTurns arrival).1.isInflight.toNat_le
    omega
  · have hslot : (handleRequest options inflightTurns arrival).1.isInflight = false := by
      cases hwants : wantsSlot options arrival.request with
      | false => exact isInflight_handleRequest hwants
      | true =>
        rw [handleRequest_fst, if_pos ⟨hfull, hwants⟩]
        rfl
    rw [hslot]
    exact hle

/-! ## Moves -/

/-- What a move does to the counter and to the request's place in it: nothing, or it gives the place
back. -/
inductive Slot (exchange exchange' : HttpExchange) (change : ℕ → ℕ) : Prop
  | kept (hchange : change = id) (hslot : exchange'.isInflight = exchange.isInflight)
  | released (hchange : change = (· - 1)) (hbefore : exchange.isInflight = true)
      (hafter : exchange'.isInflight = false)

theorem slot_moveJson {handler : JsonHandler} {input : JsonInput}
    (hhandling : exchange.handling = .json handler)
    (hmove : moveJson options exchange handler input = some (exchange', change)) :
    Slot exchange exchange' change := by
  obtain ⟨handler', hstep, heq⟩ := Option.map_eq_some_iff.mp hmove
  obtain ⟨rfl, rfl⟩ := Prod.mk.inj heq
  have hbefore : exchange.isInflight = (handler.phase != .settled) := by
    rw [isInflight, hhandling]
  by_cases hsettled : handler.phase = .settled
  · refine .kept (if_neg fun h => h.1 hsettled) ?_
    rw [isInflight_json, hbefore, hsettled, JsonHandler.step_settled hsettled hstep]
  · by_cases hsettles : handler'.phase = .settled
    · refine .released (if_pos ⟨hsettled, hsettles⟩) ?_ ?_
      · rw [hbefore, bne_iff_ne.mpr hsettled]
      · rw [isInflight_json, hsettles]
        rfl
    · refine .kept (if_neg fun h => hsettles h.2) ?_
      rw [isInflight_json, hbefore, bne_iff_ne.mpr hsettled, bne_iff_ne.mpr hsettles]

theorem slot_moveTurn {turn : HttpTurn} {released : Bool} {input : HttpInput}
    (hhandling : exchange.handling = .turn turn released)
    (hmove : moveTurn options exchange turn released input = some (exchange', change)) :
    Slot exchange exchange' change := by
  obtain ⟨turn', hstep, heq⟩ := Option.map_eq_some_iff.mp hmove
  obtain ⟨rfl, rfl⟩ := Prod.mk.inj heq
  refine .kept rfl ?_
  rw [isInflight_turn, isInflight, hhandling]

theorem slot_moveBody {text : Except ApiError Text}
    (hmove : moveBody options exchange text = some (exchange', change)) :
    Slot exchange exchange' change := by
  unfold moveBody at hmove
  split at hmove
  · next handler hhandling => exact slot_moveJson hhandling hmove
  · next turn released hhandling => exact slot_moveTurn hhandling hmove
  · cases hmove

/-- A slot is given back once, by the handler that has it. -/
theorem slot_move {input : ExchangeInput}
    (hmove : exchange.move options input = some (exchange', change)) :
    Slot exchange exchange' change := by
  cases input with
  | health outcome =>
    -- a request for the health holds no slot
    simp only [move] at hmove
    split at hmove
    · next health hhandling =>
      obtain ⟨rfl, rfl⟩ := Prod.mk.inj (Option.some.inj hmove)
      exact .kept rfl (by rw [isInflight, isInflight, hhandling])
    · next error hhandling =>
      obtain ⟨rfl, rfl⟩ := Prod.mk.inj (Option.some.inj hmove)
      exact .kept rfl (by rw [isInflight, isInflight, hhandling])
    · cases hmove
  | chunk bytes =>
    simp only [move] at hmove
    split_ifs at hmove
    obtain ⟨rfl, rfl⟩ := Prod.mk.inj (Option.some.inj hmove)
    exact .kept rfl rfl
  | bodyEnd => exact slot_moveBody hmove
  | bodyFailed error => exact slot_moveBody hmove
  | json input =>
    simp only [move] at hmove
    split at hmove
    · next handler hhandling =>
      split_ifs at hmove
      exact slot_moveJson hhandling hmove
    · cases hmove
  | turn input =>
    simp only [move] at hmove
    split at hmove
    · next turn released hhandling =>
      split_ifs at hmove
      exact slot_moveTurn hhandling hmove
    · cases hmove
  | release =>
    -- only `finally` gives the slot of a turn back, after its handler has settled
    simp only [move] at hmove
    split at hmove
    · next turn hhandling =>
      split_ifs at hmove
      obtain ⟨rfl, rfl⟩ := Prod.mk.inj (Option.some.inj hmove)
      exact .released rfl (by rw [isInflight, hhandling]; rfl) rfl
    · cases hmove

theorem Slot.counts (h : Slot exchange exchange' change) {count : ℕ}
    (hcount : exchange.isInflight.toNat ≤ count) :
    change count + exchange.isInflight.toNat = count + exchange'.isInflight.toNat := by
  cases h with
  | kept hchange hslot => rw [hchange, hslot]; rfl
  | released hchange hbefore hafter =>
    rw [hbefore, Bool.toNat_true] at hcount
    rw [hchange, hbefore, hafter, Bool.toNat_true, Bool.toNat_false]
    show count - 1 + 1 = count + 0
    omega

theorem Slot.change_le (h : Slot exchange exchange' change) (count : ℕ) : change count ≤ count := by
  cases h with
  | kept hchange hslot => rw [hchange]; exact Nat.le_refl count
  | released hchange hbefore hafter => rw [hchange]; exact Nat.sub_le count 1

end HttpExchange

namespace ThreadwireHttpServer

variable {options : ServerOptions} {server : ThreadwireHttpServer} {inputs : List ServerInput}

theorem counts : Machine.Family.Counts (rules options) HttpExchange.isInflight where
  join := fun count arrival => HttpExchange.handleRequest_snd count arrival
  move := fun _ _ _ _ hmove _ hcount => (HttpExchange.slot_move hmove).counts hcount

/-- The counter is the number of requests in flight and never passes the limit, whatever order the
requests move on in. A request is refused on arrival, as one too many, exactly if it is for a
handler and the limit is reached; every other one is received as on an idle server. -/
theorem server_admission
    (hrun : Machine.exec (step options) initial inputs = some server) :
    server.shared = server.members.countP HttpExchange.isInflight ∧
      server.members.countP HttpExchange.isInflight ≤ options.maxInflightTurns ∧
      ∀ arrival, (HttpExchange.handleRequest options server.shared arrival).1 =
        if server.members.countP HttpExchange.isInflight = options.maxInflightTurns ∧
            HttpExchange.wantsSlot options arrival.request = true then
          HttpExchange.busy arrival.request
        else (HttpExchange.handleRequest options 0 arrival).1 := by
  have hcount := counts.shared_eq_countP hrun
  have hle : server.shared ≤ options.maxInflightTurns :=
    Machine.exec_invariant (I := fun s => s.shared ≤ options.maxInflightTurns)
      (fun s input s' hs hstep => by
        cases input with
        | join arrival =>
          obtain rfl := Option.some.inj hstep
          exact HttpExchange.handleRequest_snd_le hs arrival
        | move position input =>
          obtain ⟨e, e', change, he, hmove, rfl⟩ := Machine.Family.step_move.mp hstep
          exact Nat.le_trans ((HttpExchange.slot_move hmove).change_le s.shared) hs)
      (Nat.zero_le _) hrun
  refine ⟨hcount, hcount ▸ hle, fun arrival => ?_⟩
  rw [HttpExchange.handleRequest_fst, ← hcount]
  have hfull : options.maxInflightTurns ≤ server.shared ↔
      server.shared = options.maxInflightTurns := by
    omega
  simp only [hfull]

/-- A request for a turn that comes from this machine. -/
def turnArrival : Arrival :=
  { request :=
      { remoteAddress := some (Text.of "127.0.0.1")
        host := some (Text.of "localhost:31234")
        method := some (Text.of "POST")
        url := some (Text.of "/v1/turns")
        contentType := some (Text.of "application/json") } }

/-- A request for a recovery. -/
def recoveryArrival : Arrival :=
  { request := { turnArrival.request with url := some (Text.of "/v1/runtime/recover") } }

/-- A request for the health of the controller. -/
def healthArrival : Arrival :=
  { request :=
      { remoteAddress := some (Text.of "127.0.0.1")
        host := some (Text.of "localhost:31234")
        method := some (Text.of "GET")
        url := some (Text.of "/v1/health") } }

/-- At a server with one place, which a turn has taken: another turn is refused, and a request for
the health is received. -/
theorem server_admission_two : ∃ server : ThreadwireHttpServer,
    Machine.exec (step (ServerOptions.plain 1 Nat.one_pos)) initial [.join turnArrival] =
      some server ∧
    server.members.countP HttpExchange.isInflight = 1 ∧
    (HttpExchange.handleRequest (.plain 1 Nat.one_pos) server.shared turnArrival).1 =
      .busy turnArrival.request ∧
    (HttpExchange.handleRequest (.plain 1 Nat.one_pos) server.shared healthArrival).1 =
      (HttpExchange.handleRequest (.plain 1 Nat.one_pos) 0 healthArrival).1 := by
  have hrun : Machine.exec (step (ServerOptions.plain 1 Nat.one_pos)) initial
    [.join turnArrival] = some _ := rfl
  obtain ⟨-, -, hreceived⟩ := server_admission hrun
  refine ⟨_, rfl, by decide +kernel, ?_, ?_⟩
  · rw [hreceived turnArrival, if_pos (by decide +kernel)]
  · rw [hreceived healthArrival, if_neg (by decide +kernel)]

end ThreadwireHttpServer

end Threadwire
