import OpenIotRsp.Model.Relay

/-!
# Relay sessions

Calls of the relay run at once and share the map of routes.  The route of a
transaction stays where the SM-DP+ that introduced it is, as long as the
transaction identifier occurs in no message of another SM-DP+.
-/

namespace OpenIotRsp.Relay

open Octets Ber Asn1 Concurrent

/-! ## The system -/

structure Request where
  endpoint : Endpoint
  payload : Bytes
deriving DecidableEq

/-- A message on its way to an SM-DP+. -/
structure Posting where
  smdpAddress : Bytes
  endpoint : Endpoint
  request : Bytes
deriving DecidableEq

/-- A transport of which nothing is known: anything may come back, an error included. -/
def wire : Transport Posting (Except Error Response) := fun smdpAddress endpoint request =>
  .call ⟨smdpAddress, endpoint, request⟩ Program.ofExcept

variable (B : Bertlv)

def program (request : Request) : RelayM Posting (Except Error Response) Response :=
  match request.endpoint with
  | .initiateAuthentication => initiateAuthentication B (some wire) request.payload
  | .authenticateClient => authenticateClient B (some wire) request.payload
  | .getBoundProfilePackage => getBoundProfilePackage B (some wire) request.payload
  | .handleNotification => handleNotification B (some wire) request.payload
  | .cancelSession => cancelSession B (some wire) request.payload

abbrev System :=
  Pool Routes Request Error Action (Option Bytes) Posting (Except Error Response) Response

def System.new : System := ⟨∅, []⟩

abbrev RelayEvent := Event Request Unit (Except Error Response)

def step : System → RelayEvent → System := Pool.step exec (program B)

/-! ## Points of a call -/

variable {B}

/-- The program asks for nothing, whatever it goes on with. -/
def Silent {β : Type} (next : β → RelayM Posting (Except Error Response) Response) : Prop :=
  ∀ v, (next v).query? = none

/-- Where a transaction identifier that is remembered comes from. -/
inductive Source (B : Bertlv) (rely : Posting → Except Error Response → Prop) (request : Request)
    (smdpAddress : Bytes) : Bytes → Prop
  | request (hendpoint : request.endpoint = .initiateAuthentication)
      (haddress : smdpAddressFromInitiateAuthentication B request.payload = .ok smdpAddress) :
      Source B rely request smdpAddress (transactionID B request.payload)
  | response {response : Response}
      (hendpoint : request.endpoint ≠ .handleNotification ∧ request.endpoint ≠ .cancelSession)
      (hanswer : rely ⟨smdpAddress, request.endpoint, request.payload⟩ (.ok response)) :
      Source B rely request smdpAddress (transactionID B response.payload)

/-- The points of a call: before it is routed, waiting for the SM-DP+, and updating the routes. -/
inductive Point (B : Bertlv) (rely : Posting → Except Error Response → Prop) (request : Request) :
    RelayM Posting (Except Error Response) Response → Prop
  | unrouted : Point B rely request (program B request)
  | finished (result : Except Error Response) : Point B rely request (.done result)
  | waiting {smdpAddress : Bytes}
      {next : Except Error Response → RelayM Posting (Except Error Response) Response}
      (hsilent : Silent next) :
      Point B rely request (.call ⟨smdpAddress, request.endpoint, request.payload⟩ next)
  | remembering {transactionID smdpAddress : Bytes}
      {next : Option Bytes → RelayM Posting (Except Error Response) Response}
      (hsilent : Silent next) (htransaction : transactionID ≠ [])
      (haddress : Text.trimSpace smdpAddress ≠ [])
      (hsource : Source B rely request smdpAddress transactionID) :
      Point B rely request (.act (.rememberTransaction transactionID smdpAddress) next)
  | forgetting {next : Option Bytes → RelayM Posting (Except Error Response) Response}
      (hsilent : Silent next) (hendpoint : request.endpoint = .cancelSession) :
      Point B rely request (.act (.forgetTransaction (transactionID B request.payload)) next)

variable {rely : Posting → Except Error Response → Prop} {request : Request}
  {p : RelayM Posting (Except Error Response) Response}
  {next : Option Bytes → RelayM Posting (Except Error Response) Response}
  {k : Unit → RelayM Posting (Except Error Response) Response}

theorem Point.of_done {result : Except Error Response}
    (h : (Program.done result : RelayM Posting (Except Error Response) Response).Reaches rely p) :
    Point B rely request p := by
  rw [Program.reaches_done.mp h]
  exact .finished _

theorem trimSpace_nil : Text.trimSpace [] = [] := rfl

theorem reaches_post {smdpAddress payload : Bytes} {endpoint : Endpoint}
    {k : Response → RelayM Posting (Except Error Response) Response}
    (h : (post (some wire) smdpAddress endpoint payload >>= k).Reaches rely p) :
    (∃ e, p = .done (.error e)) ∨ Text.trimSpace smdpAddress ≠ [] ∧
      (p = .call ⟨smdpAddress, endpoint, payload⟩ (fun r => Program.ofExcept r >>= k) ∨
        ∃ response, rely ⟨smdpAddress, endpoint, payload⟩ (.ok response) ∧
          (k response).Reaches rely p) := by
  rw [post] at h
  split at h
  next => exact .inl ⟨_, Program.reaches_done.mp h⟩
  next htrim =>
      rcases Program.reaches_call.mp h with rfl | ⟨r, hr, h⟩
      · exact .inr ⟨htrim, .inl rfl⟩
      · cases r with
        | error e => exact .inl ⟨e, Program.reaches_done.mp h⟩
        | ok response => exact .inr ⟨htrim, .inr ⟨response, hr, h⟩⟩

theorem reaches_rememberTransaction {transactionID smdpAddress : Bytes}
    (h : (rememberTransaction transactionID smdpAddress >>= k).Reaches rely p) :
    transactionID ≠ [] ∧ p = .act (.rememberTransaction transactionID smdpAddress) (fun _ => k ()) ∨
      (k ()).Reaches rely p := by
  rw [rememberTransaction] at h
  split at h
  next => exact .inr h
  next hgiven =>
      rcases Program.reaches_act.mp h with rfl | ⟨v, h⟩
      · exact .inl ⟨fun heq => hgiven (.inl heq), rfl⟩
      · exact .inr h

theorem silent_ofExcept {k : Response → RelayM Posting (Except Error Response) Response}
    (hk : Silent k) : Silent fun r => Program.ofExcept r >>= k := by
  intro r
  cases r with
  | error e => rfl
  | ok response => exact hk response

theorem query?_rememberTransaction {transactionID smdpAddress : Bytes} (hk : (k ()).query? = none) :
    (rememberTransaction transactionID smdpAddress >>= k).query? = none := by
  rw [rememberTransaction]
  split
  next => exact hk
  next => rfl

theorem query?_forgetTransaction {transactionID : Bytes} (hk : (k ()).query? = none) :
    (forgetTransaction transactionID >>= k).query? = none := by
  rw [forgetTransaction]
  split
  next => exact hk
  next => rfl

theorem point_initiateAuthentication (hendpoint : request.endpoint = .initiateAuthentication)
    (h : (initiateAuthentication B (some wire) request.payload).Reaches rely p) :
    Point B rely request p := by
  rw [initiateAuthentication] at h
  cases haddress : smdpAddressFromInitiateAuthentication B request.payload with
  | error e =>
      rw [haddress] at h
      exact .of_done h
  | ok smdpAddress =>
      rw [haddress] at h
      rcases reaches_post h with ⟨e, rfl⟩ | ⟨htrim, rfl | ⟨response, hanswer, h⟩⟩
      · exact .finished _
      · rw [← hendpoint]
        exact .waiting (silent_ofExcept fun response =>
          query?_rememberTransaction (query?_rememberTransaction rfl))
      rw [← hendpoint] at hanswer
      rcases reaches_rememberTransaction h with ⟨hgiven, rfl⟩ | h
      · exact .remembering (fun _ => query?_rememberTransaction rfl) hgiven htrim
          (.request hendpoint haddress)
      rcases reaches_rememberTransaction h with ⟨hgiven, rfl⟩ | h
      · refine .remembering (fun _ => rfl) hgiven htrim (.response ?_ hanswer)
        rw [hendpoint]
        exact ⟨nofun, nofun⟩
      · exact .of_done h

/-- A call that looks its route up goes on with what it finds. -/
theorem point_of_lookup {transactionID : Bytes}
    {k : Bytes → RelayM Posting (Except Error Response) Response}
    (hprogram : program B request = (smdpForTransaction transactionID >>= k))
    (h : (smdpForTransaction transactionID >>= k).Reaches rely p)
    (hk : ∀ smdpAddress, (k smdpAddress).Reaches rely p → Point B rely request p) :
    Point B rely request p := by
  rcases Program.reaches_act.mp h with rfl | ⟨route, h⟩
  · have hpoint : Point B rely request (program B request) := .unrouted
    rwa [hprogram] at hpoint
  · cases route with
    | none => exact .of_done h
    | some smdpAddress => exact hk smdpAddress h

theorem point_relayInTransaction
    (hendpoint : request.endpoint ≠ .handleNotification ∧ request.endpoint ≠ .cancelSession)
    (hprogram : program B request =
      relayInTransaction B (some wire) request.endpoint request.payload)
    (h : (program B request).Reaches rely p) : Point B rely request p := by
  rw [hprogram] at h
  refine point_of_lookup hprogram h fun smdpAddress h => ?_
  rcases reaches_post h with ⟨e, rfl⟩ | ⟨htrim, rfl | ⟨response, hanswer, h⟩⟩
  · exact .finished _
  · exact .waiting (silent_ofExcept fun response => query?_rememberTransaction rfl)
  rcases reaches_rememberTransaction h with ⟨hgiven, rfl⟩ | h
  · exact .remembering (fun _ => rfl) hgiven htrim (.response hendpoint hanswer)
  · exact .of_done h

theorem point_cancelSession (hendpoint : request.endpoint = .cancelSession)
    (h : (cancelSession B (some wire) request.payload).Reaches rely p) :
    Point B rely request p := by
  have hprogram : program B request = cancelSession B (some wire) request.payload := by
    rw [program, hendpoint]
  refine point_of_lookup hprogram h fun smdpAddress h => ?_
  rcases reaches_post h with ⟨e, rfl⟩ | ⟨htrim, rfl | ⟨response, hanswer, h⟩⟩
  · exact .finished _
  · rw [← hendpoint]
    exact .waiting (silent_ofExcept fun response => query?_forgetTransaction rfl)
  rw [forgetTransaction] at h
  split at h
  next => exact .of_done h
  next =>
      rcases Program.reaches_act.mp h with rfl | ⟨v, h⟩
      · exact .forgetting (fun _ => rfl) hendpoint
      · exact .of_done h

theorem point_handleNotification (hendpoint : request.endpoint = .handleNotification)
    (h : (handleNotification B (some wire) request.payload).Reaches rely p) :
    Point B rely request p := by
  have hprogram : program B request = handleNotification B (some wire) request.payload := by
    rw [program, hendpoint]
  have hposted : ∀ smdpAddress,
      (if smdpAddress = [] then .fail errMissingSMDPAddress
        else post (some wire) smdpAddress .handleNotification request.payload :
          RelayM Posting (Except Error Response) Response).Reaches rely p →
        Point B rely request p := by
    intro smdpAddress h
    split at h
    next => exact .of_done h
    next =>
        rw [post] at h
        split at h
        next => exact .of_done h
        next =>
            rcases Program.reaches_call.mp h with rfl | ⟨r, -, h⟩
            · rw [← hendpoint]
              exact .waiting fun _ => rfl
            · exact .of_done h
  rw [handleNotification] at h hprogram
  by_cases hnamed : notificationAddress B request.payload = []
  · rw [if_pos hnamed] at h hprogram
    exact point_of_lookup hprogram h hposted
  · rw [if_neg hnamed] at h
    exact hposted _ h

/-- Where a call can get to. -/
theorem point_of_reaches (h : (program B request).Reaches rely p) : Point B rely request p := by
  cases hendpoint : request.endpoint with
  | initiateAuthentication =>
      rw [program, hendpoint] at h
      exact point_initiateAuthentication hendpoint h
  | authenticateClient =>
      refine point_relayInTransaction (by simp [hendpoint]) ?_ h
      rw [program, hendpoint]
      rfl
  | getBoundProfilePackage =>
      refine point_relayInTransaction (by simp [hendpoint]) ?_ h
      rw [program, hendpoint]
      rfl
  | handleNotification =>
      rw [program, hendpoint] at h
      exact point_handleNotification hendpoint h
  | cancelSession =>
      rw [program, hendpoint] at h
      exact point_cancelSession hendpoint h

/-- A call that has to be routed is, by its transaction identifier. -/
theorem action_of_program {action : Action} (h : program B request = .act action next) :
    action = .smdpForTransaction (transactionID B request.payload) := by
  have hposted : ∀ smdpAddress endpoint payload,
      ∀ k : Response → RelayM Posting (Except Error Response) Response,
      (post (some wire) smdpAddress endpoint payload >>= k) ≠ .act action next := by
    intro smdpAddress endpoint payload k
    rw [post]
    split
    all_goals exact nofun
  cases hendpoint : request.endpoint with
  | initiateAuthentication =>
      rw [program, hendpoint] at h
      simp only [initiateAuthentication] at h
      cases haddress : smdpAddressFromInitiateAuthentication B request.payload with
      | error e =>
          rw [haddress] at h
          cases h
      | ok smdpAddress =>
          rw [haddress] at h
          exact absurd h (hposted _ _ _ _)
  | authenticateClient =>
      rw [program, hendpoint] at h
      exact (Program.act.inj h).1.symm
  | getBoundProfilePackage =>
      rw [program, hendpoint] at h
      exact (Program.act.inj h).1.symm
  | cancelSession =>
      rw [program, hendpoint] at h
      exact (Program.act.inj h).1.symm
  | handleNotification =>
      rw [program, hendpoint] at h
      simp only [handleNotification] at h
      split at h
      next => exact (Program.act.inj h).1.symm
      next hnamed =>
          rw [Program.pure_eq, Program.done_ok_bind, if_neg hnamed, post] at h
          split at h
          all_goals cases h

/-- A call that has been routed posts nothing more. -/
theorem Point.silent_of_act {action : Action} (h : Point B rely request (.act action next)) :
    program B request = .act action next ∨ Silent next := by
  generalize hp : Program.act action next = p at h
  cases h with
  | unrouted => exact .inl rfl
  | finished => cases hp
  | waiting => cases hp
  | remembering hsilent =>
      obtain ⟨-, rfl⟩ := Program.act.inj hp
      exact .inr hsilent
  | forgetting hsilent =>
      obtain ⟨-, rfl⟩ := Program.act.inj hp
      exact .inr hsilent

theorem Point.silent_of_call {posting : Posting}
    {next : Except Error Response → RelayM Posting (Except Error Response) Response}
    (h : Point B rely request (.call posting next)) :
    program B request = .call posting next ∨ Silent next := by
  generalize hp : Program.call posting next = p at h
  cases h with
  | unrouted => exact .inl rfl
  | finished => cases hp
  | waiting hsilent =>
      obtain ⟨-, rfl⟩ := Program.call.inj hp
      exact .inr hsilent
  | remembering => cases hp
  | forgetting => cases hp

/-! ## Routes -/

theorem find_insert_self (routes : Routes) {T S : Bytes} (hT : T ≠ []) (hS : S ≠ []) :
    Routes.find (routes.insert (Hex.encode T) S) T = some S := by
  rw [Routes.find, if_neg hT, AList.lookup_insert]
  simp [hS]

theorem find_insert_of_ne (routes : Routes) {T T' : Bytes} (h : T ≠ T') (S : Bytes) :
    Routes.find (routes.insert (Hex.encode T') S) T = routes.find T := by
  rw [Routes.find, Routes.find, AList.lookup_insert_ne fun heq => h (Hex.encode_injective heq)]

theorem find_erase_of_ne (routes : Routes) {T T' : Bytes} (h : T ≠ T') :
    Routes.find (routes.erase (Hex.encode T')) T = routes.find T := by
  rw [Routes.find, Routes.find, AList.lookup_erase_ne fun heq => h (Hex.encode_injective heq)]

/-! ## Isolation -/

/-- The transaction identifier is in an InitiateAuthentication request for the SM-DP+ only. -/
def OwnRequest (B : Bertlv) (T S : Bytes) (request : Request) : Prop :=
  request.endpoint = .initiateAuthentication → transactionID B request.payload = T →
    ∀ smdpAddress, smdpAddressFromInitiateAuthentication B request.payload = .ok smdpAddress →
      smdpAddress = S

/-- The transaction identifier is in responses of the SM-DP+ only, apart from those that are not
searched for one. -/
def OwnResponse (B : Bertlv) (T S : Bytes) (posting : Posting) (answer : Except Error Response) :
    Prop :=
  posting.endpoint ≠ .handleNotification → posting.endpoint ≠ .cancelSession →
    ∀ response, answer = .ok response → transactionID B response.payload = T →
      posting.smdpAddress = S

/-- What arrives carries the transaction identifier only if it belongs to the SM-DP+. -/
def Own (B : Bertlv) (T S : Bytes) : System → RelayEvent → Prop :=
  Pool.Admits (OwnRequest B T S) (OwnResponse B T S)

/-- The event records the transaction for an InitiateAuthentication call to the SM-DP+. -/
def Introduces (T S : Bytes) (x : System) (event : RelayEvent) : Prop :=
  ∃ payload, x.performed event =
    some (⟨.initiateAuthentication, payload⟩, .rememberTransaction T S)

def Cancels (T : Bytes) (x : System) (event : RelayEvent) : Prop :=
  ∃ request, x.performed event = some (request, .forgetTransaction T)

/-- A request that is routed by the transaction identifier. -/
structure Carries (B : Bertlv) (T : Bytes) (request : Request) : Prop where
  endpoint : request.endpoint = .authenticateClient ∨ request.endpoint = .getBoundProfilePackage ∨
    request.endpoint = .cancelSession
  transaction : transactionID B request.payload = T

variable {T S : Bytes} {x : System} {event : RelayEvent}

abbrev System.Reachable (B : Bertlv) (T S : Bytes) (x : System) : Prop :=
  Pool.Reachable (program B) (OwnRequest B T S) (OwnResponse B T S) x

/-- The transaction is recorded for the SM-DP+ only. -/
theorem own_of_remembers (h : x.Reachable B T S) {smdpAddress : Bytes}
    (hperformed : x.performed event = some (request, .rememberTransaction T smdpAddress)) :
    smdpAddress = S ∧ T ≠ [] ∧ Text.trimSpace smdpAddress ≠ [] := by
  obtain ⟨hadmissible, next, hreaches⟩ := h.performed hperformed
  have hpoint := point_of_reaches hreaches
  generalize hp : Program.act (Action.rememberTransaction T smdpAddress) next = p at hpoint
  cases hpoint with
  | unrouted => cases action_of_program hp.symm
  | finished => cases hp
  | waiting => cases hp
  | forgetting => cases hp
  | remembering _ hgiven htrim hsource =>
      obtain ⟨haction, -⟩ := Program.act.inj hp
      obtain ⟨rfl, rfl⟩ := Action.rememberTransaction.inj haction
      refine ⟨?_, hgiven, htrim⟩
      cases hsource with
      | request hendpoint haddress => exact hadmissible hendpoint rfl _ haddress
      | response hendpoint hanswer => exact hanswer hendpoint.1 hendpoint.2 _ rfl rfl

theorem find_introduced (hT : T ≠ []) (hS : S ≠ [])
    (hperformed : x.performed event = some (request, .rememberTransaction T S)) :
    (step B x event).state.find T = some S := by
  rcases Pool.state_step exec (program B) x event with
    ⟨-, hnone⟩ | ⟨thread, input, request, action, next, -, -, hsome, -, hstate⟩
  · cases hnone.symm.trans hperformed
  · obtain ⟨rfl, rfl⟩ := Prod.mk.inj (Option.some.inj (hsome.symm.trans hperformed))
    rw [step, hstate]
    exact find_insert_self _ hT hS

/-- The route of the transaction is kept by every event that does not cancel it. -/
theorem find_step (h : x.Reachable B T S) (hlive : ¬ Cancels T x event)
    (hS : S ≠ []) (hroute : x.state.find T = some S) : (step B x event).state.find T = some S := by
  rcases Pool.state_step exec (program B) x event with
    ⟨hstate, -⟩ | ⟨thread, input, request, action, next, -, -, hperformed, -, hstate⟩
  · rw [step, hstate]
    exact hroute
  rw [step, hstate]
  cases action with
  | smdpForTransaction transactionID => exact hroute
  | rememberTransaction transactionID smdpAddress =>
      by_cases hT : T = transactionID
      · subst hT
        obtain ⟨rfl, hgiven, -⟩ := own_of_remembers h hperformed
        exact find_insert_self _ hgiven hS
      · exact (find_insert_of_ne _ hT _).trans hroute
  | forgetTransaction transactionID =>
      by_cases hT : T = transactionID
      · subst hT
        exact absurd ⟨request, hperformed⟩ hlive
      · exact (find_erase_of_ne _ hT).trans hroute

theorem query?_post (smdpAddress payload : Bytes) (endpoint : Endpoint)
    (k : Response → RelayM Posting (Except Error Response) Response) :
    (post (some wire) smdpAddress endpoint payload >>= k).query? =
      if Text.trimSpace smdpAddress = [] then none else some ⟨smdpAddress, endpoint, payload⟩ := by
  rw [post]
  split
  all_goals rfl

theorem Carries.program_eq (h : Carries B T request) :
    ∃ k : Bytes → Response → RelayM Posting (Except Error Response) Response,
      program B request = (smdpForTransaction T >>= fun smdpAddress =>
        post (some wire) smdpAddress request.endpoint request.payload >>= k smdpAddress) := by
  obtain ⟨hendpoint, rfl⟩ := h
  rcases hendpoint with hendpoint | hendpoint | hendpoint
  all_goals
    rw [program, hendpoint]
    exact ⟨_, rfl⟩

/-- A request that carries the transaction is posted to its route. -/
theorem Carries.query?_routed (h : Carries B T request) {action : Action}
    (hprogram : program B request = .act action next) (htrim : Text.trimSpace S ≠ []) :
    action = .smdpForTransaction T ∧
      (next (some S)).query? = some ⟨S, request.endpoint, request.payload⟩ := by
  obtain ⟨k, heq⟩ := h.program_eq
  obtain ⟨rfl, rfl⟩ := Program.act.inj (hprogram.symm.trans heq)
  exact ⟨rfl, (query?_post _ _ _ _).trans (if_neg htrim)⟩

theorem posted_of_carries (h : x.Reachable B T S) (hcarries : Carries B T request)
    (hroute : x.state.find T = some S) (htrim : Text.trimSpace S ≠ []) {posting : Posting}
    (hissued : x.issued exec (program B) event = some (request, posting)) :
    posting = ⟨S, request.endpoint, request.payload⟩ := by
  obtain ⟨⟨request', p⟩, hmoved, hmap⟩ := Option.bind_eq_some_iff.mp hissued
  obtain ⟨posting', hquery, heq⟩ := Option.map_eq_some_iff.mp hmap
  obtain ⟨rfl, rfl⟩ := Prod.mk.inj heq
  clear hmap hissued
  dsimp only at hquery hcarries ⊢
  obtain ⟨k, hprogram⟩ := hcarries.program_eq
  rcases Pool.moved_cases exec (program B) hmoved with ⟨-, rfl⟩ |
    ⟨thread, input, action, next, -, hthread, rfl⟩ | ⟨thread, reply, posted, next, -, hthread, rfl⟩
  · rw [hprogram] at hquery
    cases hquery
  · have hpoint := point_of_reaches (h _ (List.mem_of_getElem? hthread)).2
    rcases hpoint.silent_of_act with hrouted | hsilent
    · obtain ⟨rfl, hposted⟩ := hcarries.query?_routed hrouted htrim
      have hvalue : (exec input (.smdpForTransaction T) x.state).1 = some S := hroute
      rw [hvalue, hposted] at hquery
      exact (Option.some.inj hquery).symm
    · cases (hsilent _).symm.trans hquery
  · have hpoint := point_of_reaches (h _ (List.mem_of_getElem? hthread)).2
    rcases hpoint.silent_of_call with hrouted | hsilent
    · cases hprogram.symm.trans hrouted
    · cases (hsilent _).symm.trans hquery

/-- The lookup of a request that carries the transaction leads to a posting. -/
theorem issued_of_carries (hcarries : Carries B T request) (hroute : x.state.find T = some S)
    (htrim : Text.trimSpace S ≠ []) {thread : Nat}
    (hthread : x.threads[thread]? = some (request, program B request)) :
    x.issued exec (program B) (.step thread ()) =
      some (request, ⟨S, request.endpoint, request.payload⟩) := by
  obtain ⟨k, hprogram⟩ := hcarries.program_eq
  have hprogram' : program B request = .act (.smdpForTransaction T) _ := hprogram
  obtain ⟨-, hposted⟩ := hcarries.query?_routed hprogram' htrim
  rw [hprogram'] at hthread
  have hvalue : (exec () (.smdpForTransaction T) x.state).1 = some S := hroute
  rw [Pool.issued, Pool.moved, hthread]
  simp only [Option.bind_some, hvalue, hposted, Option.map_some]

/-- The session of a transaction with an SM-DP+: its route is there, whatever is posted for a request
that carries it goes there, and the lookup of such a request leads to a posting. -/
structure Isolated (B : Bertlv) (T S : Bytes) (x : System) : Prop where
  route : x.state.find T = some S
  posted : ∀ {event : RelayEvent} {request : Request} {posting : Posting}, Carries B T request →
    x.issued exec (program B) event = some (request, posting) →
    posting = ⟨S, request.endpoint, request.payload⟩
  posts : ∀ {thread : Nat} {request : Request}, Carries B T request →
    x.threads[thread]? = some (request, program B request) →
    x.issued exec (program B) (.step thread ()) =
      some (request, ⟨S, request.endpoint, request.payload⟩)

/-- Once an InitiateAuthentication call to an SM-DP+ has introduced a transaction, and as long as it
is not cancelled, the session stays with that SM-DP+, in every run in which no message of another
SM-DP+ introduces the same identifier. -/
theorem session_isolated {before after : List RelayEvent} {introduction : RelayEvent}
    (hown : Run.Meets (step B) (Own B T S) System.new (before ++ introduction :: after))
    (hintroduces : Introduces T S (Run.after (step B) System.new before) introduction)
    (hlive : Run.Meets (step B) (fun x event => ¬ Cancels T x event)
      (Run.after (step B) System.new (before ++ [introduction])) after) :
    ∀ part rest, after = part ++ rest →
      Isolated B T S (Run.after (step B) System.new (before ++ introduction :: part)) := by
  rintro part rest rfl
  have hnew : System.new.Reachable B T S := fun thread hmem => nomatch hmem
  obtain ⟨hbefore, hadmits, hown⟩ := Run.meets_append.mp hown
  have hreachable := hbefore.invariant (P := System.Reachable B T S)
    (fun x event h hadmits => Pool.Reachable.step h hadmits) hnew
  obtain ⟨payload, hperformed⟩ := hintroduces
  obtain ⟨-, hgiven, htrim⟩ := own_of_remembers hreachable hperformed
  have hS : S ≠ [] := fun h => htrim (h ▸ trimSpace_nil)
  have hroute : (step B (Run.after (step B) System.new before) introduction).state.find T = some S :=
    find_introduced hgiven hS hperformed
  rw [Run.after_append, Run.after_cons, Run.after_nil] at hlive
  -- the route is kept together with what the calls in progress may still do
  obtain ⟨hreachable, hroute⟩ := ((Run.meets_append.mp hown).1.and
    (Run.meets_append.mp hlive).1).invariant
      (P := fun x => x.Reachable B T S ∧ x.state.find T = some S)
      (fun x event hx hevent => ⟨Pool.Reachable.step hx.1 hevent.1, find_step hx.1 hevent.2 hS hx.2⟩)
      ⟨Pool.Reachable.step hreachable hadmits, hroute⟩
  rw [Run.after_append, Run.after_cons]
  exact ⟨hroute, fun hcarries => posted_of_carries hreachable hcarries hroute htrim,
    fun hcarries => issued_of_carries hcarries hroute htrim⟩

/-! A session with `a` in the transaction `01`, and one with `b`. -/

def sampleInitiate (smdpAddress : UInt8) : RelayEvent :=
  .start ⟨.initiateAuthentication, [0xbf, 0x39, 0x03, 0x83, 0x01, smdpAddress]⟩

def sampleIntroduced (transactionID : UInt8) : Except Error Response :=
  .ok { payload := [0xbf, 0x39, 0x03, 0x80, 0x01, transactionID] }

def sampleAuthenticate : Request := ⟨.authenticateClient, [0xbf, 0x3b, 0x03, 0x80, 0x01, 0x01]⟩

/-- The session with `b`, with the transaction identifier it is given. -/
def sampleOther (transactionID : UInt8) : List RelayEvent :=
  [sampleInitiate 0x62, .answer 1 (sampleIntroduced transactionID), .step 1 (),
    .start sampleAuthenticate]

theorem sample_introduces :
    Introduces [0x01] [0x61] (Run.after (step Bertlv.reference) System.new
      [sampleInitiate 0x61, .answer 0 (sampleIntroduced 0x01)]) (.step 0 ()) :=
  ⟨_, rfl⟩

theorem sample_carries : Carries Bertlv.reference [0x01] sampleAuthenticate where
  endpoint := .inl rfl
  transaction := by decide +kernel

theorem sample_live (transactionID : UInt8) :
    Run.Meets (step Bertlv.reference) (fun x event => ¬ Cancels [0x01] x event)
      (Run.after (step Bertlv.reference) System.new
        ([sampleInitiate 0x61, .answer 0 (sampleIntroduced 0x01)] ++ [.step 0 ()]))
      (sampleOther transactionID) := by
  refine ⟨?_, ?_, ?_, ?_, trivial⟩
  all_goals
    rintro ⟨request, hperformed⟩
    cases hperformed

/-- While `b` uses another identifier, the client of `a` is answered by `a`. -/
theorem session_isolated_two :
    (Run.after (step Bertlv.reference) System.new
      ([sampleInitiate 0x61, .answer 0 (sampleIntroduced 0x01)] ++
        .step 0 () :: sampleOther 0x02)).issued exec (program Bertlv.reference) (.step 2 ()) =
      some (sampleAuthenticate, ⟨[0x61], .authenticateClient, sampleAuthenticate.payload⟩) := by
  refine (session_isolated ?_ sample_introduces (sample_live 0x02) (sampleOther 0x02) [] (by simp)).posts
    sample_carries rfl
  refine ⟨?_, ?_, trivial, ?_, ?_, trivial, ?_, trivial⟩
  · exact fun _ htransaction => absurd htransaction (by decide +kernel)
  · refine Pool.admits_answer ?_
    rintro posting hposting - - response - -
    obtain rfl := Option.some.inj hposting
    rfl
  · exact fun _ htransaction => absurd htransaction (by decide +kernel)
  · refine Pool.admits_answer ?_
    rintro posting - - - response hresponse htransaction
    obtain rfl := Except.ok.inj hresponse
    exact absurd htransaction (by decide +kernel)
  · exact nofun

/-- An answer of `b` with the identifier that `a` has introduced takes the session over. -/
theorem shared_identifier_moves_session :
    Introduces [0x01] [0x61] (Run.after (step Bertlv.reference) System.new
        [sampleInitiate 0x61, .answer 0 (sampleIntroduced 0x01)]) (.step 0 ()) ∧
      Run.Meets (step Bertlv.reference) (fun x event => ¬ Cancels [0x01] x event)
        (Run.after (step Bertlv.reference) System.new
          ([sampleInitiate 0x61, .answer 0 (sampleIntroduced 0x01)] ++ [.step 0 ()]))
        (sampleOther 0x01) ∧
      Carries Bertlv.reference [0x01] sampleAuthenticate ∧
      (Run.after (step Bertlv.reference) System.new
        ([sampleInitiate 0x61, .answer 0 (sampleIntroduced 0x01)] ++
          .step 0 () :: sampleOther 0x01)).issued exec (program Bertlv.reference) (.step 2 ()) =
        some (sampleAuthenticate, ⟨[0x62], .authenticateClient, sampleAuthenticate.payload⟩) :=
  ⟨sample_introduces, sample_live 0x01, sample_carries, by decide +kernel⟩

end OpenIotRsp.Relay
