import Secrets.Answers
import Secrets.RemoteIsolation

set_option autoImplicit false

namespace Secrets

open Effects Effects.Tx Programs Tables Storage

structure Kept (platform : Platform) (world : World) : Prop where
  represents : ∃ ledger, Represents platform ledger world
  ids : IdsDrawn platform world

theorem kept_empty (platform : Platform) : Kept platform World.empty := by
  refine ⟨⟨Ledger.empty, represents_empty platform⟩, ?_⟩
  intro reference row found
  cases found

theorem kept_operation (platform : Platform) (store : PostgresStore) (clock : Clock) (operation : Operation) (world : World)
    (kept : Kept platform world) : Kept platform (operation.perform platform store clock world).2 := by
  obtain ⟨⟨ledger, represents⟩, ids⟩ := kept
  exact ⟨⟨_, represents_step platform ⟨store, clock, operation⟩ (world, ledger) represents⟩,
    ids_drawn_operation platform store clock world _ ids operation _ rfl⟩

def keeping (platform : Platform) : Frame Serving := Frame.preserving fun state => Kept platform state.world

section Custodies
variable (custody : Custody)

theorem kept_service (service : Service) (call : ServiceCall) (state : Serving) :
    (keeping service.platform).rel state (service.perform call state).2 := by
  intro kept
  cases call with
  | verify family token => exact kept
  | store call => exact kept_operation service.platform service.store _ (.call call) state.world kept

theorem kept_serve (request : HttpRequest) :
    Within (keeping custody.service.platform) (run custody.service.perform (serve custody.extractors request)) :=
  within_run _ _ (fun _ => True) (fun call state _ => kept_service custody.service call state) _ (Prog.asks_anything _)

theorem kept_send (token : String) (call : Client.Call) (state : Serving) :
    (keeping custody.service.platform).rel state (custody.send token call state).2 :=
  kept_serve custody (call.request token) state

theorem kept_perform (token : String) (transaction : Uuid) (command : Command) :
    Within (keeping custody.service.platform) (run (custody.send token) (Remote.perform transaction command)) :=
  within_run _ _ (fun _ => True) (fun call state _ => kept_send custody token call state) _ (Prog.asks_anything _)

inductive Act where
  | operation (token : String) (transaction : Uuid) (command : Command)
  | owner (request : HttpRequest) (changing : request.route = .userRevoke ∨ request.route = .userDelete)

def Custody.act (state : Serving) : Act → Serving
  | .operation token transaction command => (run (custody.send token) (Remote.perform transaction command) state).2
  | .owner request _ => (run custody.service.perform (serve custody.extractors request) state).2

def Custody.after (acts : List Act) : Serving := acts.foldl custody.act ⟨World.empty, 0⟩

theorem act_keeps (act : Act) (state : Serving) : (keeping custody.service.platform).rel state (custody.act state act) := by
  cases act with
  | operation token transaction command => exact kept_perform custody token transaction command state
  | owner request changing => exact kept_serve custody request state

theorem kept_from (acts : List Act) (state : Serving) :
    (keeping custody.service.platform).rel state (acts.foldl custody.act state) := by
  induction acts generalizing state with
  | nil => exact (keeping custody.service.platform).refl state
  | cons act rest ih => exact (keeping custody.service.platform).trans _ _ _ (act_keeps custody act state) (ih _)

theorem kept_after (acts : List Act) : Kept custody.service.platform (custody.after acts).world :=
  kept_from custody acts _ (kept_empty custody.service.platform)

end Custodies

-- What a request relies on to come through, outside the code: the authority
-- knows the caller, index entries of a reference's size fit a page, a batch
-- outlives the request after the one that prepared it, and no id is drawn twice.
structure Custody.Serves (custody : Custody) (token tenant : String) (drawn : Nat) : Prop where
  reads : custody.extractors.Reads
  trusts : custody.Trusts token tenant
  cleanKeyId : Clean [custody.service.store.keyring.active]
  fits : ∀ texts : List String, (texts.map String.utf8ByteSize).sum ≤ 2048 → custody.service.platform.indexFits texts = true
  prompt : ∀ calls, (custody.service.clocks (calls + 2)).transaction <
    prepareExpiry custody.service.store (custody.service.clocks calls) * 1000000
  distinct : Distinct custody.service.platform (drawn + 1)

def StoreError.seen : StoreError → Client.Error
  | .notFound | .deleteTargetMissing => .notFound
  | .conflict | .invalid _ => .refused
  | .unavailable | .crypto => .service

theorem respond_store (call : Client.Call) (error : StoreError) :
    call.respond (.error (Refusal.ofStore error)) = .error error.seen := by
  cases error with
  | invalid reason => cases reason <;> rfl
  | notFound => rfl
  | deleteTargetMissing => rfl
  | conflict => rfl
  | unavailable => rfl
  | crypto => rfl

theorem seen_missing (error : StoreError) : error.seen = .notFound ↔ Missing error := by
  cases error <;> simp [StoreError.seen, Missing]

theorem refusal_missing (error : Client.Error) : Remote.refusal error = .notFound ↔ error = .notFound := by
  cases error <;> simp [Remote.refusal]

theorem refusal_not_conflict (error : Client.Error) : Remote.refusal error ≠ .conflict := by
  cases error <;> simp [Remote.refusal]

section Sent
variable (custody : Custody) (token tenant : String) (drawn : Nat) (serves : custody.Serves token tenant drawn)
include serves

theorem send_stored (call : Client.Call) (placed : call.Placed) (own : call.tenant = tenant)
    (short : call.body.length ≤ bodyLimit) (state : Serving) :
    ∃ principal, custody.send token call state = custody.stored principal call state := by
  subst own
  obtain ⟨principal, admits⟩ := serves.trusts call state.calls rfl
  exact ⟨principal, send_admitted custody token serves.reads call placed short principal state admits⟩

omit serves in
theorem send_oversized (call : Client.Call) (long : ¬call.body.length ≤ bodyLimit) (state : Serving) :
    custody.send token call state = (.error .refused, state) := by
  have oversized : declaredTooLarge (call.request token) = true := by
    simpa [declaredTooLarge, Client.Call.request] using Nat.lt_of_not_le long
  rw [Custody.send, serve, oversized]
  rfl

end Sent
end Secrets
