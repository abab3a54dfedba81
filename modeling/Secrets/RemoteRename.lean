import Secrets.RemoteOrder

set_option autoImplicit false

namespace Secrets

open Effects Effects.Tx Programs Tables Storage
open Framing (Bytes)

def Remote.offer (transaction : Uuid) (address : Address) (newName : SecretName) (stored : StoredSecret) : Remote.Operation Unit :=
  Remote.call (.exists (Remote.reference (address.renamed newName))) >>= fun taken =>
    Prog.ensure (!taken) .conflict >>= fun _ => Remote.place transaction address newName stored

theorem rename_offers (transaction : Uuid) (target : Target) (newName : SecretName) :
    Remote.rename transaction target newName =
      Remote.call (.get (Remote.reference target.address)) >>= fun stored =>
        Remote.offer transaction target.address newName stored := rfl

def Client.Call.Checks : Client.Call → Prop
  | .exists _ => True
  | _ => False

def Client.Call.Places : Client.Call → Prop
  | .prepare _ _ _ _ | .commit _ _ => True
  | _ => False

def Client.Call.Commits : Client.Call → Prop
  | .commit _ _ => True
  | _ => False

-- Another client's request bears with a rename that makes `call` next: between
-- its get and its exists the source keeps what it holds; from there to the commit
-- the source gets no other value and the new name stays free.
structure Bears (store : PostgresStore) (address : Address) (newName : SecretName) (call : Client.Call) (before after : World) : Prop where
  read : call.Checks → store.holds after (Remote.reference address) = store.holds before (Remote.reference address)
  source : call.Places → ∀ value, store.holds after (Remote.reference address) = some value →
    store.holds before (Remote.reference address) = some value
  free : call.Places → ¬before.active (address.renamed newName) → ¬after.active (address.renamed newName)

-- The batch of a rename is still there to be committed, unless there is nothing
-- to be moved any more.
def Custody.Live (custody : Custody) (state : Serving) (address : Address) (transaction : Uuid) : Prop :=
  state.world.active address → ∃ row, state.world.prepared.find (address.scope.tenant.text, transaction) = some row ∧
    (custody.service.clocks (state.calls + 1)).transaction < row.expiresAt

def Custody.Undisturbed (custody : Custody) (pool : Clients) (index : Nat) : Prop :=
  ∀ (place : Nat) (thread : Underway) (target : Target) (newName : SecretName) (sent : Sent) (next : sent.Answer → Ending),
    pool.threads[place]? = some thread → thread.tag.command = .rename target newName → thread.prog = .ask sent next →
      (place ≠ index → Bears custody.service.store target.address newName sent.call pool.shared.world
        (pool.turn custody.answer index).shared.world) ∧
      (place = index → sent.call.Commits → custody.Live pool.shared target.address thread.tag.transaction)

def Custody.AllUndisturbed (custody : Custody) : Clients → List Nat → Prop
  | _, [] => True
  | pool, index :: rest => custody.Undisturbed pool index ∧ custody.AllUndisturbed (pool.turn custody.answer index) rest

-- What a rename relies on once the new name was found free: the source holds what
-- was read, or nothing that a commit could delete.
structure Carried (store : PostgresStore) (address : Address) (newName : SecretName) (world : World) (value : Bytes) : Prop where
  apart : address.renamed newName ≠ address
  source : store.holds world (Remote.reference address) = some value ∨ world.secrets.find (Remote.reference address) = none
  free : ¬world.active (address.renamed newName)

def Prepares (platform : Platform) (transaction : Uuid) (address : Address) (newName : SecretName) (world : World)
    (stored : StoredSecret) : Prop :=
  ∀ row, world.prepared.find (address.scope.tenant.text, transaction) = some row →
    ∃ batch, BatchHeld platform (address.scope.tenant.text, transaction) batch row ∧
      batch.mutations = Remote.moves address newName stored

inductive Stage (custody : Custody) (world : World) : Errand → Ending → Prop where
  | waiting (errand : Errand) : Stage custody world errand (errand.finish (Remote.perform errand.transaction errand.command))
  | read (token : String) (transaction : Uuid) (target : Target) (newName : SecretName) (stored : StoredSecret)
      (held : custody.service.store.holds world (Remote.reference target.address) = some stored.value) :
      Stage custody world ⟨token, transaction, .rename target newName⟩
        (Errand.finish ⟨token, transaction, .rename target newName⟩ (Remote.offer transaction target.address newName stored))
  | checked (token : String) (transaction : Uuid) (target : Target) (newName : SecretName) (stored : StoredSecret)
      (carried : Carried custody.service.store target.address newName world stored.value) :
      Stage custody world ⟨token, transaction, .rename target newName⟩
        (Errand.finish ⟨token, transaction, .rename target newName⟩ (Remote.place transaction target.address newName stored))
  | prepared (token : String) (transaction : Uuid) (target : Target) (newName : SecretName) (stored : StoredSecret)
      (carried : Carried custody.service.store target.address newName world stored.value)
      (prepares : Prepares custody.service.platform transaction target.address newName world stored) :
      Stage custody world ⟨token, transaction, .rename target newName⟩
        (Errand.finish ⟨token, transaction, .rename target newName⟩ (Remote.commit target.address.scope.tenant.text transaction))
  | aborting (errand : Errand) (tenant : ScopeName) (error : StorageError) : Stage custody world errand
      (.ask ⟨errand.token, .abort tenant.text errand.transaction⟩ fun _ => .stop error)
  | failed (errand : Errand) (error : StorageError) : Stage custody world errand (.stop error)
  | finished (errand : Errand) (completed : Completed) : Stage custody world errand (.done completed)

-- A turn of an operation that is not settled: it says nothing yet, and changes
-- nothing, or settles as if done at once.
inductive Stepped (custody : Custody) (errand : Errand) (before after : World) (prog : Ending) : Prop where
  | goes (unsettled : settled prog = none) (same : Unmoved before after) (stage : Stage custody after errand prog)
  | settles (outcome : Except StorageError Completed) (known : settled prog = some outcome)
      (explains : Explains custody errand.command before after outcome) (stage : Stage custody after errand prog)

def Errand.commitReply (errand : Errand) (target : Target) (newName : SecretName) : Except Client.Error Unit → Ending
  | .ok _ => .done ⟨.rename target newName, ()⟩
  | .error error => .ask ⟨errand.token, .abort target.address.scope.tenant.text errand.transaction⟩ fun _ =>
      .stop (Remote.refusal error)

theorem finish_commit (token : String) (transaction : Uuid) (target : Target) (newName : SecretName) :
    Errand.finish ⟨token, transaction, .rename target newName⟩ (Remote.commit target.address.scope.tenant.text transaction) =
      .ask ⟨token, .commit target.address.scope.tenant.text transaction⟩
        (Errand.commitReply ⟨token, transaction, .rename target newName⟩ target newName) := by
  unfold Errand.finish Remote.commit
  rw [Prog.ask_bind, carrying]
  congr 1
  funext answer
  cases answer <;> rfl

section Turns
variable (custody : Custody) (reads : custody.extractors.Reads) (token : String) (transaction : Uuid) (target : Target)
  (newName : SecretName)

theorem active_record (before after : World) (address : Address)
    (same : after.record (Remote.reference address) = before.record (Remote.reference address)) :
    after.active address ↔ before.active address := by
  unfold World.active
  rw [record_find before after _ same]

theorem carried_unmoved (before after : World) (value : Bytes) (same : Unmoved before after)
    (carried : Carried custody.service.store target.address newName before value) :
    Carried custody.service.store target.address newName after value := by
  refine ⟨carried.apart, ?_, ?_⟩
  · rw [holds_record custody.service.store before after _ (same _), record_find before after _ (same _)]
    exact carried.source
  · rw [active_record _ _ _ (same _)]
    exact carried.free

theorem turn_refused (before after : World) (error : Client.Error) (same : Unmoved before after)
    (missing : error = .notFound → ¬before.active target.address) :
    Stepped custody ⟨token, transaction, .rename target newName⟩ before after (.stop (Remote.refusal error)) := by
  refine .settles (.error (Remote.refusal error)) rfl ⟨fun told => ?_, fun told => ?_, same⟩ (.failed _ _)
  · exact missing ((refusal_missing error).mp told)
  · exact absurd told (refusal_not_conflict error)

include reads

theorem turn_waiting (state : Serving) (kept : Kept custody.service.platform state.world) :
    Stepped custody ⟨token, transaction, .rename target newName⟩ state.world
      (custody.send token (.get (Remote.reference target.address)) state).2.world
      (Errand.reply ⟨token, transaction, .rename target newName⟩
        (fun stored => Remote.offer transaction target.address newName stored)
        (custody.send token (.get (Remote.reference target.address)) state).1) := by
  have same := quiet_record custody token reads (.get (Remote.reference target.address)) (placed_reference _) state
    (fun _ _ => Client.Call.noConfusion) rfl (kept_keyed _ _ kept)
  cases answered : (custody.send token (.get (Remote.reference target.address)) state).1 with
  | error error =>
      refine turn_refused custody token transaction target newName _ _ error same ?_
      rintro rfl
      exact get_told custody token reads state kept target.address answered
  | ok stored =>
      obtain ⟨_, shown, _, got, _, decoded⟩ := asked_once custody token reads (.get (Remote.reference target.address))
        (placed_reference _) stored state answered
      cases decoded
      refine .goes ?_ same (.read token transaction target newName stored ?_)
      · rw [Errand.reply, Remote.offer, finish_call]
        rfl
      · rw [holds_record custody.service.store _ _ _ (same _)]
        exact get_holds _ _ _ _ stored got

theorem exists_told (address : Address) (taken : Bool) (state : Serving)
    (answered : (custody.send token (.exists (Remote.reference address)) state).1 = .ok taken) :
    taken = true ↔ state.world.active address := by
  obtain ⟨_, shown, _, asked, _, decoded⟩ := asked_once custody token reads (.exists (Remote.reference address))
    (placed_reference _) taken state answered
  cases decoded
  have told := Except.ok.inj (congrArg Prod.fst ((exists_run state.world address).symm.trans asked))
  rw [← told]
  unfold World.active
  cases state.world.secrets.find (Remote.reference address) <;> simp

theorem turn_read (state : Serving) (kept : Kept custody.service.platform state.world) (stored : StoredSecret)
    (held : custody.service.store.holds state.world (Remote.reference target.address) = some stored.value) :
    Stepped custody ⟨token, transaction, .rename target newName⟩ state.world
      (custody.send token (.exists (Remote.reference (target.address.renamed newName))) state).2.world
      (Errand.reply ⟨token, transaction, .rename target newName⟩
        (fun taken => Prog.ensure (!taken) .conflict >>= fun _ => Remote.place transaction target.address newName stored)
        (custody.send token (.exists (Remote.reference (target.address.renamed newName))) state).1) := by
  have same := quiet_record custody token reads (.exists (Remote.reference (target.address.renamed newName))) (placed_reference _)
    state (fun _ _ => Client.Call.noConfusion) rfl (kept_keyed _ _ kept)
  have active := holds_active _ _ _ stored.value held
  cases answered : (custody.send token (.exists (Remote.reference (target.address.renamed newName))) state).1 with
  | error error =>
      refine turn_refused custody token transaction target newName _ _ error same ?_
      rintro rfl
      obtain ⟨_, reason, failed, _⟩ := told_missing custody token reads
        (.exists (Remote.reference (target.address.renamed newName))) (placed_reference _) state answered
      cases (congrArg Prod.fst (exists_run state.world (target.address.renamed newName))).symm.trans failed
  | ok taken =>
      have told := exists_told custody reads token (target.address.renamed newName) taken state answered
      cases taken with
      | true =>
          refine .settles (.error .conflict) rfl ⟨fun wrong => (by cases wrong), fun _ => ⟨active, told.mp rfl⟩, same⟩ (.failed _ _)
      | false =>
          refine .goes ?_ same (.checked token transaction target newName stored ?_)
          · rw [Errand.reply]
            change settled (Errand.finish ⟨token, transaction, .rename target newName⟩
              (Remote.place transaction target.address newName stored)) = none
            rw [Remote.place, finish_call]
            rfl
          · refine carried_unmoved custody target newName _ _ stored.value same ⟨?_, .inl held, ?_⟩
            · intro itself
              rw [itself] at told
              exact absurd (told.mpr active) (by decide)
            · exact fun taken => absurd (told.mpr taken) (by decide)

theorem turn_checked (state : Serving) (kept : Kept custody.service.platform state.world) (stored : StoredSecret)
    (carried : Carried custody.service.store target.address newName state.world stored.value) :
    Stepped custody ⟨token, transaction, .rename target newName⟩ state.world
      (custody.send token (.prepare target.address.scope.tenant.text transaction (Remote.owner target.address).text
        (Remote.moves target.address newName stored)) state).2.world
      (Errand.reply ⟨token, transaction, .rename target newName⟩
        (fun _ => Remote.commit target.address.scope.tenant.text transaction)
        (custody.send token (.prepare target.address.scope.tenant.text transaction (Remote.owner target.address).text
          (Remote.moves target.address newName stored)) state).1) := by
  let call : Client.Call := .prepare target.address.scope.tenant.text transaction (Remote.owner target.address).text
    (Remote.moves target.address newName stored)
  have placed : call.Placed := ⟨target.address.scope.tenant, rfl⟩
  have same := quiet_record custody token reads call placed state (fun _ _ => Client.Call.noConfusion) rfl (kept_keyed _ _ kept)
  change Stepped custody _ _ (custody.send token call state).2.world (Errand.reply _ _ (custody.send token call state).1)
  cases answered : (custody.send token call state).1 with
  | error error =>
      refine turn_refused custody token transaction target newName _ _ error same ?_
      rintro rfl
      obtain ⟨_, reason, failed, missing⟩ := told_missing custody token reads call placed state answered
      exact absurd missing (prepare_found _ _ _ _ _ _ _ _ _ _ (Prod.ext failed rfl))
  | ok done =>
      obtain ⟨_, finished, after, prepared, there, _⟩ := asked_once custody token reads call placed done state answered
      have made := prepare_ok _ _ _ _ transaction _ _ finished _ _ prepared
      refine .goes rfl same (.prepared token transaction target newName stored
        (carried_unmoved custody target newName _ _ stored.value same carried) ?_)
      intro row found
      rw [there, made.prepared, if_pos rfl] at found
      cases found
      exact ⟨_, prepared_row_held _ _ _ _ _ _ _ _ _ made, rfl⟩

omit reads in
theorem moves_applied (clock : Clock) (actor : String) (before after : World) (keyed : before.KeyedById) (stored : StoredSecret)
    (carried : Carried custody.service.store target.address newName before stored.value) (done : Unit)
    (ran : forEach (applyMutation custody.service.platform custody.service.store clock actor)
      (Remote.moves target.address newName stored) before = (.ok done, after)) :
    Moves custody.service.store target.address newName before after := by
  let source := Remote.reference target.address
  let place := Remote.reference (target.address.renamed newName)
  let input := Remote.put place (Remote.owner target.address).text stored.value stored.metadata.disclosure stored.metadata.labels
  have other : place ≠ source := fun same => carried.apart (reference_injective _ _ same)
  rw [Remote.moves, for_each_cons, bind_ok] at ran
  obtain ⟨_, reached, put, ran⟩ := ran
  rw [for_each_cons, bind_ok] at ran
  obtain ⟨_, last, deleted, ran⟩ := ran
  cases ran
  simp only [applyMutation, bind_ok, pure_run, Prod.mk.injEq] at put
  obtain ⟨metadata, middle, put, _, rfl⟩ := put
  have written := put_tx_ok _ _ _ _ _ _ _ _ put
  have removed := (map_error_ok _ _ _ _ _).mp deleted
  obtain ⟨_, _, _, row, found, _⟩ := (delete_tx_ok _ _ _ _ _ _).mp removed
  have held : custody.service.store.holds before source = some stored.value := by
    rcases carried.source with held | gone
    · exact held
    · rw [written.secrets] at found
      have kept := (if_neg other).symm.trans found
      exact absurd (gone.symm.trans kept) (by simp)
  have first : (leaving fun reference => place = reference).rel before middle :=
    leaves_put _ _ _ _ input _ _ _ metadata written rfl
  have second : (leaving fun reference => source = reference).rel middle after :=
    leaves_delete _ _ _ _ source _ () rfl removed
  have keyedMiddle := (first keyed).keyed
  constructor
  · refine ⟨stored.value, held, ?_⟩
    have same := (second keyedMiddle).elsewhere place (fun same => other same.symm)
    rw [holds_record _ _ _ _ same]
    exact put_holds _ _ _ _ _ input _ metadata written
  · exact carried.free
  · obtain ⟨_, _, _, other, there, rfl⟩ := (delete_tx_ok _ _ _ _ _ _).mp removed
    change (middle.dropSecret other).secrets.find source = none
    rw [find_drop_secret, if_pos (Table.find_key _ _ _ there)]
  · intro reference notSource notPlace
    exact ((second keyedMiddle).elsewhere reference fun same => notSource same.symm).trans
      ((first keyed).elsewhere reference fun same => notPlace same.symm)

theorem commit_moves (state : Serving) (keyed : state.world.KeyedById) (stored : StoredSecret)
    (carried : Carried custody.service.store target.address newName state.world stored.value)
    (prepares : Prepares custody.service.platform transaction target.address newName state.world stored)
    (done : Unit) (answered : (custody.send token (.commit target.address.scope.tenant.text transaction) state).1 = .ok done) :
    Moves custody.service.store target.address newName state.world
      (custody.send token (.commit target.address.scope.tenant.text transaction) state).2.world := by
  obtain ⟨_, finished, after, committed, there, _⟩ := asked_once custody token reads
    (.commit target.address.scope.tenant.text transaction) ⟨target.address.scope.tenant, rfl⟩ done state answered
  rw [there]
  let clock := custody.service.clocks (state.calls + 1)
  obtain ⟨row, expiry, mutations, applied, completed⟩ := commit_ok _ _ _ _ transaction finished _ _ committed
  obtain ⟨batch, held, whole⟩ := prepares row completed.held
  obtain ⟨_, rfl⟩ := batch_held_opens _ _ _ batch row expiry mutations (Table.find_key _ _ _ completed.held) held completed.opens
  have ran := completed.ran
  rw [whole] at ran
  have moved := moves_applied custody target newName clock row.actor (claimed clock target.address.scope.tenant.text transaction state.world)
    applied keyed stored ⟨carried.apart, carried.source, carried.free⟩ () ran
  rw [completed.rest]
  exact ⟨moved.value, moved.vacant, moved.gone, moved.others⟩

theorem commit_missing (state : Serving) (stored : StoredSecret)
    (carried : Carried custody.service.store target.address newName state.world stored.value)
    (prepares : Prepares custody.service.platform transaction target.address newName state.world stored)
    (live : custody.Live state target.address transaction)
    (told : (custody.send token (.commit target.address.scope.tenant.text transaction) state).1 = .error .notFound) :
    ¬state.world.active target.address := by
  intro there
  obtain ⟨row, found, unexpired⟩ := live there
  obtain ⟨batch, held, whole⟩ := prepares row found
  obtain ⟨_, error, failed, missing⟩ := told_missing custody token reads (.commit target.address.scope.tenant.text transaction)
    ⟨target.address.scope.tenant, rfl⟩ state told
  refine commit_found custody.service.platform custody.service.store _ _ _ _ transaction batch row found held unexpired error ?_
    (Prod.ext failed rfl) missing
  intro refused world ran
  rw [whole] at ran
  exact moves_found custody target.address newName stored row.actor _ (claimed _ _ transaction state.world) there carried.free refused
    world ran

theorem turn_prepared (state : Serving) (kept : Kept custody.service.platform state.world) (stored : StoredSecret)
    (carried : Carried custody.service.store target.address newName state.world stored.value)
    (prepares : Prepares custody.service.platform transaction target.address newName state.world stored)
    (live : custody.Live state target.address transaction) :
    Stepped custody ⟨token, transaction, .rename target newName⟩ state.world
      (custody.send token (.commit target.address.scope.tenant.text transaction) state).2.world
      (Errand.commitReply ⟨token, transaction, .rename target newName⟩ target newName
        (custody.send token (.commit target.address.scope.tenant.text transaction) state).1) := by
  cases answered : (custody.send token (.commit target.address.scope.tenant.text transaction) state).1 with
  | ok done =>
      refine .settles (.ok ⟨.rename target newName, ()⟩) rfl ⟨(), rfl, ?_⟩ (.finished _ _)
      exact commit_moves custody reads token transaction target newName state (kept_keyed _ _ kept) stored carried prepares done answered
  | error error =>
      have same := refused_unmoved custody token reads (.commit target.address.scope.tenant.text transaction)
        ⟨target.address.scope.tenant, rfl⟩ state (kept_keyed _ _ kept) error answered
      refine .settles (.error (Remote.refusal error)) rfl ⟨fun told => ?_, fun told => ?_, same⟩ (.aborting _ _ _)
      · cases (refusal_missing error).mp told
        exact commit_missing custody reads token transaction target newName state stored carried prepares live answered
      · exact absurd told (refusal_not_conflict error)

end Turns

section Own
variable (custody : Custody) (reads : custody.extractors.Reads)

theorem stage_ended (world : World) (errand : Errand) (outcome : Except StorageError Completed) :
    Stage custody world errand (ended outcome) := by
  cases outcome with
  | ok completed => exact .finished errand completed
  | error error => exact .failed errand error

theorem turn_alone (token : String) (transaction : Uuid) (command : Command) (call : Client.Call)
    (next : call.Value → Remote.Operation command.Answer) (quiet : ∀ value, (next value).Asks fun _ => False)
    (state : Serving)
    (explained : ∀ outcome after, run (custody.send token) (Remote.call call >>= next) state = (outcome, after) →
      Explains custody command state.world after.world (command.completed outcome)) :
    Stepped custody ⟨token, transaction, command⟩ state.world (custody.send token call state).2.world
      (Errand.reply ⟨token, transaction, command⟩ next (custody.send token call state).1) := by
  have whole := reply_quiet (custody.send token) ⟨token, transaction, command⟩ call next quiet state
  rw [whole]
  refine .settles _ (settled_ended _) ?_ (stage_ended custody _ _ _)
  rw [← run_after (custody.send token) call next quiet state]
  exact explained _ _ rfl

include reads

theorem turn_first (errand : Errand) (state : Serving) (kept : Kept custody.service.platform state.world) (sent : Sent)
    (next : sent.Answer → Ending)
    (whole : Prog.ask sent next = errand.finish (Remote.perform errand.transaction errand.command)) :
    settled (.ask sent next) = none ∧
      Stepped custody errand state.world (custody.answer sent state).2.world (next (custody.answer sent state).1) := by
  obtain ⟨token, transaction, command⟩ := errand
  cases command with
  | read target =>
      cases whole.trans (finish_call ⟨token, transaction, .read target⟩ (.get (Remote.reference target.address)) (Remote.shown target))
      exact ⟨rfl, turn_alone custody token transaction (.read target) _ _ (shown_quiet target) state
        (read_explained custody token reads state kept target)⟩
  | write target value =>
      change _ = Errand.finish ⟨token, transaction, .write target value⟩ (Remote.write target value) at whole
      rw [write_tells] at whole
      split at whole
      · cases whole.trans (finish_call ⟨token, transaction, .write target value⟩ (.put (Remote.stored target value)) Remote.told)
        exact ⟨rfl, turn_alone custody token transaction (.write target value) _ _ told_quiet state
          (write_explained custody token reads state kept target value)⟩
      · cases whole
  | delete target =>
      change _ = Errand.finish ⟨token, transaction, .delete target⟩ (Remote.delete target) at whole
      rw [Remote.delete, call_done] at whole
      cases whole.trans (finish_call ⟨token, transaction, .delete target⟩
        (.delete (Remote.reference target.address) (Remote.owner target.address).text) fun done => .done done)
      refine ⟨rfl, turn_alone custody token transaction (.delete target) _ _ done_quiet state ?_⟩
      intro outcome after ran
      exact delete_explained custody token reads state kept target outcome after ((congrArg (run _ · state) (call_done _)).trans ran)
  | rename target newName =>
      cases whole.trans (finish_call ⟨token, transaction, .rename target newName⟩ (.get (Remote.reference target.address))
        fun stored => Remote.offer transaction target.address newName stored)
      exact ⟨rfl, turn_waiting custody reads token transaction target newName state kept⟩
  | list scope =>
      cases whole.trans (finish_call ⟨token, transaction, .list scope⟩
        (.references scope.tenant.text scope.nameSpace.text) (Remote.listed scope))
      exact ⟨rfl, turn_alone custody token transaction (.list scope) _ _ (listed_quiet scope) state
        (list_explained custody token reads state kept scope)⟩

theorem stage_turn (errand : Errand) (state : Serving) (kept : Kept custody.service.platform state.world) (sent : Sent)
    (next : sent.Answer → Ending) (stage : Stage custody state.world errand (.ask sent next))
    (live : ∀ target newName, errand.command = .rename target newName → sent.call.Commits →
      custody.Live state target.address errand.transaction) :
    (settled (.ask sent next) = none ∧
      Stepped custody errand state.world (custody.answer sent state).2.world (next (custody.answer sent state).1)) ∨
    ∃ error, settled (.ask sent next) = some (.error error) ∧ next (custody.answer sent state).1 = .stop error ∧
      Unmoved state.world (custody.answer sent state).2.world := by
  generalize whole : Prog.ask sent next = prog at stage ⊢
  cases stage with
  | waiting =>
      rw [← whole]
      exact .inl (turn_first custody reads errand state kept sent next whole)
  | read token transaction target newName stored held =>
      rw [Remote.offer, finish_call] at whole
      cases whole
      exact .inl ⟨rfl, turn_read custody reads token transaction target newName state kept stored held⟩
  | checked token transaction target newName stored carried =>
      rw [Remote.place, finish_call] at whole
      cases whole
      exact .inl ⟨rfl, turn_checked custody reads token transaction target newName state kept stored carried⟩
  | prepared token transaction target newName stored carried prepares =>
      rw [finish_commit] at whole
      cases whole
      exact .inl ⟨rfl, turn_prepared custody reads token transaction target newName state kept stored carried prepares
        (live target newName rfl trivial)⟩
  | aborting errand tenant error =>
      cases whole
      exact .inr ⟨error, rfl, rfl, quiet_record custody errand.token reads (.abort tenant.text errand.transaction) ⟨tenant, rfl⟩ state
        (fun _ _ => Client.Call.noConfusion) rfl (kept_keyed _ _ kept)⟩
  | failed => cases whole
  | finished => cases whole

omit reads in
theorem ends_commit (errand : Errand) (world : World) (target : Target) (newName : SecretName)
    (renames : errand.command = .rename target newName) (sent : Sent) (next : sent.Answer → Ending)
    (stage : Stage custody world errand (.ask sent next)) (answer : sent.Answer) (completed : Completed)
    (ends : next answer = .done completed) :
    sent = ⟨errand.token, .commit target.address.scope.tenant.text errand.transaction⟩ := by
  generalize whole : Prog.ask sent next = prog at stage
  cases stage with
  | waiting =>
      obtain ⟨token, transaction, command⟩ := errand
      cases (show command = .rename target newName from renames)
      cases whole.trans (finish_call ⟨token, transaction, .rename target newName⟩ (.get (Remote.reference target.address))
        fun stored => Remote.offer transaction target.address newName stored)
      cases answer with
      | error error => cases ends
      | ok stored =>
          rw [Errand.reply, Remote.offer, finish_call] at ends
          cases ends
  | read token transaction target newName stored held =>
      rw [Remote.offer, finish_call] at whole
      cases whole
      cases answer with
      | error error => cases ends
      | ok taken => cases taken <;> cases ends
  | checked token transaction target newName stored carried =>
      rw [Remote.place, finish_call] at whole
      cases whole
      cases answer <;> cases ends
  | prepared token transaction other otherName stored carried prepares =>
      rw [finish_commit] at whole
      cases whole
      cases renames
      rfl
  | aborting errand tenant error =>
      cases whole
      cases ends
  | failed => cases whole
  | finished => cases whole

end Own

section Others
variable (custody : Custody)

theorem carried_borne (address : Address) (newName : SecretName) (call : Client.Call) (before after : World) (value : Bytes)
    (settles : Settles custody.service.store before after)
    (bears : Bears custody.service.store address newName call before after) (places : call.Places)
    (carried : Carried custody.service.store address newName before value) :
    Carried custody.service.store address newName after value := by
  refine ⟨carried.apart, ?_, bears.free places carried.free⟩
  rcases settles.each (Remote.reference address) with same | gone | ⟨other, held⟩
  · rw [holds_record custody.service.store before after _ same, record_find before after _ same]
    exact carried.source
  · exact .inr gone
  · have earlier := bears.source places other held
    rcases carried.source with kept | absent
    · rw [kept] at earlier
      cases earlier
      exact .inl held
    · rw [holds_absent _ _ _ absent] at earlier
      cases earlier

theorem stage_borne (errand : Errand) (before after : World) (prog : Ending)
    (settles : Settles custody.service.store before after)
    (fewer : ∀ tenant, (fewerAt (tenant, errand.transaction)).rel before after)
    (bears : ∀ target newName sent next, errand.command = .rename target newName → prog = .ask sent next →
      Bears custody.service.store target.address newName sent.call before after)
    (stage : Stage custody before errand prog) : Stage custody after errand prog := by
  cases stage with
  | waiting => exact .waiting errand
  | read token transaction target newName stored held =>
      have bear := bears target newName _ _ rfl (finish_call ⟨token, transaction, .rename target newName⟩ _ _)
      exact .read token transaction target newName stored ((bear.read trivial).trans held)
  | checked token transaction target newName stored carried =>
      have bear := bears target newName _ _ rfl (finish_call ⟨token, transaction, .rename target newName⟩ _ _)
      exact .checked token transaction target newName stored
        (carried_borne custody target.address newName _ before after stored.value settles bear trivial carried)
  | prepared token transaction target newName stored carried prepares =>
      have bear := bears target newName _ _ rfl (finish_commit token transaction target newName)
      refine .prepared token transaction target newName stored
        (carried_borne custody target.address newName _ before after stored.value settles bear trivial carried) ?_
      intro row found
      exact prepares row (fewer target.address.scope.tenant.text row found)
  | aborting errand tenant error => exact .aborting errand tenant error
  | failed errand error => exact .failed errand error
  | finished errand completed => exact .finished errand completed

end Others

def OfSession (errand : Errand) (call : Client.Call) : Prop :=
  call.Placed ∧ ∀ place, call.batch = some place → place.2 = errand.transaction

theorem asks_carrying {Value : Type} (allowed : Client.Call → Prop) (token : String) (operation : Remote.Operation Value)
    (asks : operation.Asks allowed) : (carrying token operation).Asks fun sent => allowed sent.call := by
  induction operation with
  | done value => trivial
  | stop error => trivial
  | ask call next ih => exact ⟨asks.1, fun answer => ih answer (asks.2 answer)⟩

theorem asks_call (allowed : Client.Call → Prop) (call : Client.Call) (here : allowed call) : (Remote.call call).Asks allowed := by
  refine ⟨here, fun answer => ?_⟩
  cases answer <;> trivial

theorem plain_of_session (errand : Errand) (call : Client.Call) (placed : call.Placed) (none : call.batch = none) :
    OfSession errand call :=
  ⟨placed, fun place there => absurd (none.symm.trans there) (by simp)⟩

theorem batch_of_session (errand : Errand) (call : Client.Call) (tenant : String) (placed : call.Placed)
    (own : call.batch = some (tenant, errand.transaction)) : OfSession errand call := by
  refine ⟨placed, fun place there => ?_⟩
  cases own.symm.trans there
  rfl

theorem perform_asks (errand : Errand) : (Remote.perform errand.transaction errand.command).Asks (OfSession errand) := by
  have get : ∀ address, OfSession errand (.get (Remote.reference address)) := fun address =>
    plain_of_session errand _ (placed_reference address) rfl
  cases errand.command with
  | read target =>
      apply Prog.asks_bind _ _ _ (asks_call _ _ (get target.address))
      intro stored
      apply Prog.asks_bind _ _ _ (Prog.asks_ensure _ _ _)
      intro _
      apply Prog.asks_bind
      · cases (SecretValue.new stored.value).mapError fun _ => StorageError.unavailable <;> trivial
      · intro _
        trivial
  | write target value =>
      apply Prog.asks_bind _ _ _ (Prog.asks_ensure _ _ _)
      intro _
      apply Prog.asks_bind
      · exact asks_call _ _ (plain_of_session errand _ (placed_reference target.address) rfl)
      · intro _
        trivial
  | delete target => exact asks_call _ _ (plain_of_session errand _ (placed_reference target.address) rfl)
  | rename target newName =>
      have placed : ∃ name : ScopeName, name.text = target.address.scope.tenant.text := ⟨target.address.scope.tenant, rfl⟩
      apply Prog.asks_bind _ _ _ (asks_call _ _ (get target.address))
      intro stored
      apply Prog.asks_bind
      · exact asks_call _ _ (plain_of_session errand _ (placed_reference (target.address.renamed newName)) rfl)
      · intro taken
        apply Prog.asks_bind _ _ _ (Prog.asks_ensure _ _ _)
        intro _
        apply Prog.asks_bind
        · exact asks_call _ _ (batch_of_session errand _ _ placed rfl)
        · intro _
          refine ⟨batch_of_session errand _ _ placed rfl, fun answer => ?_⟩
          cases answer with
          | ok done => trivial
          | error error => exact ⟨batch_of_session errand _ _ placed rfl, fun _ => trivial⟩
  | list scope =>
      apply Prog.asks_bind
      · exact asks_call _ _ (plain_of_session errand _ ⟨scope.tenant, rfl⟩ rfl)
      · intro _
        trivial

theorem start_asks (errand : Errand) : errand.start.prog.Asks fun sent => OfSession errand sent.call := by
  refine asks_carrying (OfSession errand) errand.token _ ?_
  exact Prog.asks_bind _ _ _ (perform_asks errand) fun _ => trivial

end Secrets
