import Secrets.AssociatedData
import Secrets.Runs

set_option autoImplicit false

namespace Secrets

open Effects Effects.Tx Tables
open Framing (Bytes)

-- One successful put, direct or in a batch, with the envelope it stored.
structure Write where
  reference : SecretRef
  disclosure : Disclosure
  value : Bytes
  secretId : Uuid
  version : Int
  envelope : Envelope
deriving DecidableEq

structure Log where
  writes : List Write
  current : SecretRef → Option Write

namespace Log

def empty : Log := ⟨[], fun _ => none⟩

def put (log : Log) (written : Write) : Log :=
  ⟨log.writes ++ [written], Function.update log.current written.reference (some written)⟩

def delete (log : Log) (reference : SecretRef) : Log := ⟨log.writes, Function.update log.current reference none⟩

theorem current_put (log : Log) (written : Write) (reference : SecretRef) :
    (log.put written).current reference = if reference = written.reference then some written else log.current reference :=
  Function.update_apply _ _ _ _

theorem current_delete (log : Log) (gone reference : SecretRef) :
    (log.delete gone).current reference = if reference = gone then none else log.current reference :=
  Function.update_apply _ _ _ _

end Log

section Logging
variable (platform : Platform) (store : PostgresStore) (clock : Clock) (actor : String)

def putWrite (input : PutSecret) (before : World) : Write :=
  { reference := input.reference
    disclosure := input.disclosure
    value := input.value
    secretId := (putPlace platform input before).1
    version := (putPlace platform input before).2
    envelope := putEnvelope platform store input before }

def logMutation : Mutation → World → Log → Log
  | .put secret, world, log => log.put (putWrite platform store secret world)
  | .delete reference, _, log => log.delete reference

def logMutations : List Mutation → World → Log → Log
  | [], _, log => log
  | mutation :: rest, world, log =>
      logMutations rest (applyMutation platform store clock actor mutation world).2
        (logMutation platform store mutation world log)

def Log.after (log : Log) (ledger : Ledger) (before : World) :
    (operation : Operation) → Except StoreError operation.Answer → Log
  | .call (.put input), .ok _ => log.put (putWrite platform store input before)
  | .call (.delete reference _), .ok _ => log.delete reference
  | .call (.commit tenant transaction), .ok _ =>
      match ledger.batches (tenant, transaction) with
      | none => log
      | some batch => logMutations platform store clock batch.actor batch.mutations
          (claimed clock tenant transaction before) log
  | _, _ => log

end Logging

structure Logged where
  world : World
  ledger : Ledger
  log : Log

def Invocation.stepLogged (platform : Platform) (state : Logged) (invocation : Invocation) : Logged :=
  let ran := invocation.operation.perform platform invocation.store invocation.clock state.world
  let next := invocation.step platform (state.world, state.ledger)
  ⟨next.1, next.2, state.log.after platform invocation.store invocation.clock state.ledger state.world
    invocation.operation ran.1⟩

def runLogged (platform : Platform) (invocations : List Invocation) : Logged :=
  invocations.foldl (Invocation.stepLogged platform) ⟨World.empty, Ledger.empty, Log.empty⟩

structure LogMatch (world : World) (log : Log) : Prop where
  bound : ∀ written ∈ log.writes, validateRef written.reference = .ok () ∧
    Content written.envelope (associatedData written.reference written.version written.disclosure) written.value
  listed : ∀ reference written, log.current reference = some written → written ∈ log.writes
  shown : ∀ reference written, log.current reference = some written →
    written.reference = reference ∧ ∃ row, world.secrets.find reference = some row ∧
      row.id = written.secretId ∧ row.currentVersion = written.version ∧ row.disclosure = written.disclosure
  complete : ∀ reference row, world.secrets.find reference = some row → ∃ written, log.current reference = some written

section Matching
variable (platform : Platform) (store : PostgresStore) (clock : Clock) (before after : World) (log : Log)

theorem log_match_empty : LogMatch World.empty Log.empty := by
  constructor
  · intro written member
    cases member
  · intro reference written known
    cases known
  · intro reference written known
    cases known
  · intro reference row found
    cases found

theorem log_match_same (same : after.secrets = before.secrets) (matched : LogMatch before log) : LogMatch after log := by
  refine ⟨matched.bound, matched.listed, ?_, ?_⟩
  · rw [same]
    exact matched.shown
  · rw [same]
    exact matched.complete

theorem put_row_place (input : PutSecret) :
    (putRow platform clock input before).id = (putPlace platform input before).1 := by
  unfold putRow putPlace nextVersion SecretRow.over
  cases before.secrets.find input.reference <;> rfl

theorem log_match_put (matched : LogMatch before log) (input : PutSecret) (actor : String) (metadata : SecretMetadata)
    (done : PutDone platform store clock input actor before after metadata) :
    LogMatch after (log.put (putWrite platform store input before)) := by
  constructor
  · intro written member
    rcases List.mem_append.mp member with old | new
    · exact matched.bound written old
    · rw [List.mem_singleton.mp new]
      exact ⟨done.valid, _, envelope_of_sealed _ _ _ _⟩
  · intro reference written known
    rw [Log.current_put] at known
    split at known
    · cases known
      exact List.mem_append_right _ (by simp)
    · exact List.mem_append_left _ (matched.listed reference written known)
  · intro reference written known
    rw [Log.current_put] at known
    split at known
    · rename_i same
      cases known
      subst same
      obtain ⟨_, disclosure, _, version, _⟩ := put_row_fields platform before clock input
      refine ⟨rfl, putRow platform clock input before, ?_, put_row_place platform clock before input, version, disclosure⟩
      exact (done.secrets _).trans (if_pos rfl)
    · rename_i other
      obtain ⟨named, row, found, rest⟩ := matched.shown reference written known
      exact ⟨named, row, (done.secrets reference).trans ((if_neg (Ne.symm other)).trans found), rest⟩
  · intro reference row found
    rw [done.secrets] at found
    rw [Log.current_put]
    by_cases hit : reference = input.reference
    · exact ⟨_, if_pos hit⟩
    · rw [if_neg (Ne.symm hit)] at found
      obtain ⟨written, known⟩ := matched.complete reference row found
      exact ⟨written, (if_neg hit).trans known⟩

theorem log_match_drop (matched : LogMatch before log) (reference : SecretRef) (row : SecretRow)
    (found : before.secrets.find reference = some row) : LogMatch (before.dropSecret row) (log.delete reference) := by
  have key := Table.find_key _ _ _ found
  have kept : ∀ target written, (log.delete reference).current target = some written →
      target ≠ reference ∧ log.current target = some written := by
    intro target written known
    rw [Log.current_delete] at known
    split at known
    · cases known
    · rename_i apart
      exact ⟨apart, known⟩
  refine ⟨matched.bound, fun target written known => matched.listed target written (kept _ _ known).2, ?_, ?_⟩
  · intro target written known
    obtain ⟨apart, earlier⟩ := kept target written known
    rw [find_drop_secret, key, if_neg (Ne.symm apart)]
    exact matched.shown target written earlier
  · intro target row there
    rw [find_drop_secret, key] at there
    rw [Log.current_delete]
    by_cases hit : target = reference
    · rw [if_pos hit.symm] at there
      cases there
    · rw [if_neg (Ne.symm hit)] at there
      rw [if_neg hit]
      exact matched.complete target row there

theorem log_match_revoke (matched : LogMatch before log) (reference : SecretRef) (now : Int) :
    LogMatch (before.revoking reference now) log := by
  refine ⟨matched.bound, matched.listed, ?_, ?_⟩
  · intro target written known
    obtain ⟨named, row, found, id, version, disclosure⟩ := matched.shown target written known
    by_cases hit : reference = target
    · exact ⟨named, row.revokedAt now, by rw [find_revoking, if_pos hit, found, Option.map_some], id, version, disclosure⟩
    · exact ⟨named, row, by rw [find_revoking, if_neg hit, found], id, version, disclosure⟩
  · intro target row found
    obtain ⟨old, here, _⟩ := find_revoked_row before reference target now row found
    exact matched.complete target old here

theorem log_match_mutations (actor : String) (mutations : List Mutation) (first last : World) (done : Unit)
    (matched : LogMatch first log)
    (ran : forEach (applyMutation platform store clock actor) mutations first = (.ok done, last)) :
    LogMatch last (logMutations platform store clock actor mutations first log) := by
  induction mutations generalizing first log with
  | nil =>
      cases ran
      exact matched
  | cons mutation rest ih =>
      rw [for_each_cons, bind_ok] at ran
      obtain ⟨_, middle, here, later⟩ := ran
      have next : LogMatch middle (logMutation platform store mutation first log) := by
        cases mutation with
        | put secret =>
            simp only [applyMutation, bind_ok, pure_run, Prod.mk.injEq] at here
            obtain ⟨metadata, _, stored, _, rfl⟩ := here
            exact log_match_put platform store clock first _ log matched secret actor metadata
              (put_tx_ok platform store clock secret actor _ _ _ stored)
        | delete reference =>
            rw [applyMutation, map_error_ok, delete_tx_ok] at here
            obtain ⟨_, _, _, row, found, rfl⟩ := here
            exact log_match_same (first.dropSecret row) _ _ rfl (log_match_drop first log matched reference row found)
      rw [logMutations, here]
      exact ih _ _ next later

end Matching

theorem log_match_step (platform : Platform) (invocation : Invocation) (state : Logged)
    (represents : Represents platform state.ledger state.world) (matched : LogMatch state.world state.log) :
    LogMatch (invocation.stepLogged platform state).world (invocation.stepLogged platform state).log := by
  obtain ⟨world, ledger, log⟩ := state
  obtain ⟨store, clock, operation⟩ := invocation
  unfold Invocation.stepLogged Invocation.step
  cases operation with
  | rewrapAll actor => exact log_match_same _ _ _ (rewrap_all_secrets platform store clock world actor) matched
  | call call =>
      cases ran : Operation.perform platform store clock (.call call) world with
      | mk outcome after =>
          cases call with
          | put input =>
              cases outcome with
              | ok metadata =>
                  exact log_match_put platform store clock world after log matched input _ metadata
                    (put_tx_ok platform store clock input _ _ _ _ ((atomic_ok _ _ _ _ _).mp ran))
              | error error =>
                  rw [atomic_rollback _ _ _ _ ran]
                  exact log_match_same world _ log rfl matched
          | get reference =>
              have same := still_after _ (get_still store reference) world after outcome ran
              subst same
              cases outcome <;> exact matched
          | existsActive reference =>
              have same := still_after _ (exists_still reference) world after outcome ran
              subst same
              cases outcome <;> exact matched
          | list tenant owner =>
              have same := still_after _ (list_still tenant owner) world after outcome ran
              subst same
              cases outcome <;> exact matched
          | delete reference actor =>
              cases outcome with
              | ok finished =>
                  obtain ⟨_, _, _, row, found, rfl⟩ :=
                    (delete_tx_ok platform reference actor _ _ _).mp ((atomic_ok _ _ _ _ _).mp ran)
                  exact log_match_same (world.dropSecret row) _ _ rfl (log_match_drop world log matched reference row found)
              | error error =>
                  rw [atomic_rollback _ _ _ _ ran]
                  exact log_match_same world _ log rfl matched
          | revoke reference actor =>
              cases outcome with
              | ok metadata =>
                  obtain ⟨_, _, row, found, _, rfl⟩ := revoke_ok platform clock reference actor metadata world after ran
                  exact log_match_same (world.revoking reference clock.transaction) _ log rfl
                    (log_match_revoke world log matched reference clock.transaction)
              | error error =>
                  rw [atomic_rollback _ _ _ _ ran]
                  exact log_match_same world _ log rfl matched
          | prepare tenant transaction mutations actor =>
              cases outcome with
              | ok finished =>
                  have done := prepare_ok platform store clock tenant transaction mutations actor finished world after ran
                  exact log_match_same world _ log (by rw [done.rest]) matched
              | error error =>
                  have unapplied := prepare_error platform store clock tenant transaction mutations actor world error after ran
                  exact log_match_same world _ log unapplied.secrets matched
          | commit tenant transaction =>
              cases outcome with
              | ok finished =>
                  obtain ⟨row, expiry, mutations, applied, done⟩ :=
                    commit_ok platform store clock tenant transaction finished world after ran
                  obtain ⟨batch, known, held⟩ := represents.batches _ _ done.held
                  obtain ⟨_, rfl⟩ := batch_held_opens platform store _ batch row expiry mutations
                    (Table.find_key _ _ _ done.held) held done.opens
                  have start : LogMatch (claimed clock tenant transaction world) log := log_match_same world _ log rfl matched
                  have folded := log_match_mutations platform store clock log row.actor batch.mutations _ applied () start done.ran
                  have prepared : ledger.batches (tenant, transaction) = some batch := known
                  simp only [Log.after, prepared]
                  rw [held.actor] at folded
                  exact log_match_same applied _ _ (by rw [done.rest]; rfl) folded
              | error error =>
                  have unapplied := commit_error platform store clock tenant transaction world error after ran
                  exact log_match_same world _ log unapplied.secrets matched
          | abort tenant transaction =>
              cases outcome with
              | ok finished =>
                  obtain ⟨_, _, _, rfl⟩ := abort_ok store clock tenant transaction finished world after ran
                  exact log_match_same world _ log rfl matched
              | error error =>
                  rw [abort_error store clock tenant transaction world after error ran]
                  exact matched

theorem logged_from (platform : Platform) (invocations : List Invocation) (state : Logged)
    (represents : Represents platform state.ledger state.world) (matched : LogMatch state.world state.log) :
    let last := invocations.foldl (Invocation.stepLogged platform) state
    Represents platform last.ledger last.world ∧ LogMatch last.world last.log := by
  induction invocations generalizing state with
  | nil => exact ⟨represents, matched⟩
  | cons invocation rest ih =>
      exact ih _ (represents_step platform invocation (state.world, state.ledger) represents)
        (log_match_step platform invocation state represents matched)

theorem run_logged (platform : Platform) (invocations : List Invocation) :
    let last := runLogged platform invocations
    Represents platform last.ledger last.world ∧ LogMatch last.world last.log :=
  logged_from platform invocations _ (represents_empty platform) log_match_empty

end Secrets
