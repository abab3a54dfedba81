import Mathlib.Logic.Relation
import Secrets.Sound

set_option autoImplicit false

namespace Secrets

open Effects Effects.Tx Tables

-- What any operation does to the records, their versions and the audit log is a
-- sequence of these, and the entry that ends a commit. Batches are left out:
-- `aside` is whatever touches nothing else.
inductive Change (platform : Platform) (store : PostgresStore) (clock : Clock) (before : World) : World → Prop where
  | put (input : PutSecret) (actor : String) (after : World) (metadata : SecretMetadata)
      (done : PutDone platform store clock input actor before after metadata) : Change platform store clock before after
  | delete (reference : SecretRef) (actor : String) (row : SecretRow) (found : before.secrets.find reference = some row) :
      Change platform store clock before (auditing (before.dropSecret row) reference.tenant (some row.id) actor .delete)
  | revoke (reference : SecretRef) (actor : String) (row : SecretRow) (found : before.secrets.find reference = some row) :
      Change platform store clock before
        (auditing (before.revoking reference clock.transaction) reference.tenant (some row.id) actor .revoke)
  | rewrap (entry : SecretRow × VersionRow) (actor : String) (envelope : Envelope) :
      Change platform store clock before (auditing ({ before with drawn := before.drawn + 1 }.setVersion entry.1.id
        entry.2.version envelope) entry.1.reference.tenant (some entry.1.id) actor .rewrap)
  | aside (after : World) (secrets : after.secrets = before.secrets) (versions : after.versions = before.versions)
      (auditEvents : after.auditEvents = before.auditEvents) (grows : before.drawn ≤ after.drawn) :
      Change platform store clock before after

def Operation.committing : Operation → Option String
  | .call (.commit tenant _) => some tenant
  | _ => none

section Changes
variable (platform : Platform) (store : PostgresStore) (clock : Clock)

def changing : Frame World where
  rel := Relation.ReflTransGen (Change platform store clock)
  refl _ := .refl
  trans _ _ _ := .trans

theorem change_grows (before after : World) (change : Change platform store clock before after) : before.drawn ≤ after.drawn := by
  cases change with
  | put input actor _ metadata done =>
      rw [done.drawn]
      exact Nat.le_succ _
  | delete reference actor row found => exact Nat.le_refl _
  | revoke reference actor row found => exact Nat.le_refl _
  | rewrap entry actor envelope => exact Nat.le_succ _
  | aside _ secrets versions auditEvents grows => exact grows

section Steps
variable (before after : World)

theorem mutation_changes (actor : String) (mutation : Mutation) (done : Unit)
    (ran : applyMutation platform store clock actor mutation before = (.ok done, after)) :
    (changing platform store clock).rel before after := by
  cases mutation with
  | put secret =>
      simp only [applyMutation, bind_ok, pure_run, Prod.mk.injEq] at ran
      obtain ⟨metadata, _, stored, _, rfl⟩ := ran
      exact .single (.put secret actor _ metadata (put_tx_ok platform store clock secret actor _ _ _ stored))
  | delete reference =>
      rw [applyMutation, map_error_ok, delete_tx_ok] at ran
      obtain ⟨_, _, _, row, found, rfl⟩ := ran
      exact .single (.delete reference actor row found)

theorem rewrap_versions_changes (actor : String) (count : Nat)
    (ran : rewrapVersions platform store actor before = (.ok count, after)) :
    (changing platform store clock).rel before after := by
  obtain ⟨_, _, looped⟩ := rewrap_versions_ok platform store actor count before after ran
  refine for_each_frame (changing platform store clock) _ _ (fun (_ : SecretRow × VersionRow) _ => True) before after () ?_
    (fun _ _ _ _ _ => trivial) (fun _ _ => trivial) looped
  intro entry first last finished _ turn
  obtain ⟨_, _, _, _, _, rfl⟩ := (rewrap_row_ok platform store actor entry finished first last).mp turn
  exact .single (.rewrap entry actor _)

omit before after in
theorem reseal_aside : Within (Frame.keeping fun world : World => (world.secrets, world.versions, world.auditEvents))
    (resealBatches platform store clock) := by
  refine within_atomic _ _ _ ?_ fun _ _ _ => rfl
  refine within_bind _ _ _ (within_write _ _ fun _ => rfl) fun _ => ?_
  refine within_bind _ _ _ ?_ fun batches => within_for_each _ _ _ fun row _ => ?_
  · exact within_bind _ _ _ (within_ensure _ _ _) fun _ => within_read _ _
  refine within_bind _ _ _ ?_ fun drawn => within_bind _ _ _ (within_lift _ _) fun envelope => ?_
  · exact within_bind _ _ _ (within_read _ _) fun _ => within_bind _ _ _ (within_write _ _ fun _ => rfl) fun _ => within_pure _ _
  · exact within_bind _ _ _ (within_ensure _ _ _) fun _ => within_write _ _ fun _ => rfl

inductive Performed (operation : Operation) (outcome : Except StoreError operation.Answer) : Prop where
  | done (value : operation.Answer) (answered : outcome = .ok value) (plain : operation.committing = none)
      (changes : (changing platform store clock).rel before after)
  | committed (value : operation.Answer) (answered : outcome = .ok value) (tenant actor : String) (applied : World)
      (named : operation.committing = some tenant) (changes : (changing platform store clock).rel before applied)
      (logged : after = auditing applied tenant none actor .commitBatch)
  | failed (error : StoreError) (refused : outcome = .error error) (secrets : after.secrets = before.secrets)
      (versions : after.versions = before.versions) (auditEvents : after.auditEvents = before.auditEvents)
      (grows : before.drawn ≤ after.drawn)
  | stranded (error : StoreError) (refused : outcome = .error error) (actor : String) (count : Nat) (middle : World)
      (rotation : operation = .rewrapAll actor) (rewrapped : rewrapVersions platform store actor before = (.ok count, middle))
      (changes : (changing platform store clock).rel before after) (auditEvents : after.auditEvents = middle.auditEvents)

theorem rewrap_all_performed (actor : String) (outcome : Except StoreError Nat)
    (ran : rewrapAll platform store clock actor before = (outcome, after)) (grows : before.drawn ≤ after.drawn) :
    Performed platform store clock before after (.rewrapAll actor) outcome := by
  rw [rewrapAll, bind_run] at ran
  cases first : rewrapVersions platform store actor before with
  | mk versions middle =>
      cases versions with
      | error error =>
          rw [first] at ran
          cases ran
          have same := atomic_rollback _ _ _ _ first
          exact .failed error rfl (by rw [same]; rfl) (by rw [same]; rfl) (by rw [same]; rfl) grows
      | ok count =>
          have start := rewrap_versions_changes platform store clock before middle actor count first
          rw [first] at ran
          change (resealBatches platform store clock >>= fun _ => pure count) middle = (outcome, after) at ran
          have kept := reseal_aside platform store clock middle
          have spent := spending_reseal_batches platform store clock middle.drawn middle
          rw [bind_run] at ran
          cases second : resealBatches platform store clock middle with
          | mk batches last =>
              rw [second] at ran kept spent
              obtain ⟨secrets, rest⟩ := Prod.mk.inj kept
              obtain ⟨versions, auditEvents⟩ := Prod.mk.inj rest
              have more : middle.drawn ≤ last.drawn := by
                by_contra shrunk
                exact Nat.lt_irrefl _ (spent (Nat.lt_of_not_le shrunk))
              have changes : (changing platform store clock).rel before last :=
                .tail start (.aside _ secrets versions auditEvents more)
              cases batches with
              | ok done =>
                  cases ran
                  exact .done count rfl rfl changes
              | error error =>
                  cases ran
                  exact .stranded error rfl actor count middle rfl first changes auditEvents

theorem operation_performed (operation : Operation) (outcome : Except StoreError operation.Answer)
    (ran : operation.perform platform store clock before = (outcome, after)) :
    Performed platform store clock before after operation outcome := by
  have grows := drawn_grows platform store clock before after operation outcome ran
  have rolled (error : StoreError) (refused : outcome = .error error) {Value : Type} (body : Sql Value)
      (failed : atomic rollback body before = (.error error, after)) :
      Performed platform store clock before after operation outcome := by
    have same := atomic_rollback _ _ _ _ failed
    exact .failed error refused (by rw [same]; rfl) (by rw [same]; rfl) (by rw [same]; rfl) grows
  have reading (same : after = before) (plain : operation.committing = none) :
      Performed platform store clock before after operation outcome := by
    cases outcome with
    | ok value => exact .done value rfl plain (.single (.aside _ (by rw [same]) (by rw [same]) (by rw [same]) grows))
    | error error => exact .failed error rfl (by rw [same]) (by rw [same]) (by rw [same]) grows
  cases operation with
  | rewrapAll actor => exact rewrap_all_performed platform store clock before after actor outcome ran grows
  | call call =>
      cases call with
      | get reference => exact reading (still_after _ (get_still store reference) before after outcome ran) rfl
      | existsActive reference => exact reading (still_after _ (exists_still reference) before after outcome ran) rfl
      | list tenant owner => exact reading (still_after _ (list_still tenant owner) before after outcome ran) rfl
      | put input =>
          cases outcome with
          | error error => exact rolled error rfl _ ran
          | ok metadata =>
              have done := put_tx_ok platform store clock input _ _ _ _ ((atomic_ok _ _ _ _ _).mp ran)
              exact .done metadata rfl rfl (.single (.put input _ _ metadata done))
      | delete reference actor =>
          cases outcome with
          | error error => exact rolled error rfl _ ran
          | ok done =>
              obtain ⟨_, _, _, row, found, rfl⟩ := (delete_tx_ok _ _ _ _ _ _).mp ((atomic_ok _ _ _ _ _).mp ran)
              exact .done done rfl rfl (.single (.delete reference actor row found))
      | revoke reference actor =>
          cases outcome with
          | error error => exact rolled error rfl _ ran
          | ok metadata =>
              obtain ⟨_, _, row, found, _, rfl⟩ := revoke_ok platform clock reference actor metadata before after ran
              exact .done metadata rfl rfl (.single (.revoke reference actor row found))
      | prepare tenant transaction mutations actor =>
          cases outcome with
          | error error =>
              have unapplied := prepare_error platform store clock tenant transaction mutations actor before error after ran
              exact .failed error rfl unapplied.secrets unapplied.versions unapplied.auditEvents grows
          | ok done =>
              have rest := (prepare_ok platform store clock tenant transaction mutations actor done before after ran).rest
              exact .done done rfl rfl (.single (.aside _ (by rw [rest]) (by rw [rest]) (by rw [rest]) grows))
      | commit tenant transaction =>
          cases outcome with
          | error error =>
              have unapplied := commit_error platform store clock tenant transaction before error after ran
              exact .failed error rfl unapplied.secrets unapplied.versions unapplied.auditEvents grows
          | ok done =>
              obtain ⟨row, expiry, mutations, applied, finished⟩ := commit_ok platform store clock tenant transaction done before after ran
              have claimed : (changing platform store clock).rel before (claimed clock tenant transaction before) :=
                .single (.aside _ rfl rfl rfl (Nat.le_refl _))
              refine .committed done rfl tenant row.actor applied rfl (.trans claimed ?_) finished.rest
              exact for_each_frame (changing platform store clock) _ mutations (fun _ _ => True) _ applied ()
                (fun mutation first last _ _ turn => mutation_changes platform store clock first last row.actor mutation _ turn)
                (fun _ _ _ _ _ => trivial) (fun _ _ => trivial) finished.ran
      | abort tenant transaction =>
          cases outcome with
          | error error => exact reading (abort_error store clock tenant transaction before after error ran) rfl
          | ok done =>
              obtain ⟨_, _, _, rfl⟩ := abort_ok store clock tenant transaction done before after ran
              exact .done done rfl rfl (.single (.aside _ rfl rfl rfl grows))

end Steps
end Changes
end Secrets
