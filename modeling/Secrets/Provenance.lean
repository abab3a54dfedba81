import Secrets.EnvelopeBinding
import Secrets.Sound

set_option autoImplicit false

namespace Secrets

open Effects Effects.Tx Tables
open Framing (Bytes)

def Stored (world : World) (envelope : Envelope) : Prop :=
  (∃ address version, world.versions.find address = some version ∧ version.envelope = envelope) ∨
    ∃ address row, world.prepared.find address = some row ∧ row.envelope = envelope

def Supplied (platform : Platform) (keyring : Keyring) (origin : Seal → Prop) (before after : World) : Prop :=
  before.drawn ≤ after.drawn ∧ ∃ made : Nat → Option Seal,
    (∀ count sealing, made count = some sealing → before.drawn ≤ count ∧ count < after.drawn ∧
      sealing.keyring = keyring ∧ sealing.draw = platform.random count ∧ origin sealing) ∧
    ∀ envelope, Stored after envelope → Stored before envelope ∨
      ∃ count sealing, made count = some sealing ∧ envelope = sealing.envelope

section Supplying
variable (platform : Platform) (keyring : Keyring) (origin : Seal → Prop)

theorem supplied_kept (before after : World) (grows : before.drawn ≤ after.drawn)
    (kept : ∀ envelope, Stored after envelope → Stored before envelope) : Supplied platform keyring origin before after :=
  ⟨grows, fun _ => none, by simp, fun envelope stored => .inl (kept envelope stored)⟩

theorem supplied_one (before after : World) (drawn : after.drawn = before.drawn + 1) (sealing : Seal)
    (ring : sealing.keyring = keyring) (draw : sealing.draw = platform.random before.drawn) (source : origin sealing)
    (stored : ∀ envelope, Stored after envelope → Stored before envelope ∨ envelope = sealing.envelope) :
    Supplied platform keyring origin before after := by
  refine ⟨by omega, fun count => if count = before.drawn then some sealing else none, ?_, fun envelope there => ?_⟩
  · intro count other made
    dsimp only at made
    split at made
    · rename_i here
      cases made
      exact ⟨by omega, by omega, ring, by rw [here]; exact draw, source⟩
    · cases made
  · rcases stored envelope there with old | new
    · exact .inl old
    · exact .inr ⟨before.drawn, sealing, if_pos rfl, new⟩

def spliced (cut : Nat) (early late : Nat → Option Seal) (count : Nat) : Option Seal :=
  if count < cut then early count else late count

theorem spliced_early (cut count : Nat) (early late : Nat → Option Seal) (before : count < cut) :
    spliced cut early late count = early count := if_pos before

theorem spliced_late (cut count : Nat) (early late : Nat → Option Seal) (since : cut ≤ count) :
    spliced cut early late count = late count := if_neg (Nat.not_lt.mpr since)

theorem supplied_trans (first middle last : World) (start : Supplied platform keyring origin first middle)
    (finish : Supplied platform keyring origin middle last) : Supplied platform keyring origin first last := by
  obtain ⟨grows, early, earlyMade, fromEarly⟩ := start
  obtain ⟨growsOn, late, lateMade, fromLate⟩ := finish
  refine ⟨Nat.le_trans grows growsOn, spliced middle.drawn early late, fun count sealing made => ?_, fun envelope stored => ?_⟩
  · rcases Nat.lt_or_ge count middle.drawn with before | since
    · rw [spliced_early _ _ _ _ before] at made
      obtain ⟨low, high, rest⟩ := earlyMade count sealing made
      exact ⟨low, Nat.lt_of_lt_of_le high growsOn, rest⟩
    · rw [spliced_late _ _ _ _ since] at made
      obtain ⟨low, high, rest⟩ := lateMade count sealing made
      exact ⟨Nat.le_trans grows low, high, rest⟩
  · rcases fromLate envelope stored with between | ⟨count, sealing, made, same⟩
    · rcases fromEarly envelope between with old | ⟨count, sealing, made, same⟩
      · exact .inl old
      · exact .inr ⟨count, sealing, by rw [spliced_early _ _ _ _ (earlyMade count sealing made).2.1, made], same⟩
    · exact .inr ⟨count, sealing, by rw [spliced_late _ _ _ _ (lateMade count sealing made).1, made], same⟩

theorem supplied_mono (other : Seal → Prop) (before after : World) (covers : ∀ sealing, origin sealing → other sealing)
    (supplied : Supplied platform keyring origin before after) : Supplied platform keyring other before after := by
  obtain ⟨grows, made, sources, stored⟩ := supplied
  refine ⟨grows, made, fun count sealing there => ?_, stored⟩
  obtain ⟨low, high, ring, draw, source⟩ := sources count sealing there
  exact ⟨low, high, ring, draw, covers sealing source⟩

def supplying : Frame World where
  rel := Supplied platform keyring origin
  refl world := supplied_kept platform keyring origin world world (Nat.le_refl _) fun _ stored => stored
  trans := supplied_trans platform keyring origin

end Supplying

def OfSecret (aad : Bytes) : Prop := ∃ reference version disclosure, aad = associatedData reference version disclosure

section Operations
variable (platform : Platform) (store : PostgresStore) (clock : Clock) (before after : World)

theorem supplied_put (input : PutSecret) (actor : String) (metadata : SecretMetadata)
    (done : PutDone platform store clock input actor before after metadata) :
    Supplied platform store.keyring (fun sealing => OfSecret sealing.aad) before after := by
  refine supplied_one platform store.keyring _ before after done.drawn
    ⟨store.keyring, platform.random before.drawn, associatedData input.reference (putPlace platform input before).2
      input.disclosure, input.value⟩ rfl rfl ⟨_, _, _, rfl⟩ ?_
  rintro envelope (⟨address, version, found, rfl⟩ | ⟨address, row, found, rfl⟩)
  · rw [done.versions] at found
    split at found
    · cases found
      exact .inr rfl
    · exact .inl (.inl ⟨address, version, found, rfl⟩)
  · rw [done.prepared] at found
    exact .inl (.inr ⟨address, row, found, rfl⟩)

theorem stored_drop (row : SecretRow) (envelope : Envelope) (stored : Stored (before.dropSecret row) envelope) :
    Stored before envelope := by
  rcases stored with ⟨address, version, found, rfl⟩ | there
  · rw [find_version_drop_secret] at found
    split at found
    · cases found
    · exact .inl ⟨address, version, found, rfl⟩
  · exact .inr there

theorem supplied_mutation (actor : String) (mutation : Mutation) (done : Unit)
    (ran : applyMutation platform store clock actor mutation before = (.ok done, after)) :
    Supplied platform store.keyring (fun sealing => OfSecret sealing.aad) before after := by
  cases mutation with
  | put secret =>
      simp only [applyMutation, bind_ok, pure_run, Prod.mk.injEq] at ran
      obtain ⟨metadata, _, stored, _, rfl⟩ := ran
      exact supplied_put platform store clock before _ secret actor metadata (put_tx_ok platform store clock secret actor _ _ _ stored)
  | delete reference =>
      rw [applyMutation, map_error_ok, delete_tx_ok] at ran
      obtain ⟨_, _, _, row, _, rfl⟩ := ran
      exact supplied_kept platform store.keyring _ before _ (Nat.le_refl _) (stored_drop before row)

theorem stored_fewer (versions : after.versions = before.versions) (fewer : Fewer before after) (envelope : Envelope)
    (stored : Stored after envelope) : Stored before envelope := by
  rcases stored with ⟨address, version, found, rfl⟩ | ⟨address, row, found, rfl⟩
  · rw [versions] at found
    exact .inl ⟨address, version, found, rfl⟩
  · exact .inr ⟨address, row, fewer address row found, rfl⟩

theorem supplied_commit (tenant : String) (transaction : Uuid) (row : PreparedRow) (expiry : Int) (mutations : List Mutation)
    (applied : World) (done : CommitDone platform store clock tenant transaction before after row expiry mutations applied) :
    Supplied platform store.keyring (fun sealing => OfSecret sealing.aad) before after := by
  have taken : Supplied platform store.keyring (fun sealing => OfSecret sealing.aad) before
      (claimed clock tenant transaction before) := by
    refine supplied_kept platform store.keyring _ before _ (Nat.le_refl _) (stored_fewer before _ rfl fun address row found => ?_)
    exact fewer_purged _ _ _ _ _ (fewer_drop _ _ _ _ _ found)
  have looped : Supplied platform store.keyring (fun sealing => OfSecret sealing.aad) (claimed clock tenant transaction before)
      applied :=
    for_each_frame (supplying platform store.keyring _) _ mutations (fun _ _ => True) _ applied ()
      (fun mutation first last finished _ turn => supplied_mutation platform store clock first last row.actor mutation finished turn)
      (fun _ _ _ _ _ => trivial) (fun _ _ => trivial) done.ran
  rw [done.rest]
  exact supplied_trans platform store.keyring _ _ _ _ taken looped

def Again (start : World) (sealing : Seal) : Prop :=
  ∃ envelope, Stored start envelope ∧ store.keyring.openEnvelope sealing.aad envelope = .ok sealing.plaintext

theorem supplied_rewrap_row (start : World) (actor : String) (entry : SecretRow × VersionRow) (done : Unit)
    (listed : Stored start entry.2.envelope) (ran : rewrapRow platform store actor entry before = (.ok done, after)) :
    Supplied platform store.keyring (Again store start) before after := by
  obtain ⟨value, opened, _, _, _, rfl⟩ := (rewrap_row_ok platform store actor entry done before after).mp ran
  refine supplied_one platform store.keyring _ before _ rfl ⟨store.keyring, platform.random before.drawn,
    associatedData entry.1.reference entry.2.version entry.1.disclosure, value⟩ rfl rfl ⟨entry.2.envelope, listed, opened⟩ ?_
  rintro envelope (⟨address, version, found, rfl⟩ | there)
  · rw [auditing, find_set_version] at found
    split at found
    · obtain ⟨old, _, rfl⟩ := Option.map_eq_some_iff.mp found
      exact .inr rfl
    · exact .inl (.inl ⟨address, version, found, rfl⟩)
  · exact .inl (.inr there)

theorem supplied_reseal_row (start : World) (row : PreparedRow) (done : Unit) (listed : Stored start row.envelope)
    (ran : resealRow platform store row before = (.ok done, after)) : Supplied platform store.keyring (Again store start) before after := by
  obtain ⟨bytes, opened, _, rfl⟩ := (reseal_row_ok platform store row done before after).mp ran
  refine supplied_one platform store.keyring _ before _ rfl ⟨store.keyring, platform.random before.drawn,
    batchAssociatedData row.tenant row.id row.actor, bytes⟩ rfl rfl ⟨row.envelope, listed, opened⟩ ?_
  rintro envelope (there | ⟨address, stored, found, rfl⟩)
  · exact .inl (.inl there)
  · rw [find_set_prepared] at found
    split at found
    · obtain ⟨old, _, rfl⟩ := Option.map_eq_some_iff.mp found
      exact .inr rfl
    · exact .inl (.inr ⟨address, stored, found, rfl⟩)

theorem supplied_rewrap_versions (actor : String) :
    Supplied platform store.keyring (Again store before) before (rewrapVersions platform store actor before).2 := by
  have grows : before.drawn ≤ (rewrapVersions platform store actor before).2.drawn := by
    have spent := spending_rewrap_versions platform store before.drawn actor before
    by_contra shrunk
    exact Nat.lt_irrefl _ (spent (Nat.lt_of_not_le shrunk))
  cases ran : rewrapVersions platform store actor before with
  | mk outcome after =>
      rw [ran] at grows
      cases outcome with
      | error error =>
          rw [atomic_rollback _ _ _ _ ran]
          exact supplied_kept platform store.keyring _ before _ grows fun _ stored => stored
      | ok count =>
          obtain ⟨_, _, looped⟩ := rewrap_versions_ok platform store actor count before after ran
          refine for_each_frame (supplying platform store.keyring (Again store before)) _ _
            (fun (entry : SecretRow × VersionRow) _ => Stored before entry.2.envelope) before after () (fun entry first last finished listed turn =>
              supplied_rewrap_row platform store first last before actor entry finished listed turn)
            (fun _ _ _ listed _ => listed) (fun entry member => ?_) looped
          exact .inl ⟨entryAddress entry, entry.2, stale_stored before _ entry member, rfl⟩

theorem supplied_reseal_batches (start : World) (same : before.prepared = start.prepared) :
    Supplied platform store.keyring (Again store start) before (resealBatches platform store clock before).2 := by
  have grows : before.drawn ≤ (resealBatches platform store clock before).2.drawn := by
    have spent := spending_reseal_batches platform store clock before.drawn before
    by_contra shrunk
    exact Nat.lt_irrefl _ (spent (Nat.lt_of_not_le shrunk))
  cases ran : resealBatches platform store clock before with
  | mk outcome after =>
      rw [ran] at grows
      cases outcome with
      | error error =>
          rw [atomic_rollback _ _ _ _ ran]
          exact supplied_kept platform store.keyring _ before _ grows fun _ stored => stored
      | ok done =>
          have looped := reseal_batches_ok platform store clock before after done ran
          have purged : ∀ envelope, Stored (before.purgedAll clock.transaction) envelope → Stored before envelope :=
            stored_fewer before _ rfl (fewer_purged_all before _)
          refine supplied_trans platform store.keyring _ _ (before.purgedAll clock.transaction) _
            (supplied_kept platform store.keyring _ before _ (Nat.le_refl _) purged) ?_
          refine for_each_frame (supplying platform store.keyring (Again store start)) _ _
            (fun (row : PreparedRow) _ => Stored start row.envelope) _ after () (fun row first last finished listed turn =>
              supplied_reseal_row platform store first last start row finished listed turn)
            (fun _ _ _ listed _ => listed) (fun row member => ?_) looped
          have there := Table.find_of_mem _ _ ((mem_stale_batches _ _ _ row).mp member).1
          have found := fewer_purged_all before clock.transaction _ row there
          rw [same] at found
          exact .inr ⟨_, row, found, rfl⟩

theorem supplied_rewrap (actor : String) :
    Supplied platform store.keyring (Again store before) before (rewrapAll platform store clock actor before).2 := by
  have first := supplied_rewrap_versions platform store before actor
  have prepared := (rewrap_versions_keep platform store actor before).prepared
  rw [rewrapAll, bind_run]
  cases ran : rewrapVersions platform store actor before with
  | mk outcome middle =>
      rw [ran] at first prepared
      cases outcome with
      | error error => exact first
      | ok count =>
          change Supplied platform store.keyring (Again store before) before
            ((resealBatches platform store clock >>= fun _ => pure count) middle).2
          have second := supplied_reseal_batches platform store clock middle before prepared
          rw [bind_run]
          cases again : resealBatches platform store clock middle with
          | mk outcome last =>
              rw [again] at second
              cases outcome <;> exact supplied_trans platform store.keyring _ _ _ _ first second

end Operations

-- A prepare that succeeded.
structure Preparation where
  tenant : String
  transaction : Uuid
  mutations : List Mutation
  actor : String
  expiresAt : Int

def Preparation.aad (preparation : Preparation) : Bytes :=
  batchAssociatedData preparation.tenant preparation.transaction preparation.actor

def Preparation.payload (platform : Platform) (preparation : Preparation) : Bytes :=
  toBeBytes preparation.expiresAt ++ platform.codec.toWriter preparation.mutations

def Invocation.preparation (platform : Platform) (before : World) (invocation : Invocation) : Option Preparation :=
  match invocation.operation with
  | .call (.prepare tenant transaction mutations actor) =>
      match (prepare platform invocation.store invocation.clock tenant transaction mutations actor before).1 with
      | .ok _ => some ⟨tenant, transaction, mutations, actor, prepareExpiry invocation.store invocation.clock⟩
      | .error _ => none
  | _ => none

-- Why a call sealed something that it left in the store.
inductive Origin (platform : Platform) (invocation : Invocation) (before : World) (sealing : Seal) : Prop where
  | secret (kind : OfSecret sealing.aad)
  | again (resealed : Again invocation.store before sealing)
  | prepared (preparation : Preparation) (succeeded : invocation.preparation platform before = some preparation)
      (aad : sealing.aad = preparation.aad) (plaintext : sealing.plaintext = preparation.payload platform)

section Invocations
variable (platform : Platform) (store : PostgresStore) (clock : Clock) (before after : World)

theorem supplied_prepare (tenant : String) (transaction : Uuid) (mutations : List Mutation) (actor : String) (done : Unit)
    (ran : prepare platform store clock tenant transaction mutations actor before = (.ok done, after)) :
    Supplied platform store.keyring
      (Origin platform ⟨store, clock, .call (.prepare tenant transaction mutations actor)⟩ before) before after := by
  have finished := prepare_ok platform store clock tenant transaction mutations actor done before after ran
  have drawn : after.drawn = before.drawn + 1 := by rw [finished.rest]
  refine supplied_one platform store.keyring _ before after drawn ⟨store.keyring, platform.random before.drawn,
    batchAssociatedData tenant transaction actor, toBeBytes (prepareExpiry store clock) ++ platform.codec.toWriter mutations⟩
    rfl rfl (.prepared ⟨tenant, transaction, mutations, actor, prepareExpiry store clock⟩ ?_ rfl rfl) ?_
  · simp only [Invocation.preparation, ran]
  · rintro envelope (⟨address, version, found, rfl⟩ | ⟨address, row, found, rfl⟩)
    · rw [finished.rest] at found
      exact .inl (.inl ⟨address, version, found, rfl⟩)
    · rw [finished.prepared] at found
      split at found
      · cases found
        exact .inr rfl
      · exact .inl (.inr ⟨address, row, fewer_purged _ _ _ _ _ found, rfl⟩)

theorem supplied_unapplied (origin : Seal → Prop) (tenant : String) (grows : before.drawn ≤ after.drawn)
    (unapplied : Unapplied tenant before after) : Supplied platform store.keyring origin before after :=
  supplied_kept platform store.keyring origin before after grows (stored_fewer before after unapplied.versions unapplied.fewer)

theorem invocation_supplies (operation : Operation) (outcome : Except StoreError operation.Answer)
    (ran : operation.perform platform store clock before = (outcome, after)) :
    Supplied platform store.keyring (Origin platform ⟨store, clock, operation⟩ before) before after := by
  have grows := drawn_grows platform store clock before after operation outcome ran
  have same : after = before → Supplied platform store.keyring (Origin platform ⟨store, clock, operation⟩ before) before after := by
    rintro rfl
    exact supplied_kept platform store.keyring _ _ _ (Nat.le_refl _) fun _ stored => stored
  have undone : after = rollback before after →
      Supplied platform store.keyring (Origin platform ⟨store, clock, operation⟩ before) before after := fun same => by
    refine supplied_kept platform store.keyring _ _ _ grows fun envelope stored => ?_
    rw [same] at stored
    exact stored
  have secrets : Supplied platform store.keyring (fun sealing => OfSecret sealing.aad) before after →
      Supplied platform store.keyring (Origin platform ⟨store, clock, operation⟩ before) before after :=
    supplied_mono platform store.keyring _ _ before after fun _ kind => .secret kind
  cases operation with
  | rewrapAll actor =>
      have supplied := supplied_rewrap platform store clock before actor
      rw [show rewrapAll platform store clock actor before = (outcome, after) from ran] at supplied
      exact supplied_mono platform store.keyring _ _ before after (fun _ resealed => .again resealed) supplied
  | call call =>
      cases call with
      | put input =>
          cases outcome with
          | ok metadata =>
              exact secrets (supplied_put platform store clock before after input _ metadata
                (put_tx_ok platform store clock input _ _ _ _ ((atomic_ok _ _ _ _ _).mp ran)))
          | error error => exact undone (atomic_rollback _ _ _ _ ran)
      | get reference => exact same (still_after _ (get_still store reference) before after outcome ran)
      | existsActive reference => exact same (still_after _ (exists_still reference) before after outcome ran)
      | list tenant owner => exact same (still_after _ (list_still tenant owner) before after outcome ran)
      | delete reference actor =>
          cases outcome with
          | ok done =>
              obtain ⟨_, _, _, row, _, rfl⟩ := (delete_tx_ok _ _ _ _ _ _).mp ((atomic_ok _ _ _ _ _).mp ran)
              exact supplied_kept platform store.keyring _ before _ grows (stored_drop before row)
          | error error => exact undone (atomic_rollback _ _ _ _ ran)
      | revoke reference actor =>
          cases outcome with
          | ok metadata =>
              obtain ⟨_, _, row, _, _, rfl⟩ := revoke_ok platform clock reference actor metadata before after ran
              exact supplied_kept platform store.keyring _ before _ grows fun _ stored => stored
          | error error => exact undone (atomic_rollback _ _ _ _ ran)
      | prepare tenant transaction mutations actor =>
          cases outcome with
          | ok done => exact supplied_prepare platform store clock before after tenant transaction mutations actor done ran
          | error error =>
              exact supplied_unapplied platform store before after _ tenant grows
                (prepare_error platform store clock tenant transaction mutations actor before error after ran)
      | commit tenant transaction =>
          cases outcome with
          | ok done =>
              obtain ⟨row, expiry, mutations, applied, done⟩ := commit_ok platform store clock tenant transaction done before after ran
              exact secrets (supplied_commit platform store clock before after tenant transaction row expiry mutations applied done)
          | error error =>
              exact supplied_unapplied platform store before after _ tenant grows
                (commit_error platform store clock tenant transaction before error after ran)
      | abort tenant transaction =>
          cases outcome with
          | ok done =>
              obtain ⟨_, _, _, rfl⟩ := abort_ok store clock tenant transaction done before after ran
              exact supplied_unapplied platform store before _ _ tenant grows (unapplied_drop tenant transaction before)
          | error error => exact same (abort_error store clock tenant transaction before after error ran)

end Invocations

end Secrets
