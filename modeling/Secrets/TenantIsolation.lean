import Secrets.Router
import Secrets.TenantCalls

set_option autoImplicit false

namespace Secrets

open Effects Effects.Tx Tables Programs

structure Untouched (tenant : String) (before after : World) : Prop where
  secrets : ∀ reference : SecretRef, reference.tenant ≠ tenant → after.secrets.find reference = before.secrets.find reference
  versions : ∀ (reference : SecretRef) row version, reference.tenant ≠ tenant → before.secrets.find reference = some row →
    after.versions.find (row.id, version) = before.versions.find (row.id, version)
  prepared : ∀ address : String × Uuid, address.1 ≠ tenant → after.prepared.find address = before.prepared.find address
  auditEvents : after.auditEvents.filter (fun row => decide (row.tenant ≠ tenant)) =
    before.auditEvents.filter fun row => decide (row.tenant ≠ tenant)

section Others
variable (platform : Platform) (store : PostgresStore) (clock : Clock) (tenant : String) (before after : World)
  (records : SecretRef → Option Record)

theorem untouched_refl (world : World) : Untouched tenant world world :=
  ⟨fun _ _ => rfl, fun _ _ _ _ _ => rfl, fun _ _ => rfl, rfl⟩

theorem untouched_trans (first middle last : World) (start : Untouched tenant first middle) (finish : Untouched tenant middle last) :
    Untouched tenant first last := by
  refine ⟨fun reference other => ?_, fun reference row version other found => ?_, fun address other => ?_, ?_⟩
  · rw [finish.secrets reference other, start.secrets reference other]
  · rw [finish.versions reference row version other (by rw [start.secrets reference other, found]),
      start.versions reference row version other found]
  · rw [finish.prepared address other, start.prepared address other]
  · rw [finish.auditEvents, start.auditEvents]

theorem untouched_unapplied (unapplied : Unapplied tenant before after) : Untouched tenant before after :=
  ⟨fun _ _ => by rw [unapplied.secrets], fun _ _ _ _ _ => by rw [unapplied.versions], unapplied.others,
    by rw [unapplied.auditEvents]⟩

theorem untouched_auditing (id : Option Uuid) (actor : String) (action : AuditAction) :
    Untouched tenant before (auditing before tenant id actor action) := by
  refine ⟨fun _ _ => rfl, fun _ _ _ _ _ => rfl, fun _ _ => rfl, ?_⟩
  simp [auditing, List.filter_append]

theorem untouched_put (matched : RecordsMatch platform records before) (input : PutSecret) (actor : String)
    (metadata : SecretMetadata) (own : input.reference.tenant = tenant)
    (done : PutDone platform store clock input actor before after metadata) : Untouched tenant before after := by
  have elsewhere : ∀ reference : SecretRef, reference.tenant ≠ tenant → input.reference ≠ reference := by
    rintro reference other rfl
    exact other own
  refine ⟨fun reference other => ?_, fun reference row version other found => ?_, fun address _ => by rw [done.prepared], ?_⟩
  · rw [done.secrets, if_neg (elsewhere reference other)]
  · have onlyId := (put_place platform records before after store clock matched input actor metadata done).2.2
    rw [done.versions, if_neg]
    rintro same
    exact elsewhere reference other (onlyId reference row found (congrArg Prod.fst same).symm).symm
  · rw [done.auditEvents, List.filter_append]
    simp [own]

theorem untouched_drop (matched : RecordsMatch platform records before) (row : SecretRow)
    (found : before.secrets.find row.reference = some row) (own : row.reference.tenant = tenant) :
    Untouched tenant before (before.dropSecret row) := by
  have elsewhere : ∀ reference : SecretRef, reference.tenant ≠ tenant → row.reference ≠ reference := by
    rintro reference other rfl
    exact other own
  refine ⟨fun reference other => ?_, fun reference kept version other there => ?_, fun _ _ => rfl, rfl⟩
  · rw [find_drop_secret, if_neg (elsewhere reference other)]
  · rw [find_version_drop_secret, if_neg]
    intro same
    exact elsewhere reference other (matched.distinct _ _ _ _ found there same.symm)

theorem untouched_delete (matched : RecordsMatch platform records before) (reference : SecretRef) (actor : String) (done : Unit)
    (own : reference.tenant = tenant) (ran : deleteTx platform reference actor before = (.ok done, after)) :
    Untouched tenant before after := by
  obtain ⟨_, _, _, row, found, rfl⟩ := (delete_tx_ok _ _ _ _ _ _).mp ran
  have key : row.reference = reference := Table.find_key _ _ _ found
  subst key
  rw [own]
  exact untouched_trans tenant _ _ _ (untouched_drop platform tenant before records matched row found own)
    (untouched_auditing tenant _ _ _ _)

theorem untouched_revoke (reference : SecretRef) (actor : String) (metadata : SecretMetadata) (own : reference.tenant = tenant)
    (ran : revoke platform clock reference actor before = (.ok metadata, after)) : Untouched tenant before after := by
  obtain ⟨_, _, row, _, _, rfl⟩ := revoke_ok platform clock reference actor metadata before after ran
  rw [own]
  refine untouched_trans tenant _ (before.revoking reference clock.transaction) _
    ⟨fun other elsewhere => ?_, fun _ _ _ _ _ => rfl, fun _ _ => rfl, rfl⟩ (untouched_auditing tenant _ _ _ _)
  rw [find_revoking, if_neg]
  rintro rfl
  exact elsewhere own

theorem untouched_prepare (transaction : Uuid) (mutations : List Mutation) (actor : String)
    (done : PrepareDone platform store clock tenant transaction mutations actor before after) : Untouched tenant before after := by
  have rest := done.rest
  refine ⟨fun _ _ => by rw [rest], fun _ _ _ _ _ => by rw [rest], fun address other => ?_, by rw [rest]⟩
  rw [done.prepared, if_neg, find_purged_elsewhere before tenant _ address other]
  rintro rfl
  exact other rfl

def besides : Frame World where
  rel before after := (∃ records, RecordsMatch platform records before) →
    (∃ records, RecordsMatch platform records after) ∧ Untouched tenant before after
  refl world matched := ⟨matched, untouched_refl tenant world⟩
  trans first middle last start finish matched := by
    obtain ⟨between, kept⟩ := start matched
    obtain ⟨after, later⟩ := finish between
    exact ⟨after, untouched_trans tenant first middle last kept later⟩

theorem besides_mutation (actor : String) (mutation : Mutation) (own : mutation.reference.tenant = tenant) (done : Unit)
    (ran : applyMutation platform store clock actor mutation before = (.ok done, after)) :
    (besides platform tenant).rel before after := by
  rintro ⟨records, matched⟩
  refine ⟨⟨_, (records_match_mutation platform records before after store clock matched actor mutation done ran).1⟩, ?_⟩
  cases mutation with
  | put secret =>
      simp only [applyMutation, bind_ok, pure_run, Prod.mk.injEq] at ran
      obtain ⟨metadata, _, stored, _, rfl⟩ := ran
      exact untouched_put platform store clock tenant before _ records matched secret actor metadata own
        (put_tx_ok platform store clock secret actor _ _ _ stored)
  | delete reference =>
      rw [applyMutation, map_error_ok] at ran
      exact untouched_delete platform tenant before after records matched reference actor done own ran

theorem untouched_commit (represents : RecordsMatch platform records before) (transaction : Uuid) (row : PreparedRow)
    (expiry : Int) (mutations : List Mutation) (own : ∀ mutation ∈ mutations, mutation.reference.tenant = tenant) (applied : World)
    (done : CommitDone platform store clock tenant transaction before after row expiry mutations applied) :
    Untouched tenant before after := by
  have purged : Untouched tenant before (before.purged tenant clock.statement) :=
    ⟨fun _ _ => rfl, fun _ _ _ _ _ => rfl, find_purged_elsewhere before tenant _, rfl⟩
  have taken := untouched_unapplied tenant _ _ (unapplied_drop tenant transaction (before.purged tenant clock.statement))
  have start : RecordsMatch platform records (claimed clock tenant transaction before) :=
    records_match_same _ _ before _ rfl rfl represents
  have looped := for_each_frame (besides platform tenant) _ mutations (fun mutation _ => mutation.reference.tenant = tenant)
    _ applied () (fun mutation first last finished names turn =>
      besides_mutation platform store clock tenant first last row.actor mutation names finished turn)
    (fun _ _ _ names _ => names) own done.ran ⟨records, start⟩
  rw [done.rest]
  exact untouched_trans tenant _ _ _ (untouched_trans tenant _ _ _ purged taken)
    (untouched_trans tenant _ _ _ looped.2 (untouched_auditing tenant applied _ _ _))

theorem untouched_perform (ledger : Ledger) (sound : Sound platform ledger before) (call : StoreCall) (own : call.tenant = tenant)
    (outcome : Except StoreError call.Answer) (ran : call.perform platform store clock before = (outcome, after)) :
    Untouched tenant before after := by
  have undone : after = rollback before after → Untouched tenant before after := fun same => by
    rw [same]
    exact untouched_unapplied tenant _ _ (unapplied_rollback tenant before after)
  have matched := sound.represents.records
  cases call with
  | put input =>
      cases outcome with
      | error error => exact undone (atomic_rollback _ _ _ _ ran)
      | ok metadata =>
          exact untouched_put platform store clock tenant before after _ matched input _ metadata own
            (put_tx_ok platform store clock input _ _ _ _ ((atomic_ok _ _ _ _ _).mp ran))
  | get reference => rw [still_after _ (get_still store reference) before after outcome ran]; exact untouched_refl tenant before
  | existsActive reference => rw [still_after _ (exists_still reference) before after outcome ran]; exact untouched_refl tenant before
  | list other owner => rw [still_after _ (list_still other owner) before after outcome ran]; exact untouched_refl tenant before
  | delete reference actor =>
      cases outcome with
      | error error => exact undone (atomic_rollback _ _ _ _ ran)
      | ok done =>
          exact untouched_delete platform tenant before after _ matched reference actor done own ((atomic_ok _ _ _ _ _).mp ran)
  | revoke reference actor =>
      cases outcome with
      | error error => exact undone (atomic_rollback _ _ _ _ ran)
      | ok metadata => exact untouched_revoke platform clock tenant before after reference actor metadata own ran
  | prepare other transaction mutations actor =>
      cases own
      cases outcome with
      | error error =>
          exact untouched_unapplied other _ _
            (prepare_error platform store clock other transaction mutations actor before error after ran)
      | ok done =>
          exact untouched_prepare platform store clock other before after transaction mutations actor
            (prepare_ok platform store clock other transaction mutations actor done before after ran)
  | commit other transaction =>
      cases own
      cases outcome with
      | error error =>
          exact untouched_unapplied other _ _ (commit_error platform store clock other transaction before error after ran)
      | ok done =>
          obtain ⟨row, expiry, mutations, applied, done⟩ := commit_ok platform store clock other transaction done before after ran
          obtain ⟨batch, known, held⟩ := sound.represents.batches _ row done.held
          obtain ⟨_, rfl⟩ := batch_held_opens platform store _ batch row expiry mutations
            (Table.find_key _ _ _ done.held) held done.opens
          exact untouched_commit platform store clock other before after ledger.records matched transaction row expiry
            batch.mutations (sound.batches _ batch known) applied done
  | abort other transaction =>
      cases own
      cases outcome with
      | error error => rw [abort_error store clock other transaction before after error ran]; exact untouched_refl other before
      | ok done =>
          obtain ⟨_, _, _, rfl⟩ := abort_ok store clock other transaction done before after ran
          exact untouched_unapplied other _ _ (unapplied_drop other transaction before)

end Others

def Platform.drawing (random : Nat → Draw) (platform : Platform) : Platform := { platform with random := random }

def Service.drawing (random : Nat → Draw) (service : Service) : Service := { service with platform := service.platform.drawing random }

def Service.since (base : Nat) (service : Service) : Service := { service with platform := service.platform.since base }

def Service.serveAll (service : Service) (extractors : Extractors) :
    List HttpRequest → Serving → List (Except Refusal Reply) × Serving
  | [], state => ([], state)
  | request :: rest, state =>
      let served := run service.perform (serve extractors request) state
      let later := serveAll service extractors rest served.2
      (served.1 :: later.1, later.2)

def Serving.part (tenant : String) (base : Nat) (state : Serving) : Serving := ⟨state.world.part tenant base, state.calls⟩

def Service.Vouches (service : Service) (tenant : String) (request : HttpRequest) : Prop :=
  ∀ token, bearer request = some token → ∀ family calls principal,
    service.authority family calls token = .ok principal → principal.tenant = tenant

section Serving
variable (service : Service) (extractors : Extractors) (tenant : String) (base limit : Nat) (start : World)

-- What a request starts from and leaves: a sound store, whose other tenants are
-- as they were at the start.
structure Standing (state : Serving) : Prop where
  sound : ∃ ledger, Sound service.platform ledger state.world
  later : base ≤ state.world.drawn
  untouched : Untouched tenant start state.world

def OfTenant : ServiceCall → Prop
  | .verify _ _ => True
  | .store call => call.tenant = tenant

def Vouched (request : HttpRequest) : Asked → Prop
  | ⟨.verify _ token, answer⟩ => ∀ principal, bearer request = some token → answer = .ok principal → principal.tenant = tenant
  | ⟨.store _, _⟩ => True

theorem serve_of_tenant (request : HttpRequest) (past : List Asked) (call : ServiceCall) (next : call.Answer → Handler Reply)
    (reached : Reaches (serve extractors request) past (.ask call next)) (vouched : ∀ asked ∈ past, Vouched tenant request asked) :
    OfTenant tenant call := by
  cases serve_stands extractors request past _ reached with
  | refused refusal stopped first => cases stopped
  | verifying token next start asks =>
      cases asks
      trivial
  | admitted principal admitted addressed turns =>
      obtain ⟨token, rest, carried, rfl, _⟩ := admitted.verified
      have known : principal.tenant = tenant :=
        vouched ⟨.verify request.route.family token, .ok principal⟩ (by simp) principal carried rfl
      cases call with
      | verify family token => trivial
      | store call => exact Eq.trans addressed.1 known

theorem service_back (call : ServiceCall) (state : Serving) (last : (service.perform call state).2.world.drawn < limit) :
    state.world.drawn < limit := by
  cases call with
  | verify family token => exact last
  | store call => exact spending_perform service.platform service.store (service.clocks state.calls) limit call state.world last

theorem service_part (distinct : Distinct service.platform limit) (call : ServiceCall) (state : Serving)
    (own : OfTenant tenant call) (standing : Standing service tenant base start state)
    (last : (service.perform call state).2.world.drawn < limit) :
    (service.since base).perform call (state.part tenant base) =
        ((service.perform call state).1, (service.perform call state).2.part tenant base) ∧
      Standing service tenant base start (service.perform call state).2 := by
  obtain ⟨⟨ledger, sound⟩, later, untouched⟩ := standing
  cases call with
  | verify family token =>
      refine ⟨?_, ⟨ledger, sound⟩, later, untouched⟩
      cases family <;> rfl
  | store call =>
      have same := perform_part service.platform service.store (service.clocks state.calls) tenant base state.world limit distinct
        ledger sound later call own last
      refine ⟨?_, ⟨_, sound_step service.platform ⟨service.store, service.clocks state.calls, .call call⟩
        (state.world, ledger) sound⟩, ?_, ?_⟩
      · simp only [Service.perform, Service.since, Serving.part]
        rw [same]
      · exact Nat.le_trans later
          (drawn_grows service.platform service.store (service.clocks state.calls) state.world _ (.call call) _ rfl)
      · exact untouched_trans tenant _ _ _ untouched (untouched_perform service.platform service.store
          (service.clocks state.calls) tenant state.world _ ledger sound call own _ rfl)

theorem serve_part (distinct : Distinct service.platform limit) (request : HttpRequest) (vouches : service.Vouches tenant request)
    (state : Serving) (standing : Standing service tenant base start state)
    (last : (run service.perform (serve extractors request) state).2.world.drawn < limit) :
    CommutesAt (Serving.part tenant base) (run service.perform (serve extractors request))
        (run (service.since base).perform (serve extractors request)) state ∧
      Standing service tenant base start (run service.perform (serve extractors request) state).2 := by
  refine commutes_run service.perform (service.since base).perform _ (OfTenant tenant) (Vouched tenant request)
    (Standing service tenant base start) (fun state => state.world.drawn < limit) ?_ (service_back service limit)
    (service_part service tenant base limit start distinct) _ (serve_of_tenant extractors tenant request) state standing last
  intro call state
  cases call with
  | verify family token => exact fun principal carried verified => vouches token carried family state.calls principal verified
  | store call => trivial

theorem serve_all_back (requests : List HttpRequest) (state : Serving)
    (last : (service.serveAll extractors requests state).2.world.drawn < limit) : state.world.drawn < limit := by
  induction requests generalizing state with
  | nil => exact last
  | cons request rest ih =>
      exact within_run service.perform (Frame.reflecting fun state : Serving => state.world.drawn < limit) (fun _ => True)
        (fun call state _ => service_back service limit call state) _ (Prog.asks_anything _) state (ih _ last)

theorem serve_all_part (distinct : Distinct service.platform limit) (requests : List HttpRequest)
    (vouches : ∀ request ∈ requests, service.Vouches tenant request) (state : Serving)
    (standing : Standing service tenant base start state)
    (last : (service.serveAll extractors requests state).2.world.drawn < limit) :
    (service.since base).serveAll extractors requests (state.part tenant base) =
        ((service.serveAll extractors requests state).1, (service.serveAll extractors requests state).2.part tenant base) ∧
      Standing service tenant base start (service.serveAll extractors requests state).2 := by
  induction requests generalizing state with
  | nil => exact ⟨rfl, standing⟩
  | cons request rest ih =>
      have between := serve_all_back service extractors limit rest _ last
      obtain ⟨same, kept⟩ := serve_part service extractors tenant base limit start distinct request (vouches request (by simp))
        state standing between
      obtain ⟨after, stays⟩ := ih (fun other member => vouches other (by simp [member])) _ kept last
      refine ⟨?_, stays⟩
      rw [Service.serveAll, same, after]
      rfl

end Serving

structure AgreeOn (tenant : String) (left right : World) : Prop where
  secrets : (left.part tenant 0).secrets = (right.part tenant 0).secrets
  versions : (left.part tenant 0).versions = (right.part tenant 0).versions
  prepared : (left.part tenant 0).prepared = (right.part tenant 0).prepared
  auditEvents : (left.part tenant 0).auditEvents = (right.part tenant 0).auditEvents

-- One of two runs: what it draws, and the calls that made the store it starts
-- from.
structure Side where
  tape : Nat → Draw
  earlier : List Invocation

section Sides
variable (service : Service) (extractors : Extractors) (requests : List HttpRequest) (calls : Nat) (side : Side)

def Side.world : World := (runAll (service.platform.drawing side.tape) side.earlier).1

def Side.served : List (Except Refusal Reply) × Serving :=
  (service.drawing side.tape).serveAll extractors requests ⟨side.world service, calls⟩

def Side.DistinctIds : Prop :=
  Distinct (service.platform.drawing side.tape) ((side.served service extractors requests calls).2.world.drawn + 1)

theorem side_part (tenant : String) (vouches : ∀ request ∈ requests, service.Vouches tenant request)
    (distinct : side.DistinctIds service extractors requests calls) :
    ((service.drawing side.tape).since (side.world service).drawn).serveAll extractors requests
        ⟨(side.world service).part tenant (side.world service).drawn, calls⟩ =
      ((side.served service extractors requests calls).1,
        (side.served service extractors requests calls).2.part tenant (side.world service).drawn) ∧
    Untouched tenant (side.world service) (side.served service extractors requests calls).2.world := by
  obtain ⟨same, standing⟩ := serve_all_part (service.drawing side.tape) extractors tenant (side.world service).drawn _
    (side.world service) distinct requests vouches ⟨side.world service, calls⟩
    ⟨⟨_, run_sound _ side.earlier⟩, Nat.le_refl _, untouched_refl tenant _⟩ (Nat.lt_succ_self _)
  exact ⟨same, standing.untouched⟩

end Sides

/-- Generated ids and nonces come off the tapes, timestamps from the clocks: two runs that
draw the same from where they start answer alike to the letter. -/
theorem tenant_isolation (service : Service) (extractors : Extractors) (tenant : String) (requests : List HttpRequest)
    (calls : Nat) (vouches : ∀ request ∈ requests, service.Vouches tenant request) (left right : Side)
    (leftIds : left.DistinctIds service extractors requests calls) (rightIds : right.DistinctIds service extractors requests calls)
    (agree : AgreeOn tenant (left.world service) (right.world service))
    (coupled : ∀ count, left.tape ((left.world service).drawn + count) = right.tape ((right.world service).drawn + count)) :
    (left.served service extractors requests calls).1 = (right.served service extractors requests calls).1 ∧
    AgreeOn tenant (left.served service extractors requests calls).2.world (right.served service extractors requests calls).2.world ∧
    Untouched tenant (left.world service) (left.served service extractors requests calls).2.world ∧
    Untouched tenant (right.world service) (right.served service extractors requests calls).2.world := by
  obtain ⟨leftPart, leftOthers⟩ := side_part service extractors requests calls left tenant vouches leftIds
  obtain ⟨rightPart, rightOthers⟩ := side_part service extractors requests calls right tenant vouches rightIds
  have sameService : (service.drawing left.tape).since (left.world service).drawn =
      (service.drawing right.tape).since (right.world service).drawn := by
    have tapes : (fun count => left.tape ((left.world service).drawn + count)) =
        fun count => right.tape ((right.world service).drawn + count) := funext coupled
    simp only [Service.since, Service.drawing, Platform.since, Platform.drawing, tapes]
  have samePart : (left.world service).part tenant (left.world service).drawn =
      (right.world service).part tenant (right.world service).drawn :=
    world_ext _ _ agree.secrets agree.versions agree.prepared agree.auditEvents (by simp [World.part])
  rw [sameService, samePart, rightPart, Prod.mk.injEq] at leftPart
  obtain ⟨answers, states⟩ := leftPart
  have ends := congrArg Serving.world states
  exact ⟨answers.symm, ⟨(congrArg World.secrets ends).symm, (congrArg World.versions ends).symm,
    (congrArg World.prepared ends).symm, (congrArg World.auditEvents ends).symm⟩, leftOthers, rightOthers⟩

namespace Sample

def tenantService : Service where
  platform := countingPlatform
  store := oldStore
  clocks _ := clockAt 2
  userAuthority _ _ := .ok (anyone "t")
  workloadAuthority _ _ := .ok (anyone "t")

def commitHeld : HttpRequest :=
  ⟨.workloadCommit, bearerToken, none, (textBytes "t", textBytes "ffffffff-ffff-ffff-ffff-ffffffffffff"), []⟩

theorem commit_held_params : pathParams wireExtractors commitHeld = .ok ("t", transaction) := by decide +kernel

def empty : Side := ⟨fun count => countingDraw (1 + count), []⟩

def shared : Side :=
  ⟨countingDraw, [⟨oldStore, clockAt 1, .call (.prepare "u" transaction [.delete ⟨"u", "n", "k"⟩] "workload:one")⟩]⟩

end Sample

theorem held_elsewhere_not_found :
    (Sample.empty.served Sample.tenantService wireExtractors [Sample.commitHeld, Sample.listOwn] 0).1 =
      (Sample.shared.served Sample.tenantService wireExtractors [Sample.commitHeld, Sample.listOwn] 0).1 := by
  refine (tenant_isolation Sample.tenantService wireExtractors "t" [Sample.commitHeld, Sample.listOwn] 0 ?_ Sample.empty
    Sample.shared ?_ ?_ ⟨rfl, rfl, rfl, rfl⟩ ?_).1
  · intro request _ token _ family calls principal verified
    cases family <;> (cases verified; rfl)
  · have spent : (Sample.empty.served Sample.tenantService wireExtractors [Sample.commitHeld, Sample.listOwn] 0).2.world.drawn = 0 := rfl
    rw [Side.DistinctIds, spent]
    intro first second low high _
    omega
  · have spent : (Sample.shared.served Sample.tenantService wireExtractors [Sample.commitHeld, Sample.listOwn] 0).2.world.drawn = 1 := rfl
    rw [Side.DistinctIds, spent]
    intro first second low high same
    have firsts : first = 0 ∨ first = 1 := by omega
    have seconds : second = 0 ∨ second = 1 := by omega
    rcases firsts with rfl | rfl <;> rcases seconds with rfl | rfl
    · rfl
    · exact absurd same (by decide)
    · exact absurd same (by decide)
    · rfl
  · intro count
    have none : (Sample.empty.world Sample.tenantService).drawn = 0 := rfl
    have one : (Sample.shared.world Sample.tenantService).drawn = 1 := rfl
    rw [none, one, Nat.zero_add]
    rfl

end Secrets
